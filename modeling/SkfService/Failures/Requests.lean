import SkfService.Connection.Unavailable
import SkfService.Failures.Branches
import SkfService.Failures.Native

/-! The vendor failures of a request against the answer its client gets. -/

set_option autoImplicit false

namespace SkfService

open Text Interaction Program RpcResponse

section request

variable {ctx : SkfContext} {text : String} {lang : Language} {trace : List (Event Skf)}
  {low : List (Event SkfApi)}

def toleratedBy (ctx : SkfContext) (text : String) (symbol : Symbol) : Bool :=
  (reached ctx text).any fun found => found.1.tolerates found.2 symbol

/-- A request that reaches no method is answered with an error of the service's own. -/
theorem own_unreached (nowhere : reached ctx text = none) (lang : Language) :
    ∃ response, handleRequest ctx text lang = .done (response, lang) ∧ response.Own := by
  unfold reached at nowhere
  cases parsed : ctx.platform.parseRequest text with
  | error reason => exact ⟨_, by rw [handleRequest, parsed], own_err (by decide)⟩
  | ok req =>
    rw [parsed] at nowhere
    cases early : rejectedEarly ctx.platform req with
    | some rejection =>
      refine ⟨rejection, by simp only [handleRequest, parsed, answer, early], ?_⟩
      unfold rejectedEarly unsupportedVersion restrictedRejection at early
      rcases Option.or_eq_some_iff.mp early with version | ⟨-, restricted⟩
      · split at version
        · split at version
          · cases version
            exact own_err (by decide)
          · cases version
        · cases version
      · obtain ⟨method, -, refused⟩ := Option.bind_eq_some_iff.mp restricted
        split at refused
        · cases refused
          exact own_err (by decide)
        · cases refused
    | none =>
      simp only [early, Option.map_eq_none_iff] at nowhere
      exact ⟨.err (-3) ("Method " ++ req.method ++ " not found") req.id,
        by simp only [handleRequest, parsed, answer, early, nowhere], own_err (by decide)⟩

/-- Whatever becomes of a request, its answer explains the failure that counted for it. -/
theorem honest_request (ctx : SkfContext) (text : String) (lang : Language) :
    (handleRequest ctx text lang).Meets (verdicts (toleratedBy ctx text)).monitor
      (fun result s => result.1.Explains (outageCode ctx text) s) (fun _ s => s = none) none := by
  cases there : reached ctx text with
  | none =>
    obtain ⟨response, same, own⟩ := own_unreached there lang
    rw [same]
    exact own
  | some found =>
    obtain ⟨method, params⟩ := found
    have code : outageCode ctx text = method.outageCode := by
      rw [outageCode, there]
      rfl
    have minded : toleratedBy ctx text = method.tolerates params := by
      funext symbol
      rw [toleratedBy, there]
      rfl
    rw [handleRequest_reached there, settleBranch, meets_recover, map_eq_pure_bind, meets_bind,
      code, minded]
    refine (honest_branch ctx params lang method).mono (fun response s explains => explains)
      fun exit s left => ?_
    cases exit with
    | reply response => exact left
    | panic why => exact left

theorem possible_apiVerdicts {tolerates : Symbol → Bool} (s : Option ULONG)
    (low : List (Event SkfApi)) :
    (apiVerdicts tolerates).monitor.Possible s low := by
  induction low generalizing s with
  | nil => trivial
  | cons event low ih => exact ⟨trivial, ih _⟩

/-- The first failure in the symbol table is the one the request was told of. -/
theorem same_failure {q : Program Skf Panic (RpcResponse × Language)}
    (ran : Reaches (handleRequest ctx text lang) trace q)
    (carried : CarriedOut nativeProvider trace low) :
    (verdicts (toleratedBy ctx text)).monitor.Possible none trace ∧
      (apiVerdicts (toleratedBy ctx text)).monitor.Allows none low ∧
        (apiVerdicts (toleratedBy ctx text)).monitor.follow none low =
          (verdicts (toleratedBy ctx text)).monitor.follow none trace :=
  (native_tells _).inStep.carriedOut (honest_request ctx text lang) rfl ran carried
    (possible_apiVerdicts _ _)

/-- The answer explains what has failed in the symbol table. -/
theorem explains_low {result : RpcResponse × Language}
    (ran : (handleRequest ctx text lang).Finishes trace (.ok result))
    (carried : CarriedOut nativeProvider trace low) :
    result.1.Explains (outageCode ctx text)
      ((apiVerdicts (toleratedBy ctx text)).monitor.follow none low) := by
  obtain ⟨possible, -, same⟩ := same_failure ran carried
  rw [same]
  exact (honest_request ctx text lang).returned ran possible

end request

/-- With the native provider behind the service, a vendor call whose failure counts is the last one
of its request but for those that give handles back, and the request does not fail for it but is
answered with its code; without such a call the answer is a success or an error of the service's
own. -/
theorem failures_told {ctx : SkfContext} {ttl : Duration} {log : List Record} {service : Service}
    (run : Run (Service.Step ctx ttl) (.new ttl) log service) {c n : Nat} {text : String}
    {trace : List (Event Skf)} (found : (transcript (project c log)).request n = some (text, trace))
    {low : List (Event SkfApi)} (carried : CarriedOut nativeProvider trace low) :
    (∀ front failing back code, low = front ++ failing :: back →
      ApiCall.failure (toleratedBy ctx text) failing.op failing.reply = some code →
        (∀ event ∈ back, ApiCall.concludes event.op = true) ∧
        (∀ response, (transcript (project c log)).ended[n]? = some (.answered text trace response) →
          response.Blames (outageCode ctx text) code) ∧
        ∀ why, (transcript (project c log)).ended[n]? ≠ some (.failed text trace why)) ∧
    ((∀ event ∈ low, ApiCall.failure (toleratedBy ctx text) event.op event.reply = none) →
      ∀ response, (transcript (project c log)).ended[n]? = some (.answered text trace response) →
        response.Own) := by
  have reached := reached_project run c
  constructor
  · rintro front failing back code rfl fails
    obtain ⟨line, -, ⟨q, ran⟩, -⟩ := request_of_reached reached found
    have allows := (same_failure ran carried).2.1
    obtain ⟨concluding, failed⟩ := (apiVerdicts (toleratedBy ctx text)).follow_failing allows fails
    refine ⟨concluding, fun response ended => ?_, fun why ended => ?_⟩
    · obtain ⟨before, after, step⟩ := step_of_turn reached ended
      cases step with
      | answered exchange =>
        have explains := explains_low exchange.1 carried
        rw [failed] at explains
        exact explains
    · obtain ⟨before, after, step⟩ := step_of_turn reached ended
      cases step with
      | failed unwinds =>
        -- A task fails only where nothing has failed below it.
        obtain ⟨possible, -, same⟩ := same_failure unwinds.1 carried
        have unfailed := (honest_request ctx text before.lang).stopped unwinds.1 possible
        rw [← same, failed] at unfailed
        cases unfailed
  · intro unfailing response ended
    obtain ⟨before, after, step⟩ := step_of_turn reached ended
    cases step with
    | answered exchange =>
      have explains := explains_low exchange.1 carried
      -- With no failure in the table there is none for the answer to blame.
      have quiet :=
        @Verdicts.follow_unfailing _ _ (apiVerdicts (toleratedBy ctx text)) low unfailing
      rw [quiet] at explains
      exact explains

def listingDevices : SkfContext := .serving [("list", ⟨"EnumDevice", [], some (.ofU32 1), none⟩)]

def sizeQuery : Event SkfApi :=
  ⟨.symbol (.direct (.enumDev listingDevices.provider true none)), ⟨0x0A000002, 0, []⟩⟩

def toldListing : Event Skf :=
  ⟨.provider (.enumDevices listingDevices.provider true),
    some (.error (.Native 0x0A000002 "EnumDev"))⟩

def listingBlamed : RpcResponse :=
  .err (codeAsI32 0x0A000002) "EnumDev failed size check" (some (.ofU32 1))

def blamedLog : List Entry :=
  [⟨0, .received "list"⟩, ⟨0, .performed 0 toldListing⟩, ⟨0, .completed listingBlamed⟩]

theorem failures_told_listing :
    listingBlamed.Blames (outageCode listingDevices "list") 0x0A000002 := by
  have run : JsonRpcSession.Reached listingDevices 0 blamedLog ⟨1, .session (.new 0), []⟩ :=
    .cons (.receive "list") (.cons (.perform (.mk rfl trivial (by simp [Op.reading])))
      (.cons (.complete rfl) .start))
  have found : (transcript (project 0 (blamedLog.map (⟨0, ·⟩)))).request 0 =
      some ("list", [toldListing]) := by
    rw [project_alone]
    rfl
  have ended : (transcript (project 0 (blamedLog.map (⟨0, ·⟩)))).ended[0]? =
      some (.answered "list" [toldListing] listingBlamed) := by
    rw [project_alone]
    rfl
  have queried : (nativeProvider toldListing.op).Finishes [sizeQuery] (.ok toldListing.reply) :=
    .step _ (.refl _)
  have carried : CarriedOut nativeProvider [toldListing] [sizeQuery] := .cons queried .nil
  exact ((failures_told (run_alone 0 run) found carried).1 [] sizeQuery [] 0x0A000002 rfl rfl).2.1
    listingBlamed ended

end SkfService
