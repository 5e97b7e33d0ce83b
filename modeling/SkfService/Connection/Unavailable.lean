import SkfService.Connection.Replies
import SkfService.Connection.Service
import SkfService.Dispatch.Unavailable

/-! A service whose default library did not load, seen from its clients. -/

set_option autoImplicit false

namespace SkfService

open Text Interaction Program

section request

variable {ctx : SkfContext} {self : UnavailableProvider} {text : String} {lang : Language}
  {front back trace : List (Event Skf)}
  {op : ProviderOp} {reply : op.Reply}

def outageCode (ctx : SkfContext) (text : String) : Int32 :=
  ((reached ctx text).map fun found => found.1.outageCode).getD (-5)

theorem resigns_request (ctx : SkfContext) (self : UnavailableProvider) (text : String)
    (lang : Language) :
    (handleRequest ctx text lang).Meets (outage ctx self)
      (fun result s => s = .unavailable → Reasoned ctx self (outageCode ctx text) result.1)
      (fun _ s => s ≠ .unavailable) .nowhere := by
  cases there : reached ctx text with
  | none =>
    obtain ⟨response, same, -⟩ := handleRequest_unreached there lang
    rw [same]
    intro impossible
    cases impossible
  | some found =>
    obtain ⟨method, params⟩ := found
    have code : outageCode ctx text = method.outageCode := by
      rw [outageCode, there]
      rfl
    rw [handleRequest_reached there, settleBranch, meets_recover, map_eq_pure_bind, meets_bind,
      code]
    refine (@resigns_branch ctx self params lang method).mono (fun response s gives => gives)
      fun exit s concedes => ?_
    -- A reply and a caught panic both become the response.
    cases exit with
    | reply response =>
      intro away
      obtain ⟨given, same, reasoned⟩ := concedes away
      cases same
      exact reasoned
    | panic why =>
      intro away
      obtain ⟨given, impossible, -⟩ := concedes away
      cases impossible

/-- Before the first outward call the monitor stays where it is. -/
theorem outage_inward (inward : ∀ event ∈ front, event.op.outward = false) :
    (outage ctx self).Possible .nowhere front ∧
      (outage ctx self).follow .nowhere front = .nowhere := by
  induction front with
  | nil => exact ⟨trivial, rfl⟩
  | cons event front ih =>
    obtain ⟨possible, kept⟩ := ih fun other member => inward other (List.mem_cons_of_mem _ member)
    have inward := inward event List.mem_cons_self
    obtain ⟨op, reply⟩ := event
    cases op with
    | session op | host op => exact ⟨⟨trivial, possible⟩, kept⟩
    | provider op | vendor op => cases inward

theorem outage_unavailable : (outage ctx self).Possible .unavailable trace ∧
    (outage ctx self).follow .unavailable trace = .unavailable ∧
      ((outage ctx self).Allows .unavailable trace → ∀ event ∈ trace, event.op.forgets = true) := by
  induction trace with
  | nil => exact ⟨trivial, rfl, fun _ event member => absurd member List.not_mem_nil⟩
  | cons event trace ih =>
    obtain ⟨possible, kept, allowed⟩ := ih
    refine ⟨⟨trivial, possible⟩, kept, fun allows other member => ?_⟩
    rcases List.mem_cons.mp member with rfl | later
    · exact allows.1
    · exact allowed allows.2 other later

theorem outage_follow (inward : ∀ event ∈ front, event.op.outward = false)
    (default : op.onLibrary = some ctx.provider) (answers : self.Answers ctx.platform op reply) :
    (outage ctx self).Possible .nowhere (front ++ ⟨.provider op, reply⟩ :: back) ∧
      (outage ctx self).follow .nowhere (front ++ ⟨.provider op, reply⟩ :: back) =
        .unavailable := by
  obtain ⟨early, kept⟩ := @outage_inward ctx self front inward
  obtain ⟨late, last, -⟩ := @outage_unavailable ctx self back
  have moved : (outage ctx self).advance .nowhere (.provider op) reply = .unavailable :=
    if_pos default
  constructor
  · rw [Monitor.possible_append, kept]
    refine ⟨early, fun _ => answers, ?_⟩
    rw [moved]
    exact late
  · rw [Monitor.follow_append, kept, Monitor.follow, moved]
    exact last

/-- A request whose first outward call is on the provider makes no other one, and ends with the
reason. -/
theorem resigned (inward : ∀ event ∈ front, event.op.outward = false)
    (default : op.onLibrary = some ctx.provider) (answers : self.Answers ctx.platform op reply) :
    (∀ q, Reaches (handleRequest ctx text lang) (front ++ ⟨.provider op, reply⟩ :: back) q →
      ∀ event ∈ back, event.op.forgets = true) ∧
    (∀ result,
      (handleRequest ctx text lang).Finishes (front ++ ⟨.provider op, reply⟩ :: back) (.ok result) →
      Reasoned ctx self (outageCode ctx text) result.1) ∧
    ∀ why, ¬(handleRequest ctx text lang).Finishes (front ++ ⟨.provider op, reply⟩ :: back)
      (.error why) := by
  have resigns := resigns_request ctx self text lang
  obtain ⟨possible, last⟩ := @outage_follow ctx self front back op reply inward default answers
  -- The call on the provider leaves the monitor where only dropped grants are let through.
  refine ⟨fun q ran => ?_, fun result ran => resigns.returned ran possible last, fun why ran =>
    resigns.stopped ran possible last⟩
  have allows := (resigns.reaches ran possible).1
  obtain ⟨-, kept⟩ := @outage_inward ctx self front inward
  have moved : (outage ctx self).advance .nowhere (.provider op) reply = .unavailable :=
    if_pos default
  rw [Monitor.allows_append, kept, Monitor.Allows, moved] at allows
  exact outage_unavailable.2.2 allows.2.2

end request

/-- Where the default provider is not available, a request whose first outward call is on it only
drops grants after that and does not fail; if it is answered, the answer is the reason, under the
code of its method and the id of its frame. -/
theorem unavailable_answered {ctx : SkfContext} {ttl : Duration} {log : List Record}
    {service : Service} (run : Run (Service.Step ctx ttl) (.new ttl) log service)
    (self : UnavailableProvider) {c n : Nat} {text : String} {front back : List (Event Skf)}
    {op : ProviderOp} {reply : op.Reply}
    (found : (transcript (project c log)).request n =
      some (text, front ++ ⟨.provider op, reply⟩ :: back))
    (inward : ∀ event ∈ front, event.op.outward = false)
    (default : op.onLibrary = some ctx.provider) (answers : self.Answers ctx.platform op reply) :
    (∀ event ∈ back, event.op.forgets = true) ∧
    (∀ turn, (transcript (project c log)).ended[n]? = some turn →
      (∀ why, turn ≠ .failed turn.text turn.trace why) ∧
      ∀ response, turn = .answered turn.text turn.trace response → ∃ lang, response =
        loadLibFailed (outageCode ctx text) (self.error ctx.platform).display lang
          (requestId ctx text)) := by
  have reached := reached_project run c
  obtain ⟨line, -, ⟨q, ran⟩, -⟩ := request_of_reached reached found
  refine ⟨(resigned inward default answers).1 q ran, fun turn ended => ?_⟩
  -- The turn that ended is the request that was found, so the call is in its own trace.
  have here : (transcript (project c log)).request n = some (turn.text, turn.trace) := by
    have past : n ≠ (transcript (project c log)).ended.length :=
      Nat.ne_of_lt (List.getElem?_eq_some_iff.mp ended).1
    rw [Transcript.request, if_neg past, ended]
    rfl
  have same := Option.some.inj (here.symm.trans found)
  obtain ⟨before, after, step⟩ := step_of_turn reached ended
  cases turn with
  | answered text' trace response =>
    refine ⟨fun why impossible => (by cases impossible), fun given same' => ?_⟩
    cases same'
    cases same
    cases step with
    | answered exchange =>
      obtain ⟨lang, told⟩ := (resigned inward default answers).2.1 _ exchange.1
      rw [exchange.id] at told
      exact ⟨lang, told⟩
  | timedOut text' trace =>
    exact ⟨fun why impossible => (by cases impossible), fun given impossible =>
      (by cases impossible)⟩
  | failed text' trace why =>
    cases same
    cases step with
    | failed unwinds => exact ((resigned inward default answers).2.2 why unwinds.1).elim

/-- A deployment without the library of its default alias, and a client that asks for its devices. -/
def withoutLibrary : SkfContext := .serving [("list", ⟨"EnumDevice", [], some (.ofU32 1), none⟩)]

def missingLibrary : UnavailableProvider :=
  ⟨"GM3000", (ProviderError.LibraryLoadFailed "native/GM3000/linux/libgm3000.1.0.so" "x86_64"
    "no such file").display⟩

def failedListing : Event Skf :=
  ⟨.provider (.enumDevices withoutLibrary.provider true),
    some (missingLibrary.enumDevices withoutLibrary.platform true)⟩

def listingRefused : RpcResponse :=
  loadLibFailed (-5) (missingLibrary.error withoutLibrary.platform).display .EN (some (.ofU32 1))

def refusedLog : List Entry :=
  [⟨0, .received "list"⟩, ⟨0, .performed 0 failedListing⟩, ⟨0, .completed listingRefused⟩]

theorem unavailable_answered_listing :
    NativeProviderFactory.build withoutLibrary.platform withoutLibrary.config
      (fun _ => .error "no such file") =
        some missingLibrary ∧
      ∃ lang, listingRefused = loadLibFailed (outageCode withoutLibrary "list")
        (missingLibrary.error withoutLibrary.platform).display lang
          (requestId withoutLibrary "list") := by
  have run : JsonRpcSession.Reached withoutLibrary 0 refusedLog ⟨1, .session (.new 0), []⟩ :=
    .cons (.receive "list") (.cons (.perform (.mk rfl trivial (by simp [Op.reading])))
      (.cons (.complete rfl) .start))
  have found : (transcript (project 0 (refusedLog.map (⟨0, ·⟩)))).request 0 =
      some ("list", [] ++ failedListing :: []) := by
    rw [project_alone]
    rfl
  have ended : (transcript (project 0 (refusedLog.map (⟨0, ·⟩)))).ended[0]? =
      some (.answered "list" [failedListing] listingRefused) := by
    rw [project_alone]
    rfl
  have answered := unavailable_answered (run_alone 0 run) missingLibrary found (by simp) rfl rfl
  exact ⟨rfl, (answered.2 _ ended).2 listingRefused rfl⟩

end SkfService
