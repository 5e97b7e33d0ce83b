import SkfService.Connection.Authorization
import SkfService.Connection.Replies
import SkfService.Dispatch.Classification

/-! What changes a token, on any connection and also after its request timed out, is asked for by a
request whose method may change it. -/

set_option autoImplicit false

namespace SkfService

open Text Interaction Program

section requests

variable {ctx : SkfContext} {text : String} {method : Method} {params : Params}

/-- A restricted method is not reached where the operator has switched it off. -/
theorem reached_restricted (there : reached ctx text = some (method, params))
    (enabled : restrictedEnabled ctx.platform = true) : method.isRestricted = false := by
  unfold reached at there
  cases parsed : ctx.platform.parseRequest text with
  | error reason =>
    rw [parsed] at there
    cases there
  | ok req =>
    rw [parsed] at there
    cases early : rejectedEarly ctx.platform req with
    | some rejection =>
      simp only [early] at there
      cases there
    | none =>
      simp only [early, Option.map_eq_some_iff, Prod.mk.injEq] at there
      obtain ⟨found, named, rfl, -⟩ := there
      -- The branch is reached past both checks, and the second one rejects the restricted methods.
      have passed := (Option.or_eq_none_iff.mp early).2
      rw [named, Option.bind_some, restrictedRejection, enabled, Bool.true_and] at passed
      cases restricted : found.isRestricted with
      | false => rfl
      | true =>
        rw [restricted] at passed
        cases passed

theorem within_request (ctx : SkfContext) (text : String) (lang : Language) :
    (handleRequest ctx text lang).Asks fun op : Op => ∀ change, op.change = some change →
      ∃ method params, reached ctx text = some (method, params) ∧ change ∈ method.changes := by
  cases there : reached ctx text with
  | none =>
    obtain ⟨response, same, -⟩ := handleRequest_unreached there lang
    rw [same]
    exact trivial
  | some found =>
    obtain ⟨method, params⟩ := found
    rw [handleRequest_reached there, settleBranch]
    refine asks_recover ?_ fun exit => by cases exit <;> exact trivial
    rw [map_eq_pure_bind]
    refine asks_bind ((within_branch method).mono ?_) fun _ => trivial
    intro op within change changes
    refine ⟨method, params, rfl, ?_⟩
    have within : op.change.all (method.changes.contains ·) = true := within
    rw [changes, Option.all_some] at within
    exact List.contains_iff_mem.mp within

end requests

section log

variable {ctx : SkfContext} {ttl : Duration} {log : List Entry} {conn after : JsonRpcSession}
  {n : Nat} {event : Event Skf} {now : Instant}

theorem performed_step (run : JsonRpcSession.Reached ctx ttl log conn)
    (step : JsonRpcSession.Step ctx ttl conn ⟨now, .performed n event⟩ after) :
    ∃ text lang trace q, (framesOf log)[n]? = some text ∧
      Reaches (handleRequest ctx text lang) (trace ++ [event]) q := by
  have tracks := tracks_reached run
  rw [framesOf_reached run]
  cases step with
  | perform performs =>
    obtain ⟨-, number, line, trace, current, -, ran⟩ := tracks.holder
    refine ⟨_, _, _, _, ?_, performs.text ▸ (ran.step performs).reaches⟩
    rw [Transcript.texts, current, number, List.getElem?_append_right (by rw [List.length_map]),
      List.length_map, Nat.sub_self]
    rfl
  | @late _ _ front back task _ _ _ performs =>
    obtain ⟨line, trace, ended, -, ran⟩ := (tracks.detached task (by simp)).ran
    refine ⟨_, _, _, _, ?_, performs.text ▸ (ran.step performs).reaches⟩
    have bound := (List.getElem?_eq_some_iff.mp ended).1
    rw [Transcript.texts, List.getElem?_append_left (by rwa [List.length_map]), List.getElem?_map,
      ended]
    rfl

theorem performed_of_reached (run : JsonRpcSession.Reached ctx ttl log conn)
    (performed : ⟨now, .performed n event⟩ ∈ log) :
    ∃ text lang trace q, (framesOf log)[n]? = some text ∧
      Reaches (handleRequest ctx text lang) (trace ++ [event]) q := by
  -- The step is where the log is cut; the frames received until then stay where they are.
  obtain ⟨front, back, rfl⟩ := List.append_of_mem performed
  rw [List.append_cons] at run
  obtain ⟨middle, before, -⟩ := run.split
  obtain ⟨conn, earlier, step⟩ := before.last_step
  obtain ⟨text, lang, trace, q, frame, ran⟩ := performed_step earlier step
  have grown : framesOf (front ++ ⟨now, .performed n event⟩ :: back) =
      framesOf front ++ framesOf (⟨now, .performed n event⟩ :: back) := List.filterMap_append
  refine ⟨text, lang, trace, q, ?_, ran⟩
  rw [grown, List.getElem?_append_left (List.getElem?_eq_some_iff.mp frame).1, frame]

end log

/-- Every change to a token belongs to a request of its connection, and the method of that request
may make the change. -/
theorem changes_classified {ctx : SkfContext} {ttl : Duration} {log : List Record}
    {service : Service} (run : Run (Service.Step ctx ttl) (.new ttl) log service) {c n : Nat}
    {now : Instant} {event : Event Skf} (performed : ⟨c, ⟨now, .performed n event⟩⟩ ∈ log)
    {change : Change} (changes : event.op.change = some change) :
    ∃ text method params,
      (framesOf (project c log))[n]? = some text ∧ reached ctx text = some (method, params) ∧
      change ∈ method.changes ∧
      (classify method.name = some .Destructive ∨
        (method = .ImportKeyPair ∧ classify method.name = none)) ∧
      (restrictedEnabled ctx.platform = true → change ≠ .command) := by
  have here : ⟨now, .performed n event⟩ ∈ project c log :=
    List.mem_map.mpr ⟨_, List.mem_filter.mpr ⟨performed, decide_eq_true rfl⟩, rfl⟩
  obtain ⟨text, lang, trace, q, frame, ran⟩ := performed_of_reached (reached_project run c) here
  obtain ⟨method, params, there, may⟩ :=
    (within_request ctx text lang).of_reaches ran event (by simp) change changes
  refine ⟨text, method, params, frame, there, may, classify_changes (List.ne_nil_of_mem may), ?_⟩
  rintro enabled rfl
  have sends := changes_command may
  subst sends
  cases reached_restricted there enabled

/-- Verifying a PIN takes a retry, and `CheckPIN` may. -/
theorem changes_classified_pin : ∃ text method params,
    (framesOf (project 0 ((⟨5, .received pinText⟩ :: pinTrace.map fun event =>
      ⟨5, .performed 0 event⟩).map (⟨0, ·⟩))))[0]? =
        some text ∧
      reached signContext text = some (method, params) ∧ .pinRetries ∈ method.changes ∧
      (classify method.name = some .Destructive ∨
        (method = .ImportKeyPair ∧ classify method.name = none)) ∧
      (restrictedEnabled signContext.platform = true → Change.pinRetries ≠ .command) := by
  have verified : (⟨0, ⟨5, .performed 0 ⟨.provider (.verifyPin signApplication "1234"),
      some (.ok ⟨true, 0, SAR_OK⟩)⟩⟩⟩ : Record) ∈
      (⟨5, .received pinText⟩ :: pinTrace.map fun event => ⟨5, .performed 0 event⟩).map
        (⟨0, ·⟩) := by
    simp [pinTrace]
  exact changes_classified (run_alone 0 overtaken_pin) verified rfl

end SkfService
