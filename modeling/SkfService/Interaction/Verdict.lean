import SkfService.Interaction.Implement

/-! The first failure among the interactions of a program.

A program that keeps to `Verdicts.monitor` asks for nothing after a failure but what concludes, so
that its end can be told from the one failure there was. -/

set_option autoImplicit false

namespace Interaction

/-- Which replies count as failures, and what may follow one. What concludes does not fail. -/
structure Verdicts (I : Signature) (C : Type) where
  failure : (op : I.Op) → I.Reply op → Option C
  concludes : I.Op → Prop
  fair : (op : I.Op) → I.Reply op → Prop
  unfailing : ∀ op reply, concludes op → failure op reply = none

variable {I J : Signature} {C : Type}

namespace Verdicts

def monitor (V : Verdicts I C) : Monitor I (Option C) where
  allowed s op := s = none ∨ V.concludes op
  possible _ op reply := V.fair op reply
  advance s op reply := s.or (V.failure op reply)

variable {V : Verdicts I C} {code : C} {front back trace : List (Event I)} {failing : Event I}

theorem allows_failed (allows : V.monitor.Allows (some code) trace) :
    (∀ event ∈ trace, V.concludes event.op) ∧ V.monitor.follow (some code) trace = some code := by
  induction trace with
  | nil => exact ⟨List.forall_mem_nil _, rfl⟩
  | cons event trace ih =>
    obtain ⟨first, later⟩ := allows
    obtain ⟨concluding, last⟩ := ih later
    have concludes : V.concludes event.op := first.resolve_left (Option.some_ne_none code)
    exact ⟨List.forall_mem_cons.mpr ⟨concludes, concluding⟩, last⟩

/-- A failure is the first one, and the last call but for what concludes. -/
theorem follow_failing (allows : V.monitor.Allows none (front ++ failing :: back))
    (fails : V.failure failing.op failing.reply = some code) :
    (∀ event ∈ back, V.concludes event.op) ∧ V.monitor.follow none (front ++ failing :: back) =
      some code := by
  obtain ⟨-, allowed, later⟩ := (V.monitor.allows_append _ _ _).mp allows
  -- Had something failed before, the failing call would have to conclude, and what concludes does
  -- not fail.
  have first : V.monitor.follow none front = none := by
    refine allowed.resolve_right fun concludes => ?_
    rw [V.unfailing _ _ concludes] at fails
    cases fails
  have failed : V.monitor.advance none failing.op failing.reply = some code := fails
  rw [first, failed] at later
  rw [V.monitor.follow_append, first, Monitor.follow, failed]
  exact allows_failed later

theorem follow_unfailing (none_fails : ∀ event ∈ trace, V.failure event.op event.reply = none) :
    V.monitor.follow none trace = none := by
  induction trace with
  | nil => rfl
  | cons event trace ih =>
    obtain ⟨here, later⟩ := List.forall_mem_cons.mp none_fails
    have kept : V.monitor.advance none event.op event.reply = none := here
    rw [Monitor.follow, kept]
    exact ih later

/-- An implementation whose programs tell a failure below as one above, and conclude where they are
to. -/
structure Tell (V : Verdicts I C) (W : Verdicts J C) (impl : Implementation I J) : Prop where
  told : ∀ op, (impl op).Meets W.monitor (fun reply s => V.fair op reply ∧ s = V.failure op reply)
    (fun _ _ => True) none
  concluded : ∀ op code, V.concludes op →
    (impl op).Meets W.monitor (fun reply s => V.fair op reply ∧ s = some code) (fun _ _ => True)
      (some code)

theorem Tell.inStep {W : Verdicts J C} {impl : Implementation I J} (tell : Tell V W impl) :
    impl.InStep V.monitor W.monitor (fun above below => below = above) := by
  -- Before a failure every operation is carried out, behind one only those that conclude.
  intro above below op same allowed
  subst same
  cases below with
  | none => exact tell.told op
  | some code => exact tell.concluded op code (allowed.resolve_left (Option.some_ne_none code))

end Verdicts
end Interaction
