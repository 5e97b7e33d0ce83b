import Mathlib.Data.Option.Basic
import SkfService.Interaction.Monitor

/-! Programs that receive one value of a kind.

`notes` says which replies carry such a value. The monitor remembers it and allows no second one, so
what is remembered at the end of a run is the value that any event of the run carries. -/

set_option autoImplicit false

namespace Interaction

variable {I : Signature} {T : Type} {notes : (op : I.Op) → I.Reply op → Option T}

/-- Remembers the one value that is noted. -/
def once (notes : (op : I.Op) → I.Reply op → Option T) : Monitor I (Option T) where
  allowed s op := s = none ∨ ∀ reply, notes op reply = none
  possible _ _ _ := True
  advance s op reply := (notes op reply).or s

namespace once

theorem possible (s : Option T) (trace : List (Event I)) : (once notes).Possible s trace := by
  induction trace generalizing s with
  | nil => trivial
  | cons event rest ih => exact ⟨trivial, ih _⟩

/-- What carries no value leaves what is remembered. -/
theorem advance_quiet {op : I.Op} {reply : I.Reply op} (quiet : notes op reply = none)
    (s : Option T) :
    (once notes).advance s op reply = s := by
  simp only [once, quiet, Option.none_or]

theorem follow_some {value : T} {trace : List (Event I)}
    (allows : (once notes).Allows (some value) trace) :
    (once notes).follow (some value) trace = some value ∧ ∀ event ∈ trace,
      notes event.op event.reply = none := by
  induction trace with
  | nil => exact ⟨rfl, fun event impossible => by cases impossible⟩
  | cons event rest ih =>
    obtain ⟨here, later⟩ := allows
    have quiet := here.resolve_left (Option.some_ne_none value) event.reply
    rw [advance_quiet quiet] at later
    obtain ⟨stays, silent⟩ := ih later
    refine ⟨?_, List.forall_mem_cons.mpr ⟨quiet, silent⟩⟩
    rw [Monitor.follow, advance_quiet quiet]
    exact stays

/-- What is remembered of a run is what one of its events carries. -/
theorem follow_of_mem {value : T} {trace : List (Event I)} {event : Event I}
    (allows : (once notes).Allows none trace) (member : event ∈ trace)
    (noted : notes event.op event.reply = some value) :
    (once notes).follow none trace = some value := by
  induction trace with
  | nil => cases member
  | cons first rest ih =>
    obtain ⟨-, later⟩ := allows
    rw [Monitor.follow]
    cases carried : notes first.op first.reply with
    | none =>
      rw [advance_quiet carried] at later ⊢
      rcases List.mem_cons.mp member with rfl | inside
      · rw [noted] at carried
        cases carried
      · exact ih later inside
    | some other =>
      have held : (once notes).advance none first.op first.reply = some other := by
        simp only [once, carried, Option.some_or]
      rw [held] at later ⊢
      obtain ⟨stays, silent⟩ := follow_some later
      rcases List.mem_cons.mp member with rfl | inside
      · rw [noted] at carried
        rw [stays, carried]
      · rw [silent event inside] at noted
        cases noted

end once
end Interaction
