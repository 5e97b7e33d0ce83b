import Mathlib.Data.List.Induction

/-! What the events of a log leave standing: an event that nothing after it has ended. -/

set_option autoImplicit false

namespace Interaction

variable {L : Type} {log : List L} {event last : L} {quiet : L → Prop}

/-- The event is in the log, and everything after it is quiet. -/
def Standing (log : List L) (event : L) (quiet : L → Prop) : Prop :=
  ∃ front back, log = front ++ event :: back ∧ ∀ later ∈ back, quiet later

theorem not_standing_nil : ¬Standing [] event quiet := by
  rintro ⟨front, back, spelled, -⟩
  simp at spelled

theorem Standing.mem (standing : Standing log event quiet) : event ∈ log := by
  obtain ⟨front, back, rfl, -⟩ := standing
  exact List.mem_append_right _ List.mem_cons_self

theorem standing_concat :
    Standing (log ++ [last]) event quiet ↔ last = event ∨
      (Standing log event quiet ∧ quiet last) := by
  constructor
  · rintro ⟨front, back, spelled, kept⟩
    rcases List.eq_nil_or_concat back with rfl | ⟨rest, final, rfl⟩
    · obtain ⟨-, same⟩ := List.append_inj' spelled rfl
      cases same
      exact .inl rfl
    · rw [List.concat_eq_append] at spelled kept
      rw [← List.cons_append, ← List.append_assoc] at spelled
      obtain ⟨rfl, same⟩ := List.append_inj' spelled rfl
      cases same
      refine .inr
        ⟨⟨front, rest, rfl, fun later member => kept later (List.mem_append_left _ member)⟩, ?_⟩
      exact kept last (List.mem_append_right _ (List.mem_singleton_self _))
  · rintro (rfl | ⟨⟨front, back, rfl, kept⟩, here⟩)
    · refine ⟨log, [], rfl, ?_⟩
      intro later impossible
      cases impossible
    · refine ⟨front, back ++ [last], ?_, ?_⟩
      · rw [List.append_assoc, List.cons_append]
      · intro later member
        rcases List.mem_append.mp member with old | new
        · exact kept later old
        · rw [List.mem_singleton.mp new]
          exact here

theorem Standing.mono {calm : L → Prop} (standing : Standing log event quiet)
    (relaxed : ∀ later ∈ log, quiet later → calm later) : Standing log event calm := by
  obtain ⟨front, back, rfl, kept⟩ := standing
  refine ⟨front, back, rfl, fun later member => relaxed later ?_ (kept later member)⟩
  exact List.mem_append_right _ (List.mem_cons_of_mem _ member)

end Interaction
