import Mathlib.Data.List.Induction

/-! Runs of a step relation, with the labels of their steps in order. -/

set_option autoImplicit false

namespace Interaction

variable {S L : Type}

/-- `Run step first labels last`: the labelled steps lead from one state to another. -/
inductive Run (step : S → L → S → Prop) (first : S) : List L → S → Prop
  | start : Run step first [] first
  | next {labels : List L} {label : L} {before after : S} (earlier : Run step first labels before)
      (last : step before label after) : Run step first (labels ++ [label]) after

namespace Run

variable {step : S → L → S → Prop} {first last : S} {front back labels : List L}

/-- What holds at the start and is kept by every step holds after every run. -/
theorem invariant (inv : List L → S → Prop) (run : Run step first labels last)
    (initially : inv [] first)
    (kept : ∀ labels label before after, inv labels before → step before label after →
      inv (labels ++ [label]) after) : inv labels last := by
  induction run with
  | start => exact initially
  | next earlier last ih => exact kept _ _ _ _ ih last

theorem append {middle : S} (before : Run step first front middle)
    (behind : Run step middle back last) :
    Run step first (front ++ back) last := by
  induction behind with
  | start =>
    rw [List.append_nil]
    exact before
  | next earlier last ih =>
    rw [← List.append_assoc]
    exact ih.next last

theorem cons {label : L} {middle : S} (head : step first label middle)
    (tail : Run step middle labels last) :
    Run step first (label :: labels) last :=
  append (start.next head) tail

theorem split (whole : Run step first (front ++ back) last) :
    ∃ middle, Run step first front middle ∧ Run step middle back last := by
  generalize spelled : front ++ back = labels at whole
  induction whole generalizing back with
  | start =>
    obtain ⟨rfl, rfl⟩ := List.append_eq_nil_iff.mp spelled
    exact ⟨first, .start, .start⟩
  | @next labels label before after earlier last ih =>
    rcases List.eq_nil_or_concat back with rfl | ⟨rest, final, rfl⟩
    · rw [List.append_nil] at spelled
      subst spelled
      exact ⟨after, earlier.next last, .start⟩
    · rw [List.concat_eq_append, ← List.append_assoc] at spelled
      obtain ⟨init, tail⟩ := List.append_inj' spelled rfl
      cases tail
      obtain ⟨middle, before, behind⟩ := ih init
      rw [List.concat_eq_append]
      exact ⟨middle, before, behind.next last⟩

theorem last_step {label : L} (run : Run step first (labels ++ [label]) last) :
    ∃ before, Run step first labels before ∧ step before label last := by
  generalize spelled : labels ++ [label] = whole at run
  cases run with
  | start => simp at spelled
  | next earlier last =>
    obtain ⟨rfl, tail⟩ := List.append_inj' spelled rfl
    cases tail
    exact ⟨_, earlier, last⟩

theorem nil (run : Run step first [] last) : last = first := by
  generalize spelled : ([] : List L) = labels at run
  cases run with
  | start => rfl
  | next => simp at spelled

/-- Where a label determines the step, the labels determine the run. -/
theorem unique {other : S}
    (functional : ∀ before label after after', step before label after → step before label after' →
      after = after')
    (one : Run step first labels last) (two : Run step first labels other) :
    last = other := by
  induction one generalizing other with
  | start => exact two.nil.symm
  | next earlier last ih =>
    obtain ⟨middle, same, final⟩ := two.last_step
    rw [← ih same] at final
    exact functional _ _ _ _ last final

end Run
end Interaction
