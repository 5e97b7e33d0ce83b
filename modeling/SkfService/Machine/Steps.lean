import Mathlib.Data.List.Basic

/-! Runs of a machine that takes one action after the other. -/

set_option autoImplicit false

namespace Machine

variable {S A : Type} (step : S → A → S)

/-- Every state of a run, the first one included. -/
def visited : S → List A → List S
  | s, [] => [s]
  | s, a :: later => s :: visited (step s a) later

def Along (allowed : S → A → Prop) : S → List A → Prop
  | _, [] => True
  | s, a :: later => allowed s a ∧ Along allowed (step s a) later

variable {step} {allowed other : S → A → Prop} {good : S → Prop} {s : S}

theorem along_congr (same : ∀ s a, allowed s a ↔ other s a) (actions : List A) :
    Along step allowed s actions ↔ Along step other s actions := by
  induction actions generalizing s with
  | nil => exact Iff.rfl
  | cons a later ih => rw [Along, Along, same, ih]

theorem visited_of_along (start : good s)
    (preserved : ∀ s a, good s → allowed s a → good (step s a)) {actions : List A}
    (along : Along step allowed s actions) : ∀ r ∈ visited step s actions, good r := by
  induction actions generalizing s with
  | nil =>
    intro r member
    rwa [List.mem_singleton.mp member]
  | cons a later ih =>
    intro r member
    rcases List.mem_cons.mp member with rfl | after
    · exact start
    · exact ih (preserved s a start along.1) along.2 r after

theorem visited_invariant (start : good s) (preserved : ∀ s a, good s → good (step s a))
    (actions : List A) :
    ∀ r ∈ visited step s actions, good r := by
  induction actions generalizing s with
  | nil => exact List.forall_mem_singleton.mpr start
  | cons a later ih => exact List.forall_mem_cons.mpr ⟨start, ih (preserved s a start)⟩

theorem last_mem_visited (actions : List A) : actions.foldl step s ∈ visited step s actions := by
  induction actions generalizing s with
  | nil => exact List.mem_singleton_self _
  | cons a later ih => exact List.mem_cons_of_mem _ ih

/-- If exactly the allowed actions preserve a property, it holds throughout exactly the runs of
allowed actions. -/
theorem visited_iff (start : good s) (exact_ : ∀ s a, good s → (good (step s a) ↔ allowed s a))
    (actions : List A) :
    (∀ r ∈ visited step s actions, good r) ↔ Along step allowed s actions := by
  induction actions generalizing s with
  | nil =>
    rw [visited, List.forall_mem_singleton]
    exact iff_of_true start trivial
  | cons a later ih =>
    rw [visited, List.forall_mem_cons, Along, ← exact_ s a start]
    constructor
    · rintro ⟨-, rest⟩
      have here : good (step s a) := rest _ (by cases later <;> exact List.mem_cons_self)
      exact ⟨here, (ih here).mp rest⟩
    · rintro ⟨here, along⟩
      exact ⟨start, (ih here).mpr along⟩

/-- An invariant kept by the allowed actions gives a property that every other action loses. -/
theorem visited_iff_of_invariant {inv : S → Prop} (start : inv s)
    (kept : ∀ s a, inv s → allowed s a → inv (step s a)) (sound : ∀ s, inv s → good s)
    (lost : ∀ s a, inv s → ¬allowed s a → ¬good (step s a)) (actions : List A) :
    (∀ r ∈ visited step s actions, good r) ↔ Along step allowed s actions := by
  constructor
  · induction actions generalizing s with
    | nil => exact fun _ => trivial
    | cons a later ih =>
      intro holds
      rw [visited, List.forall_mem_cons] at holds
      have here : good (step s a) := holds.2 _ (by cases later <;> exact List.mem_cons_self)
      have permitted : allowed s a := by
        by_contra refused
        exact lost s a start refused here
      exact ⟨permitted, ih (kept s a start permitted) holds.2⟩
  · intro along r member
    exact sound r (visited_of_along start kept along r member)

end Machine
