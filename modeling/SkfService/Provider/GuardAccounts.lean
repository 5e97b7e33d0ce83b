import Mathlib.Data.List.Count
import SkfService.Provider.Native

/-! Accounts of the native provider's guards: who refers to them, which closes are still to come and
which have happened, and what each thread has left to run. -/

set_option autoImplicit false

namespace SkfService.Native

open Interaction

def Happened.closing? : Happened → Option Nat
  | .closed n => some n
  | _ => none

/-- The guards whose `Drop` has come past its close, with or without a handle. -/
def Happened.ending? : Happened → Option Nat
  | .closed n | .skipped n => some n
  | _ => none

def closings (log : List Entry) : List Nat := log.filterMap fun entry => entry.happened.closing?

def endings (log : List Entry) : List Nat := log.filterMap fun entry => entry.happened.ending?

def pending (threads : List (List Instr)) (instr : Instr) : Nat := threads.flatten.count instr

/-- A number read off a guard; a guard that is not there has none. -/
def reading (field : Guard → Nat) (guards : List Guard) (n : Nat) : Nat :=
  (guards[n]?.map field).getD 0

def strongOf : List Guard → Nat → Nat := reading Guard.strong

def boxes : List Guard → Nat → Nat := reading fun guard => guard.boxed.toNat

def rawOf : List Guard → Nat → Nat := reading Guard.raw

/-- One for a guard nothing refers to any more. -/
def dead : List Guard → Nat → Nat := reading fun guard => if guard.strong = 0 then 1 else 0

/-- The guards opened on one that still hold their reference of it. -/
def children (guards : List Guard) (n : Nat) : Nat :=
  guards.countP fun guard => guard.parent == some n && decide (0 < guard.strong)

/-- What a thread has left to run, and whether it holds the gate there. -/
inductive Shape (guards : List Guard) : Bool → List Instr → Prop
  | idle : Shape guards false []
  | entering {vendor : Instr} (callable : Callable guards vendor) :
      Shape guards false (method vendor)
  | inside {vendor : Instr} (callable : Callable guards vendor) :
      Shape guards true [vendor, .gateUnlock]
  | leaving (parent : Option Nat) : Shape guards true (.gateUnlock :: parent.toList.map .dropArc)
  | dropping (n : Nat) : Shape guards false [.dropArc n]
  | destroying {n : Nat} {guard : Guard} (found : guards[n]? = some guard) :
      Shape guards false (guard.drop n)
  | closing {n : Nat} {guard : Guard} (found : guards[n]? = some guard) :
      Shape guards true (.close n :: .gateUnlock :: guard.parent.toList.map .dropArc)

def Ordered (log : List Entry) (guards : List Guard) : Prop :=
  ∀ front thread n back, log = front ++ ⟨thread, .closed n⟩ :: back →
    ∀ c guard, guards[c]? = some guard → guard.parent = some n → guard.raw ≠ 0 → c ∈ closings front

/-- The references to a guard are its box, its children's and those about to be dropped. A guard is
closed once when nothing refers to it, after the guards that were opened on it. -/
structure Sound (log : List Entry) (s : State) : Prop where
  shapes : ∀ i thread, s.threads[i]? = some thread → Shape s.guards (s.gate == some i) thread
  holder : ∀ i, s.gate = some i → i < s.threads.length
  strong : ∀ n,
    strongOf s.guards n = boxes s.guards n + children s.guards n + pending s.threads (.dropArc n)
  ended : ∀ n, pending s.threads (.close n) + (endings log).count n = dead s.guards n
  told : ∀ n, (closings log).count n = if rawOf s.guards n = 0 then 0 else (endings log).count n
  ordered : Ordered log s.guards

theorem pending_append (front back : List (List Instr)) (thread : List Instr) (instr : Instr) :
    pending (front ++ thread :: back) instr =
      pending (front ++ back) instr + thread.count instr := by
  simp only [pending, List.flatten_append, List.flatten_cons, List.count_append]
  omega

section guards

variable {guards after : List Guard} {field : Guard → Nat} {f : Guard → Guard} {n m : Nat}
  {guard added : Guard}

theorem reading_found (found : guards[n]? = some guard) : reading field guards n = field guard := by
  rw [reading, found]
  rfl

theorem reading_append : reading field (guards ++ [added]) m = reading field guards m +
    if m = guards.length then field added else 0 := by
  unfold reading
  rcases Nat.lt_trichotomy m guards.length with inside | rfl | beyond
  · rw [List.getElem?_append_left inside, if_neg (by omega)]
    rfl
  · rw [List.getElem?_concat_length, List.getElem?_eq_none (Nat.le_refl _), if_pos rfl]
    simp
  · rw [List.getElem?_eq_none (by rw [List.length_append, List.length_singleton]; omega),
      List.getElem?_eq_none (Nat.le_of_lt beyond), if_neg (by omega)]
    rfl

theorem reading_modify : reading field (guards.modify n f) m =
    if n = m then reading (fun guard => field (f guard)) guards m else reading field guards m := by
  unfold reading
  rw [List.getElem?_modify]
  split
  · cases guards[m]? <;> rfl
  · cases guards[m]? <;> rfl

theorem reading_kept (keeps : ∀ guard, field (f guard) = field guard) :
    reading field (guards.modify n f) m = reading field guards m := by
  rw [reading_modify]
  split
  · simp only [keeps]
  · rfl

/-- Changing one element changes a count by that element only. -/
theorem countP_modify {p : Guard → Bool} (found : guards[n]? = some guard) :
    (guards.modify n f).countP p + (if p guard then 1 else 0) =
      guards.countP p + if p (f guard) then 1 else 0 := by
  obtain ⟨bound, at_n⟩ := List.getElem?_eq_some_iff.mp found
  have split : guards.countP p = (guards.take n).countP p + (if p guard then 1 else 0) +
      (guards.drop (n + 1)).countP p := by
    conv => lhs; rw [← List.take_append_drop n guards, List.drop_eq_getElem_cons bound, at_n]
    rw [List.countP_append, List.countP_cons]
    omega
  rw [List.modify_eq_take_cons_drop bound, at_n, List.countP_append, List.countP_cons, split]
  omega

theorem strongOf_clone (found : guards[n]? = some guard) :
    strongOf (clone guards (some n)) m = strongOf guards m + if n = m then 1 else 0 := by
  unfold strongOf clone
  rw [reading_modify]
  split
  · next same =>
    subst same
    rw [reading_found found, reading_found found]
  · rfl

theorem children_clone (found : guards[n]? = some guard) (alive : 0 < guard.strong) :
    children (clone guards (some n)) m = children guards m := by
  have counted := countP_modify (f := fun guard => { guard with strong := guard.strong + 1 })
    (p := fun guard => guard.parent == some m && decide (0 < guard.strong)) found
  simp only [alive, Nat.succ_pos, decide_true, Bool.and_true] at counted
  exact Nat.add_right_cancel counted

theorem dead_clone (found : guards[n]? = some guard) (alive : 0 < guard.strong) :
    dead (clone guards (some n)) m = dead guards m := by
  unfold dead clone
  rw [reading_modify]
  split
  · next same =>
    subst same
    rw [reading_found found, reading_found found, if_neg (by simp), if_neg (by omega)]
  · rfl

theorem strongOf_release (found : guards[n]? = some guard) (alive : 0 < guard.strong) :
    strongOf (release guards n) m + (if n = m then 1 else 0) = strongOf guards m := by
  unfold strongOf release
  rw [reading_modify]
  split
  · next same =>
    subst same
    rw [reading_found found, reading_found found]
    exact Nat.sub_add_cancel alive
  · rfl

theorem children_release (found : guards[n]? = some guard) (alive : 0 < guard.strong) :
    children (release guards n) m + (if guard.strong = 1 ∧ guard.parent = some m then 1 else 0) =
      children guards m := by
  have counted := countP_modify (f := fun guard => { guard with strong := guard.strong - 1 })
    (p := fun guard => guard.parent == some m && decide (0 < guard.strong)) found
  unfold children release
  by_cases same : guard.parent = some m
  · by_cases last : guard.strong = 1
    · simp [same, last] at counted ⊢
      exact counted
    · have more : 0 < guard.strong - 1 := by omega
      simp [same, last, alive, more] at counted ⊢
      exact counted
  · simp [same] at counted ⊢
    exact counted

theorem dead_release (found : guards[n]? = some guard) (alive : 0 < guard.strong) :
    dead (release guards n) m = dead guards m + if guard.strong = 1 ∧ n = m then 1 else 0 := by
  unfold dead release
  rw [reading_modify]
  by_cases same : n = m
  · subst same
    have none : ¬guard.strong = 0 := by omega
    have last : guard.strong - 1 = 0 ↔ guard.strong = 1 := by omega
    rw [if_pos rfl, reading_found found, reading_found found, if_neg none]
    simp only [last, and_true, Nat.zero_add]
  · rw [if_neg same, if_neg (by simp [same])]
    rfl

theorem boxes_unbox (found : guards[n]? = some guard) (boxed : guard.boxed = true) :
    boxes (unbox guards n) m + (if n = m then 1 else 0) = boxes guards m := by
  unfold boxes unbox
  rw [reading_modify]
  split
  · next same =>
    subst same
    rw [reading_found found, reading_found found, boxed]
    rfl
  · rfl

/-- The guards stay what they are: of a kind, opened on another, with a handle. -/
def Extends (guards after : List Guard) : Prop :=
  ∀ (n : Nat) (guard : Guard), guards[n]? = some guard →
    ∃ guard' : Guard, after[n]? = some guard' ∧ guard'.kind = guard.kind ∧
    guard'.parent = guard.parent ∧ guard'.raw = guard.raw

theorem extends_refl (guards : List Guard) : Extends guards guards :=
  fun _ guard found => ⟨guard, found, rfl, rfl, rfl⟩

theorem extends_modify
    (kept : ∀ guard, (f guard).kind = guard.kind ∧ (f guard).parent = guard.parent ∧
      (f guard).raw = guard.raw) : Extends guards (guards.modify n f) := by
  intro m guard found
  rw [List.getElem?_modify, found]
  by_cases same : n = m
  · exact ⟨f guard, by simp [same], kept guard⟩
  · exact ⟨guard, by simp [same], rfl, rfl, rfl⟩

theorem extends_append (ext : Extends guards after) (added : Guard) :
    Extends guards (after ++ [added]) := by
  intro n guard found
  obtain ⟨guard', there, same⟩ := ext n guard found
  obtain ⟨bound, -⟩ := List.getElem?_eq_some_iff.mp there
  refine ⟨guard', ?_, same⟩
  rw [List.getElem?_append_left bound]
  exact there

theorem extends_clone (parent : Option Nat) : Extends guards (clone guards parent) := by
  cases parent with
  | none => exact extends_refl guards
  | some n => exact extends_modify fun _ => ⟨rfl, rfl, rfl⟩

theorem Callable.mono {vendor : Instr} (callable : Callable guards vendor)
    (ext : Extends guards after)
    (kept : ∀ n, vendor.borrows = some n → boxes guards n ≤ boxes after n) :
    Callable after vendor := by
  have still {n : Nat} {guard : Guard} (found : guards[n]? = some guard)
      (boxed : guard.boxed = true)
      (borrowed : vendor.borrows = some n) :
      ∃ guard', after[n]? = some guard' ∧ guard'.boxed = true ∧ guard'.kind = guard.kind := by
    obtain ⟨guard', there, kind, -, -⟩ := ext n guard found
    have more := kept n borrowed
    rw [boxes, reading_found found, reading_found there, boxed] at more
    refine ⟨guard', there, ?_, kind⟩
    cases held : guard'.boxed with
    | true => rfl
    | false =>
      rw [held] at more
      exact absurd more (by decide)
  cases callable with
  | openDevice => exact .openDevice
  | openOn found boxed fits =>
    obtain ⟨guard', there, boxed', kind⟩ := still found boxed rfl
    exact .openOn there boxed' (by rw [kind]; exact fits)
  | call found boxed =>
    obtain ⟨guard', there, boxed', -⟩ := still found boxed rfl
    exact .call there boxed'

/-- What happens to other guards, and to boxes a thread does not borrow, leaves its shape alone. -/
theorem Shape.mono {holds : Bool} {thread : List Instr} (shape : Shape guards holds thread)
    (ext : Extends guards after)
    (kept : ∀ instr ∈ thread, ∀ n, instr.borrows = some n → boxes guards n ≤ boxes after n) :
    Shape after holds thread := by
  cases shape with
  | idle => exact .idle
  | entering callable => exact .entering (callable.mono ext (kept _ (by simp [method])))
  | inside callable => exact .inside (callable.mono ext (kept _ (by simp)))
  | leaving parent => exact .leaving parent
  | dropping n => exact .dropping n
  | @destroying n guard found =>
    obtain ⟨guard', there, -, parent, -⟩ := ext n guard found
    have same : guard.drop n = guard'.drop n := by rw [Guard.drop, Guard.drop, parent]
    rw [same]
    exact .destroying there
  | @closing n guard found =>
    obtain ⟨guard', there, -, parent, -⟩ := ext n guard found
    rw [← parent]
    exact .closing there

end guards

end SkfService.Native
