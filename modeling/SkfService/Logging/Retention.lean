import Mathlib.Data.List.Infix
import Mathlib.Algebra.GroupWithZero.Nat
import Mathlib.Algebra.Order.BigOperators.Group.List

/-! A history in a bounded number of chunks, each bounded in size. An item the newest chunk has no
room for starts a chunk of its own, and the oldest chunk goes when there are too many. -/

set_option autoImplicit false

namespace Retention

variable {α : Type}

structure Chunks (α : Type) where
  newest : List α
  older : List (List α)

namespace Chunks

def all (chunks : Chunks α) : List (List α) := chunks.newest :: chunks.older

def items (chunks : Chunks α) : List α := chunks.all.reverse.flatten

end Chunks

def total (size : α → Nat) (chunk : List α) : Nat := (chunk.map size).sum

def add (size : α → Nat) (limit keep : Nat) (chunks : Chunks α) (item : α) : Chunks α :=
  if limit < total size chunks.newest + size item then ⟨[item], chunks.all.take keep⟩
  else ⟨chunks.newest ++ [item], chunks.older⟩

/-- A chunk within the limit, or one item that is larger than it. -/
def Fits (size : α → Nat) (limit : Nat) (chunk : List α) : Prop :=
  total size chunk ≤ limit ∨ ∃ item, chunk = [item] ∧ limit < size item

/-- The chunks hold the end of what was added. -/
structure Holds (size : α → Nat) (limit keep : Nat) (added : List α) (chunks : Chunks α) :
    Prop where
  suffix : chunks.items <:+ added
  latest : chunks.newest.getLast? = added.getLast?
  few : chunks.older.length ≤ keep
  fits : ∀ chunk ∈ chunks.all, Fits size limit chunk

variable {size : α → Nat} {limit keep : Nat} {added : List α} {chunks : Chunks α}

@[simp] theorem total_nil : total size [] = 0 := rfl

@[simp] theorem total_append (front back : List α) :
    total size (front ++ back) = total size front + total size back := by
  simp [total]

theorem fits_singleton (item : α) : Fits size limit [item] := by
  by_cases large : limit < size item
  · exact .inr ⟨item, rfl, large⟩
  · left
    simpa [total] using large

theorem take_suffix (chunks : List (List α)) (keep : Nat) :
    (chunks.take keep).reverse.flatten <:+ chunks.reverse.flatten := by
  refine ⟨(chunks.drop keep).reverse.flatten, ?_⟩
  rw [← List.flatten_append, ← List.reverse_append, List.take_append_drop]

theorem holds_empty : Holds size limit keep [] ⟨[], []⟩ where
  suffix := List.nil_suffix
  latest := rfl
  few := Nat.zero_le _
  fits chunk member := by
    left
    rw [List.mem_singleton.mp member]
    exact Nat.zero_le _

theorem Holds.add (holds : Holds size limit keep added chunks) (item : α) :
    Holds size limit keep (added ++ [item]) (add size limit keep chunks item) := by
  unfold Retention.add
  -- The item opens a new chunk where it does not fit, or else extends the newest one.
  split
  · have whole : Chunks.items ⟨[item], chunks.all.take keep⟩ =
      (chunks.all.take keep).reverse.flatten ++ [item] := by
      simp [Chunks.items, Chunks.all]
    constructor
    · rw [whole]
      exact List.suffix_append_self_iff.mpr ((take_suffix chunks.all keep).trans holds.suffix)
    · rw [List.getLast?_append]
      rfl
    · exact List.length_take_le keep _
    · intro chunk member
      rcases List.mem_cons.mp member with rfl | kept
      · exact fits_singleton item
      · exact holds.fits chunk (List.mem_of_mem_take kept)
  · next room =>
    have whole : Chunks.items ⟨chunks.newest ++ [item], chunks.older⟩ = chunks.items ++ [item] := by
      simp [Chunks.items, Chunks.all]
    constructor
    · rw [whole]
      exact List.suffix_append_self_iff.mpr holds.suffix
    · rw [List.getLast?_append, List.getLast?_append]
      rfl
    · exact holds.few
    · intro chunk member
      rcases List.mem_cons.mp member with rfl | old
      · left
        have single : total size [item] = size item := by simp [total]
        rw [total_append, single]
        exact Nat.le_of_not_lt room
      · exact holds.fits chunk (List.mem_cons_of_mem _ old)

theorem holds_foldl (holds : Holds size limit keep added chunks) (later : List α) :
    Holds size limit keep (added ++ later) (later.foldl (add size limit keep) chunks) := by
  induction later generalizing added chunks with
  | nil => rwa [List.append_nil]
  | cons item later ih =>
    have next := ih (holds.add item)
    rwa [List.append_assoc] at next

end Retention
