import Mathlib.Logic.Basic

/-! Counted permits.

A semaphore gives out at most its capacity of permits. `Balanced` says that the free permits and the
holders make up the capacity; taking one permit for a new holder and giving it back keep that. -/

set_option autoImplicit false

namespace Interaction

structure Semaphore where
  available : Nat
  deriving DecidableEq

namespace Semaphore

def tryAcquire (permits : Semaphore) : Option Semaphore :=
  match permits.available with
  | 0 => none
  | free + 1 => some ⟨free⟩

def release (permits : Semaphore) : Semaphore := ⟨permits.available + 1⟩

def Balanced (capacity : Nat) (permits : Semaphore) (holders : Nat) : Prop :=
  permits.available + holders = capacity

variable {capacity holders : Nat} {permits left : Semaphore}

theorem balanced_new (capacity : Nat) : Balanced capacity ⟨capacity⟩ 0 := rfl

theorem Balanced.acquire (balanced : Balanced capacity permits holders)
    (taken : permits.tryAcquire = some left) :
    Balanced capacity left (holders + 1) := by
  unfold Balanced at balanced ⊢
  unfold tryAcquire at taken
  split at taken
  · cases taken
  · next free same =>
    cases taken
    dsimp only
    omega

theorem Balanced.release (balanced : Balanced capacity permits (holders + 1)) :
    Balanced capacity permits.release holders := by
  unfold Balanced at balanced ⊢
  simp only [Semaphore.release]
  omega

theorem Balanced.bound (balanced : Balanced capacity permits holders) : holders ≤ capacity := by
  unfold Balanced at balanced
  omega

theorem Balanced.room (balanced : Balanced capacity permits holders)
    (taken : permits.tryAcquire = some left) :
    holders < capacity :=
  (balanced.acquire taken).bound

end Semaphore
end Interaction
