import Mathlib.Data.Nat.Digits.Lemmas

/-! Big-endian numbers in octets: the shortest form and forms of a fixed width. -/

set_option autoImplicit false

namespace Asn1

def bigEndian (bytes : List UInt8) : Nat := bytes.foldl (fun n byte => 256 * n + byte.toNat) 0

/-- The shortest octets of a number; zero has none. -/
def octets (n : Nat) : List UInt8 := ((Nat.digits 256 n).map UInt8.ofNat).reverse

def fixed : Nat → Nat → List UInt8
  | 0, _ => []
  | width + 1, n => fixed width (n / 256) ++ [.ofNat n]

@[simp] theorem bigEndian_nil : bigEndian [] = 0 := rfl

@[simp] theorem bigEndian_concat (bytes : List UInt8) (byte : UInt8) :
    bigEndian (bytes ++ [byte]) = 256 * bigEndian bytes + byte.toNat := by
  simp only [bigEndian, List.foldl_append, List.foldl_cons, List.foldl_nil]

theorem bigEndian_zero_cons (bytes : List UInt8) : bigEndian (0 :: bytes) = bigEndian bytes := rfl

theorem bigEndian_zeros (count : Nat) (bytes : List UInt8) :
    bigEndian (List.replicate count 0 ++ bytes) = bigEndian bytes := by
  induction count with
  | zero => rfl
  | succ count ih =>
    rw [List.replicate_succ, List.cons_append, bigEndian_zero_cons]
    exact ih

theorem bigEndian_dropWhile (bytes : List UInt8) :
    bigEndian (bytes.dropWhile (· == 0)) = bigEndian bytes := by
  induction bytes with
  | nil => rfl
  | cons byte rest ih =>
    by_cases zero : byte = 0
    · subst zero
      rw [bigEndian_zero_cons]
      exact ih
    · rw [List.dropWhile_cons_of_neg (by simpa using zero)]

theorem bigEndian_eq_ofDigits (bytes : List UInt8) :
    bigEndian bytes = Nat.ofDigits 256 (bytes.reverse.map UInt8.toNat) := by
  induction bytes using List.reverseRecOn with
  | nil => rfl
  | append_singleton bytes byte ih =>
    rw [bigEndian_concat, ih, List.reverse_append, List.reverse_singleton, List.singleton_append,
      List.map_cons, Nat.ofDigits_cons]
    exact Nat.add_comm _ _

theorem bigEndian_lt (bytes : List UInt8) : bigEndian bytes < 256 ^ bytes.length := by
  rw [bigEndian_eq_ofDigits]
  have bounded : ∀ digit ∈ bytes.reverse.map UInt8.toNat, digit < 256 := by
    intro digit member
    obtain ⟨byte, -, rfl⟩ := List.mem_map.mp member
    exact byte.toNat_lt
  have below := Nat.ofDigits_lt_base_pow_length (by decide) bounded
  rwa [List.length_map, List.length_reverse] at below

theorem bigEndian_octets (n : Nat) : bigEndian (octets n) = n := by
  have kept : ∀ digit ∈ Nat.digits 256 n, (UInt8.toNat ∘ UInt8.ofNat) digit = digit := by
    intro digit member
    exact UInt8.toNat_ofNat_of_lt' (Nat.digits_lt_base (by decide) member)
  rw [bigEndian_eq_ofDigits, octets, List.reverse_reverse, List.map_map, List.map_congr_left kept,
    List.map_id'', Nat.ofDigits_digits]
  intro _
  rfl

/-- Octets without a leading zero are the shortest ones. -/
theorem octets_bigEndian {bytes : List UInt8} (minimal : bytes.head? ≠ some 0) :
    octets (bigEndian bytes) = bytes := by
  have bounded : ∀ digit ∈ bytes.reverse.map UInt8.toNat, digit < 256 := by
    intro digit member
    obtain ⟨byte, -, rfl⟩ := List.mem_map.mp member
    exact byte.toNat_lt
  have nonzero : ∀ some : bytes.reverse.map UInt8.toNat ≠ [],
      (bytes.reverse.map UInt8.toNat).getLast some ≠ 0 := by
    intro some zero
    cases bytes with
    | nil => exact some rfl
    | cons byte rest =>
      simp only [List.reverse_cons, List.map_append, List.map_cons, List.map_nil,
        List.getLast_append_singleton] at zero
      have none : byte = 0 := UInt8.toNat.inj zero
      apply minimal
      rw [none, List.head?_cons]
  rw [octets, bigEndian_eq_ofDigits, Nat.digits_ofDigits 256 (by decide) _ bounded nonzero,
    List.map_map]
  have back : UInt8.ofNat ∘ UInt8.toNat = id := by
    funext byte
    exact UInt8.ofNat_toNat
  rw [back, List.map_id, List.reverse_reverse]

theorem octets_head (n : Nat) : (octets n).head? ≠ some 0 := by
  intro zero
  rcases Nat.eq_zero_or_pos n with rfl | positive
  · simp [octets] at zero
  have last := Nat.getLast_digit_ne_zero 256 (Nat.pos_iff_ne_zero.mp positive)
  rw [octets, List.head?_reverse, List.getLast?_map,
    List.getLast?_eq_some_getLast
      (Nat.digits_ne_nil_iff_ne_zero.mpr (Nat.pos_iff_ne_zero.mp positive)),
    Option.map_some, Option.some.injEq] at zero
  apply last
  have small := Nat.digits_lt_base (b := 256) (by decide)
    (List.getLast_mem (Nat.digits_ne_nil_iff_ne_zero.mpr (Nat.pos_iff_ne_zero.mp positive)))
  rw [← UInt8.toNat_ofNat_of_lt' small, zero]
  rfl

theorem octets_of_lt {n : Nat} (small : n < 256) (positive : 0 < n) : octets n = [.ofNat n] := by
  rw [octets, Nat.digits_of_lt 256 n (Nat.pos_iff_ne_zero.mp positive) small]
  rfl

theorem octets_two {n : Nat} (large : 256 ≤ n) (bounded : n < 65536) :
    octets n = [.ofNat (n / 256), .ofNat n] := by
  have low : UInt8.ofNat (n % 256) = .ofNat n := by
    apply UInt8.toNat.inj
    rw [UInt8.toNat_ofNat', UInt8.toNat_ofNat']
    exact Nat.mod_mod _ _
  rw [octets, Nat.digits_def' (by decide) (by omega),
    Nat.digits_of_lt 256 (n / 256) (by omega) (by omega), List.map_cons, List.map_singleton, low]
  rfl

@[simp] theorem fixed_length (width n : Nat) : (fixed width n).length = width := by
  induction width generalizing n with
  | zero => rfl
  | succ width ih => rw [fixed, List.length_append, ih, List.length_singleton]

theorem bigEndian_fixed {width n : Nat} (bounded : n < 256 ^ width) :
    bigEndian (fixed width n) = n := by
  induction width generalizing n with
  | zero =>
    have zero : n = 0 := Nat.lt_one_iff.mp bounded
    rw [zero, fixed, bigEndian_nil]
  | succ width ih =>
    have smaller : n / 256 < 256 ^ width := by
      apply Nat.div_lt_of_lt_mul
      rw [Nat.mul_comm, ← Nat.pow_succ]
      exact bounded
    rw [fixed, bigEndian_concat, ih smaller, UInt8.toNat_ofNat']
    exact Nat.div_add_mod n 256

theorem fixed_bigEndian (bytes : List UInt8) : fixed bytes.length (bigEndian bytes) = bytes := by
  induction bytes using List.reverseRecOn with
  | nil => rfl
  | append_singleton bytes byte ih =>
    have small := byte.toNat_lt
    have front : (256 * bigEndian bytes + byte.toNat) / 256 = bigEndian bytes := by omega
    have last : UInt8.ofNat (256 * bigEndian bytes + byte.toNat) = byte := by
      apply UInt8.toNat.inj
      rw [UInt8.toNat_ofNat']
      omega
    rw [List.length_append, List.length_singleton, fixed, bigEndian_concat, front, last, ih]

end Asn1
