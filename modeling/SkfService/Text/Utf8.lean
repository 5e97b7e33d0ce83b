import SkfService.Text.Chars
import Mathlib.Tactic.NormNum

/-! UTF-8 bytes of a string, and decoding with replacement characters. -/

set_option autoImplicit false

namespace Text

def utf8 (s : String) : List UInt8 := s.toList.flatMap String.utf8EncodeChar

theorem length_le_utf8 (s : String) : s.toList.length ≤ (utf8 s).length := by
  unfold utf8
  induction s.toList with
  | nil => exact Nat.le_refl _
  | cons c cs ih =>
    have positive : 0 < (String.utf8EncodeChar c).length := by
      rw [String.length_utf8EncodeChar]
      exact c.utf8Size_pos
    rw [List.flatMap_cons, List.length_append, List.length_cons]
    omega

theorem utf8_length_ascii {s : String} (ascii : ∀ c ∈ s.toList, c.toNat < 128) :
    (utf8 s).length = s.toList.length := by
  unfold utf8
  generalize s.toList = cs at ascii
  induction cs with
  | nil => rfl
  | cons c cs ih =>
    have single : c.utf8Size = 1 := by
      have small := ascii c List.mem_cons_self
      rw [Char.utf8Size, if_pos]
      rw [UInt32.le_iff_toNat_le]
      exact Nat.le_of_lt_succ small
    rw [List.flatMap_cons, List.length_append, List.length_cons, String.length_utf8EncodeChar,
      single, ih fun other member => ascii other (List.mem_cons_of_mem _ member), Nat.add_comm]

theorem utf8_length_le (s : String) : (utf8 s).length ≤ 4 * s.toList.length := by
  unfold utf8
  induction s.toList with
  | nil => exact Nat.le_refl _
  | cons c cs ih =>
    have small : (String.utf8EncodeChar c).length ≤ 4 := by
      rw [String.length_utf8EncodeChar]
      exact c.utf8Size_le_four
    rw [List.flatMap_cons, List.length_append, List.length_cons]
    omega

def fromUtf8 (bytes : List UInt8) : Option String :=
  bytes.toByteArray.utf8Decode?.map fun cs => .ofList cs.toList

theorem fromUtf8_utf8 (s : String) : fromUtf8 (utf8 s) = some s := by
  have encoded : (utf8 s).toByteArray = s.toList.utf8Encode := rfl
  rw [fromUtf8, encoded, List.utf8Decode?_utf8Encode, Option.map_some, List.toList_toArray,
    String.ofList_toList]

def isContinuation (byte : UInt8) : Bool := 0x80 ≤ byte && byte ≤ 0xBF

def secondOfThree (first second : UInt8) : Bool :=
  if first == 0xE0 then 0xA0 ≤ second && second ≤ 0xBF
  else if first == 0xED then 0x80 ≤ second && second ≤ 0x9F
  else isContinuation second

def secondOfFour (first second : UInt8) : Bool :=
  if first == 0xF0 then 0x90 ≤ second && second ≤ 0xBF
  else if first == 0xF4 then 0x80 ≤ second && second ≤ 0x8F
  else isContinuation second

def payload (byte : UInt8) : Nat := byte.toNat % 64

def replacement : Char := .ofNat 0xFFFD

/-- The first character of the bytes and how many bytes it takes. A maximal ill-formed part counts
as one replacement character; a byte past the end of the buffer counts as zero. -/
def decodeFirst (b0 b1 b2 b3 : UInt8) : Char × Nat :=
  if b0 < 0x80 then (.ofNat b0.toNat, 1)
  else if 0xC2 ≤ b0 && b0 ≤ 0xDF then
    if isContinuation b1 then (.ofNat ((b0.toNat % 32) * 64 + payload b1), 2) else (replacement, 1)
  else if 0xE0 ≤ b0 && b0 ≤ 0xEF then
    if !secondOfThree b0 b1 then (replacement, 1)
    else if !isContinuation b2 then (replacement, 2)
    else (.ofNat ((b0.toNat % 16) * 4096 + payload b1 * 64 + payload b2), 3)
  else if 0xF0 ≤ b0 && b0 ≤ 0xF4 then
    if !secondOfFour b0 b1 then (replacement, 1)
    else if !isContinuation b2 then (replacement, 2)
    else if !isContinuation b3 then (replacement, 3)
    else (.ofNat ((b0.toNat % 8) * 262144 + payload b1 * 4096 + payload b2 * 64 + payload b3), 4)
  else (replacement, 1)

/-- Decodes the bytes that are left after `skip` bytes of the character before them. -/
def decodeLossy : Nat → List UInt8 → List Char
  | _, [] => []
  | skip + 1, _ :: rest => decodeLossy skip rest
  | 0, byte :: rest =>
    let (c, width) := decodeFirst byte (rest.getD 0 0) (rest.getD 1 0) (rest.getD 2 0)
    c :: decodeLossy (width - 1) rest

def fromUtf8Lossy (bytes : List UInt8) : String := .ofList (decodeLossy 0 bytes)

theorem ofNat_ne_nul {n : Nat} (valid : n.isValidChar) (positive : 0 < n) :
    Char.ofNat n ≠ Char.ofNat 0 := by
  intro same
  have number : (Char.ofNat n).toNat = n := by
    rw [Char.ofNat, dif_pos valid]
    rfl
  rw [same] at number
  exact absurd number (Nat.ne_of_lt positive)

section wellFormed

variable {b0 b1 : UInt8}

theorem two_valid (b1 : UInt8) (first : 0xC2 ≤ b0 ∧ b0 ≤ 0xDF) :
    ((b0.toNat % 32) * 64 + payload b1).isValidChar ∧ 0 < (b0.toNat % 32) * 64 + payload b1 := by
  have low : 194 ≤ b0.toNat := first.1
  have high : b0.toNat ≤ 223 := first.2
  have bound : payload b1 < 64 := Nat.mod_lt _ (by decide)
  exact ⟨Or.inl (by omega), by omega⟩

theorem three_valid (b2 : UInt8) (first : 0xE0 ≤ b0 ∧ b0 ≤ 0xEF)
    (second : secondOfThree b0 b1 = true) :
    ((b0.toNat % 16) * 4096 + payload b1 * 64 + payload b2).isValidChar ∧
      0 < (b0.toNat % 16) * 4096 + payload b1 * 64 + payload b2 := by
  have low : 224 ≤ b0.toNat := first.1
  have high : b0.toNat ≤ 239 := first.2
  have last : payload b2 < 64 := Nat.mod_lt _ (by decide)
  have middle : payload b1 < 64 := Nat.mod_lt _ (by decide)
  have notEarly : b0.toNat = 224 → 32 ≤ payload b1 := by
    intro same
    have here : b0 = 0xE0 := UInt8.toNat.inj same
    simp only [secondOfThree, here, beq_self_eq_true, if_true, Bool.and_eq_true, decide_eq_true_eq,
      UInt8.le_iff_toNat_le] at second
    simp only [payload]
    grind
  have notSurrogate : b0.toNat = 237 → payload b1 < 32 := by
    intro same
    have here : b0 = 0xED := UInt8.toNat.inj same
    simp only [secondOfThree, here] at second
    norm_num [UInt8.le_iff_toNat_le] at second
    simp only [payload]
    grind
  refine ⟨?_, by omega⟩
  by_cases before : b0.toNat ≤ 237
  · exact Or.inl (by omega)
  · exact Or.inr ⟨by omega, by omega⟩

theorem four_valid (b2 b3 : UInt8) (first : 0xF0 ≤ b0 ∧ b0 ≤ 0xF4)
    (second : secondOfFour b0 b1 = true) :
    ((b0.toNat % 8) * 262144 + payload b1 * 4096 + payload b2 * 64 + payload b3).isValidChar ∧
      0 < (b0.toNat % 8) * 262144 + payload b1 * 4096 + payload b2 * 64 + payload b3 := by
  have low : 240 ≤ b0.toNat := first.1
  have high : b0.toNat ≤ 244 := first.2
  have third : payload b2 < 64 := Nat.mod_lt _ (by decide)
  have fourth : payload b3 < 64 := Nat.mod_lt _ (by decide)
  have middle : payload b1 < 64 := Nat.mod_lt _ (by decide)
  have notEarly : b0.toNat = 240 → 16 ≤ payload b1 := by
    intro same
    have here : b0 = 0xF0 := UInt8.toNat.inj same
    simp only [secondOfFour, here] at second
    norm_num [UInt8.le_iff_toNat_le] at second
    simp only [payload]
    grind
  have notLate : b0.toNat = 244 → payload b1 < 16 := by
    intro same
    have here : b0 = 0xF4 := UInt8.toNat.inj same
    simp only [secondOfFour, here] at second
    norm_num [UInt8.le_iff_toNat_le] at second
    simp only [payload]
    grind
  exact ⟨Or.inr ⟨by omega, by omega⟩, by omega⟩

theorem replacement_ne_nul : replacement ≠ Char.ofNat 0 := by decide

/-- Decoding never makes a NUL out of bytes that start with something else. -/
theorem decodeFirst_ne_nul (b1 b2 b3 : UInt8) (nonzero : b0 ≠ 0) :
    (decodeFirst b0 b1 b2 b3).1 ≠ Char.ofNat 0 := by
  -- A longer form starts too high for the null character, and what is malformed is replaced.
  unfold decodeFirst
  split
  · next one =>
    have small : b0.toNat < 128 := one
    exact ofNat_ne_nul (Or.inl (by omega)) (Nat.pos_of_ne_zero fun zero =>
      nonzero (UInt8.toNat.inj zero))
  split
  · next two =>
    split
    · have range : 0xC2 ≤ b0 ∧ b0 ≤ 0xDF := by simpa using two
      exact ofNat_ne_nul (two_valid b1 range).1 (two_valid b1 range).2
    · exact replacement_ne_nul
  split
  · next three =>
    split
    · exact replacement_ne_nul
    split
    · exact replacement_ne_nul
    · next second third =>
      have range : 0xE0 ≤ b0 ∧ b0 ≤ 0xEF := by simpa using three
      obtain ⟨valid, positive⟩ := three_valid b2 range (by simpa using second)
      exact ofNat_ne_nul valid positive
  split
  · next four =>
    split
    · exact replacement_ne_nul
    split
    · exact replacement_ne_nul
    split
    · exact replacement_ne_nul
    · next second third fourth =>
      have range : 0xF0 ≤ b0 ∧ b0 ≤ 0xF4 := by simpa using four
      obtain ⟨valid, positive⟩ := four_valid b2 b3 range (by simpa using second)
      exact ofNat_ne_nul valid positive
  · exact replacement_ne_nul

end wellFormed

theorem decodeLossy_no_nul (bytes : List UInt8) (skip : Nat) (nonzero : (0 : UInt8) ∉ bytes) :
    Char.ofNat 0 ∉ decodeLossy skip bytes := by
  induction bytes generalizing skip with
  | nil => simp [decodeLossy]
  | cons byte rest ih =>
    simp only [List.mem_cons, not_or] at nonzero
    cases skip with
    | succ skip => exact ih skip nonzero.2
    | zero =>
      simp only [decodeLossy, List.mem_cons, not_or]
      exact ⟨(decodeFirst_ne_nul _ _ _ (Ne.symm nonzero.1)).symm, ih _ nonzero.2⟩

theorem fromUtf8Lossy_no_nul (bytes : List UInt8) (nonzero : (0 : UInt8) ∉ bytes) :
    Char.ofNat 0 ∉ (fromUtf8Lossy bytes).toList := by
  rw [fromUtf8Lossy, String.toList_ofList]
  exact decodeLossy_no_nul bytes 0 nonzero

end Text
