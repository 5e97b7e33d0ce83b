import SkfService.Crypto.Der
import SkfService.Text.Encoded
import SkfService.Text.Trim

/-! Hexadecimal text: which texts are read pair by pair, and that every rendering of bytes is. -/

set_option autoImplicit false

namespace SkfService

open Text

/-- Two bytes that stand in the place of a number, with what follows them. -/
structure BytePair where
  first : UInt8
  second : UInt8
  rest : List UInt8

namespace BytePair

def Whole (pair : BytePair) : Prop :=
  isContinuation pair.first = false ∧ pair.rest.head?.any isContinuation = false

def digit (byte : UInt8) : Option Nat := hexValue (.ofNat byte.toNat)

def Signed (pair : BytePair) : Prop := pair.first = 0x2B ∧ digit pair.second ≠ none

/-- The value of two digits; any other pair has none. -/
def value (pair : BytePair) : Option UInt8 := do
  let high ← digit pair.first
  let low ← digit pair.second
  some (.ofNat (high * 16 + low))

end BytePair

def bytePairs : List UInt8 → List BytePair
  | a :: b :: rest => ⟨a, b, rest⟩ :: bytePairs rest
  | _ => []

def digitPairs (bytes : List UInt8) : List UInt8 := (bytePairs bytes).filterMap BytePair.value

def BytePair.read (pair : BytePair) : Option UInt8 :=
  hexPair (.ofNat pair.first.toNat) (.ofNat pair.second.toNat)

theorem hexValue_plus : hexValue '+' = none := by decide

theorem byteChar_toNat (byte : UInt8) : (Char.ofNat byte.toNat).toNat = byte.toNat := by
  have valid : byte.toNat.isValidChar := .inl (Nat.lt_of_lt_of_le byte.toNat_lt (by decide))
  rw [Char.ofNat, dif_pos valid]
  rfl

theorem plus_byte_iff (byte : UInt8) : Char.ofNat byte.toNat = '+' ↔ byte = 0x2B := by
  constructor
  · intro plus
    apply UInt8.toNat.inj
    rw [← byteChar_toNat, plus]
    rfl
  · rintro rfl
    rfl

theorem read_eq_value_iff (pair : BytePair) : pair.read = pair.value ↔ ¬pair.Signed := by
  obtain ⟨a, b, rest⟩ := pair
  unfold BytePair.read BytePair.value BytePair.Signed BytePair.digit hexPair
  dsimp only
  by_cases plus : Char.ofNat a.toNat = '+'
  · rw [if_pos plus, plus, hexValue_plus, ← plus_byte_iff, plus]
    cases hexValue (Char.ofNat b.toNat) <;> simp
  · rw [if_neg plus, ← plus_byte_iff]
    simp [plus]

theorem hexBytePairs_whole {bytes : List UInt8} (whole : ∀ pair ∈ bytePairs bytes, pair.Whole) :
    hexBytePairs bytes = some ((bytePairs bytes).filterMap BytePair.read) := by
  induction bytes using bytePairs.induct with
  | case1 a b rest ih =>
    rw [bytePairs, List.forall_mem_cons] at whole
    have inside : (isContinuation a || rest.head?.any isContinuation) = false := by
      rw [Bool.or_eq_false_iff]
      exact whole.1
    rw [hexBytePairs, inside, if_neg Bool.false_ne_true, ih whole.2, bytePairs, List.filterMap_cons]
    change some ((hexPair (Char.ofNat a.toNat) (Char.ofNat b.toNat)).toList ++ _) = some _
    rw [BytePair.read]
    cases hexPair (Char.ofNat a.toNat) (Char.ofNat b.toNat) <;> rfl
  | case2 bytes short =>
    cases bytes with
    | nil => rfl
    | cons a tail =>
      cases tail with
      | nil => rfl
      | cons b rest => exact (short a b rest rfl).elim

theorem hexBytePairs_cut {bytes : List UInt8} {pair : BytePair} (member : pair ∈ bytePairs bytes)
    (cut : ¬pair.Whole) :
    hexBytePairs bytes = none := by
  induction bytes using bytePairs.induct with
  | case1 a b rest ih =>
    rw [hexBytePairs]
    split
    · rfl
    · next inside =>
      rw [bytePairs] at member
      rcases List.mem_cons.mp member with rfl | later
      · rw [Bool.not_eq_true, Bool.or_eq_false_iff] at inside
        exact absurd inside cut
      · rw [ih later]
        rfl
  | case2 bytes short =>
    cases bytes with
    | nil => cases member
    | cons a tail =>
      cases tail with
      | nil => cases member
      | cons b rest => exact (short a b rest rfl).elim

section filterMap

variable {A B : Type} {f g : A → Option B}

theorem length_filterMap_le (extends_ : ∀ a, g a ≠ none → f a = g a) (l : List A) :
    (l.filterMap g).length ≤ (l.filterMap f).length := by
  induction l with
  | nil => exact Nat.le_refl _
  | cons a l ih =>
    rw [List.filterMap_cons, List.filterMap_cons]
    cases given : g a with
    | none =>
      cases f a with
      | none => exact ih
      | some y => exact Nat.le_succ_of_le ih
    | some x =>
      rw [extends_ a (by simp [given]), given]
      exact Nat.succ_le_succ ih

/-- A function that only adds results adds none if the results are the same. -/
theorem filterMap_eq_iff (extends_ : ∀ a, g a ≠ none → f a = g a) (l : List A) :
    l.filterMap f = l.filterMap g ↔ ∀ a ∈ l, f a = g a := by
  refine ⟨fun same => ?_, List.filterMap_congr⟩
  induction l with
  | nil => exact List.forall_mem_nil _
  | cons a l ih =>
    have shorter := length_filterMap_le extends_ l
    rw [List.filterMap_cons, List.filterMap_cons] at same
    rw [List.forall_mem_cons]
    cases given : g a with
    | none =>
      cases added : f a with
      | none =>
        rw [given, added] at same
        exact ⟨rfl, ih same⟩
      | some y =>
        rw [given, added] at same
        have lengths : (l.filterMap f).length + 1 = (l.filterMap g).length :=
          congrArg List.length same
        omega
    | some x =>
      have kept : f a = some x := (extends_ a (by simp [given])).trans given
      rw [given, kept] at same
      exact ⟨kept, ih (List.cons.inj same).2⟩

end filterMap

theorem read_eq_value {pair : BytePair} (valued : pair.value ≠ none) : pair.read = pair.value := by
  rw [read_eq_value_iff]
  rintro ⟨plus, -⟩
  apply valued
  have none : BytePair.digit pair.first = Option.none := by
    rw [plus]
    decide
  rw [BytePair.value, none]
  rfl

/-- Reading contributes the pairs of digits exactly if no pair cuts a character and none is a signed
digit. -/
theorem hexBytePairs_iff (bytes : List UInt8) : hexBytePairs bytes = some (digitPairs bytes) ↔
    ∀ pair ∈ bytePairs bytes, pair.Whole ∧ ¬pair.Signed := by
  by_cases whole : ∀ pair ∈ bytePairs bytes, pair.Whole
  · rw [hexBytePairs_whole whole, Option.some.injEq, digitPairs,
      filterMap_eq_iff fun pair => read_eq_value]
    constructor
    · intro same pair member
      exact ⟨whole pair member, (read_eq_value_iff pair).mp (same pair member)⟩
    · intro plain pair member
      exact (read_eq_value_iff pair).mpr (plain pair member).2
  · push Not at whole
    obtain ⟨pair, member, cut⟩ := whole
    rw [hexBytePairs_cut member cut]
    apply iff_of_false
    · intro impossible
      cases impossible
    · intro plain
      exact cut (plain pair member).1

inductive Rendering : List UInt8 → List Char → Prop
  | nil : Rendering [] []
  | cons {byte : UInt8} {bytes : List UInt8} {high low : Char} {digits : List Char}
      (upper : hexValue high = some (byte.toNat / 16))
      (lower : hexValue low = some (byte.toNat % 16))
      (rest : Rendering bytes digits) : Rendering (byte :: bytes) (high :: low :: digits)

theorem hexValue_ascii {c : Char} {value : Nat} (digit : hexValue c = some value) :
    c.toNat < 128 ∧ isWhitespace c = false := by
  have small : c.toNat < 128 ∧ 0x30 ≤ c.toNat := by
    unfold hexValue at digit
    simp only [Char.le_def, UInt32.le_iff_toNat_le] at digit
    split at digit
    · next inside =>
      obtain ⟨least, most⟩ := inside
      exact ⟨Nat.lt_of_le_of_lt most (by decide), least⟩
    · split at digit
      · next inside =>
        obtain ⟨least, most⟩ := inside
        exact ⟨Nat.lt_of_le_of_lt most (by decide), Nat.le_trans (by decide) least⟩
      · split at digit
        · next inside =>
          obtain ⟨least, most⟩ := inside
          exact ⟨Nat.lt_of_le_of_lt most (by decide), Nat.le_trans (by decide) least⟩
        · cases digit
  have visible : isWhitespace c = false := by
    unfold isWhitespace
    simp only [Bool.or_eq_false_iff, Bool.and_eq_false_iff, decide_eq_false_iff_not,
      beq_eq_false_iff_ne]
    omega
  exact ⟨small.1, visible⟩

theorem ascii_byte {c : Char} (small : c.toNat < 128) : (UInt8.ofNat c.toNat).toNat = c.toNat := by
  rw [UInt8.toNat_ofNat']
  exact Nat.mod_eq_of_lt (Nat.lt_trans small (by decide))

theorem isContinuation_ascii {c : Char} (small : c.toNat < 128) :
    isContinuation (UInt8.ofNat c.toNat) = false := by
  have below : ¬(0x80 : UInt8) ≤ UInt8.ofNat c.toNat := by
    rw [UInt8.le_iff_toNat_le, ascii_byte small]
    exact Nat.not_le_of_lt small
  rw [isContinuation, decide_eq_false below, Bool.false_and]

theorem ascii_char {c : Char} (small : c.toNat < 128) :
    Char.ofNat (UInt8.ofNat c.toNat).toNat = c := by
  rw [ascii_byte small, Char.ofNat_toNat]

section rendering

variable {bytes : List UInt8} {digits : List Char}

theorem Rendering.digit (rendering : Rendering bytes digits) :
    ∀ c ∈ digits, ∃ value, hexValue c = some value := by
  induction rendering with
  | nil => exact List.forall_mem_nil _
  | cons upper lower rest ih =>
    rw [List.forall_mem_cons, List.forall_mem_cons]
    exact ⟨⟨_, upper⟩, ⟨_, lower⟩, ih⟩

theorem Rendering.value (rendering : Rendering bytes digits) :
    hexBytePairs (digits.map fun c => UInt8.ofNat c.toNat) = some bytes := by
  induction rendering with
  | nil => rfl
  | @cons byte bytes high low digits upper lower rest ih =>
    have highSmall := (hexValue_ascii upper).1
    have lowSmall := (hexValue_ascii lower).1
    have notPlus : high ≠ '+' := by
      rintro rfl
      cases hexValue_plus.symm.trans upper
    have pair : hexPair high low = some byte := by
      rw [hexPair, if_neg notPlus, upper, lower]
      change some (UInt8.ofNat (byte.toNat / 16 * 16 + byte.toNat % 16)) = some byte
      rw [Nat.div_add_mod', UInt8.ofNat_toNat]
    have outside : (isContinuation (UInt8.ofNat high.toNat) ||
        (digits.map fun c => UInt8.ofNat c.toNat).head?.any isContinuation) = false := by
      rw [Bool.or_eq_false_iff]
      refine ⟨isContinuation_ascii highSmall, ?_⟩
      cases rest with
      | nil => rfl
      | cons next _ _ => exact isContinuation_ascii (hexValue_ascii next).1
    rw [List.map_cons, List.map_cons, hexBytePairs, outside, if_neg Bool.false_ne_true, ih,
      ascii_char highSmall, ascii_char lowSmall, pair]
    rfl

theorem hexToBytes_rendering (rendering : Rendering bytes digits) {front back : List Char}
    (ahead : ∀ c ∈ front, isWhitespace c = true) (behind : ∀ c ∈ back, isWhitespace c = true) :
    hexToBytes (.ofList (front ++ digits ++ back)) = some bytes := by
  have plain : ∀ c ∈ digits, isWhitespace c = false := by
    intro c member
    obtain ⟨value, digit⟩ := rendering.digit c member
    exact (hexValue_ascii digit).2
  have ascii : ∀ c ∈ digits, c.toNat < 128 := by
    intro c member
    obtain ⟨value, digit⟩ := rendering.digit c member
    exact (hexValue_ascii digit).1
  rw [hexToBytes, trim_padded ahead plain behind, utf8_ofList_ascii ascii]
  exact rendering.value

end rendering

/-- The parser returns, and contributes the value of every pair of digits and nothing else, exactly
for the texts no pair of which cuts a character or is a plus sign and a digit. Every rendering of
bytes is read as those bytes. -/
theorem hex_to_bytes_iff (hex : String) :
    (hexToBytes hex = some (digitPairs (utf8 (trim hex))) ↔
      ∀ pair ∈ bytePairs (utf8 (trim hex)), pair.Whole ∧ ¬pair.Signed) ∧
    ∀ (bytes : List UInt8) (digits : List Char), Rendering bytes digits →
      ∀ front back : List Char, (∀ c ∈ front, isWhitespace c = true) →
        (∀ c ∈ back, isWhitespace c = true) →
        hex = .ofList (front ++ digits ++ back) → hexToBytes hex = some bytes := by
  constructor
  · exact hexBytePairs_iff _
  · intro bytes digits rendering front back ahead behind spelled
    rw [spelled]
    exact hexToBytes_rendering rendering ahead behind

/-- A letter before an accented one panics; a plus sign and a digit are read as the digit. -/
theorem cut_character_panics :
    hexToBytes "aé" = none ∧ hexToBytes "+5" = some [5] ∧ digitPairs (utf8 (trim "+5")) = [] := by
  decide +kernel

end SkfService
