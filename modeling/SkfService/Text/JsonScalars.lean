import SkfService.Text.JsonReader

/-! Scalars read back from their texts: the string a literal stands for, and the number its digits
make. -/

set_option autoImplicit false

namespace Text

def letterEscapes : List (Char × Char) :=
  [(quote, quote), (backslash, backslash), ('/', '/'), ('b', .ofNat 0x08), ('f', .ofNat 0x0C),
    ('n', '\n'),
    ('r', '\r'), ('t', '\t')]

def hexOf (c : Char) : Nat :=
  if c.isDigit then c.toNat - 48 else if c.toNat < 0x61 then c.toNat - 55 else c.toNat - 87

def isLead (unit : Nat) : Bool := 0xD800 ≤ unit && unit < 0xDC00

def isTrail (unit : Nat) : Bool := 0xDC00 ≤ unit && unit < 0xE000

/-- The character of a code unit: none for a surrogate that does not belong to a pair. -/
def ofUnits : Option Nat → Nat → Option Char
  | none, unit => if isLead unit || isTrail unit then none else some (.ofNat unit)
  | some lead, unit =>
    if isTrail unit then some (.ofNat (0x10000 + (lead - 0xD800) * 0x400 + (unit - 0xDC00)))
    else none

/-- Where a decoder is inside of a literal. Digits of a code unit may come after the lead of a pair. -/
inductive Decoding
  | plain
  | escape
  | digits (more value : Nat) (lead : Option Nat)
  | pair (lead : Nat)
  | pairEscape (lead : Nat)

/-- The characters that the inside of a string literal stands for. -/
def decode : Decoding → List Char → Option (List Char)
  | .plain, [] => some []
  | _, [] => none
  | .plain, c :: cs => if c = backslash then decode .escape cs else (decode .plain cs).map (c :: ·)
  | .escape, c :: cs =>
    if c = 'u' then decode (.digits 3 0 none) cs
    else (letterEscapes.lookup c).bind fun meant => (decode .plain cs).map (meant :: ·)
  | .digits (more + 1) value lead, c :: cs =>
    if isHexDigit c then decode (.digits more (value * 16 + hexOf c) lead) cs else none
  | .digits 0 value lead, c :: cs =>
    if isHexDigit c then
      let unit := value * 16 + hexOf c
      if lead.isNone && isLead unit then decode (.pair unit) cs
      else (ofUnits lead unit).bind fun meant => (decode .plain cs).map (meant :: ·)
    else none
  | .pair lead, c :: cs => if c = backslash then decode (.pairEscape lead) cs else none
  | .pairEscape lead, c :: cs => if c = 'u' then decode (.digits 3 0 (some lead)) cs else none

def asString (raw : List Char) : Option String :=
  if raw.head? = some quote ∧ raw.getLast? = some quote then
    (decode .plain raw.tail.dropLast).map .ofList else none

def asWhole (raw : List Char) : Option Nat :=
  if isWhole raw then some (Nat.ofDigitChars 10 raw 0) else none

section scalars

variable {cs : List Char}

theorem hexOf_hexDigit (n : Nat) : hexOf (hexDigit false n) = n % 16 := by
  have table : ∀ k, k < 16 → hexOf (hexDigit false k) = k := by decide
  have reduced : hexDigit false n = hexDigit false (n % 16) := by
    unfold hexDigit
    rw [Nat.mod_mod]
  rw [reduced]
  exact table _ (Nat.mod_lt _ (by decide))

theorem letterEscapes_shortEscapes : ∀ entry ∈ shortEscapes,
    entry.2 ≠ 'u' ∧ letterEscapes.lookup entry.2 = some (.ofNat entry.1) := by
  decide

theorem decode_escape {c : Char} (letter : c ≠ 'u') :
    decode .plain (backslash :: c :: cs) =
      (letterEscapes.lookup c).bind fun meant => (decode .plain cs).map (meant :: ·) := by
  rw [decode, if_pos rfl, decode, if_neg letter]

/-- A control character is written with its code, which is below the surrogates. -/
theorem decode_control {n : Nat} (low : n < 0x20) :
    decode .plain ([backslash, 'u', '0', '0', hexDigit false (n / 16), hexDigit false n] ++ cs) =
      (decode .plain cs).map (Char.ofNat n :: ·) := by
  have zero : isHexDigit '0' = true ∧ hexOf '0' = 0 := by decide
  have unit : (((0 * 16 + 0) * 16 + 0) * 16 + n / 16 % 16) * 16 + n % 16 = n := by omega
  have unpaired : isLead n = false ∧ isTrail n = false := by
    simp only [isLead, isTrail, Bool.and_eq_false_iff, decide_eq_false_iff_not]
    omega
  simp only [List.cons_append, List.nil_append]
  rw [decode, if_pos rfl, decode, if_pos rfl, decode, if_pos zero.1, decode, if_pos zero.1, decode,
    if_pos (isHexDigit_hexDigit _), decode, if_pos (isHexDigit_hexDigit _), hexOf_hexDigit,
    hexOf_hexDigit, zero.2, unit]
  simp only [unpaired, ofUnits, Option.isNone_none, Bool.and_false, Bool.or_self,
    Bool.false_eq_true, if_false, Option.bind_some]

theorem decode_escapeChar (c : Char) (cs : List Char) :
    decode .plain (escapeChar c ++ cs) = (decode .plain cs).map (c :: ·) := by
  have self : Char.ofNat c.toNat = c := Char.ofNat_toNat c
  unfold escapeChar
  cases short : shortEscapes.lookup c.toNat with
  | some letter =>
    obtain ⟨before, later, table, -⟩ := List.lookup_eq_some_iff.mp short
    obtain ⟨spoken, meant⟩ :=
      letterEscapes_shortEscapes (c.toNat, letter)
        (table ▸ List.mem_append_right _ List.mem_cons_self)
    rw [self] at meant
    dsimp only
    rw [List.cons_append, List.singleton_append, decode_escape spoken, meant, Option.bind_some]
  | none =>
    dsimp only
    split
    · next low => exact (decode_control low).trans (by rw [self])
    · have plain : c ≠ backslash := by
        rintro rfl
        cases short
      rw [List.singleton_append, decode, if_neg plain]

/-- A written string is decoded to itself. -/
theorem decode_written (s : List Char) : decode .plain (s.flatMap escapeChar) = some s := by
  induction s with
  | nil => rfl
  | cons c s ih => rw [List.flatMap_cons, decode_escapeChar, ih, Option.map_some]

theorem asString_stringLiteral (s : String) : asString (stringLiteral s) = some s := by
  have last : (stringLiteral s).getLast? = some quote := List.getLast?_concat
  have inside : (stringLiteral s).tail.dropLast = s.toList.flatMap escapeChar :=
    List.dropLast_concat
  rw [asString, if_pos ⟨rfl, last⟩, inside, decode_written, Option.map_some, String.ofList_toList]

theorem asWhole_decimal (n : Nat) : asWhole (decimal n).toList = some n := by
  rw [asWhole, decimal, String.toList_ofList, if_pos (toDigits_isWhole n),
    Nat.ofDigitChars_ten_toDigits]

end scalars

example :
    asString "\"\\ud83d\\ude00\\u0041\\n\"".toList = some "😀A\n" ∧
      asString "\"\\ud83d\"".toList = none := by decide

end Text
