import Mathlib.Data.List.TakeWhile
import SkfService.Text.JsonText

/-! Reading JSON texts: which texts are one object, and the members it has as they are written. -/

set_option autoImplicit false

namespace Text

def isJsonSpace (c : Char) : Bool := c = ' ' || c = '\t' || c = '\n' || c = '\r'

def skipSpace (cs : List Char) : List Char := cs.dropWhile isJsonSpace

def isHexDigit (c : Char) : Bool := c.isDigit || 'a' ≤ c && c ≤ 'f' || 'A' ≤ c && c ≤ 'F'

inductive Within
  | plain
  | escape
  | hex (more : Nat)

/-- The inside of a string literal, as it is written, and what follows the closing quote. -/
def readContent : Within → List Char → Option (List Char × List Char)
  | _, [] => none
  | .plain, c :: cs =>
    if c = quote then some ([], cs)
    else if Printable c then
      (readContent (if c = backslash then .escape else .plain) cs).map fun found =>
        (c :: found.1, found.2)
    else none
  | .escape, c :: cs =>
    if c = 'u' then (readContent (.hex 3) cs).map fun found => (c :: found.1, found.2)
    else if c = quote || c = backslash || ['/', 'b', 'f', 'n', 'r', 't'].contains c then
      (readContent .plain cs).map fun found => (c :: found.1, found.2)
    else none
  | .hex 0, c :: cs =>
    if isHexDigit c then (readContent .plain cs).map fun found => (c :: found.1, found.2) else none
  | .hex (more + 1), c :: cs =>
    if isHexDigit c then (readContent (.hex more) cs).map fun found =>
      (c :: found.1, found.2) else none

def skipDigits (cs : List Char) : Option (List Char) :=
  if cs.takeWhile Char.isDigit = [] then none else some (cs.dropWhile Char.isDigit)

def skipWhole (cs : List Char) : Option (List Char) :=
  if isWhole (cs.takeWhile Char.isDigit) then some (cs.dropWhile Char.isDigit) else none

def skipFraction (cs : List Char) : Option (List Char) :=
  if cs.head? = some '.' then skipDigits cs.tail else some cs

def skipSign (cs : List Char) : List Char :=
  if cs.head? = some '+' || cs.head? = some '-' then cs.tail else cs

def skipExponent (cs : List Char) : Option (List Char) :=
  if cs.head? = some 'e' || cs.head? = some 'E' then skipDigits (skipSign cs.tail) else some cs

def skipNumber (cs : List Char) : Option (List Char) := do
  let fraction ← skipWhole (if cs.head? = some '-' then cs.tail else cs)
  let exponent ← skipFraction fraction
  skipExponent exponent

def skipScalar (cs : List Char) : Option (List Char) :=
  match ["null", "true", "false"].find? fun word => word.toList.isPrefixOf cs with
  | some word => some (cs.drop word.length)
  | none => skipNumber cs

def readKey (cs : List Char) : Option (List Char × List Char) :=
  match skipSpace cs with
  | [] => none
  | c :: inside =>
    if c = quote then
      (readContent .plain inside).bind fun found =>
        match skipSpace found.2 with
        | ':' :: rest => some (found.1, rest)
        | _ => none
    else none

inductive Part
  | value
  | items
  | members

/-- What follows a value, the items of an array or the members of an object. -/
def skip : Nat → Part → List Char → Option (List Char)
  | 0, _, _ => none
  | fuel + 1, .value, cs =>
    match skipSpace cs with
    | [] => none
    | c :: inside =>
      if c = quote then (readContent .plain inside).map Prod.snd
      else if c = '[' then
        match skipSpace inside with
        | ']' :: rest => some rest
        | _ => skip fuel .items inside
      else if c = '{' then
        match skipSpace inside with
        | '}' :: rest => some rest
        | _ => skip fuel .members inside
      else skipScalar (c :: inside)
  -- The empty list is read above: here a value is expected, also behind a comma.
  | fuel + 1, .items, cs =>
    (skip fuel .value cs).bind fun after =>
      match skipSpace after with
      | ',' :: more => skip fuel .items more
      | ']' :: rest => some rest
      | _ => none
  | fuel + 1, .members, cs =>
    (readKey cs).bind fun found => (skip fuel .value found.2).bind fun after =>
      match skipSpace after with
      | ',' :: more => skip fuel .members more
      | '}' :: rest => some rest
      | _ => none

abbrev Field := List Char × List Char

def upTo (cs after : List Char) : List Char := cs.take (cs.length - after.length)

mutual

/-- The members up to the end of an object that nothing follows. -/
def readFields : Nat → List Char → Option (List Field)
  | 0, _ => none
  | fuel + 1, cs =>
    (readKey cs).bind fun found => (skip fuel .value found.2).bind fun after =>
      (readRest fuel after).map fun fields => (found.1, upTo (skipSpace found.2) after) :: fields

/-- What follows a member: more members, or the end of the object. -/
def readRest : Nat → List Char → Option (List Field)
  | 0, _ => none
  | fuel + 1, cs =>
    match skipSpace cs with
    | ',' :: more => readFields fuel more
    | '}' :: rest => if skipSpace rest = [] then some [] else none
    | _ => none

end

/-- The members of a text that is one object. -/
def readWith (fuel : Nat) (text : String) : Option (List Field) :=
  match skipSpace text.toList with
  | '{' :: inside =>
    match skipSpace inside with
    | '}' :: rest => if skipSpace rest = [] then some [] else none
    | _ => readFields fuel inside
  | _ => none

def Reads (text : String) (fields : List Field) : Prop := ∃ fuel, readWith fuel text = some fields

section numbers

variable {cs tail : List Char}

def Closed (tail : List Char) : Prop :=
  ∀ c ∈ tail.head?, c.isDigit = false ∧ c ∉ ['.', 'e', 'E', '+', '-']

theorem Closed.head_ne (closed : Closed tail) {c : Char} (inside : c ∈ ['.', 'e', 'E', '+', '-']) :
    tail.head? ≠ some c := by
  intro head
  exact (closed c head).2 inside

theorem head?_append_ne (closed : Closed tail) {c : Char} (inside : c ∈ ['.', 'e', 'E', '+', '-'])
    (cs : List Char) :
    (cs ++ tail).head? = some c ↔ cs.head? = some c := by
  cases cs with
  | nil => simpa using closed.head_ne inside
  | cons first rest => rfl

theorem tail_append {c : Char} (head : cs.head? = some c) :
    (cs ++ tail).tail = cs.tail ++ tail := by
  cases cs with
  | nil => cases head
  | cons first rest => rfl

theorem takeWhile_closed (closed : Closed tail) :
    (cs ++ tail).takeWhile Char.isDigit = cs.takeWhile Char.isDigit := by
  induction cs with
  | nil =>
    cases tail with
    | nil => rfl
    | cons c rest => exact List.takeWhile_cons_of_neg (by simp [(closed c rfl).1])
  | cons c cs ih =>
    rw [List.cons_append, List.takeWhile_cons, List.takeWhile_cons, ih]

theorem dropWhile_closed (closed : Closed tail) :
    (cs ++ tail).dropWhile Char.isDigit = cs.dropWhile Char.isDigit ++ tail := by
  induction cs with
  | nil =>
    cases tail with
    | nil => rfl
    | cons c rest => exact List.dropWhile_cons_of_neg (by simp [(closed c rfl).1])
  | cons c cs ih =>
    rw [List.cons_append, List.dropWhile_cons, List.dropWhile_cons, ih]
    split <;> rfl

theorem skipDigits_append (closed : Closed tail) :
    skipDigits (cs ++ tail) = (skipDigits cs).map (· ++ tail) := by
  rw [skipDigits, skipDigits, takeWhile_closed closed, dropWhile_closed closed]
  split <;> rfl

theorem skipWhole_append (closed : Closed tail) :
    skipWhole (cs ++ tail) = (skipWhole cs).map (· ++ tail) := by
  rw [skipWhole, skipWhole, takeWhile_closed closed, dropWhile_closed closed]
  split <;> rfl

theorem skipFraction_append (closed : Closed tail) :
    skipFraction (cs ++ tail) = (skipFraction cs).map (· ++ tail) := by
  simp only [skipFraction, head?_append_ne closed (show '.' ∈ _ by simp)]
  split
  · next dot => rw [tail_append dot, skipDigits_append closed]
  · rfl

theorem skipSign_append (closed : Closed tail) : skipSign (cs ++ tail) = skipSign cs ++ tail := by
  simp only [skipSign, Bool.or_eq_true, decide_eq_true_eq,
    head?_append_ne closed (show '+' ∈ _ by simp), head?_append_ne closed (show '-' ∈ _ by simp)]
  split
  · next sign => rcases sign with sign | sign <;> exact tail_append sign
  · rfl

theorem skipExponent_append (closed : Closed tail) :
    skipExponent (cs ++ tail) = (skipExponent cs).map (· ++ tail) := by
  simp only [skipExponent, Bool.or_eq_true, decide_eq_true_eq,
    head?_append_ne closed (show 'e' ∈ _ by simp), head?_append_ne closed (show 'E' ∈ _ by simp)]
  split
  · next marker =>
    have behind : (cs ++ tail).tail = cs.tail ++ tail := by
      rcases marker with marker | marker <;> exact tail_append marker
    rw [behind, skipSign_append closed, skipDigits_append closed]
  · rfl

theorem skipNumber_append (closed : Closed tail) :
    skipNumber (cs ++ tail) = (skipNumber cs).map (· ++ tail) := by
  have unsigned : (if (cs ++ tail).head? = some '-' then (cs ++ tail).tail else cs ++ tail) =
      (if cs.head? = some '-' then cs.tail else cs) ++ tail := by
    simp only [head?_append_ne closed (show '-' ∈ _ by simp)]
    split
    · next minus => exact tail_append minus
    · rfl
  rw [skipNumber, skipNumber, unsigned, skipWhole_append closed]
  generalize (if cs.head? = some '-' then cs.tail else cs) = body
  cases skipWhole body with
  | none => rfl
  | some fraction =>
    change (skipFraction (fraction ++ tail)).bind skipExponent =
      ((skipFraction fraction).bind skipExponent).map _
    rw [skipFraction_append closed]
    cases skipFraction fraction with
    | none => rfl
    | some exponent => exact skipExponent_append closed

theorem toDigits_isDigit (n : Nat) : ∀ c ∈ Nat.toDigits 10 n, c.isDigit = true :=
  fun _ member => Nat.isDigit_of_mem_toDigits (by decide) (by decide) member

theorem toDigits_head {n : Nat} (positive : 0 < n) :
    ∃ c rest, Nat.toDigits 10 n = c :: rest ∧ '1' ≤ c ∧ c ≤ '9' := by
  induction n using Nat.strongRecOn with
  | ind n ih =>
    rcases Nat.lt_or_ge n 10 with small | large
    · have table : ∀ d, d < 10 → 0 < d → '1' ≤ d.digitChar ∧ d.digitChar ≤ '9' := by decide
      exact ⟨_, [], Nat.toDigits_of_lt_base small, table n small positive⟩
    · obtain ⟨c, rest, front, range⟩ := ih (n / 10) (by omega) (by omega)
      refine ⟨c, rest ++ [(n % 10).digitChar], ?_, range⟩
      rw [Nat.toDigits_of_base_le (by decide) large, front, List.cons_append]

theorem toDigits_isWhole (n : Nat) : isWhole (Nat.toDigits 10 n) = true := by
  rcases Nat.eq_zero_or_pos n with rfl | positive
  · rw [Nat.toDigits_zero]
    rfl
  · obtain ⟨c, rest, digits, low, high⟩ := toDigits_head positive
    have all := toDigits_isDigit n
    rw [digits] at all ⊢
    have later : rest.all Char.isDigit = true :=
      List.all_eq_true.mpr fun d member => all d (List.mem_cons_of_mem _ member)
    unfold isWhole
    split
    · next none => cases none
    · rfl
    · next same =>
      cases same
      simp [low, high, later]

theorem skipNumber_unsigned (plain : cs.head? ≠ some '-') :
    skipNumber cs = (skipWhole cs).bind fun fraction =>
      (skipFraction fraction).bind skipExponent := by
  rw [skipNumber, if_neg plain]
  rfl

theorem skipNumber_minus (cs : List Char) :
    skipNumber ('-' :: cs) = (skipWhole cs).bind fun fraction =>
      (skipFraction fraction).bind skipExponent := rfl

theorem skipWhole_decimal (n : Nat) : skipWhole (decimal n).toList = some [] := by
  have digits := toDigits_isDigit n
  rw [decimal, String.toList_ofList, skipWhole, List.takeWhile_eq_self_iff.mpr digits,
    if_pos (toDigits_isWhole n), List.dropWhile_eq_nil_iff.mpr digits]

theorem decimal_head (n : Nat) : (decimal n).toList.head? ≠ some '-' := by
  intro head
  rw [decimal, String.toList_ofList] at head
  have minus := toDigits_isDigit n '-' (List.mem_of_head? head)
  cases minus

theorem skipDigits_of_isDigits (digits : isDigits cs = true) : skipDigits cs = some [] := by
  rw [isDigits, Bool.and_eq_true, List.all_eq_true] at digits
  rw [skipDigits, List.takeWhile_eq_self_iff.mpr digits.2, if_neg ?_,
    List.dropWhile_eq_nil_iff.mpr digits.2]
  rintro rfl
  cases digits.1

theorem skipExponent_of_isExponent (exponent : isExponent cs = true) :
    skipExponent cs = some [] := by
  unfold isExponent at exponent
  split at exponent
  · exact skipDigits_of_isDigits exponent
  · exact skipDigits_of_isDigits exponent
  · next rest notMinus notPlus =>
    have unsigned : skipSign rest = rest := by
      apply if_neg
      rw [isDigits, Bool.and_eq_true, List.all_eq_true] at exponent
      simp only [Bool.or_eq_true, decide_eq_true_eq]
      rintro (plus | minus)
      · cases exponent.2 '+' (List.mem_of_head? plus)
      · cases exponent.2 '-' (List.mem_of_head? minus)
    change skipDigits (skipSign rest) = some []
    rw [unsigned]
    exact skipDigits_of_isDigits exponent
  · cases exponent

theorem isExponent_head (exponent : isExponent cs = true) : cs.head? = some 'e' := by
  unfold isExponent at exponent
  split at exponent
  · rfl
  · rfl
  · rfl
  · cases exponent

theorem skipNumber_float (literal : FloatLiteral) : skipNumber literal.chars = some [] := by
  obtain ⟨cs, formed⟩ := literal
  simp only [isFloat, beq_iff_eq, Bool.and_eq_true] at formed
  rw [skipNumber]
  generalize (if cs.head? = some '-' then cs.tail else cs) = body at formed ⊢
  obtain ⟨whole, behind⟩ := formed
  rw [skipWhole, if_pos whole]
  generalize body.dropWhile Char.isDigit = rest at behind
  change (skipFraction rest).bind skipExponent = some []
  -- A literal goes on with a fraction, or else with an exponent at once.
  split at behind
  · next fraction =>
    obtain ⟨digits, last⟩ := Bool.and_eq_true_iff.mp behind
    have some : fraction.takeWhile Char.isDigit ≠ [] := by
      intro none
      rw [none] at digits
      cases digits
    have skipped : skipFraction ('.' :: fraction) = .some (fraction.dropWhile Char.isDigit) :=
      if_neg some
    rw [skipped, Option.bind_some]
    rcases Bool.or_eq_true_iff.mp last with none | exponent
    · rw [beq_iff_eq.mp none]
      rfl
    · exact skipExponent_of_isExponent exponent
  · have undotted : skipFraction rest = some rest := by
      apply if_neg
      rw [isExponent_head behind]
      decide
    rw [undotted, Option.bind_some]
    exact skipExponent_of_isExponent behind

theorem skipNumber_chars (value : Number) (closed : Closed tail) :
    skipNumber (value.chars ++ tail) = some tail := by
  have whole : skipNumber value.chars = some [] := by
    cases value with
    | unsigned value =>
      rw [Number.chars, skipNumber_unsigned (decimal_head _), skipWhole_decimal]
      rfl
    | negative magnitude =>
      rw [Number.chars, skipNumber_minus, skipWhole_decimal]
      rfl
    | float literal => exact skipNumber_float literal
  rw [skipNumber_append closed, whole]
  rfl

end numbers

section strings

variable {cs tail : List Char}

theorem isHexDigit_hexDigit (n : Nat) : isHexDigit (hexDigit false n) = true := by
  have table : ∀ k, k < 16 → isHexDigit (hexDigit false k) = true := by decide
  have reduced : hexDigit false n = hexDigit false (n % 16) := by
    unfold hexDigit
    rw [Nat.mod_mod]
  rw [reduced]
  exact table _ (Nat.mod_lt _ (by decide))

theorem readContent_plain {c : Char} (unquoted : c ≠ quote) (printable : Printable c)
    (unescaped : c ≠ backslash) :
    readContent .plain (c :: cs) = (readContent .plain cs).map fun found =>
      (c :: found.1, found.2) := by
  rw [readContent, if_neg unquoted, if_pos printable, if_neg unescaped]

theorem readContent_backslash :
    readContent .plain (backslash :: cs) = (readContent .escape cs).map fun found =>
      (backslash :: found.1, found.2) := by
  rw [readContent, if_neg (by decide), if_pos (by decide), if_pos rfl]

theorem readContent_escapeChar (c : Char) (cs : List Char) :
    readContent .plain (escapeChar c ++ cs) =
      (readContent .plain cs).map fun found => (escapeChar c ++ found.1, found.2) := by
  unfold escapeChar
  cases short : shortEscapes.lookup c.toNat with
  | some letter =>
    -- Each of the table's letters is one that the reader takes after a backslash.
    obtain ⟨before, later, table, -⟩ := List.lookup_eq_some_iff.mp short
    have member : (c.toNat, letter) ∈ shortEscapes :=
      table ▸ List.mem_append_right _ List.mem_cons_self
    have escaped : readContent .escape (letter :: cs) = (readContent .plain cs).map fun found =>
        (letter :: found.1, found.2) := by
      simp only [shortEscapes, List.mem_cons, Prod.mk.injEq, List.not_mem_nil, or_false] at member
      rcases member with ⟨-, rfl⟩ | ⟨-, rfl⟩ | ⟨-, rfl⟩ | ⟨-, rfl⟩ | ⟨-, rfl⟩ | ⟨-, rfl⟩ |
        ⟨-, rfl⟩ <;> rfl
    rw [List.cons_append, readContent_backslash, List.cons_append, List.nil_append, escaped]
    cases readContent .plain cs <;> rfl
  | none =>
    dsimp only
    split
    · -- Four hex digits follow the letter.
      have digits (a b : Char) (first : isHexDigit a = true) (second : isHexDigit b = true) :
          readContent .escape ('u' :: '0' :: '0' :: a :: b :: cs) =
            (readContent .plain cs).map fun found =>
              ('u' :: '0' :: '0' :: a :: b :: found.1, found.2) := by
        have last : readContent (.hex 0) (b :: cs) = _ := if_pos second
        have third : readContent (.hex 1) (a :: b :: cs) = _ := if_pos first
        change ((((readContent (.hex 1) (a :: b :: cs)).map _).map _).map _) = _
        rw [third, last]
        cases readContent .plain cs <;> rfl
      have escaped := digits _ _ (isHexDigit_hexDigit (c.toNat / 16)) (isHexDigit_hexDigit c.toNat)
      simp only [List.cons_append, List.nil_append]
      rw [readContent_backslash, escaped]
      cases readContent .plain cs <;> rfl
    · next printable =>
      -- Quote and backslash stand in the table, so a character that is not there is neither.
      have missing (n : Nat) (letter : Char) (entry : (n, letter) ∈ shortEscapes) :
          c.toNat ≠ n := by
        intro same
        have absent := List.lookup_eq_none_iff.mp short (n, letter) entry
        rw [same] at absent
        exact absurd absent (by simp)
      have unquoted : c ≠ quote :=
        fun same => missing 0x22 quote (by decide) (congrArg Char.toNat same)
      have unescaped : c ≠ backslash :=
        fun same => missing 0x5C backslash (by decide) (congrArg Char.toNat same)
      exact readContent_plain unquoted (Nat.le_of_not_lt printable) unescaped

theorem readContent_written (s cs : List Char) : readContent .plain (s.flatMap escapeChar ++ cs) =
    (readContent .plain cs).map fun found => (s.flatMap escapeChar ++ found.1, found.2) := by
  induction s with
  | nil => simp
  | cons c s ih =>
    rw [List.flatMap_cons, List.append_assoc, readContent_escapeChar, ih]
    cases readContent .plain cs with
    | none => rfl
    | some found => simp

theorem readContent_literal (s : List Char) :
    readContent .plain (s.flatMap escapeChar ++ quote :: tail) =
      some (s.flatMap escapeChar, tail) := by
  have ended : readContent .plain (quote :: tail) = some ([], tail) := if_pos rfl
  rw [readContent_written, ended, Option.map_some, List.append_nil]

theorem readContent_cons {state : Within} {c : Char} {content rest : List Char}
    (found : readContent state (c :: cs) = some (content, rest)) :
    (state = .plain ∧ c = quote ∧ content = [] ∧ rest = cs) ∨
      ∃ next front, content = c :: front ∧ readContent next cs = some (front, rest) ∧ ∀ other,
        readContent state (c :: other) = (readContent next other).map fun found =>
          (c :: found.1, found.2) := by
  have goes (next : Within) (same : ∀ other, readContent state (c :: other) =
      (readContent next other).map fun found => (c :: found.1, found.2)) :
      ∃ next front, content = c :: front ∧ readContent next cs = some (front, rest) ∧ ∀ other,
        readContent state (c :: other) = (readContent next other).map fun found =>
          (c :: found.1, found.2) := by
    rw [same] at found
    obtain ⟨⟨front, after⟩, inner, spelled⟩ := Option.map_eq_some_iff.mp found
    cases spelled
    exact ⟨next, front, rfl, inner, same⟩
  -- Apart from the closing quote every character is kept, and what comes next depends on it alone.
  cases state with
  | plain =>
    by_cases closing : c = quote
    · rw [readContent, if_pos closing] at found
      cases found
      exact .inl ⟨rfl, closing, rfl, rfl⟩
    · by_cases printable : Printable c
      · exact .inr (goes _ fun other => by rw [readContent, if_neg closing, if_pos printable])
      · rw [readContent, if_neg closing, if_neg printable] at found
        cases found
  | escape =>
    by_cases unicode : c = 'u'
    · exact .inr (goes _ fun other => by rw [readContent, if_pos unicode])
    · by_cases letter : c = quote || c = backslash || ['/', 'b', 'f', 'n', 'r', 't'].contains c
      · exact .inr (goes _ fun other => by rw [readContent, if_neg unicode, if_pos letter])
      · rw [readContent, if_neg unicode, if_neg letter] at found
        cases found
  | hex more =>
    by_cases digit : isHexDigit c
    · cases more with
      | zero => exact .inr (goes _ fun other => by rw [readContent, if_pos digit])
      | succ more => exact .inr (goes _ fun other => by rw [readContent, if_pos digit])
    · cases more with
      | zero =>
        rw [readContent, if_neg digit] at found
        cases found
      | succ more =>
        rw [readContent, if_neg digit] at found
        cases found

/-- What was read of a literal stands in front of its closing quote, and is read the same whatever
follows. -/
theorem readContent_spells {state : Within} {content rest : List Char}
    (found : readContent state cs = some (content, rest)) :
    cs = content ++ quote :: rest ∧ ∀ tail,
      readContent state (content ++ quote :: tail) = some (content, tail) := by
  induction cs generalizing state content with
  | nil => cases state <;> cases found
  | cons c cs ih =>
    rcases readContent_cons found with ⟨rfl, rfl, rfl, rfl⟩ | ⟨next, front, rfl, inner, goes⟩
    · exact ⟨rfl, fun tail => rfl⟩
    · obtain ⟨spelled, any⟩ := ih inner
      refine ⟨congrArg (c :: ·) spelled, fun tail => ?_⟩
      rw [List.cons_append, goes, any]
      rfl

end strings

section values

variable {cs tail : List Char}

theorem skipSpace_cons {c : Char} (solid : isJsonSpace c = false) : skipSpace (c :: cs) = c :: cs :=
  List.dropWhile_cons_of_neg (by simp [solid])

theorem chars_head (value : Number) :
    ∃ c rest, value.chars = c :: rest ∧ (c.isDigit = true ∨ c = '-') := by
  cases value with
  | unsigned value =>
    have digits := toDigits_isDigit value.toNat
    rw [Number.chars, decimal, String.toList_ofList]
    cases spelled : Nat.toDigits 10 value.toNat with
    | nil => exact absurd spelled Nat.toDigits_ne_nil
    | cons c rest => exact ⟨c, rest, rfl, .inl (digits c (spelled ▸ List.mem_cons_self))⟩
  | negative magnitude => exact ⟨'-', _, rfl, .inr rfl⟩
  | float literal =>
    obtain ⟨cs, formed⟩ := literal
    cases cs with
    | nil => cases formed
    | cons c cs =>
      refine ⟨c, cs, rfl, ?_⟩
      by_cases minus : c = '-'
      · exact .inr minus
      · left
        simp only [isFloat, List.head?_cons, beq_iff_eq, Option.some.injEq, minus, if_false,
          Bool.and_eq_true] at formed
        by_contra plain
        rw [List.takeWhile_cons_of_neg plain] at formed
        cases formed.1

theorem number_head {c : Char} (head : c.isDigit = true ∨ c = '-') {other : Char}
    (apart : other.isDigit = false) (unsigned : other ≠ '-') : c ≠ other := by
  rintro rfl
  rcases head with digit | minus
  · rw [apart] at digit
    cases digit
  · exact unsigned minus

theorem skipScalar_number (value : Number) (closed : Closed tail) :
    skipScalar (value.chars ++ tail) = some tail := by
  obtain ⟨c, rest, spelled, head⟩ := chars_head value
  have skipped := skipNumber_chars value closed
  have apart : ('n' == c) = false ∧ ('t' == c) = false ∧ ('f' == c) = false := by
    refine ⟨beq_false_of_ne ?_, beq_false_of_ne ?_, beq_false_of_ne ?_⟩
    all_goals exact Ne.symm (number_head head (by decide) (by decide))
  have wordless : ["null", "true", "false"].find?
      (fun word => word.toList.isPrefixOf (value.chars ++ tail)) = none := by
    rw [spelled]
    have null : "null".toList.isPrefixOf (c :: rest ++ tail) = false := by
      change ('n' == c && _) = false
      rw [apart.1, Bool.false_and]
    have true_ : "true".toList.isPrefixOf (c :: rest ++ tail) = false := by
      change ('t' == c && _) = false
      rw [apart.2.1, Bool.false_and]
    have false_ : "false".toList.isPrefixOf (c :: rest ++ tail) = false := by
      change ('f' == c && _) = false
      rw [apart.2.2, Bool.false_and]
    simp only [List.find?_cons, null, true_, false_, List.find?_nil]
  rw [skipScalar, wordless]
  exact skipped

theorem closed_cons {c : Char} (mark : c ∈ [',', ']', '}']) : Closed (c :: cs) := by
  intro d head
  cases head
  simp only [List.mem_cons, List.not_mem_nil, or_false] at mark
  rcases mark with rfl | rfl | rfl <;> decide

theorem value_head (value : Json) :
    ∃ c rest, value.chars = c :: rest ∧ isJsonSpace c = false ∧ c ≠ ']' ∧ c ≠ '}' := by
  cases value with
  | null => exact ⟨'n', _, rfl, by decide⟩
  | bool value => cases value <;> exact ⟨_, _, rfl, by decide⟩
  | number value =>
    obtain ⟨c, rest, spelled, head⟩ := chars_head value
    refine ⟨c, rest, spelled, ?_, number_head head (by decide) (by decide),
      number_head head (by decide) (by decide)⟩
    have spaceless : ∀ space ∈ [' ', '\t', '\n', '\r'], c ≠ space := by
      simp only [List.forall_mem_cons, List.not_mem_nil, false_implies, implies_true, and_true]
      refine ⟨?_, ?_, ?_, ?_⟩
      all_goals exact number_head head (by decide) (by decide)
    simp only [List.forall_mem_cons] at spaceless
    simp [isJsonSpace, spaceless]
  | string value => exact ⟨quote, _, rfl, by decide⟩
  | array items => exact ⟨'[', _, rfl, by decide⟩
  | object members => exact ⟨'{', _, rfl, by decide⟩

theorem itemChars_cons (item : Json) (items : List Json) :
    Json.itemChars true (item :: items) = item.chars ++ Json.itemChars false items := rfl

theorem itemChars_later (item : Json) (items : List Json) :
    Json.itemChars false (item :: items) = ',' :: Json.itemChars true (item :: items) := rfl

theorem memberChars_cons (member : String × Json) (members : List (String × Json)) :
    Json.memberChars true (member :: members) =
      stringLiteral member.1 ++ ':' :: member.2.chars ++ Json.memberChars false members := rfl

theorem memberChars_later (member : String × Json) (members : List (String × Json)) :
    Json.memberChars false (member :: members) = ',' :: Json.memberChars true (member :: members) :=
  rfl

theorem readKey_spelled (key : String) (tail : List Char) :
    readKey (stringLiteral key ++ ':' :: tail) = some (key.toList.flatMap escapeChar, tail) := by
  have spelled : stringLiteral key ++ ':' :: tail =
      quote :: (key.toList.flatMap escapeChar ++ quote :: ':' :: tail) := by
    simp [stringLiteral]
  rw [readKey, spelled, skipSpace_cons (by decide)]
  dsimp only
  rw [if_pos rfl, readContent_literal, Option.bind_some]
  rfl

/-- A written value is skipped, and so are the items of an array and the members of an object,
whatever follows. -/
def SkipsValues (fuel : Nat) : Prop :=
  ∀ (value : Json) (tail : List Char), 2 * value.chars.length < fuel →
  Closed tail → skip fuel .value (value.chars ++ tail) = some tail

def SkipsItems (fuel : Nat) : Prop := ∀ (items : List Json) (tail : List Char), items ≠ [] →
  2 * (Json.itemChars true items).length + 1 < fuel →
    skip fuel .items (Json.itemChars true items ++ ']' :: tail) = some tail

def SkipsMembers (fuel : Nat) : Prop :=
  ∀ (members : List (String × Json)) (tail : List Char), members ≠ [] →
  2 * (Json.memberChars true members).length + 1 < fuel →
    skip fuel .members (Json.memberChars true members ++ '}' :: tail) = some tail

variable {fuel : Nat}

theorem skip_number (value : Number) (closed : Closed tail) :
    skip (fuel + 1) .value (value.chars ++ tail) = some tail := by
  obtain ⟨c, rest, spelled, solid, -⟩ := value_head (.number value)
  obtain ⟨d, others, again, head⟩ := chars_head value
  have skipped := skipScalar_number value closed
  have same : value.chars = c :: rest := spelled
  rw [same] at again skipped ⊢
  cases again
  rw [skip, List.cons_append, skipSpace_cons solid]
  dsimp only
  rw [if_neg (number_head head (by decide) (by decide)),
    if_neg (number_head head (by decide) (by decide)),
    if_neg (number_head head (by decide) (by decide))]
  exact skipped

theorem skip_array (items : SkipsItems fuel) (item : Json) (later : List Json)
    (enough : 2 * (Json.array (item :: later)).chars.length < fuel + 1) :
    skip (fuel + 1) .value ((Json.array (item :: later)).chars ++ tail) = some tail := by
  obtain ⟨c, rest, spelled, solid, unclosed, -⟩ := value_head item
  have inside : (Json.array (item :: later)).chars =
      '[' :: (Json.itemChars true (item :: later) ++ [']']) := rfl
  have skipped := items (item :: later) tail (List.cons_ne_nil _ _) (by
    rw [inside, List.length_cons, List.length_append, List.length_singleton] at enough
    omega)
  rw [inside, List.cons_append, List.append_assoc, List.singleton_append]
  rw [skip, skipSpace_cons (by decide)]
  dsimp only
  rw [if_neg (by decide), if_pos rfl]
  split
  -- An item does not start with the bracket that would end an empty array.
  · next ended =>
    rw [itemChars_cons, spelled, List.cons_append, List.cons_append, skipSpace_cons solid] at ended
    cases ended
    exact absurd rfl unclosed
  · exact skipped

theorem skip_object (members : SkipsMembers fuel) (member : String × Json)
    (later : List (String × Json))
    (enough : 2 * (Json.object (member :: later)).chars.length < fuel + 1) :
    skip (fuel + 1) .value ((Json.object (member :: later)).chars ++ tail) = some tail := by
  have inside : (Json.object (member :: later)).chars =
      '{' :: (Json.memberChars true (member :: later) ++ ['}']) := rfl
  have skipped := members (member :: later) tail (List.cons_ne_nil _ _) (by
    rw [inside, List.length_cons, List.length_append, List.length_singleton] at enough
    omega)
  rw [inside, List.cons_append, List.append_assoc, List.singleton_append]
  rw [skip, skipSpace_cons (by decide)]
  dsimp only
  rw [if_neg (by decide), if_neg (by decide), if_pos rfl]
  exact skipped

theorem skipsValues_succ (items : SkipsItems fuel) (members : SkipsMembers fuel) :
    SkipsValues (fuel + 1) := by
  intro value tail enough closed
  cases value with
  | null => rfl
  | bool value => cases value <;> rfl
  | number value => exact skip_number value closed
  | string value =>
    have spelled : (Json.string value).chars ++ tail =
        quote :: (value.toList.flatMap escapeChar ++ quote :: tail) := by
      simp [Json.chars, stringLiteral]
    rw [spelled, skip, skipSpace_cons (by decide)]
    dsimp only
    rw [if_pos rfl, readContent_literal, Option.map_some]
  | array values =>
    cases values with
    | nil => rfl
    | cons item later => exact skip_array items item later enough
  | object fields =>
    cases fields with
    | nil => rfl
    | cons member later => exact skip_object members member later enough

theorem skipsItems_succ (values : SkipsValues fuel) (items : SkipsItems fuel) :
    SkipsItems (fuel + 1) := by
  intro listed tail some enough
  cases listed with
  | nil => exact absurd rfl some
  | cons item later =>
    rw [itemChars_cons, List.length_append] at enough
    rw [itemChars_cons, List.append_assoc, skip]
    cases later with
    | nil =>
      have skipped := values item (']' :: tail) (by omega) (closed_cons (by simp))
      have ended : Json.itemChars false [] ++ ']' :: tail = ']' :: tail := rfl
      rw [ended, skipped]
      rfl
    | cons next others =>
      rw [itemChars_later, List.length_cons] at enough
      rw [itemChars_later, List.cons_append]
      have skipped :=
        values item (',' :: (Json.itemChars true (next :: others) ++ ']' :: tail)) (by omega)
        (closed_cons (by simp))
      rw [skipped]
      exact items (next :: others) tail (List.cons_ne_nil _ _) (by omega)

theorem skipsMembers_succ (values : SkipsValues fuel) (members : SkipsMembers fuel) :
    SkipsMembers (fuel + 1) := by
  intro listed tail some enough
  cases listed with
  | nil => exact absurd rfl some
  | cons member later =>
    rw [memberChars_cons, List.length_append, List.length_append, List.length_cons] at enough
    rw [memberChars_cons, List.append_assoc, List.append_assoc, List.cons_append, skip,
      readKey_spelled, Option.bind_some]
    dsimp only
    cases later with
    | nil =>
      have skipped := values member.2 ('}' :: tail) (by omega) (closed_cons (by simp))
      have ended : Json.memberChars false [] ++ '}' :: tail = '}' :: tail := rfl
      rw [ended, skipped]
      rfl
    | cons next others =>
      rw [memberChars_later, List.length_cons] at enough
      rw [memberChars_later, List.cons_append]
      have skipped :=
        values member.2 (',' :: (Json.memberChars true (next :: others) ++ '}' :: tail)) (by omega)
        (closed_cons (by simp))
      rw [skipped]
      exact members (next :: others) tail (List.cons_ne_nil _ _) (by omega)

/-- The three together, by induction on the fuel. -/
theorem skips (fuel : Nat) : SkipsValues fuel ∧ SkipsItems fuel ∧ SkipsMembers fuel := by
  induction fuel with
  | zero =>
    refine ⟨fun _ _ short => ?_, fun _ _ _ short => ?_, fun _ _ _ short => ?_⟩
    all_goals exact absurd short (Nat.not_lt_zero _)
  | succ fuel ih =>
    obtain ⟨values, items, members⟩ := ih
    exact ⟨skipsValues_succ items members, skipsItems_succ values items,
      skipsMembers_succ values members⟩

theorem upTo_append (front after : List Char) : upTo (front ++ after) after = front := by
  rw [upTo, List.length_append, Nat.add_sub_cancel, List.take_left]

theorem readFields_member (key : String) (value : Json) (closed : Closed tail)
    (enough : 2 * value.chars.length < fuel) :
    readFields (fuel + 1) (stringLiteral key ++ ':' :: (value.chars ++ tail)) =
      (readRest fuel tail).map fun fields =>
        (key.toList.flatMap escapeChar, value.chars) :: fields := by
  obtain ⟨c, rest, spelled, solid, -⟩ := value_head value
  have solid : skipSpace (value.chars ++ tail) = value.chars ++ tail := by
    rw [spelled, List.cons_append, skipSpace_cons solid]
  rw [readFields, readKey_spelled, Option.bind_some]
  dsimp only
  rw [(skips fuel).1 value tail enough closed, Option.bind_some, solid, upTo_append]

theorem readFields_spelled (members : List (String × Json)) (some : members ≠ [])
    (enough : 2 * (Json.memberChars true members).length < fuel) :
    readFields fuel (Json.memberChars true members ++ ['}']) =
      .some (members.map fun member => (member.1.toList.flatMap escapeChar, member.2.chars)) := by
  induction members generalizing fuel with
  | nil => exact absurd rfl some
  | cons member later ih =>
    cases fuel with
    | zero => exact absurd enough (Nat.not_lt_zero _)
    | succ fuel =>
      rw [memberChars_cons, List.length_append, List.length_append, List.length_cons] at enough
      rw [memberChars_cons, List.append_assoc, List.append_assoc, List.cons_append]
      -- The last member ends at the brace, the others at a comma.
      cases later with
      | nil =>
        have ended : Json.memberChars false [] ++ ['}'] = ['}'] := rfl
        rw [ended, readFields_member _ _ (closed_cons (by simp)) (by omega)]
        cases fuel with
        | zero => omega
        | succ fuel => rfl
      | cons next others =>
        rw [memberChars_later, List.length_cons] at enough
        rw [memberChars_later, List.cons_append,
          readFields_member _ _ (closed_cons (by simp)) (by omega)]
        cases fuel with
        | zero => omega
        | succ fuel =>
          have rest := @ih fuel (List.cons_ne_nil _ _) (by omega)
          change (readFields fuel (Json.memberChars true (next :: others) ++ ['}'])).map _ = _
          rw [rest]
          rfl

/-- A written object is read as its members, with fuel for all of their characters. -/
theorem readWith_object {members : List (String × Json)} (some : members ≠ [])
    (enough : 2 * (Json.memberChars true members).length < fuel) :
    readWith fuel (Json.object members).render =
        .some (members.map fun member => (member.1.toList.flatMap escapeChar, member.2.chars)) := by
  have spelled : (Json.object members).render.toList =
      '{' :: (Json.memberChars true members ++ ['}']) := by
    rw [Json.render, String.toList_ofList]
    rfl
  rw [readWith, spelled, skipSpace_cons (by decide)]
  have quoted : ∃ rest, Json.memberChars true members ++ ['}'] = quote :: rest := by
    cases members with
    | nil => exact absurd rfl some
    | cons member later => exact ⟨_, rfl⟩
  obtain ⟨rest, inside⟩ := quoted
  have found := readFields_spelled members some enough
  rw [inside] at found ⊢
  exact found

theorem reads_object {members : List (String × Json)} (some : members ≠ []) :
    Reads (Json.object members).render
      (members.map fun member => (member.1.toList.flatMap escapeChar, member.2.chars)) :=
  ⟨_, readWith_object some (Nat.lt_succ_self _)⟩

end values

section fuel

/-- What a value, items or members are skipped to does not depend on the fuel, where it is enough. -/
theorem skip_more {fuel : Nat} {part : Part} {cs rest : List Char}
    (skipped : skip fuel part cs = some rest) :
    skip (fuel + 1) part cs = some rest := by
  induction fuel generalizing part cs rest with
  | zero => cases skipped
  | succ fuel ih =>
    cases part with
    | value =>
      rw [skip] at skipped ⊢
      generalize skipSpace cs = spaceless at skipped ⊢
      cases spaceless with
      | nil => cases skipped
      | cons c inside =>
        dsimp only at skipped ⊢
        split
        -- Strings and scalars take no fuel; the other values go on with one less.
        · next quoted => rwa [if_pos quoted] at skipped
        · next unquoted =>
          rw [if_neg unquoted] at skipped
          split
          · next opened =>
            rw [if_pos opened] at skipped
            split at skipped
            · exact skipped
            · next unclosed =>
              exact ih skipped
          · next unopened =>
            rw [if_neg unopened] at skipped
            split
            · next opened =>
              rw [if_pos opened] at skipped
              split at skipped
              · exact skipped
              · next unclosed =>
                exact ih skipped
            · next scalar => rwa [if_neg scalar] at skipped
    | items =>
      rw [skip] at skipped ⊢
      obtain ⟨after, value, behind⟩ := Option.bind_eq_some_iff.mp skipped
      rw [ih value, Option.bind_some]
      split at behind
      · exact ih behind
      · exact behind
      · cases behind
    | members =>
      rw [skip] at skipped ⊢
      obtain ⟨found, key, after⟩ := Option.bind_eq_some_iff.mp skipped
      obtain ⟨after, value, behind⟩ := Option.bind_eq_some_iff.mp after
      rw [key, Option.bind_some, ih value, Option.bind_some]
      split at behind
      · exact ih behind
      · exact behind
      · cases behind

theorem read_more (fuel : Nat) :
    (∀ cs fields, readFields fuel cs = some fields → readFields (fuel + 1) cs = some fields) ∧
    ∀ cs fields, readRest fuel cs = some fields → readRest (fuel + 1) cs = some fields := by
  induction fuel with
  | zero =>
    constructor
    · intro cs fields none
      cases none
    · intro cs fields none
      cases none
  | succ fuel ih =>
    refine ⟨fun cs fields read => ?_, fun cs fields read => ?_⟩
    · rw [readFields] at read ⊢
      obtain ⟨found, key, after⟩ := Option.bind_eq_some_iff.mp read
      obtain ⟨after, value, behind⟩ := Option.bind_eq_some_iff.mp after
      obtain ⟨others, later, spelled⟩ := Option.map_eq_some_iff.mp behind
      rw [key, Option.bind_some, skip_more value, Option.bind_some, ih.2 _ _ later, Option.map_some,
        spelled]
    · rw [readRest] at read ⊢
      split at read
      · exact ih.1 _ _ read
      · exact read
      · cases read

theorem readWith_more {fuel : Nat} {text : String} {fields : List Field}
    (read : readWith fuel text = some fields) (more : Nat) :
    readWith (fuel + more) text = some fields := by
  induction more with
  | zero => exact read
  | succ more ih =>
    rw [← Nat.add_assoc]
    unfold readWith at ih ⊢
    split at ih
    · split at ih
      · exact ih
      · next unclosed => exact (read_more _).1 _ _ ih
    · cases ih

theorem Reads.unique {text : String} {fields others : List Field} (one : Reads text fields)
    (two : Reads text others) :
    fields = others := by
  obtain ⟨fuel, read⟩ := one
  obtain ⟨fuel', read'⟩ := two
  have same :=
    (readWith_more read fuel').symm.trans (Nat.add_comm fuel' fuel ▸ readWith_more read' fuel)
  exact Option.some.inj same

end fuel

end Text
