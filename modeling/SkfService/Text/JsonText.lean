import SkfService.Text.Json

/-! JSON values as they are written: compact, with every control character escaped. -/

set_option autoImplicit false

namespace Text

def quote : Char := .ofNat 0x22
def backslash : Char := .ofNat 0x5C

def shortEscapes : List (Nat × Char) :=
  [(0x22, quote), (0x5C, backslash), (0x08, 'b'), (0x09, 't'), (0x0A, 'n'), (0x0C, 'f'),
    (0x0D, 'r')]

def escapeChar (c : Char) : List Char :=
  match shortEscapes.lookup c.toNat with
  | some letter => [backslash, letter]
  | none =>
    if c.toNat < 0x20 then
      [backslash, 'u', '0', '0', hexDigit false (c.toNat / 16), hexDigit false c.toNat]
    else [c]

def stringLiteral (s : String) : List Char := quote :: s.toList.flatMap escapeChar ++ [quote]

def Number.chars : Number → List Char
  | .unsigned value => (decimal value.toNat).toList
  | .negative magnitude => '-' :: (decimal magnitude.1.toNat).toList
  | .float literal => literal.chars

namespace Json

mutual

def chars : Json → List Char
  | .null => "null".toList
  | .bool value => if value then "true".toList else "false".toList
  | .number value => value.chars
  | .string value => stringLiteral value
  | .array items => '[' :: itemChars true items ++ [']']
  | .object members => '{' :: memberChars true members ++ ['}']

def itemChars : Bool → List Json → List Char
  | _, [] => []
  | first, item :: rest => (if first then [] else [',']) ++ item.chars ++ itemChars false rest

def memberChars : Bool → List (String × Json) → List Char
  | _, [] => []
  | first, (key, value) :: rest =>
    (if first then [] else [',']) ++ stringLiteral key ++ ':' :: value.chars ++
      memberChars false rest

end

def render (value : Json) : String := .ofList value.chars

end Json

def Printable (c : Char) : Prop := 0x20 ≤ c.toNat

instance (c : Char) : Decidable (Printable c) := inferInstanceAs (Decidable (0x20 ≤ c.toNat))

theorem hexDigit_printable (n : Nat) : Printable (hexDigit false n) := by
  have table : ∀ k, k < 16 → Printable (hexDigit false k) := by decide
  have reduced : hexDigit false n = hexDigit false (n % 16) := by
    unfold hexDigit
    rw [Nat.mod_mod]
  rw [reduced]
  exact table _ (Nat.mod_lt _ (by decide))

theorem shortEscapes_printable : ∀ entry ∈ shortEscapes, Printable entry.2 := by decide

theorem escapeChar_printable (c : Char) : ∀ d ∈ escapeChar c, Printable d := by
  have mark : ∀ d ∈ [backslash, 'u', '0', '0'], Printable d := by
    simp only [List.forall_mem_cons, List.not_mem_nil, false_implies, implies_true, and_true]
    decide
  unfold escapeChar
  -- A control character has a letter of its own or is written by its number.
  cases short : shortEscapes.lookup c.toNat with
  | some letter =>
    intro d member
    obtain ⟨before, later, table, -⟩ := List.lookup_eq_some_iff.mp short
    rcases List.mem_cons.mp member with rfl | last
    · exact mark _ List.mem_cons_self
    · rw [List.mem_singleton.mp last]
      exact shortEscapes_printable (c.toNat, letter)
        (table ▸ List.mem_append_right _ List.mem_cons_self)
  | none =>
    dsimp only
    split
    · intro d member
      have parts : d ∈ [backslash, 'u', '0', '0'] ++
          [hexDigit false (c.toNat / 16), hexDigit false c.toNat] := member
      rcases List.mem_append.mp parts with front | digits
      · exact mark d front
      · rcases List.mem_cons.mp digits with rfl | last
        · exact hexDigit_printable _
        · rw [List.mem_singleton.mp last]
          exact hexDigit_printable _
    · next printed =>
      intro d member
      rw [List.mem_singleton.mp member]
      exact Nat.le_of_not_lt printed

theorem stringLiteral_printable (s : String) : ∀ d ∈ stringLiteral s, Printable d := by
  have quoted : Printable quote := by decide
  intro d member
  rcases List.mem_cons.mp member with rfl | inside
  · exact quoted
  · rcases List.mem_append.mp inside with content | last
    · obtain ⟨c, -, escaped⟩ := List.mem_flatMap.mp content
      exact escapeChar_printable c d escaped
    · rw [List.mem_singleton.mp last]
      exact quoted

namespace Json

def Lined (value : Json) : Prop := ∀ c ∈ value.chars, Printable c

theorem string_lined (s : String) : (Json.string s).Lined := stringLiteral_printable s

theorem decimal_printable (n : Nat) : ∀ c ∈ (decimal n).toList, Printable c := by
  intro c member
  rw [decimal, String.toList_ofList] at member
  have digit := Nat.isDigit_of_mem_toDigits (by decide) (by decide) member
  simp only [Char.isDigit, Bool.and_eq_true, decide_eq_true_eq] at digit
  have low : '0'.toNat ≤ c.toNat := digit.1
  exact Nat.le_trans (by decide) low

theorem unsigned_lined (value : UInt64) : (Json.number (.unsigned value)).Lined :=
  decimal_printable _

theorem memberChars_printable {members : List (String × Json)}
    (lined : ∀ field ∈ members, field.2.Lined) (first : Bool) :
    ∀ c ∈ memberChars first members, Printable c := by
  induction members generalizing first with
  | nil =>
    intro c member
    cases member
  | cons field rest ih =>
    obtain ⟨key, value⟩ := field
    have separator : ∀ c ∈ if first then [] else [','], Printable c := by
      cases first with
      | true => exact List.forall_mem_nil _
      | false => exact List.forall_mem_singleton.mpr (by decide)
    have colon : Printable ':' := by decide
    intro c member
    rw [memberChars] at member
    rcases List.mem_append.mp member with field | later
    · rcases List.mem_append.mp field with key | value
      · rcases List.mem_append.mp key with comma | literal
        · exact separator c comma
        · exact stringLiteral_printable _ c literal
      · rcases List.mem_cons.mp value with rfl | text
        · exact colon
        · exact lined _ List.mem_cons_self c text
    · exact ih (fun other member => lined other (List.mem_cons_of_mem _ member)) false c later

theorem mem_insertMember {key : String} {value : Json} {members : List (String × Json)}
    {field : String × Json} (member : field ∈ insertMember key value members) :
    field = (key, value) ∨ field ∈ members := by
  induction members with
  | nil => exact .inl (List.mem_singleton.mp member)
  | cons held rest ih =>
    rw [insertMember] at member
    split at member
    · rcases List.mem_cons.mp member with new | old
      · exact .inl new
      · exact .inr old
    · split at member
      · rcases List.mem_cons.mp member with new | old
        · exact .inl new
        · exact .inr (List.mem_cons_of_mem _ old)
      · rcases List.mem_cons.mp member with same | later
        · exact .inr (same ▸ List.mem_cons_self)
        · rcases ih later with new | old
          · exact .inl new
          · exact .inr (List.mem_cons_of_mem _ old)

theorem ofFields_lined {fields : List (String × Json)} (lined : ∀ field ∈ fields, field.2.Lined) :
    (ofFields fields).Lined := by
  have members (held : List (String × Json)) (before : ∀ field ∈ held, field.2.Lined) : ∀ field ∈
      fields.foldl (fun members field => insertMember field.1 field.2 members) held,
      field.2.Lined := by
    induction fields generalizing held with
    | nil => exact before
    | cons field rest ih =>
      apply ih fun other member => lined other (List.mem_cons_of_mem _ member)
      intro other member
      rcases mem_insertMember member with rfl | old
      · exact lined field List.mem_cons_self
      · exact before other old
  have brace : Printable (.ofNat 0x7B) ∧ Printable (.ofNat 0x7D) := by decide
  intro c member
  rcases List.mem_cons.mp member with rfl | inside
  · exact brace.1
  · rcases List.mem_append.mp inside with content | last
    · exact memberChars_printable (members [] (List.forall_mem_nil _)) true c content
    · rw [List.mem_singleton.mp last]
      exact brace.2

end Json

example : (Json.ofFields [("b", .bool true), ("a", .array [.null, .string "x\n"])]).render =
    "\x7b\"a\":[null,\"x\\n\"],\"b\":true\x7d" := by
  decide

end Text
