import SkfService.Text.Base64
import Mathlib.Data.List.Basic

/-! Textual encoding of binary objects: labelled boundaries around Base64 in lines of 64 characters. -/

set_option autoImplicit false

namespace Text.Pem

def header (label : String) : List Char := "-----BEGIN ".toList ++ label.toList ++ "-----\n".toList

def footer (label : String) : List Char := "-----END ".toList ++ label.toList ++ "-----".toList

/-- The characters of lines that end in a break and are 64 characters long, the last one shorter if
it is not empty; `column` counts the characters of the current line. -/
def joinLines : Nat → List Char → Option (List Char)
  | column, [] => if column = 0 then some [] else none
  | column, c :: rest =>
    if c = '\n' then
      if column = 64 ∨ (0 < column ∧ rest = []) then joinLines 0 rest else none
    else if column < 64 then (joinLines (column + 1) rest).map (c :: ·)
    else none

/-- The bytes of a text that is one object and nothing else. -/
def decode (label text : String) : Option (List UInt8) := do
  let framed ← text.toList.dropPrefix? (header label)
  let body ← framed.dropSuffix? (footer label)
  let chars ← joinLines 0 body
  Base64.decodeChars chars

theorem joinLines_break (rest : List Char) : joinLines 64 ('\n' :: rest) = joinLines 0 rest := by
  rw [joinLines, if_pos rfl, if_pos (Or.inl rfl)]

theorem joinLines_last {column : Nat} (some : 0 < column) : joinLines column ['\n'] = .some [] := by
  rw [joinLines, if_pos rfl, if_pos (Or.inr ⟨some, rfl⟩)]
  rfl

theorem joinLines_char {column : Nat} {c : Char} (small : column < 64) (plain : c ≠ '\n')
    (rest : List Char) :
    joinLines column (c :: rest) = (joinLines (column + 1) rest).map (c :: ·) := by
  rw [joinLines, if_neg plain, if_pos small]

theorem decode_framed {label : String} {body chars : List Char} {bytes : List UInt8}
    (lines : joinLines 0 body = some chars) (decoded : Base64.decodeChars chars = some bytes) :
    decode label (.ofList (header label ++ body ++ footer label)) = some bytes := by
  have front : (header label ++ body ++ footer label).dropPrefix? (header label) =
      some (body ++ footer label) :=
    List.dropPrefix?_eq_some_iff.mpr ⟨header label, List.append_assoc _ _ _, beq_self_eq_true _⟩
  have back : (body ++ footer label).dropSuffix? (footer label) = some body :=
    List.dropSuffix?_eq_some_iff.mpr ⟨footer label, rfl, beq_self_eq_true _⟩
  rw [decode, String.toList_ofList, front]
  simp only [Option.bind_eq_bind, Option.bind_some, back, lines, decoded]

end Text.Pem
