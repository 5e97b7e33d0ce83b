import SkfService.Text.Base64
import SkfService.Text.Markers

/-! Base64 in lines: without the line ends it is the base64, and no hyphen of a marker is in it. -/

set_option autoImplicit false

namespace Text

inductive LineEnd where
  | lf
  | crlf

def LineEnd.chars : LineEnd → List Char
  | .lf => ['\n']
  | .crlf => ['\r', '\n']

structure PemLine where
  chars : List Char
  ending : LineEnd
  nonempty : chars ≠ []

def PemLine.text (line : PemLine) : List Char := line.chars ++ line.ending.chars

def lineBreak (c : Char) : Bool := c == '\n' || c == '\r'

theorem LineEnd.breaks (ending : LineEnd) : ∀ c ∈ ending.chars, lineBreak c = true := by
  cases ending with
  | lf => exact List.forall_mem_singleton.mpr rfl
  | crlf => exact List.forall_mem_cons.mpr ⟨rfl, List.forall_mem_singleton.mpr rfl⟩

theorem filter_breaks {chars : List Char} (breaks : ∀ c ∈ chars, lineBreak c = true) :
    chars.filter (fun c => c != '\n' && c != '\r') = [] := by
  apply List.filter_eq_nil_iff.mpr
  intro c member kept
  have break_ := breaks c member
  simp only [lineBreak, Bool.or_eq_true, beq_iff_eq] at break_
  simp only [Bool.and_eq_true, bne_iff_ne] at kept
  rcases break_ with rfl | rfl
  · exact kept.1 rfl
  · exact kept.2 rfl

section lines

variable {der : List UInt8} {first : LineEnd} {lines : List PemLine}

theorem body_plain (whole : lines.flatMap PemLine.chars = Base64.encodeChars der) :
    '-' ∉ first.chars ++ lines.flatMap PemLine.text := by
  have ending (e : LineEnd) : '-' ∉ e.chars := by cases e <;> decide
  intro member
  rcases List.mem_append.mp member with front | inside
  · exact ending first front
  · obtain ⟨line, some, place⟩ := List.mem_flatMap.mp inside
    rcases List.mem_append.mp place with content | tail
    · have encoded : '-' ∈ Base64.encodeChars der := by
        rw [← whole]
        exact List.mem_flatMap.mpr ⟨line, some, content⟩
      exact Base64.not_mem_encodeChars (by decide) der encoded
    · exact ending line.ending tail

/-- Without its line ends the body is the base64 of the certificate. -/
theorem filter_lines (whole : lines.flatMap PemLine.chars = Base64.encodeChars der) :
    (lines.flatMap PemLine.text).filter (fun c => c != '\n' && c != '\r') =
      Base64.encodeChars der := by
  have kept : (Base64.encodeChars der).filter (fun c => c != '\n' && c != '\r') =
      Base64.encodeChars der := by
    apply List.filter_eq_self.mpr
    intro c member
    have other {d : Char} (outside : d ∉ '=' :: Base64.alphabet) : c ≠ d := by
      rintro rfl
      exact Base64.not_mem_encodeChars outside der member
    simp only [Bool.and_eq_true, bne_iff_ne]
    exact ⟨other (by decide), other (by decide)⟩
  rw [← kept, ← whole]
  clear whole kept
  induction lines with
  | nil => rfl
  | cons line lines ih =>
    rw [List.flatMap_cons, List.flatMap_cons, List.filter_append, List.filter_append, ih,
      PemLine.text, List.filter_append, filter_breaks line.ending.breaks, List.append_nil]

end lines

end Text
