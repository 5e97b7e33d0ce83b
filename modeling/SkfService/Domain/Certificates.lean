import SkfService.Dispatch.Scopes
import SkfService.Text.Armour

/-! The spellings of a certificate, and what `ImportCertificate` hands over for each of them. -/

set_option autoImplicit false

namespace SkfService

open Text Interaction Program Handler

def armour (first : LineEnd) (lines : List PemLine) (last : Option LineEnd) : String :=
  .ofList ("-----BEGIN CERTIFICATE-----".toList ++ (first.chars ++ lines.flatMap PemLine.text ++
    ("-----END CERTIFICATE-----".toList ++ last.elim [] LineEnd.chars)))

theorem armour_toList (first : LineEnd) (lines : List PemLine) (last : Option LineEnd) :
    (armour first lines last).toList = "-----BEGIN CERTIFICATE-----".toList ++ (first.chars ++
      lines.flatMap PemLine.text ++
        ("-----END CERTIFICATE-----".toList ++ last.elim [] LineEnd.chars)) :=
  String.toList_ofList

/-- The texts that spell a certificate: its base64 as it is, or broken into lines of any widths. -/
inductive Spelling (der : List UInt8) : String → Prop
  | plain : Spelling der (Base64.encode der)
  | armoured (first : LineEnd) (lines : List PemLine) (last : Option LineEnd)
      (whole : lines.flatMap PemLine.chars = Base64.encodeChars der) :
      Spelling der (armour first lines last)

section armour

variable {der : List UInt8} {first : LineEnd} {lines : List PemLine} {last : Option LineEnd}

/-- Both markers are cut out, and nothing else is. -/
theorem replace_markers (whole : lines.flatMap PemLine.chars = Base64.encodeChars der) :
    (replace "-----END CERTIFICATE-----" ""
      (replace "-----BEGIN CERTIFICATE-----" "" (armour first lines last))).toList =
      first.chars ++ lines.flatMap PemLine.text ++ last.elim [] LineEnd.chars := by
  have begins : "-----BEGIN CERTIFICATE-----".toList = '-' :: "----BEGIN CERTIFICATE-----".toList :=
    rfl
  have ends : "-----END CERTIFICATE-----".toList = '-' :: "----END CERTIFICATE-----".toList := rfl
  have quiet : ∀ rest ∈ ('-' :: "----END CERTIFICATE-----".toList).tails,
      ('-' :: "----BEGIN CERTIFICATE-----".toList).isPrefixOf rest = false := by decide
  -- What follows the END marker begins with a line end, which is in neither of the markers.
  have apart : ∀ c ∈ (last.elim [] LineEnd.chars).head?,
      c ∉ '-' :: "----BEGIN CERTIFICATE-----".toList := by
    cases last with
    | none => simp
    | some ending => cases ending <;> simp [LineEnd.chars]
  have plain : '-' ∉ first.chars ++ lines.flatMap PemLine.text := body_plain whole
  have ending : '-' ∉ last.elim [] LineEnd.chars := by
    cases last with
    | none => exact List.not_mem_nil
    | some e => cases e <;> decide
  have cut := replaceChars_between quiet apart plain ending
  rw [← begins, ← ends] at cut
  rw [replace_toList, replace_toList, armour_toList]
  exact cut

end armour

variable {der : List UInt8} {text : String}

/-- Every spelling of a certificate decodes to it; the text itself never counts as the certificate. -/
theorem Spelling.decoded (spelled : Spelling der text) (errorText : DecodeErrorText) :
    decodeCertificate errorText text = .ok der := by
  cases spelled with
  | plain =>
    have unmarked : contains "-----BEGIN" (Base64.encode der) = false := by
      have begins : "-----BEGIN".toList.head? = some '-' := rfl
      apply contains_false begins
      rw [Base64.encode, String.toList_ofList]
      exact Base64.not_mem_encodeChars (by decide) der
    rw [decodeCertificate, unmarked]
    simp only [Bool.false_eq_true, if_false]
    rw [decodeBase64, Base64.decode_encode]
  | armoured first lines last whole =>
    have marked : contains "-----BEGIN" (armour first lines last) = true := by
      apply contains_front
      have short : "-----BEGIN".toList <+: "-----BEGIN CERTIFICATE-----".toList :=
        ⟨" CERTIFICATE-----".toList, rfl⟩
      rw [armour_toList]
      exact short.trans (List.prefix_append _ _)
    have tail : ∀ c ∈ last.elim [] LineEnd.chars, lineBreak c = true := by
      cases last with
      | none => simp
      | some ending => exact ending.breaks
    have decoded : Base64.decode (.ofList (Base64.encodeChars der)) = some der :=
      Base64.decode_encode der
    rw [decodeCertificate, if_pos marked]
    dsimp only
    rw [replace_markers whole, List.filter_append, List.filter_append, filter_breaks first.breaks,
      filter_lines whole, filter_breaks tail, List.append_nil, List.nil_append, decoded]

def Imports (der : List UInt8) : Op → Prop
  | .provider (.importCertificate _ _ cert) => cert = der
  | _ => True

end SkfService
