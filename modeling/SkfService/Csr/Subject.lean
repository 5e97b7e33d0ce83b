import SkfService.Csr.Encoding

/-! The subject of a request: a strict decoder reads the recognised attributes back, in their order. -/

set_option autoImplicit false

namespace SkfService

open Text Asn1

theorem split_append (separator : Char) (a b : String) :
    split separator (a ++ String.singleton separator ++ b) =
      split separator a ++ split separator b := by
  have chars : (a ++ String.singleton separator ++ b).toList =
      a.toList ++ separator :: b.toList := by
    rw [String.toList_append, String.toList_append, String.toList_singleton, List.append_assoc,
      List.singleton_append]
  rw [split, chars, List.splitOn_append_cons_self, List.map_append]
  rfl

theorem subjectAttributes_append (toUppercase : String → String) (a b : String) :
    subjectAttributes toUppercase (a ++ "," ++ b) =
      subjectAttributes toUppercase a ++ subjectAttributes toUppercase b := by
  have pieces : split ',' (a ++ "," ++ b) = split ',' a ++ split ',' b := split_append ',' a b
  rw [subjectAttributes, pieces, List.filterMap_append]
  rfl

theorem subject_dn_decodes (toUppercase : String → String) {subject : String}
    (small : (buildSubjectDn toUppercase subject).length < 65536) :
    Pkcs10.parseSubject (buildSubjectDn toUppercase subject) =
      some (subjectAttributes toUppercase subject) ∧
      ∀ a b, subjectAttributes toUppercase (a ++ "," ++ b) =
        subjectAttributes toUppercase a ++ subjectAttributes toUppercase b := by
  rw [buildSubjectDn_write] at small
  have short := short_of_derWrite (Nat.le_of_lt small)
  constructor
  · rw [buildSubjectDn_write, derWrite_eq _ short]
    exact Pkcs10.parseSubject_encode short
  · exact subjectAttributes_append toUppercase

/-- A part that names nothing contributes nothing. -/
theorem subject_dn_decodes_noise :
    Pkcs10.parseSubject (buildSubjectDn id "CN=Test,X=Ignored,GARBAGE,C=CN") =
        some (subjectAttributes id "CN=Test,X=Ignored,GARBAGE,C=CN") ∧
      ∀ a b,
        subjectAttributes id (a ++ "," ++ b) = subjectAttributes id a ++ subjectAttributes id b :=
  subject_dn_decodes id (by decide)

example : subjectAttributes id "CN=Test,X=Ignored,GARBAGE, C = CN " =
    [⟨.commonName, .utf8 "Test"⟩, ⟨.countryName, .printable "CN"⟩] := by decide

end SkfService
