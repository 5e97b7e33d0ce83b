import SkfService.Dispatch.FindCertificates
import SkfService.Provider.Ciphers

/-! The bytes of a listed certificate, against what the native provider exports of the same
container. -/

set_option autoImplicit false

namespace SkfService

open Text Interaction Program Handler

namespace NativeContainer

def CERT_BUF_LEN : Nat := 16 * 1024

/-- `SKF_ExportCertificate` of one container: the flag and what the vendor is told of the buffer. -/
abbrev Exports : Signature := ⟨Bool × ULONG, fun _ => Filled⟩

def exportCertificate (signFlag : Bool) :
    Program Exports Empty (Except ProviderError (List UInt8)) := do
  let filled ← Program.ask (I := Exports) (signFlag, .ofNat CERT_BUF_LEN)
  return written CERT_BUF_LEN "ExportCertificate" filled

end NativeContainer

/-- What a call fills in is this certificate and reported so. -/
structure Delivers (der : List UInt8) (filled : Filled) : Prop where
  succeeded : filled.ret = SAR_OK
  size : filled.size.toNat = der.length
  front : der <+: filled.memory

section lists

variable {ctx : SkfContext} {keyStem : String} {container : Container} {isSign : Bool}
  {sized filled : Filled} {der : List UInt8}

theorem Delivers.take (delivers : Delivers der filled) :
    filled.memory.take filled.size.toNat = der := by
  rw [delivers.size]
  exact (List.prefix_iff_eq_take.mp delivers.front).symm

theorem exported_exactly (delivers : Delivers der filled)
    (fits : der.length ≤ NativeContainer.CERT_BUF_LEN)
    {trace : List (Event NativeContainer.Exports)} {outcome : Except ProviderError (List UInt8)}
    (answered : ∀ event ∈ trace, event.reply = filled)
    (ran : (NativeContainer.exportCertificate isSign).Finishes trace (.ok outcome)) :
    outcome = .ok der := by
  unfold NativeContainer.exportCertificate at ran
  cases ran with
  | step reply ended =>
    have same : reply = filled := answered _ List.mem_cons_self
    subst same
    cases ended
    have small : reply.size.toNat ≤ NativeContainer.CERT_BUF_LEN := by rwa [delivers.size]
    rw [NativeContainer.written, if_neg (not_not.mpr delivers.succeeded), List.take_take,
      Nat.min_eq_left small, delivers.take]

def exporting (container : Container) (isSign : Bool) (sized filled : Filled) : List (Event Skf) :=
  [⟨.vendor (.exportCertificate container isSign none), sized⟩,
    ⟨.vendor (.exportCertificate container isSign (some sized.size)), filled⟩]

theorem processCert_lists {entries : List Json}
    (ran : (FindCertificates.processCert ctx keyStem container isSign).Finishes
      (exporting container isSign sized filled) (.ok entries)) :
    entries = if filled.ret = SAR_OK then
      match ctx.platform.parseCertificate (filled.memory.take sized.size.toNat) with
      | some (serial, subject) =>
        [.ofFields [("key", .string (keyStem ++ "/" ++ serial)), ("value", .string subject),
          ("type", .string (if isSign then "Sign" else "Enc")),
          ("cert", .string (Base64.encode (filled.memory.take sized.size.toNat)))]]
      | none => []
    else [] := by
  unfold FindCertificates.processCert exporting at ran
  have sizedRan := finishes_ask_bind ran
  by_cases sizes : sized.ret = SAR_OK ∧ 0 < sized.size
  · rw [if_pos sizes] at sizedRan
    have filledRan := finishes_ask_bind sizedRan
    -- The first size is the length that is read, whatever the second call says of it.
    by_cases fills : filled.ret = SAR_OK
    · rw [if_pos fills] at filledRan ⊢
      dsimp only at filledRan
      cases parsed : ctx.platform.parseCertificate (filled.memory.take sized.size.toNat) with
      | none =>
        rw [parsed] at filledRan
        cases filledRan
        rfl
      | some certificate =>
        rw [parsed] at filledRan
        cases filledRan
        rfl
    · rw [if_neg fills] at filledRan ⊢
      cases filledRan
      rfl
  · rw [if_neg sizes] at sizedRan
    cases sizedRan

/-- Every listed certificate is the delivered one, and the one the native provider exports if it
fits its buffer. -/
def ListsExactly (der : List UInt8) (isSign : Bool) (entries : List Json) : Prop :=
  ∀ entry ∈ entries, ∃ text,
    entry.member "cert" = some (.string text) ∧ Base64.decode text = some der ∧
    ∀ exported, Delivers der exported → der.length ≤ NativeContainer.CERT_BUF_LEN → ∀ trace outcome,
      (∀ event ∈ trace, event.reply = exported) →
        (NativeContainer.exportCertificate isSign).Finishes trace (.ok outcome) →
          ∃ bytes, outcome = .ok bytes ∧ Base64.decode text = some bytes

/-- A certificate that is shorter than its size query said is listed with what lies behind it in the
buffer. -/
theorem cert_bytes_iff {entries : List Json}
    (ran : (FindCertificates.processCert ctx keyStem container isSign).Finishes
      (exporting container isSign sized filled) (.ok entries))
    (delivers : Delivers der filled) (room : sized.size.toNat ≤ filled.memory.length) :
    ListsExactly der isSign entries ↔ filled.size = sized.size ∨
      ctx.platform.parseCertificate (filled.memory.take sized.size.toNat) = none := by
  have listed := processCert_lists ran
  rw [if_pos delivers.succeeded] at listed
  cases parsed : ctx.platform.parseCertificate (filled.memory.take sized.size.toNat) with
  | none =>
    rw [parsed] at listed
    subst listed
    exact iff_of_true (fun entry member => by cases member) (.inr rfl)
  | some certificate =>
    rw [parsed] at listed
    subst listed
    have cert : (Json.ofFields [("key", .string (keyStem ++ "/" ++ certificate.1)),
        ("value", .string certificate.2),
        ("type", .string (if isSign then "Sign" else "Enc")),
        ("cert", .string (Base64.encode (filled.memory.take sized.size.toNat)))]).member "cert" =
        some (.string (Base64.encode (filled.memory.take sized.size.toNat))) := by
      simp only [Json.ofFields, Json.member, List.foldl_cons, List.foldl_nil,
        Json.lookup_insertMember]
      rfl
    rw [ListsExactly, List.forall_mem_singleton]
    constructor
    · rintro ⟨text, shown, decoded, -⟩
      rw [cert] at shown
      cases shown
      rw [Base64.decode_encode, Option.some.injEq] at decoded
      -- As many bytes are listed as the first call asked for, and that is the certificate only if
      -- the lengths agree.
      have lengths := congrArg List.length decoded
      rw [List.length_take, ← delivers.size, Nat.min_eq_left room] at lengths
      exact .inl (UInt32.toNat.inj lengths.symm)
    · rintro (same | unparsed)
      · have whole : filled.memory.take sized.size.toNat = der := by rw [← same, delivers.take]
        refine ⟨_, cert, ?_, ?_⟩
        · rw [whole, Base64.decode_encode]
        · intro exported delivered fits trace outcome answered exportRan
          refine ⟨der, exported_exactly delivered fits answered exportRan, ?_⟩
          rw [whole, Base64.decode_encode]
      · cases unparsed

end lists

namespace ShorterThanQueried

/-- Self-signed, version 1, serial number 1, for the name A. -/
def certificate : List UInt8 := [
  0x30, 0x81, 0xbe, 0x30, 0x72, 0x02, 0x01, 0x01, 0x30, 0x05, 0x06, 0x03, 0x2b, 0x65, 0x70, 0x30,
  0x0c, 0x31, 0x0a, 0x30, 0x08, 0x06, 0x03, 0x55, 0x04, 0x03, 0x0c, 0x01, 0x41, 0x30, 0x1e, 0x17,
  0x0d, 0x32, 0x36, 0x31, 0x31, 0x31, 0x39, 0x30, 0x31, 0x35, 0x31, 0x33, 0x34, 0x5a, 0x17, 0x0d,
  0x32, 0x36, 0x31, 0x31, 0x32, 0x30, 0x30, 0x31, 0x35, 0x31, 0x33, 0x34, 0x5a, 0x30, 0x0c, 0x31,
  0x0a, 0x30, 0x08, 0x06, 0x03, 0x55, 0x04, 0x03, 0x0c, 0x01, 0x41, 0x30, 0x2a, 0x30, 0x05, 0x06,
  0x03, 0x2b, 0x65, 0x70, 0x03, 0x21, 0x00, 0xe1, 0x55, 0xd9, 0x87, 0xf6, 0x06, 0x58, 0x75, 0xfa,
  0x7b, 0xc1, 0xc1, 0xe0, 0x2c, 0xb2, 0x1c, 0xd6, 0xad, 0x5d, 0x9c, 0xeb, 0x74, 0x38, 0xfa, 0xa8,
  0xe2, 0x68, 0x2d, 0xe4, 0xbb, 0x63, 0x31, 0x30, 0x05, 0x06, 0x03, 0x2b, 0x65, 0x70, 0x03, 0x41,
  0x00, 0x13, 0xef, 0x8d, 0xca, 0xba, 0x18, 0xe5, 0x12, 0x60, 0x36, 0xe4, 0x68, 0xc5, 0xce, 0xd2,
  0x79, 0x76, 0xd5, 0x0e, 0x29, 0x9a, 0xc4, 0x89, 0x9a, 0x3e, 0xd3, 0xd6, 0xdb, 0xf6, 0x72, 0xe0,
  0xa8, 0x9b, 0x82, 0x0d, 0x2c, 0x90, 0x8f, 0x0d, 0x22, 0xc4, 0x97, 0xfe, 0xb0, 0x4e, 0x0a, 0x09,
  0x88, 0x19, 0x19, 0xe3, 0x26, 0x50, 0xbc, 0xb1, 0xdf, 0x38, 0x02, 0x03, 0x1e, 0x83, 0x40, 0xf0,
  0x06]

/-- Like X.509 parsing, this reads one certificate off the front and leaves what follows it. -/
def ctx : SkfContext :=
  { SkfContext.serving [] with
    platform := { (SkfContext.serving []).platform with
      parseCertificate :=
        fun bytes => if certificate.isPrefixOf bytes then some ("1", "CN=A") else none } }

def container : Container := ⟨⟨⟨⟨"GM3000", none⟩, "K1", 1⟩, "A", 1⟩, "C", 1⟩

def sized : Filled := ⟨SAR_OK, 194, []⟩
def filled : Filled := ⟨SAR_OK, 193, certificate ++ [0]⟩

set_option maxRecDepth 2000 in
theorem certificate_length : certificate.length = 193 := rfl

theorem delivers : Delivers certificate filled := ⟨rfl, certificate_length.symm, ⟨[0], rfl⟩⟩

theorem length_eq : sized.size.toNat = filled.memory.length := by
  rw [filled, List.length_append, certificate_length]
  rfl

theorem parsed :
    ctx.platform.parseCertificate (filled.memory.take sized.size.toNat) = some ("1", "CN=A") := by
  have front : certificate.isPrefixOf (certificate ++ [0]) = true :=
    List.isPrefixOf_iff_prefix.mpr ⟨[0], rfl⟩
  rw [length_eq, List.take_length]
  change (if certificate.isPrefixOf (certificate ++ [0]) = true then some ("1", "CN=A") else none) =
    _
  rw [if_pos front]

def entry : Json :=
  .ofFields [("key", .string "GM3000/K1/A/C/1"), ("value", .string "CN=A"),
    ("type", .string "Sign"),
    ("cert", .string (Base64.encode (filled.memory.take sized.size.toNat)))]

theorem ran : (FindCertificates.processCert ctx "GM3000/K1/A/C" container true).Finishes
    (exporting container true sized filled) (.ok [entry]) := by
  refine .step _ (.step _ ?_)
  dsimp only [Program.bind]
  rw [if_pos rfl, parsed]
  exact .refl _

end ShorterThanQueried

theorem trailing_byte_listed : ¬∀ ctx keyStem container isSign sized filled der entries,
    (FindCertificates.processCert ctx keyStem container isSign).Finishes
      (exporting container isSign sized filled)
      (.ok entries) → Delivers der filled → filled.size ≤ sized.size →
        sized.size.toNat ≤ filled.memory.length →
        ListsExactly der isSign entries := by
  intro exact_
  obtain ⟨text, shown, decoded, -⟩ :=
    exact_ _ _ _ _ _ _ _ _ ShorterThanQueried.ran ShorterThanQueried.delivers (by decide)
    (Nat.le_of_eq ShorterThanQueried.length_eq) _ List.mem_cons_self
  have cert : ShorterThanQueried.entry.member "cert" =
      some (.string (Base64.encode
        (ShorterThanQueried.filled.memory.take ShorterThanQueried.sized.size.toNat))) := by
    rfl
  rw [cert, Option.some.injEq, Json.string.injEq] at shown
  rw [← shown, Base64.decode_encode, Option.some.injEq, ShorterThanQueried.length_eq,
    List.take_length] at decoded
  have lengths := congrArg List.length decoded
  rw [ShorterThanQueried.filled, List.length_append,
    ShorterThanQueried.certificate_length] at lengths
  exact absurd lengths (by decide)

theorem cert_bytes_trailing :
    ¬ListsExactly ShorterThanQueried.certificate true [ShorterThanQueried.entry] := by
  have lists := cert_bytes_iff ShorterThanQueried.ran ShorterThanQueried.delivers
    (Nat.le_of_eq ShorterThanQueried.length_eq)
  rw [lists, ShorterThanQueried.parsed]
  decide

end SkfService
