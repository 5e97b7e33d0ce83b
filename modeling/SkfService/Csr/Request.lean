import SkfService.Asn1.Pkcs10
import SkfService.Crypto.Der

/-! What a certificate request says: the attributes of its subject text, and the key and the
signature that the provider returned for it. -/

set_option autoImplicit false

namespace SkfService

open Text Asn1

def attributeType (key : String) : Option Pkcs10.AttributeType :=
  match key with
  | "CN" => some .commonName
  | "O" => some .organizationName
  | "OU" => some .organizationalUnitName
  | "C" => some .countryName
  | "ST" => some .stateOrProvinceName
  | "L" => some .localityName
  | "E" | "EMAIL" | "EMAILADDRESS" => some .emailAddress
  | _ => none

/-- Countries are printable strings, all other values UTF-8 strings. -/
def attributeValue (type : Pkcs10.AttributeType) (text : String) : Pkcs10.DirectoryString :=
  if type = .countryName then .printable text else .utf8 text

/-- What one comma-separated part says: `key=value`, where the key names a type. -/
def partAttribute (toUppercase : String → String) (part : String) : Option Pkcs10.Attribute := do
  let (key, val) ← splitOnce '=' (trim part)
  let type ← attributeType (toUppercase (trim key))
  some ⟨type, attributeValue type (trim val)⟩

def subjectAttributes (toUppercase : String → String) (subject : String) : List Pkcs10.Attribute :=
  (split ',' subject).filterMap (partAttribute toUppercase)

inductive Issued
  | sm2 (key : EccPublicKey) (signature : List UInt8)
  | rsa (key : RsaPublicKey) (signature : List UInt8)

def RightAligned (array : List UInt8) : Prop :=
  array.length = 64 ∧ array.take 32 = List.replicate 32 0

namespace Issued

/-- The layout the vendor promises: right-aligned halves, or a modulus of whole bytes in its array. -/
def Fits : Issued → Prop
  | sm2 key signature =>
    RightAligned key.x ∧ RightAligned key.y ∧ RightAligned (signature.take 64) ∧
      RightAligned (signature.drop 64)
  | rsa key _ => key.bitLen.toNat % 8 = 0 ∧ 8 ≤ key.bitLen.toNat ∧ key.bitLen.toNat ≤ 2048 ∧
      key.modulus.length = 256 ∧ key.exponent.length = 4

def key : Issued → Pkcs10.PublicKey
  | sm2 key _ => .sm2 (bigEndian key.x) (bigEndian key.y)
  | rsa key _ => .rsa (bigEndian (key.modulus.take (key.bitLen.toNat / 8))) (bigEndian key.exponent)

def signature : Issued → Pkcs10.Signature
  | sm2 _ signature => .sm2 (bigEndian (signature.take 64)) (bigEndian (signature.drop 64))
  | rsa _ signature => .rsa signature

def request (issued : Issued) (subject : List Pkcs10.Attribute) : Pkcs10.Request :=
  ⟨subject, issued.key, issued.signature⟩

end Issued

section aligned

variable {array : List UInt8}

theorem RightAligned.tail_length (aligned : RightAligned array) : (array.drop 32).length = 32 := by
  rw [List.length_drop, aligned.1]

theorem RightAligned.value (aligned : RightAligned array) :
    bigEndian (array.drop 32) = bigEndian array := by
  have whole := List.take_append_drop 32 array
  rw [aligned.2] at whole
  rw [← bigEndian_zeros 32 (array.drop 32), whole]

theorem RightAligned.bounded (aligned : RightAligned array) : bigEndian array < 256 ^ 32 := by
  have bound := bigEndian_lt (array.drop 32)
  rwa [aligned.tail_length, aligned.value] at bound

end aligned

theorem Issued.Fits.key {issued : Issued} (fits : issued.Fits) : issued.key.Fits := by
  cases issued with
  | sm2 key signature => exact ⟨fits.1.bounded, fits.2.1.bounded⟩
  | rsa key signature => trivial

end SkfService
