import SkfService.Provider.Types
import SkfService.Text.Utf8

/-! DER encoding of certificate requests, and the vendor's public-key blobs. -/

set_option autoImplicit false

namespace SkfService

open Text

def hexValue (c : Char) : Option Nat :=
  if '0' ≤ c ∧ c ≤ '9' then some (c.toNat - 48)
  else if 'a' ≤ c ∧ c ≤ 'f' then some (c.toNat - 87)
  else if 'A' ≤ c ∧ c ≤ 'F' then some (c.toNat - 55)
  else none

/-- Parses two characters as `u8::from_str_radix` does: digits, or a plus sign and one digit. -/
def hexPair (a b : Char) : Option UInt8 :=
  if a = '+' then (hexValue b).map UInt8.ofNat
  else do
    let high ← hexValue a
    let low ← hexValue b
    some (.ofNat (high * 16 + low))

/-- Pairs of bytes of a text. A pair that starts or ends inside a character panics; a pair that is
no number and an odd last byte contribute nothing. -/
def hexBytePairs : List UInt8 → Option (List UInt8)
  | a :: b :: rest =>
    if isContinuation a || rest.head?.any isContinuation then none
    else do
      let decoded ← hexBytePairs rest
      some ((hexPair (.ofNat a.toNat) (.ofNat b.toNat)).toList ++ decoded)
  | _ => some []

def hexToBytes (hex : String) : Option (List UInt8) := hexBytePairs (utf8 (trim hex))

def derEncodeLength (len : Nat) : List UInt8 :=
  if len < 128 then [.ofNat len]
  else if len < 256 then [0x81, .ofNat len]
  else [0x82, .ofNat (len / 256), .ofNat len]

def derWrap (tag : UInt8) (content : List UInt8) : List UInt8 :=
  tag :: derEncodeLength content.length ++ content

/-- An unsigned integer without leading zeros. An empty input underflows and panics. -/
def derEncodeInteger (bytes : List UInt8) : Option (List UInt8) :=
  if bytes = [] then none
  else
    let trimmed := match bytes.dropWhile (· == 0) with
      | [] => [0]
      | rest => rest
    let padded := if 0x80 ≤ trimmed.headD 0 then 0 :: trimmed else trimmed
    some (0x02 :: derEncodeLength padded.length ++ padded)

def derSequence (items : List (List UInt8)) : List UInt8 := derWrap 0x30 items.flatten

def derSet (items : List (List UInt8)) : List UInt8 := derWrap 0x31 items.flatten

def derOid (oidBytes : List UInt8) : List UInt8 := derWrap 0x06 oidBytes

def derUtf8String (s : String) : List UInt8 := derWrap 0x0C (utf8 s)

def derPrintableString (s : String) : List UInt8 := derWrap 0x13 (utf8 s)

def derBitString (content : List UInt8) : List UInt8 := derWrap 0x03 (0x00 :: content)

def derSmallInteger (val : UInt8) : List UInt8 := [0x02, 0x01, val]

def derContext0 (content : List UInt8) : List UInt8 := derWrap 0xA0 content

def OID_CN : List UInt8 := [0x55, 0x04, 0x03]
def OID_O : List UInt8 := [0x55, 0x04, 0x0A]
def OID_OU : List UInt8 := [0x55, 0x04, 0x0B]
def OID_C : List UInt8 := [0x55, 0x04, 0x06]
def OID_ST : List UInt8 := [0x55, 0x04, 0x08]
def OID_L : List UInt8 := [0x55, 0x04, 0x07]
def OID_E : List UInt8 := [0x2A, 0x86, 0x48, 0x86, 0xF7, 0x0D, 0x01, 0x09, 0x01]

def OID_SM2 : List UInt8 := [0x2A, 0x81, 0x1C, 0xCF, 0x55, 0x01, 0x82, 0x2D]
def OID_SM3_WITH_SM2 : List UInt8 := [0x2A, 0x81, 0x1C, 0xCF, 0x55, 0x01, 0x83, 0x75]
def OID_EC_PUBLIC_KEY : List UInt8 := [0x2A, 0x86, 0x48, 0xCE, 0x3D, 0x02, 0x01]
def OID_RSA : List UInt8 := [0x2A, 0x86, 0x48, 0x86, 0xF7, 0x0D, 0x01, 0x01, 0x01]
def OID_SHA256_WITH_RSA : List UInt8 := [0x2A, 0x86, 0x48, 0x86, 0xF7, 0x0D, 0x01, 0x01, 0x0B]

def attributeOid (key : String) : Option (List UInt8) :=
  match key with
  | "CN" => some OID_CN
  | "O" => some OID_O
  | "OU" => some OID_OU
  | "C" => some OID_C
  | "ST" => some OID_ST
  | "L" => some OID_L
  | "E" | "EMAIL" | "EMAILADDRESS" => some OID_E
  | _ => none

/-- The relative name of one comma-separated part; a part without `=` or with an unknown key has
none. -/
def buildRdn (toUppercase : String → String) (part : String) : Option (List UInt8) := do
  let (key, val) ← splitOnce '=' (trim part)
  let upper := toUppercase (trim key)
  let oid ← attributeOid upper
  let value := if upper = "C" then derPrintableString (trim val) else derUtf8String (trim val)
  some (derSet [derSequence [derOid oid, value]])

def buildSubjectDn (toUppercase : String → String) (subject : String) : List UInt8 :=
  derSequence ((split ',' subject).filterMap (buildRdn toUppercase))

def fitted (n : Nat) (bytes : List UInt8) : List UInt8 :=
  bytes.take n ++ List.replicate (n - bytes.length) 0

theorem fitted_length (n : Nat) (bytes : List UInt8) : (fitted n bytes).length = n := by
  simp only [fitted, List.length_append, List.length_take, List.length_replicate]
  omega

structure EccPublicKeyBlob where
  bitLen : UInt32
  xCoordinate : List UInt8
  yCoordinate : List UInt8
  xLength : xCoordinate.length = 64
  yLength : yCoordinate.length = 64

def eccBlob (key : EccPublicKey) : EccPublicKeyBlob :=
  ⟨key.bitLen, fitted 64 key.x, fitted 64 key.y, fitted_length _ _, fitted_length _ _⟩

structure RsaPublicKeyBlob where
  algId : UInt32
  bitLen : UInt32
  modulus : List UInt8
  publicExponent : List UInt8
  modulusLength : modulus.length = 256
  exponentLength : publicExponent.length = 4

def rsaBlob (key : RsaPublicKey) : RsaPublicKeyBlob :=
  ⟨key.algId, key.bitLen, fitted 256 key.modulus, fitted 4 key.exponent, fitted_length _ _,
    fitted_length _ _⟩

def leBytes (value : UInt32) : List UInt8 :=
  [.ofNat value.toNat, .ofNat (value.toNat / 256), .ofNat (value.toNat / 65536),
    .ofNat (value.toNat / 16777216)]

def EccPublicKeyBlob.structBytes (blob : EccPublicKeyBlob) : List UInt8 :=
  leBytes blob.bitLen ++ blob.xCoordinate ++ blob.yCoordinate

def RsaPublicKeyBlob.structBytes (blob : RsaPublicKeyBlob) : List UInt8 :=
  leBytes blob.algId ++ leBytes blob.bitLen ++ blob.modulus ++ blob.publicExponent

def ECCPUBLICKEYBLOB_SIZE : Nat := 132
def ECCSIGNATUREBLOB_SIZE : Nat := 128
def RSAPUBLICKEYBLOB_SIZE : Nat := 268

theorem eccPublicKeyBlob_size (blob : EccPublicKeyBlob) :
    blob.structBytes.length = ECCPUBLICKEYBLOB_SIZE := by
  simp [EccPublicKeyBlob.structBytes, leBytes, blob.xLength, blob.yLength, ECCPUBLICKEYBLOB_SIZE]

def buildSm2Spki (key : EccPublicKeyBlob) : List UInt8 :=
  let point := 0x04 :: (key.xCoordinate.drop 32 ++ key.yCoordinate.drop 32)
  derSequence [derSequence [derOid OID_EC_PUBLIC_KEY, derOid OID_SM2], derBitString point]

/-- A bit length beyond the modulus array slices out of range, one below 8 encodes an empty integer:
both panic. -/
def buildRsaSpki (key : RsaPublicKeyBlob) : Option (List UInt8) := do
  let keyLen := (key.bitLen / 8).toNat
  let modulus ← if keyLen ≤ key.modulus.length then some (key.modulus.take keyLen) else none
  let n ← derEncodeInteger modulus
  let e ← derEncodeInteger key.publicExponent
  some (derSequence [derSequence [derOid OID_RSA, [0x05, 0x00]], derBitString (derSequence [n, e])])

/-- The bytes `from..to` of a buffer; a range that is not inside it panics. -/
def slice (bytes : List UInt8) (start stop : Nat) : Option (List UInt8) :=
  if start ≤ stop ∧ stop ≤ bytes.length then some ((bytes.take stop).drop start) else none

end SkfService
