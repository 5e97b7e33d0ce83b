import SkfService.Asn1.Der
import SkfService.Text.Utf8

/-! Certification requests with an SM2 or an RSA key: their trees, and the reader of such trees. -/

set_option autoImplicit false

namespace Asn1

/-- One arc in base 128; every octet but the last has its high bit set. -/
def arcOctets (n : Nat) : List UInt8 :=
  (Nat.digits 128 (n / 128)).reverse.map (fun digit => .ofNat (128 + digit)) ++ [.ofNat (n % 128)]

/-- The contents of an object identifier, from its dotted form. -/
def identifier : List Nat → List UInt8
  | first :: second :: arcs => ((40 * first + second) :: arcs).flatMap arcOctets
  | _ => []

/-- The contents of a natural number: its octets, behind a zero where they are none or look
negative. -/
def naturalOctets (n : Nat) : List UInt8 :=
  if 0x80 ≤ (octets n).headD 0x80 then 0 :: octets n else octets n

def natural (n : Nat) : Node := .primitive .integer (naturalOctets n)

def naturalOf : Node → Option Nat
  | .primitive tag content =>
    if tag = .integer ∧ content.headD 0x80 < 0x80 then some (bigEndian content) else none
  | _ => none

theorem naturalOf_natural (n : Nat) : naturalOf (natural n) = some n := by
  have value := bigEndian_octets n
  simp only [natural, naturalOf, naturalOctets, true_and]
  split
  · next large => rw [if_pos (by rw [List.headD_cons]; decide), bigEndian_zero_cons, value]
  · next small => rw [if_pos (UInt8.not_le.mp small), value]

theorem natural_proper (n : Nat) : (natural n).Proper := by
  intro _
  change minimalInteger (naturalOctets n) = true
  have nonzero := octets_head n
  unfold naturalOctets
  generalize octets n = digits at nonzero
  cases digits with
  | nil => rfl
  | cons first rest =>
    split
    · next large =>
      have notSmall : ¬ first < 0x80 := UInt8.not_lt.mpr large
      simp [minimalInteger, notSmall]
    · next small =>
      rw [List.headD_cons] at small
      cases rest with
      | nil => rfl
      | cons second rest =>
        have notZero : first ≠ 0 := by
          rintro rfl
          exact nonzero rfl
        have notFull : first ≠ 0xFF := by
          rintro rfl
          exact small (by decide)
        simp [minimalInteger, notZero, notFull]

/-- Two naturals in a sequence: an RSA key, or the halves of a signature. -/
def pair (a b : Nat) : Node := .constructed .sequence [natural a, natural b]

def pairOf : Node → Option (Nat × Nat)
  | .constructed tag [first, second] =>
    if tag = .sequence then do
      let a ← naturalOf first
      let b ← naturalOf second
      some (a, b)
    else none
  | _ => none

def readPair (bytes : List UInt8) : Option (Nat × Nat) := do
  let node ← decode bytes
  pairOf node

theorem readPair_encode {a b : Nat} (short : (pair a b).encode.length ≤ 65536) :
    readPair (pair a b).encode = some (a, b) := by
  have isProper : (pair a b).Proper :=
    Node.proper_constructed ⟨natural_proper a, natural_proper b, trivial⟩
  have canonical := Node.canonical isProper (Node.short_of_length 65536 _ short)
  have read := (decode_eq_some_iff (pair a b).encode (pair a b)).mpr ⟨rfl, canonical⟩
  rw [readPair, read]
  simp only [pair, Option.bind_eq_bind, Option.bind_some, pairOf, if_true, naturalOf_natural]

def bits (value : List UInt8) : Node := .primitive .bitString (0 :: value)

theorem bits_proper (value : List UInt8) : (bits value).Proper := by
  intro _
  change properBits (0 :: value) = true
  simp [properBits, Nat.mod_one]

namespace Pkcs10

inductive AttributeType
  | commonName | organizationName | organizationalUnitName | countryName | stateOrProvinceName
  | localityName | emailAddress
deriving DecidableEq

def AttributeType.octets : AttributeType → List UInt8
  | commonName => identifier [2, 5, 4, 3]
  | organizationName => identifier [2, 5, 4, 10]
  | organizationalUnitName => identifier [2, 5, 4, 11]
  | countryName => identifier [2, 5, 4, 6]
  | stateOrProvinceName => identifier [2, 5, 4, 8]
  | localityName => identifier [2, 5, 4, 7]
  | emailAddress => identifier [1, 2, 840, 113549, 1, 9, 1]

def AttributeType.ofOctets (content : List UInt8) : Option AttributeType :=
  [commonName, organizationName, organizationalUnitName, countryName, stateOrProvinceName,
    localityName,
    emailAddress].find? fun type => type.octets == content

inductive DirectoryString
  | utf8 (text : String)
  | printable (text : String)
deriving DecidableEq

def DirectoryString.node : DirectoryString → Node
  | utf8 text => .primitive .utf8String (Text.utf8 text)
  | printable text => .primitive .printableString (Text.utf8 text)

structure Attribute where
  type : AttributeType
  value : DirectoryString
deriving DecidableEq

def Attribute.node (entry : Attribute) : Node :=
  .constructed .set
    [.constructed .sequence [.primitive .objectIdentifier entry.type.octets, entry.value.node]]

def stringOf (tag : Tag) (content : List UInt8) : Option DirectoryString := do
  let text ← Text.fromUtf8 content
  if tag = .utf8String then some (.utf8 text)
  else if tag = .printableString then some (.printable text)
  else none

def attributeOf : Node → Option Attribute
  | .constructed outer [.constructed inner [.primitive oid type, .primitive kind text]] =>
    if outer = .set ∧ inner = .sequence ∧ oid = .objectIdentifier then do
      let type ← AttributeType.ofOctets type
      let value ← stringOf kind text
      some ⟨type, value⟩
    else none
  | _ => none

def subjectNode (subject : List Attribute) : Node :=
  .constructed .sequence (subject.map Attribute.node)

def subjectOf : Node → Option (List Attribute)
  | .constructed tag names => if tag = .sequence then names.mapM attributeOf else none
  | _ => none

inductive PublicKey
  | sm2 (x y : Nat)
  | rsa (modulus exponent : Nat)
deriving DecidableEq

def PublicKey.Fits : PublicKey → Prop
  | sm2 x y => x < 256 ^ 32 ∧ y < 256 ^ 32
  | rsa _ _ => True

def ecPublicKey : List UInt8 := identifier [1, 2, 840, 10045, 2, 1]
def sm2Curve : List UInt8 := identifier [1, 2, 156, 10197, 1, 301]
def rsaEncryption : List UInt8 := identifier [1, 2, 840, 113549, 1, 1, 1]
def sm3WithSm2 : List UInt8 := identifier [1, 2, 156, 10197, 1, 501]
def sha256WithRsa : List UInt8 := identifier [1, 2, 840, 113549, 1, 1, 11]

def algorithm (type : List UInt8) (parameters : List Node) : Node :=
  .constructed .sequence (.primitive .objectIdentifier type :: parameters)

def PublicKey.node : PublicKey → Node
  | sm2 x y => .constructed .sequence
    [algorithm ecPublicKey [.primitive .objectIdentifier sm2Curve],
      bits (0x04 :: (fixed 32 x ++ fixed 32 y))]
  | rsa modulus exponent => .constructed .sequence
    [algorithm rsaEncryption [.primitive .null []], bits (pair modulus exponent).encode]

def pointOf : List UInt8 → Option PublicKey
  | [] => none
  | form :: coordinates =>
    if form = 0x04 ∧ coordinates.length = 64 then
      some (.sm2 (bigEndian (coordinates.take 32)) (bigEndian (coordinates.drop 32)))
    else none

def keyOf : Node → Option PublicKey
  | .constructed outer
      [.constructed inner [.primitive oid type, .primitive kind parameters],
        .primitive string (unused :: key)] =>
    if outer = .sequence ∧ inner = .sequence ∧ oid = .objectIdentifier ∧ string = .bitString ∧
      unused = 0 then
      if type = ecPublicKey ∧ kind = .objectIdentifier ∧ parameters = sm2Curve then pointOf key
      else if type = rsaEncryption ∧ kind = .null then
        (readPair key).map fun values => .rsa values.1 values.2
      else none
    else none
  | _ => none

inductive Signature
  | sm2 (r s : Nat)
  | rsa (value : List UInt8)
deriving DecidableEq

def Signature.algorithm : Signature → Node
  | sm2 _ _ => Pkcs10.algorithm sm3WithSm2 []
  | rsa _ => Pkcs10.algorithm sha256WithRsa [.primitive .null []]

def Signature.value : Signature → Node
  | sm2 r s => bits (pair r s).encode
  | rsa value => bits value

def signatureOf : Node → Node → Option Signature
  | .constructed outer [.primitive oid type], .primitive string (unused :: value) =>
    if outer = .sequence ∧ oid = .objectIdentifier ∧ type = sm3WithSm2 ∧ string = .bitString ∧
      unused = 0 then
      (readPair value).map fun halves => .sm2 halves.1 halves.2
    else none
  | .constructed outer [.primitive oid type, .primitive kind []],
      .primitive string (unused :: value) =>
    if outer = .sequence ∧ oid = .objectIdentifier ∧ type = sha256WithRsa ∧ kind = .null ∧
      string = .bitString ∧
      unused = 0 then some (.rsa value)
    else none
  | _, _ => none

structure Request where
  subject : List Attribute
  key : PublicKey
  signature : Signature
deriving DecidableEq

/-- The part of a request that is signed. -/
def infoNode (subject : List Attribute) (key : PublicKey) : Node :=
  .constructed .sequence [natural 0, subjectNode subject, key.node, .constructed .context0 []]

def Request.node (request : Request) : Node :=
  .constructed .sequence
    [infoNode request.subject request.key, request.signature.algorithm, request.signature.value]

def requestOf : Node → Option Request
  | .constructed outer [.constructed inner [version, name, spki, .constructed attributes []],
      algorithm, value] =>
    if outer = .sequence ∧ inner = .sequence ∧ naturalOf version = some 0 ∧
      attributes = .context0 then do
      let subject ← subjectOf name
      let key ← keyOf spki
      let signature ← signatureOf algorithm value
      some ⟨subject, key, signature⟩
    else none
  | _ => none

def parse (der : List UInt8) : Option Request := do
  let node ← decode der
  requestOf node

def parseSubject (der : List UInt8) : Option (List Attribute) := do
  let node ← decode der
  subjectOf node

section reading

theorem ofOctets_octets (type : AttributeType) :
    AttributeType.ofOctets type.octets = some type := by
  cases type <;> rfl

theorem stringOf_node (value : DirectoryString) :
    ∃ tag content, value.node = .primitive tag content ∧ stringOf tag content = some value := by
  cases value with
  | utf8 text =>
    refine ⟨.utf8String, Text.utf8 text, rfl, ?_⟩
    rw [stringOf, Text.fromUtf8_utf8]
    rfl
  | printable text =>
    refine ⟨.printableString, Text.utf8 text, rfl, ?_⟩
    rw [stringOf, Text.fromUtf8_utf8]
    rfl

theorem attributeOf_node (entry : Attribute) : attributeOf entry.node = some entry := by
  obtain ⟨tag, content, shape, read⟩ := stringOf_node entry.value
  rw [Attribute.node, shape, attributeOf, if_pos ⟨rfl, rfl, rfl⟩, ofOctets_octets, read]
  rfl

theorem subjectOf_node (subject : List Attribute) :
    subjectOf (subjectNode subject) = some subject := by
  rw [subjectNode, subjectOf, if_pos rfl]
  induction subject with
  | nil => rfl
  | cons entry rest ih =>
    rw [List.map_cons, List.mapM_cons, attributeOf_node, ih]
    rfl

theorem pointOf_fixed {x y : Nat} (fits : (PublicKey.sm2 x y).Fits) :
    pointOf (0x04 :: (fixed 32 x ++ fixed 32 y)) = some (.sm2 x y) := by
  have width : (fixed 32 x ++ fixed 32 y).length = 64 := by
    rw [List.length_append, fixed_length, fixed_length]
  have left : (fixed 32 x ++ fixed 32 y).take 32 = fixed 32 x := List.take_left' (fixed_length 32 x)
  have right : (fixed 32 x ++ fixed 32 y).drop 32 = fixed 32 y :=
    List.drop_left' (fixed_length 32 x)
  rw [pointOf, if_pos ⟨rfl, width⟩, left, right, bigEndian_fixed fits.1, bigEndian_fixed fits.2]

theorem keyOf_node {key : PublicKey} (fits : key.Fits) (short : key.node.Short 65536) :
    keyOf key.node = some key := by
  cases key with
  | sm2 x y =>
    rw [PublicKey.node, algorithm, bits, keyOf, if_pos ⟨rfl, rfl, rfl, rfl, rfl⟩,
      if_pos ⟨rfl, rfl, rfl⟩, pointOf_fixed fits]
  | rsa modulus exponent =>
    have otherKind : Tag.null ≠ .objectIdentifier := by decide
    have bound : (0 :: (pair modulus exponent).encode).length < 65536 := short.2.2.1
    rw [List.length_cons] at bound
    have read := readPair_encode (a := modulus) (b := exponent) (by omega)
    rw [PublicKey.node, algorithm, bits, keyOf, if_pos ⟨rfl, rfl, rfl, rfl, rfl⟩,
      if_neg (fun curve => otherKind curve.2.1), if_pos ⟨rfl, rfl⟩, read]
    rfl

theorem signatureOf_node {signature : Signature} (short : signature.value.Short 65536) :
    signatureOf signature.algorithm signature.value = some signature := by
  cases signature with
  | sm2 r s =>
    have bound : (0 :: (pair r s).encode).length < 65536 := short
    rw [List.length_cons] at bound
    have read := readPair_encode (a := r) (b := s) (by omega)
    rw [Signature.algorithm, Signature.value, algorithm, bits, signatureOf,
      if_pos ⟨rfl, rfl, rfl, rfl, rfl⟩, read]
    rfl
  | rsa value => rfl

theorem requestOf_node {request : Request} (fits : request.key.Fits)
    (short : request.node.Short 65536) :
    requestOf request.node = some request := by
  obtain ⟨-, ⟨-, -, -, keyShort, -⟩, -, valueShort, -⟩ := short
  have subject := subjectOf_node request.subject
  have key := keyOf_node fits keyShort
  have signature := signatureOf_node valueShort
  rw [Request.node, infoNode, requestOf, if_pos ⟨rfl, rfl, naturalOf_natural 0, rfl⟩, subject, key,
    signature]
  rfl

end reading

section shape

theorem algorithm_proper (type : List UInt8) {parameters : List Node}
    (inside : EachOf ProperContent parameters) :
    (algorithm type parameters).Proper :=
  Node.proper_constructed ⟨fun _ => rfl, inside⟩

theorem attribute_proper (entry : Attribute) : entry.node.Proper := by
  have value : entry.value.node.Proper := by
    cases entry.value <;> exact fun _ => rfl
  exact Node.proper_constructed ⟨Node.proper_constructed ⟨fun _ => rfl, value, trivial⟩, trivial⟩

theorem subject_proper (subject : List Attribute) : (subjectNode subject).Proper := by
  apply Node.proper_constructed
  induction subject with
  | nil => trivial
  | cons entry rest ih => exact ⟨attribute_proper entry, ih⟩

theorem key_proper (key : PublicKey) : key.node.Proper := by
  cases key with
  | sm2 x y =>
    exact Node.proper_constructed ⟨algorithm_proper ecPublicKey ⟨fun _ => rfl, trivial⟩,
      bits_proper _, trivial⟩
  | rsa modulus exponent =>
    exact Node.proper_constructed ⟨algorithm_proper rsaEncryption ⟨fun _ => rfl, trivial⟩,
      bits_proper _, trivial⟩

theorem signature_proper (signature : Signature) :
    signature.algorithm.Proper ∧ signature.value.Proper := by
  cases signature with
  | sm2 r s => exact ⟨algorithm_proper sm3WithSm2 trivial, bits_proper _⟩
  | rsa value => exact ⟨algorithm_proper sha256WithRsa ⟨fun _ => rfl, trivial⟩, bits_proper _⟩

theorem request_proper (request : Request) : request.node.Proper := by
  have info : (infoNode request.subject request.key).Proper :=
    Node.proper_constructed ⟨natural_proper 0, subject_proper request.subject,
      key_proper request.key,
      Node.proper_constructed trivial, trivial⟩
  obtain ⟨algorithm, value⟩ := signature_proper request.signature
  exact Node.proper_constructed ⟨info, algorithm, value, trivial⟩

end shape

section roundTrip

variable {request : Request}

theorem parseSubject_encode {subject : List Attribute} (short : (subjectNode subject).Short 65536) :
    parseSubject (subjectNode subject).encode = some subject := by
  have canonical := Node.canonical (subject_proper subject) short
  have read :=
    (decode_eq_some_iff (subjectNode subject).encode (subjectNode subject)).mpr ⟨rfl, canonical⟩
  rw [parseSubject, read]
  exact subjectOf_node subject

theorem request_canonical (short : request.node.Short 65536) : request.node.Each Canonical :=
  Node.canonical (request_proper request) short

theorem parse_encode (fits : request.key.Fits) (short : request.node.Short 65536) :
    parse request.node.encode = some request := by
  have read :=
    (decode_eq_some_iff request.node.encode request.node).mpr ⟨rfl, request_canonical short⟩
  rw [parse, read]
  exact requestOf_node fits short

end roundTrip

end Pkcs10

end Asn1
