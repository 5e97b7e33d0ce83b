import SkfService.Crypto.Encoding
import SkfService.Csr.Request
import SkfService.Domain.Crypto
import SkfService.Text.Pem

/-! The builders of a certificate request: each one writes a node of the request's tree. -/

set_option autoImplicit false

namespace SkfService

open Text Asn1

section subject

theorem attributeOid_eq (key : String) : attributeOid key = (attributeType key).map (·.octets) := by
  unfold attributeOid
  split <;> simp_all only [attributeType] <;> rfl

theorem country_iff {key : String} {type : Pkcs10.AttributeType}
    (found : attributeType key = some type) :
    key = "C" ↔ type = .countryName := by
  unfold attributeType at found
  split at found <;> cases found <;> simp_all

theorem attribute_write (type : Pkcs10.AttributeType) (text : String) :
    derSet [derSequence [derOid type.octets,
      if type = .countryName then derPrintableString text else derUtf8String text]] =
      derWrite (Pkcs10.Attribute.node ⟨type, attributeValue type text⟩) := by
  have value : (if type = .countryName then derPrintableString text else derUtf8String text) =
      derWrite (attributeValue type text).node := by
    unfold attributeValue
    split <;> rfl
  have sequence :=
    derSequence_write [.primitive .objectIdentifier type.octets, (attributeValue type text).node]
  have set := derSet_write [.constructed .sequence
    [.primitive .objectIdentifier type.octets, (attributeValue type text).node]]
  simp only [List.map_cons, List.map_nil] at sequence set
  rw [value, Pkcs10.Attribute.node, ← set, ← sequence]
  rfl

theorem buildRdn_write (toUppercase : String → String) (part : String) :
    buildRdn toUppercase part = (partAttribute toUppercase part).map fun entry =>
      derWrite entry.node := by
  unfold buildRdn partAttribute
  cases splitOnce '=' (trim part) with
  | none => rfl
  | some pieces =>
    obtain ⟨key, val⟩ := pieces
    simp only [Option.bind_eq_bind, Option.bind_some, attributeOid_eq]
    generalize toUppercase (trim key) = upper
    cases named : attributeType upper with
    | none => rfl
    | some type =>
      have written := attribute_write type (trim val)
      simp only [Option.map_some, Option.bind_some, country_iff named, written]

theorem buildSubjectDn_write (toUppercase : String → String) (subject : String) :
    buildSubjectDn toUppercase subject = derWrite
      (Pkcs10.subjectNode (subjectAttributes toUppercase subject)) := by
  have parts : (split ',' subject).filterMap (buildRdn toUppercase) =
      ((subjectAttributes toUppercase subject).map Pkcs10.Attribute.node).map derWrite := by
    rw [subjectAttributes, List.map_map, List.map_filterMap]
    apply List.filterMap_congr
    intro part _
    exact buildRdn_write toUppercase part
  rw [buildSubjectDn, parts, derSequence_write]
  rfl

end subject

section key

theorem fitted_self {n : Nat} {bytes : List UInt8} (full : bytes.length = n) :
    fitted n bytes = bytes := by
  subst full
  rw [fitted, Nat.sub_self, List.replicate_zero, List.append_nil, List.take_length]

theorem algorithm_write (type : List UInt8) (parameters : List Node) :
    derSequence (derOid type :: parameters.map derWrite) =
      derWrite (Pkcs10.algorithm type parameters) :=
  derSequence_write (.primitive .objectIdentifier type :: parameters)

def EccPublicKeyBlob.key (blob : EccPublicKeyBlob) : Pkcs10.PublicKey :=
  .sm2 (bigEndian (blob.xCoordinate.drop 32)) (bigEndian (blob.yCoordinate.drop 32))

theorem buildSm2Spki_write (blob : EccPublicKeyBlob) :
    buildSm2Spki blob = derWrite blob.key.node := by
  have fixed_drop {coordinate : List UInt8} (length : coordinate.length = 64) :
      Asn1.fixed 32 (bigEndian (coordinate.drop 32)) = coordinate.drop 32 := by
    have back := fixed_bigEndian (coordinate.drop 32)
    rwa [List.length_drop, length] at back
  have algorithm :=
    algorithm_write Pkcs10.ecPublicKey [.primitive .objectIdentifier Pkcs10.sm2Curve]
  have whole := derSequence_write [Pkcs10.algorithm Pkcs10.ecPublicKey
    [.primitive .objectIdentifier Pkcs10.sm2Curve],
    bits (0x04 :: (blob.xCoordinate.drop 32 ++ blob.yCoordinate.drop 32))]
  simp only [List.map_cons, List.map_nil] at whole algorithm
  rw [EccPublicKeyBlob.key, Pkcs10.PublicKey.node, fixed_drop blob.xLength, fixed_drop blob.yLength,
    ← whole, ← algorithm]
  rfl

/-- The integers of two short arrays, which no length limits. -/
theorem pair_short {a b : List UInt8} (short : a.length + b.length < 65000) :
    (pair (bigEndian a) (bigEndian b)).Short 65536 := by
  have lengthA := naturalOctets_length a
  have lengthB := naturalOctets_length b
  have first := derWrap_length_le (Tag.octet .integer false) (naturalOctets (bigEndian a))
  have second := derWrap_length_le (Tag.octet .integer false) (naturalOctets (bigEndian b))
  have whole := derWrap_length_le (Tag.octet .sequence true)
    (derWriteAll [natural (bigEndian a), natural (bigEndian b)])
  apply short_of_derWrite
  simp only [natural, derWrite, derWriteAll, List.append_nil, List.length_append] at whole
  simp only [pair, natural, derWrite, derWriteAll, List.append_nil]
  omega

theorem pair_write {a b : List UInt8} (someA : a ≠ []) (someB : b ≠ [])
    (short : a.length + b.length < 65000) :
    ∃ first second, derEncodeInteger a = some first ∧ derEncodeInteger b = some second ∧
      derSequence [first, second] = (pair (bigEndian a) (bigEndian b)).encode := by
  have sequence := derSequence_write [natural (bigEndian a), natural (bigEndian b)]
  simp only [List.map_cons, List.map_nil] at sequence
  refine ⟨_, _, derEncodeInteger_write someA, derEncodeInteger_write someB, ?_⟩
  rw [sequence, ← derWrite_eq _ (pair_short short)]
  rfl

/-- The numbers of an RSA public key as the request holds it: the modulus is as long as the key
says. -/
def RsaPublicKeyBlob.key (blob : RsaPublicKeyBlob) : Pkcs10.PublicKey :=
  .rsa (bigEndian (blob.modulus.take (blob.bitLen.toNat / 8))) (bigEndian blob.publicExponent)

def RsaPublicKeyBlob.Sliceable (blob : RsaPublicKeyBlob) : Prop :=
  8 ≤ blob.bitLen.toNat ∧ blob.bitLen.toNat < 2056

theorem buildRsaSpki_write {blob : RsaPublicKeyBlob} (sliceable : blob.Sliceable) :
    buildRsaSpki blob = some (derWrite blob.key.node) := by
  obtain ⟨least, most⟩ := sliceable
  have width : (blob.bitLen / 8).toNat = blob.bitLen.toNat / 8 := UInt32.toNat_div _ _
  have inside : blob.bitLen.toNat / 8 ≤ blob.modulus.length := by
    rw [blob.modulusLength]
    omega
  have length : (blob.modulus.take (blob.bitLen.toNat / 8)).length = blob.bitLen.toNat / 8 :=
    List.length_take_of_le inside
  have someModulus : blob.modulus.take (blob.bitLen.toNat / 8) ≠ [] := by
    apply List.ne_nil_of_length_pos
    omega
  have someExponent : blob.publicExponent ≠ [] := by
    apply List.ne_nil_of_length_pos
    rw [blob.exponentLength]
    decide
  obtain ⟨n, e, writtenN, writtenE, written⟩ :=
    pair_write someModulus someExponent (by rw [length, blob.exponentLength]; omega)
  have algorithm := algorithm_write Pkcs10.rsaEncryption [.primitive .null []]
  have whole := derSequence_write [Pkcs10.algorithm Pkcs10.rsaEncryption [.primitive .null []],
    bits (pair (bigEndian (blob.modulus.take (blob.bitLen.toNat / 8)))
      (bigEndian blob.publicExponent)).encode]
  simp only [List.map_cons, List.map_nil] at whole algorithm
  rw [RsaPublicKeyBlob.key, Pkcs10.PublicKey.node, ← whole, ← algorithm, ← written, buildRsaSpki]
  simp only [width, if_pos inside, Option.bind_eq_bind, Option.bind_some, writtenN, writtenE]
  rfl

/-- A key outside of these bit lengths has no encoding: the modulus slice or the empty integer
panics. -/
theorem buildRsaSpki_isSome_iff (blob : RsaPublicKeyBlob) :
    (buildRsaSpki blob).isSome ↔ blob.Sliceable := by
  constructor
  · intro built
    have width : (blob.bitLen / 8).toNat = blob.bitLen.toNat / 8 := UInt32.toNat_div _ _
    have length := blob.modulusLength
    by_cases inside : blob.bitLen.toNat / 8 ≤ blob.modulus.length
    · simp only [buildRsaSpki, width, if_pos inside, Option.bind_eq_bind, Option.bind_some] at built
      by_cases zero : blob.bitLen.toNat / 8 = 0
      · rw [zero, List.take_zero, derEncodeInteger, if_pos rfl, Option.bind_none] at built
        cases built
      · exact ⟨by omega, by omega⟩
    · simp only [buildRsaSpki, width, if_neg inside, Option.bind_eq_bind, Option.bind_none] at built
      cases built
  · intro sliceable
    rw [buildRsaSpki_write sliceable]
    rfl

end key

section request

/-- The values at the ends of the two arrays of a signature. -/
def signatureHalves (signature : List UInt8) : Pkcs10.Signature :=
  .sm2 (bigEndian ((signature.take 64).drop 32)) (bigEndian ((signature.take 128).drop 96))

theorem sm2Halves_write {signature : List UInt8} (long : 128 ≤ signature.length) :
    ∃ r s rDer sDer, slice signature 32 64 = some r ∧ derEncodeInteger r = some rDer ∧
      slice signature 96 128 = some s ∧ derEncodeInteger s = some sDer ∧
      derBitString (derSequence [rDer, sDer]) = derWrite (signatureHalves signature).value := by
  have rLength : ((signature.take 64).drop 32).length = 32 := by
    rw [List.length_drop, List.length_take_of_le (by omega)]
  have sLength : ((signature.take 128).drop 96).length = 32 := by
    rw [List.length_drop, List.length_take_of_le (by omega)]
  obtain ⟨rDer, sDer, rWritten, sWritten, written⟩ :=
    pair_write (List.ne_nil_of_length_pos (by rw [rLength]; decide))
      (List.ne_nil_of_length_pos (by rw [sLength]; decide))
      (by rw [rLength, sLength]; decide)
  refine ⟨_, _, rDer, sDer, if_pos ⟨by omega, by omega⟩, rWritten, if_pos ⟨by omega, by omega⟩,
    sWritten, ?_⟩
  rw [written]
  rfl

theorem tbsOf_write (ctx : SkfContext) (subject : String) (key : Pkcs10.PublicKey) :
    CreatePKCS10.tbsOf ctx subject (derWrite key.node) =
      derWrite (Pkcs10.infoNode (subjectAttributes ctx.platform.toUppercase subject) key) := by
  have whole := derSequence_write [natural 0,
    Pkcs10.subjectNode (subjectAttributes ctx.platform.toUppercase subject),
    key.node, .constructed .context0 []]
  simp only [List.map_cons, List.map_nil] at whole
  rw [Pkcs10.infoNode, ← whole, CreatePKCS10.tbsOf, buildSubjectDn_write]
  rfl

theorem signatureAlgorithm_sm2 (signature : List UInt8) :
    CreatePKCS10.signatureAlgorithm true = derWrite (signatureHalves signature).algorithm :=
  algorithm_write Pkcs10.sm3WithSm2 []

theorem signatureAlgorithm_rsa (value : List UInt8) :
    CreatePKCS10.signatureAlgorithm false = derWrite (Pkcs10.Signature.rsa value).algorithm :=
  algorithm_write Pkcs10.sha256WithRsa [.primitive .null []]

theorem csrDer_write (ctx : SkfContext) (subject : String) (key : Pkcs10.PublicKey)
    (signature : Pkcs10.Signature) :
    derSequence [CreatePKCS10.tbsOf ctx subject (derWrite key.node), derWrite signature.algorithm,
      derWrite signature.value] =
      derWrite (Pkcs10.Request.node ⟨subjectAttributes ctx.platform.toUppercase subject, key,
        signature⟩) := by
  rw [tbsOf_write]
  exact derSequence_write [Pkcs10.infoNode (subjectAttributes ctx.platform.toUppercase subject) key,
    signature.algorithm, signature.value]

end request

section pem

variable {cs : List Char}

theorem joinLines_wrapColumns {column : Nat} (small : column < 64) (plain : '\n' ∉ cs) :
    Pem.joinLines column
      (CreatePKCS10.wrapColumns column cs ++ if (column + cs.length) % 64 = 0 then [] else ['\n']) =
        some cs := by
  -- On the text, with the column that the line has reached.
  induction cs generalizing column with
  | nil =>
    rw [CreatePKCS10.wrapColumns, List.length_nil, Nat.add_zero, List.nil_append]
    split
    · next full =>
      have zero : column = 0 := by omega
      rw [zero]
      rfl
    · next started => exact Pem.joinLines_last (by omega)
  | cons c rest ih =>
    rw [List.mem_cons, not_or] at plain
    obtain ⟨here, later⟩ := plain
    rw [CreatePKCS10.wrapColumns]
    split
    · next full =>
      have count : (column + (c :: rest).length) % 64 = (0 + rest.length) % 64 := by
        rw [List.length_cons]
        omega
      rw [count, List.cons_append, List.cons_append, Pem.joinLines_char small (Ne.symm here), full,
        Pem.joinLines_break, ih (by decide) later]
      rfl
    · next open_ =>
      have count : column + (c :: rest).length = column + 1 + rest.length := by
        rw [List.length_cons]
        omega
      rw [count, List.cons_append, Pem.joinLines_char small (Ne.symm here), ih (by omega) later]
      rfl

/-- Whether the text ends in a break tells whether its last line is full. -/
theorem wrapColumns_last {column : Nat} (small : column < 64) (plain : '\n' ∉ cs)
    {front : List Char} (started : front.getLast? = some '\n' ↔ column = 0) :
    (front ++ CreatePKCS10.wrapColumns column cs).getLast? = some '\n' ↔
      (column + cs.length) % 64 = 0 := by
  -- The break stands after the last column only, and the column counts up to it.
  induction cs generalizing column front with
  | nil =>
    rw [CreatePKCS10.wrapColumns, List.append_nil, started, List.length_nil]
    omega
  | cons c rest ih =>
    rw [List.mem_cons, not_or] at plain
    obtain ⟨here, later⟩ := plain
    rw [CreatePKCS10.wrapColumns]
    split
    · next full =>
      have ended : (front ++ [c, '\n']).getLast? = some '\n' ↔ 0 = 0 := by simp
      have last := ih (by decide) later ended
      rw [List.append_assoc] at last
      rw [List.length_cons]
      refine last.trans ?_
      omega
    · next open_ =>
      have running : (front ++ [c]).getLast? = some '\n' ↔ column + 1 = 0 := by
        rw [List.getLast?_concat, Option.some.injEq]
        constructor
        · intro same
          exact absurd same.symm here
        · intro impossible
          cases impossible
      have last := ih (by omega) later running
      rw [List.append_assoc] at last
      rw [List.length_cons]
      refine last.trans ?_
      omega

/-- The break that the writer adds is the one the last line lacks. -/
theorem pemOf_eq (der : List UInt8) :
    CreatePKCS10.pemOf der = .ofList (Pem.header "CERTIFICATE REQUEST" ++
      (CreatePKCS10.wrapColumns 0 (Base64.encodeChars der) ++
        if (0 + (Base64.encodeChars der).length) % 64 = 0 then []
          else ['\n']) ++ Pem.footer "CERTIFICATE REQUEST") := by
  have plain := Base64.newline_not_mem_encodeChars der
  have chars : (Base64.encode der).toList = Base64.encodeChars der := String.toList_ofList
  have started : (Pem.header "CERTIFICATE REQUEST").getLast? = some '\n' ↔ 0 = 0 := by decide
  have last := wrapColumns_last (by decide) plain started
  have header : "-----BEGIN CERTIFICATE REQUEST-----\n".toList =
      Pem.header "CERTIFICATE REQUEST" := by decide
  have footer : "-----END CERTIFICATE REQUEST-----".toList = Pem.footer "CERTIFICATE REQUEST" := by
    decide
  rw [CreatePKCS10.pemOf, chars, header, footer]
  congr 2
  by_cases full : (0 + (Base64.encodeChars der).length) % 64 = 0
  · rw [if_pos full, if_pos (last.mpr full), List.append_nil]
  · rw [if_neg full, if_neg (fun ended => full (last.mp ended)), List.append_assoc]

theorem decode_pemOf (der : List UInt8) :
    Pem.decode "CERTIFICATE REQUEST" (CreatePKCS10.pemOf der) = some der := by
  have plain := Base64.newline_not_mem_encodeChars der
  have lines := joinLines_wrapColumns (show 0 < 64 by decide) plain
  rw [pemOf_eq]
  exact Pem.decode_framed lines (Base64.decodeChars_encodeChars der)

end pem

end SkfService
