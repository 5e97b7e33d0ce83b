import SkfService.Csr.RoundTrip
import SkfService.Text.Trim

/-! The lengths in a certificate request: the encoder writes at most two length octets, which is
enough for a request of at most 65535 bytes and not for a longer one. -/

set_option autoImplicit false

namespace SkfService

open Text Asn1 Interaction Program

section sizes

def attributeSize (entry : Pkcs10.Attribute) : Nat :=
  let text := match entry.value with
    | .utf8 text => text
    | .printable text => text
  headed (headed (headed entry.type.octets.length + headed (utf8 text).length))

def subjectSize (subject : List Pkcs10.Attribute) : Nat := headed (subject.map attributeSize).sum

def pairSize (a b : Nat) : Nat :=
  headed (headed (naturalOctets a).length + headed (naturalOctets b).length)

def keySize : Pkcs10.PublicKey → Nat
  | .sm2 _ _ => 91
  | .rsa modulus exponent => headed (15 + headed (1 + pairSize modulus exponent))

def signatureSize : Pkcs10.Signature → Nat
  | .sm2 r s => 12 + headed (1 + pairSize r s)
  | .rsa value => 15 + headed (1 + value.length)

/-- The bytes inside of the outermost sequence of a request. -/
def requestSize (request : Pkcs10.Request) : Nat :=
  headed (3 + subjectSize request.subject + keySize request.key + 2) +
    signatureSize request.signature

theorem derWrite_primitive_length (tag : Tag) (content : List UInt8) :
    (derWrite (.primitive tag content)).length = headed content.length := derWrap_length _ _

theorem derWrite_constructed_length (tag : Tag) (items : List Node) :
    (derWrite (.constructed tag items)).length = headed (derWriteAll items).length :=
  derWrap_length _ _

theorem derWriteAll_length (items : List Node) :
    (derWriteAll items).length = (items.map fun item => (derWrite item).length).sum := by
  induction items with
  | nil => rfl
  | cons item rest ih => rw [derWriteAll, List.length_append, ih, List.map_cons, List.sum_cons]

theorem attribute_length (entry : Pkcs10.Attribute) :
    (derWrite entry.node).length = attributeSize entry := by
  obtain ⟨type, value⟩ := entry
  cases value <;>
    simp only [Pkcs10.Attribute.node, Pkcs10.DirectoryString.node, derWrite_constructed_length,
      derWriteAll_length, List.map_cons, List.map_nil, derWrite_primitive_length, List.sum_cons,
      List.sum_nil, Nat.add_zero, attributeSize]

theorem subject_length (subject : List Pkcs10.Attribute) :
    (derWrite (Pkcs10.subjectNode subject)).length = subjectSize subject := by
  have sizes : (fun item => (derWrite item).length) ∘ Pkcs10.Attribute.node = attributeSize := by
    funext entry
    exact attribute_length entry
  rw [Pkcs10.subjectNode, derWrite_constructed_length, derWriteAll_length, List.map_map, sizes,
    subjectSize]

theorem pair_length (a b : Nat) : (derWrite (pair a b)).length = pairSize a b := by
  simp only [pair, natural, derWrite_constructed_length, derWriteAll_length, List.map_cons,
    List.map_nil, derWrite_primitive_length, List.sum_cons, List.sum_nil, Nat.add_zero, pairSize]

def keyTrees : Pkcs10.PublicKey → List Node
  | .sm2 _ _ => []
  | .rsa modulus exponent => [pair modulus exponent]

def signatureTrees : Pkcs10.Signature → List Node
  | .sm2 r s => [pair r s]
  | .rsa _ => []

def requestLengths (request : Pkcs10.Request) : List Nat :=
  derLengthsAll (keyTrees request.key ++ signatureTrees request.signature) ++
    derLengths request.node

theorem key_length {key : Pkcs10.PublicKey}
    (short : EachOf (fun _ _ content => content.length < 65536) (keyTrees key)) :
    (derWrite key.node).length = keySize key := by
  cases key with
  | sm2 x y =>
    have curve : Pkcs10.ecPublicKey.length = 7 ∧ Pkcs10.sm2Curve.length = 8 := by decide
    simp only [Pkcs10.PublicKey.node, Pkcs10.algorithm, bits, derWrite_constructed_length,
      derWriteAll_length, List.map_cons, List.map_nil, derWrite_primitive_length, List.sum_cons,
      List.sum_nil, List.length_cons, List.length_append, fixed_length, curve]
    rfl
  | rsa modulus exponent =>
    have type : Pkcs10.rsaEncryption.length = 9 := by decide
    have written := derWrite_eq _ short.1
    simp only [Pkcs10.PublicKey.node, Pkcs10.algorithm, bits, derWrite_constructed_length,
      derWriteAll_length, List.map_cons, List.map_nil, derWrite_primitive_length, List.sum_cons,
      List.sum_nil, List.length_cons, ← written, pair_length, type, keySize, Nat.add_zero,
      Nat.add_comm (pairSize modulus exponent) 1]
    rfl

theorem signature_length {signature : Pkcs10.Signature}
    (short : EachOf (fun _ _ content => content.length < 65536) (signatureTrees signature)) :
    (derWrite signature.algorithm).length + (derWrite signature.value).length =
      signatureSize signature := by
  cases signature with
  | sm2 r s =>
    have type : Pkcs10.sm3WithSm2.length = 8 := by decide
    have written := derWrite_eq _ short.1
    simp only [Pkcs10.Signature.algorithm, Pkcs10.Signature.value, Pkcs10.algorithm, bits,
      derWrite_constructed_length, derWriteAll_length, List.map_cons, List.map_nil,
      derWrite_primitive_length, List.sum_cons, List.sum_nil, List.length_cons, ← written,
      pair_length, type, signatureSize, Nat.add_zero, Nat.add_comm (pairSize r s) 1]
    rfl
  | rsa value =>
    have type : Pkcs10.sha256WithRsa.length = 9 := by decide
    simp only [Pkcs10.Signature.algorithm, Pkcs10.Signature.value, Pkcs10.algorithm, bits,
      derWrite_constructed_length, derWriteAll_length, List.map_cons, List.map_nil,
      derWrite_primitive_length, List.sum_cons, List.sum_nil, List.length_cons, type, signatureSize,
      Nat.add_zero, Nat.add_comm value.length 1]
    rfl

theorem request_length {request : Pkcs10.Request}
    (short : EachOf (fun _ _ content => content.length < 65536)
      (keyTrees request.key ++ signatureTrees request.signature)) :
    (derWriteAll [Pkcs10.infoNode request.subject request.key, request.signature.algorithm,
      request.signature.value]).length = requestSize request := by
  obtain ⟨keyShort, signatureShort⟩ := eachOf_append.mp short
  have version : (derWrite (natural 0)).length = 3 := by decide
  have attributes : (derWrite (.constructed .context0 [])).length = 2 := by decide
  have signature := signature_length signatureShort
  rw [derWriteAll_length]
  simp only [List.map_cons, List.map_nil, List.sum_cons, List.sum_nil, Nat.add_zero,
    Pkcs10.infoNode, derWrite_constructed_length, derWriteAll_length, version, attributes,
    subject_length, key_length keyShort, signature]
  rw [requestSize, Nat.add_assoc, Nat.add_assoc 3]

theorem requestLengths_iff {request : Pkcs10.Request}
    (short : EachOf (fun _ _ content => content.length < 65536)
      (keyTrees request.key ++ signatureTrees request.signature)) :
    (∀ n ∈ requestLengths request, n ≤ 65535) ↔ requestSize request ≤ 65535 := by
  rw [← request_length short]
  constructor
  · intro small
    apply small
    exact List.mem_append_right _ (List.mem_append_right _ (List.mem_singleton_self _))
  · intro small n member
    rcases List.mem_append.mp member with nested | tree
    · have bounded := derLengthsAll_small _ short n nested
      omega
    · rcases List.mem_append.mp tree with inside | whole
      · have below := derLengthsAll_lt _ n inside
        omega
      · rw [List.mem_singleton.mp whole]
        exact small

/-- What is written decodes to the request as soon as its size fits. -/
theorem decode_request_iff {request : Pkcs10.Request}
    (short : EachOf (fun _ _ content => content.length < 65536)
      (keyTrees request.key ++ signatureTrees request.signature)) :
    decode (derWrite request.node) = some request.node ↔ requestSize request ≤ 65535 := by
  rw [decode_eq_some_iff]
  constructor
  · rintro ⟨same, canonical⟩
    by_contra large
    rw [← request_length short] at large
    exact derWrap_ne_element .sequence true (by omega) canonical.1.1 same
  · intro small
    have fits := (requestLengths_iff short).mpr small
    have treeShort : request.node.Short 65536 := by
      apply short_of_derLengths
      intro n member
      have bounded := fits n (List.mem_append_right _ member)
      omega
    exact ⟨derWrite_eq _ treeShort, Pkcs10.request_canonical treeShort⟩

theorem draft_short (issued : Issued) (subject : List Pkcs10.Attribute) :
    EachOf (fun _ _ content => content.length < 65536)
      (keyTrees (issued.draft subject).key ++ signatureTrees (issued.draft subject).signature) := by
  cases issued with
  | sm2 key signature =>
    have first := List.length_take_le 64 signature
    have second := List.length_take_le 128 signature
    refine ⟨pair_short ?_, trivial⟩
    rw [List.length_drop, List.length_drop]
    omega
  | rsa key signature =>
    have modulus := List.length_take_le' ((rsaBlob key).bitLen.toNat / 8) (rsaBlob key).modulus
    rw [(rsaBlob key).modulusLength] at modulus
    refine ⟨pair_short ?_, trivial⟩
    rw [(rsaBlob key).exponentLength]
    omega

end sizes

/-- A run that answers with a request has encoded only lengths that fit, and its text states them,
just for the requests of at most 65535 bytes. -/
theorem csr_lengths_iff {ctx : SkfContext} {params : Params} {lang : Language}
    {trace : List (Event Skf)} {response : RpcResponse} {subject pem : String} {issued : Issued}
    (ran : Yields (CreatePKCS10.handle ctx params lang) trace response)
    (named : params.str 3 = some subject)
    (answered : response.result.member "pem" = some (.string pem))
    (returned : issued.ReturnedIn trace) :
    ((∀ n ∈ requestLengths (issued.draft (subjectAttributes ctx.platform.toUppercase subject)),
      n ≤ 65535) ↔
        requestSize (issued.draft (subjectAttributes ctx.platform.toUppercase subject)) ≤ 65535) ∧
      ((∃ der, Pem.decode "CERTIFICATE REQUEST" pem = some der ∧
          decode der =
            some (issued.draft (subjectAttributes ctx.platform.toUppercase subject)).node) ↔
        requestSize (issued.draft (subjectAttributes ctx.platform.toUppercase subject)) ≤
          65535) := by
  rcases drafted_of_yields named ran with empty |
    ⟨drafted, container, digest, bits, hash, -, calls, written⟩
  · rw [empty] at answered
    cases answered
  -- A run asks for one key and one signature, which fixes what was issued.
  · obtain rfl := returned.unique calls
    rw [answered, Option.some.injEq, Json.string.injEq] at written
    have short := draft_short issued (subjectAttributes ctx.platform.toUppercase subject)
    refine ⟨requestLengths_iff short, ?_⟩
    rw [← decode_request_iff short, written]
    constructor
    · rintro ⟨der, unwrapped, read⟩
      rw [decode_pemOf, Option.some.injEq] at unwrapped
      rw [unwrapped]
      exact read
    · intro read
      exact ⟨_, decode_pemOf _, read⟩

theorem csr_lengths_short :
    (∀ n ∈ requestLengths ((Issued.rsa Issuing.key [9, 8]).draft
        (subjectAttributes (SkfContext.serving []).platform.toUppercase "CN=Test,C=CN")),
          n ≤ 65535) ∧
      ∃ der, Pem.decode "CERTIFICATE REQUEST" (Issuing.pem "CN=Test,C=CN") = some der ∧
        decode der = some ((Issued.rsa Issuing.key [9, 8]).draft
          (subjectAttributes (SkfContext.serving []).platform.toUppercase
            "CN=Test,C=CN")).node := by
  have iffs :=
    csr_lengths_iff (Issuing.ran "CN=Test,C=CN") rfl (pem_member _ _ _ _) (Issuing.returned _)
  have size : requestSize ((Issued.rsa Issuing.key [9, 8]).draft
      (subjectAttributes (SkfContext.serving []).platform.toUppercase "CN=Test,C=CN")) ≤ 65535 := by
        decide
  exact ⟨iffs.1.mpr size, iffs.2.mpr size⟩

section plain

variable {cs : List Char}

theorem subjectAttributes_plain {toUppercase : String → String} (upper : toUppercase "CN" = "CN")
    (plain : ∀ c ∈ cs, isWhitespace c = false) (single : ',' ∉ cs) :
    subjectAttributes toUppercase (.ofList ('C' :: 'N' :: '=' :: cs)) =
      [⟨.commonName, .utf8 (.ofList cs)⟩] := by
  -- Without a comma the subject is one part, and without spaces nothing is trimmed.
  have whole : split ',' (.ofList ('C' :: 'N' :: '=' :: cs)) =
      [.ofList ('C' :: 'N' :: '=' :: cs)] := by
    rw [split, String.toList_ofList, List.splitOn, List.splitOnP_eq_singleton]
    · rfl
    · intro c member
      simp only [List.mem_cons] at member
      rcases member with rfl | rfl | rfl | member
      · rfl
      · rfl
      · rfl
      · rw [beq_eq_false_iff_ne]
        rintro rfl
        exact single member
  have untrimmed : trim (.ofList ('C' :: 'N' :: '=' :: cs)) =
      .ofList ('C' :: 'N' :: '=' :: cs) := by
    apply trim_plain
    intro c member
    simp only [List.mem_cons] at member
    rcases member with rfl | rfl | rfl | member
    · rfl
    · rfl
    · rfl
    · exact plain c member
  have pieces : splitOnce '=' (.ofList ('C' :: 'N' :: '=' :: cs)) = some ("CN", .ofList cs) := by
    rw [splitOnce, String.toList_ofList]
    rfl
  have key : trim "CN" = "CN" := by decide
  rw [subjectAttributes, whole, List.filterMap_cons, List.filterMap_nil, partAttribute, untrimmed,
    pieces]
  simp only [Option.bind_eq_bind, Option.bind_some, key, upper, trim_plain plain]
  rfl

end plain

def MAX_WS_MESSAGE_BYTES : Nat := 1024 * 1024

namespace Overlong

/-! Subjects that their frames admit and the encoder does not. -/

variable {n : Nat}

def text (n : Nat) : String := .ofList (List.replicate n 'a')
def subject (n : Nat) : String := .ofList ('C' :: 'N' :: '=' :: List.replicate n 'a')

def opening : String := "\x7b\"method\":\"CreatePKCS10\",\"params\":[\"GM3000\",\"dev\",\"app\",\""
def ending : String := "\",\"RSA\",null,\"c1\"]\x7d"
def frame (subject : String) : String := opening ++ subject ++ ending

def issued : Issued := .rsa Issuing.key [9, 8]

theorem frame_length (small : n ≤ 262000) :
    (utf8 (frame (subject n))).length ≤ MAX_WS_MESSAGE_BYTES := by
  have bytes := utf8_length_le (frame (subject n))
  have front : opening.toList.length = 57 := by decide
  have back : ending.toList.length = 19 := by decide
  have chars : (frame (subject n)).toList.length = 57 + (n + 3) + 19 := by
    rw [frame, String.toList_append, String.toList_append, List.length_append, List.length_append,
      front, back, subject, String.toList_ofList, List.length_cons, List.length_cons,
      List.length_cons, List.length_replicate]
  have limit : MAX_WS_MESSAGE_BYTES = 1048576 := rfl
  omega

theorem attributes : subjectAttributes (SkfContext.serving []).platform.toUppercase (subject n) =
    [⟨.commonName, .utf8 (text n)⟩] := by
  apply subjectAttributes_plain
  · decide
  · intro c member
    rw [List.eq_of_mem_replicate member]
    rfl
  · intro member
    exact absurd (List.eq_of_mem_replicate member) (by decide)

theorem le_headed (n : Nat) : n ≤ headed n := by
  unfold headed
  split
  · omega
  · split <;> omega

/-- A request is longer than each text in it. -/
theorem le_requestSize (subject : String) (key : Pkcs10.PublicKey) (signature : Pkcs10.Signature) :
    (utf8 subject).length ≤ requestSize ⟨[⟨.commonName, .utf8 subject⟩], key, signature⟩ := by
  simp only [requestSize, subjectSize, List.map_cons, List.map_nil, List.sum_cons, List.sum_nil,
    Nat.add_zero, attributeSize]
  generalize (utf8 subject).length = n
  generalize Pkcs10.AttributeType.commonName.octets.length = oid
  have value := le_headed n
  have pair := le_headed (headed oid + headed n)
  have set := le_headed (headed (headed oid + headed n))
  have names := le_headed (headed (headed (headed oid + headed n)))
  have info := le_headed (3 + headed (headed (headed (headed oid + headed n))) + keySize key + 2)
  omega

theorem large (long : 65536 ≤ n) :
    ¬requestSize (issued.draft [⟨.commonName, .utf8 (text n)⟩]) ≤ 65535 := by
  have size := le_requestSize (text n) issued.draftKey issued.draftSignature
  have chars := length_le_utf8 (text n)
  rw [text, String.toList_ofList, List.length_replicate, ← text] at chars
  rw [Issued.draft]
  omega

theorem pem_write : Issuing.pem (subject n) =
    CreatePKCS10.pemOf (derWrite (issued.draft [⟨.commonName, .utf8 (text n)⟩]).node) := by
  have whole := csrDer_write (.serving []) (subject n) (rsaBlob Issuing.key).key (.rsa [9, 8])
  rw [attributes] at whole
  rw [Issuing.pem, Issuing.tbs, signatureAlgorithm_rsa [9, 8]]
  exact congrArg CreatePKCS10.pemOf whole

end Overlong

/-- A subject of 65536 characters is admitted, written with a length that does not fit, and read by
no decoder. -/
theorem overlong_subject_written :
    ∃ subject trace response pem, (utf8 (Overlong.frame subject)).length ≤ MAX_WS_MESSAGE_BYTES ∧
      Yields (CreatePKCS10.handle (.serving []) (Issuing.params subject) .EN) trace response ∧
      response.result.member "pem" = some (.string pem) ∧ Overlong.issued.ReturnedIn trace ∧
      (∃ n ∈ requestLengths
        (Overlong.issued.draft
          (subjectAttributes (SkfContext.serving []).platform.toUppercase subject)), 65535 < n) ∧
      ¬∃ der, Pem.decode "CERTIFICATE REQUEST" pem = some der ∧
        decode der = some
          (Overlong.issued.draft
            (subjectAttributes (SkfContext.serving []).platform.toUppercase subject)).node := by
  have large := @Overlong.large 65536 (Nat.le_refl _)
  have short := draft_short Overlong.issued [⟨.commonName, .utf8 (Overlong.text 65536)⟩]
  refine ⟨Overlong.subject 65536, _, _, _, Overlong.frame_length (by decide), Issuing.ran _,
    pem_member _ _ _ _,
    Issuing.returned _, ?_, ?_⟩
  -- A name of 65536 bytes alone passes what two bytes of length can say.
  · rw [Overlong.attributes]
    by_contra none
    apply large
    rw [← requestLengths_iff short]
    intro n member
    by_contra exceeds
    exact none ⟨n, member, Nat.lt_of_not_le exceeds⟩
  · rw [Overlong.attributes, Overlong.pem_write]
    rintro ⟨der, unwrapped, read⟩
    rw [decode_pemOf, Option.some.injEq] at unwrapped
    rw [← unwrapped, decode_request_iff short] at read
    exact large read

end SkfService
