import SkfService.Csr.Runs

/-! A returned certificate request reads back: a strict decoder of its text finds the subject's
attributes, the provider's key and the provider's signature, over the very bytes that were digested. -/

set_option autoImplicit false

namespace SkfService

open Text Asn1 Interaction Program

namespace Issued

def ReturnedIn (trace : List (Event Skf)) : Issued → Prop
  | sm2 key signature =>
    (∃ container,
      (⟨.provider (.genEccKeyPair container SGD_SM2_1), some (.ok key)⟩ : Event Skf) ∈ trace) ∧
      ∃ container hash,
        (⟨.provider (.signEcc container hash), some (.ok signature)⟩ : Event Skf) ∈ trace
  | rsa key signature =>
    (∃ container bits,
      (⟨.provider (.genRsaKeyPair container bits), some (.ok key)⟩ : Event Skf) ∈ trace) ∧
      ∃ container data,
        (⟨.provider (.signRsa container data), some (.ok signature)⟩ : Event Skf) ∈ trace

/-- A run drafts with one key and one signature. -/
theorem ReturnedIn.unique {issued drafted : Issued} {trace : List (Event Skf)}
    {container : Container} {digest : Digest} {bits : ULONG} {hash tbs : List UInt8}
    (returned : issued.ReturnedIn trace)
    (calls : (trace.filter fun event => Op.drafts event.op) =
      drafted.calls container digest bits hash tbs) :
    issued = drafted := by
  -- Every drafting call of the run is one of the three that the other request was drafted with.
  have among {event : Event Skf} (member : event ∈ trace) (drafts : Op.drafts event.op = true) :
      event ∈ drafted.calls container digest bits hash tbs := by
    rw [← calls]
    exact List.mem_filter.mpr ⟨member, drafts⟩
  cases issued with
  | sm2 key signature =>
    obtain ⟨⟨_, generated⟩, _, _, signed⟩ := returned
    have keyCall := among generated rfl
    have signCall := among signed rfl
    cases drafted with
    | sm2 key' signature' =>
      simp only [Issued.calls, List.mem_cons, List.not_mem_nil, or_false] at keyCall signCall
      rcases keyCall with same | impossible | impossible
      · cases same
        rcases signCall with impossible | impossible | same
        · cases impossible
        · cases impossible
        · cases same
          rfl
      · cases impossible
      · cases impossible
    | rsa key' signature' =>
      simp only [Issued.calls, List.mem_cons, List.not_mem_nil, or_false] at keyCall
      rcases keyCall with impossible | impossible | impossible <;> cases impossible
  | rsa key signature =>
    obtain ⟨⟨_, _, generated⟩, _, _, signed⟩ := returned
    have keyCall := among generated rfl
    have signCall := among signed rfl
    cases drafted with
    | sm2 key' signature' =>
      simp only [Issued.calls, List.mem_cons, List.not_mem_nil, or_false] at keyCall
      rcases keyCall with impossible | impossible | impossible <;> cases impossible
    | rsa key' signature' =>
      simp only [Issued.calls, List.mem_cons, List.not_mem_nil, or_false] at keyCall signCall
      rcases keyCall with same | impossible | impossible
      · cases same
        rcases signCall with impossible | impossible | same
        · cases impossible
        · cases impossible
        · cases same
          rfl
      · cases impossible
      · cases impossible

/-- In the promised layout the written numbers are the returned ones. -/
theorem Fits.draft {issued : Issued} (fits : issued.Fits) (subject : List Pkcs10.Attribute) :
    issued.draft subject = issued.request subject := by
  cases issued with
  | sm2 key signature =>
    obtain ⟨x, y, r, s⟩ := fits
    have long := s.1
    rw [List.length_drop] at long
    have length : signature.length = 128 := by omega
    have second : (signature.take 128).drop 96 = (signature.drop 64).drop 32 := by
      rw [← length, List.take_length, List.drop_drop]
    have keySame : (eccBlob key).key = .sm2 (bigEndian key.x) (bigEndian key.y) := by
      rw [EccPublicKeyBlob.key, eccBlob]
      dsimp only
      rw [fitted_self x.1, fitted_self y.1, x.value, y.value]
    rw [Issued.draft, draftKey, draftSignature, keySame, signatureHalves, second, r.value, s.value]
    rfl
  | rsa key signature =>
    obtain ⟨-, -, -, modulusLength, exponentLength⟩ := fits
    have keySame : (rsaBlob key).key =
        .rsa (bigEndian (key.modulus.take (key.bitLen.toNat / 8))) (bigEndian key.exponent) := by
      rw [RsaPublicKeyBlob.key, rsaBlob]
      dsimp only
      rw [fitted_self modulusLength, fitted_self exponentLength]
    rw [Issued.draft, draftKey, draftSignature, keySame]
    rfl

end Issued

def Op.digested : Op → Option (List UInt8)
  | .provider (.update _ data) => some data
  | _ => none

def digestInputs (trace : List (Event Skf)) : List (List UInt8) :=
  trace.filterMap fun event => Op.digested event.op

theorem digested_of_drafting (trace : List (Event Skf)) :
    digestInputs (trace.filter fun event => Op.drafts event.op) = digestInputs trace := by
  rw [digestInputs, List.filterMap_filter]
  apply List.filterMap_congr
  intro event _
  obtain ⟨op, reply⟩ := event
  cases op with
  | provider op => cases op <;> rfl
  | session | vendor | host => rfl

theorem digested_calls {issued : Issued} {container : Container} {digest : Digest} {bits : ULONG}
    {hash tbs : List UInt8} :
    digestInputs (issued.calls container digest bits hash tbs) = [tbs] := by
  cases issued <;> rfl

theorem elements_request {request : Pkcs10.Request} (short : request.node.Short 65536) :
    elements request.node.encode = some [(Pkcs10.infoNode request.subject request.key).encode,
      request.signature.algorithm.encode, request.signature.value.encode] :=
  elements_encode (Pkcs10.request_canonical short)

/-- The text of a request decodes to an encoding that a strict parser reads as the subject's
attributes, the key and the signature, and the first of its three elements is what was digested. -/
theorem csr_round_trip {ctx : SkfContext} {params : Params} {lang : Language}
    {trace : List (Event Skf)} {response : RpcResponse} {subject pem : String} {issued : Issued}
    (ran : Yields (CreatePKCS10.handle ctx params lang) trace response)
    (named : params.str 3 = some subject)
    (answered : response.result.member "pem" = some (.string pem))
    (returned : issued.ReturnedIn trace) (fits : issued.Fits)
    (short :
      (issued.request (subjectAttributes ctx.platform.toUppercase subject)).node.Short 65536) :
    ∃ der tbs algorithm value, Pem.decode "CERTIFICATE REQUEST" pem = some der ∧
      Pkcs10.parse der =
        some (issued.request (subjectAttributes ctx.platform.toUppercase subject)) ∧
      elements der = some [tbs, algorithm, value] ∧ digestInputs trace = [tbs] := by
  rcases drafted_of_yields named ran with empty |
    ⟨drafted, container, digest, bits, hash, -, calls, written⟩
  · rw [empty] at answered
    cases answered
  · obtain rfl := returned.unique calls
    rw [fits.draft, answered, Option.some.injEq, Json.string.injEq] at written
    have encoded := derWrite_eq _ short
    have infoEncoded : derWrite
        (Pkcs10.infoNode (subjectAttributes ctx.platform.toUppercase subject) issued.draftKey) =
        (Pkcs10.infoNode (subjectAttributes ctx.platform.toUppercase subject)
          issued.key).encode := by
      have sameKey : issued.draftKey = issued.key := congrArg Pkcs10.Request.key (fits.draft [])
      rw [sameKey]
      exact derWrite_eq _ short.2.1
    -- What the device digested is the same list of bytes that the request embeds.
    have fed := digested_of_drafting trace
    rw [calls, digested_calls, infoEncoded] at fed
    refine ⟨_, _, _, _, ?_, ?_, elements_request short, fed.symm⟩
    · rw [written, encoded, decode_pemOf]
    · exact Pkcs10.parse_encode fits.key short

namespace Issuing

/-! A request with a small RSA key for some subject, answered by the default library. -/

def device : Device := ⟨⟨"GM3000", some 0⟩, "dev", 1⟩
def container : Container := ⟨⟨device, "app", 2⟩, "c1", 3⟩
def key : RsaPublicKey := ⟨0, 8, 0xC5 :: List.replicate 255 0, [0, 1, 0, 1]⟩
def params (subject : String) : Params :=
  ⟨[.string "GM3000", .string "dev", .string "app", .string subject, .string "RSA", .null,
    .string "c1"], none⟩
def tbs (subject : String) : List UInt8 :=
  CreatePKCS10.tbsOf (.serving []) subject (derWrite (rsaBlob key).key.node)
def pem (subject : String) : String :=
  CreatePKCS10.pemOf
    (derSequence [tbs subject, CreatePKCS10.signatureAlgorithm false, derBitString [9, 8]])

def trace (subject : String) : List (Event Skf) :=
  [⟨.provider (.openDevice ⟨"GM3000", some 0⟩ "dev"), some (.ok 1)⟩,
    ⟨.provider (.openApplication device "app"), some (.ok 2)⟩,
    ⟨.session (.authorize ⟨"GM3000", "dev", "app"⟩), (0, .ok ())⟩,
    ⟨.provider (.createContainer ⟨device, "app", 2⟩ "c1"), some (.ok 3)⟩,
    ⟨.provider (.genRsaKeyPair container 256), some (.ok key)⟩,
    ⟨.provider (.beginDigest device 4 []), some (.ok 4)⟩,
    ⟨.provider (.update ⟨device, 4⟩ (tbs subject)), some (.ok ())⟩,
    ⟨.provider (.finalize ⟨device, 4⟩), some (.ok [7])⟩,
    ⟨.provider (.signRsa container (CreatePKCS10.sha256DigestInfo ++ [7])), some (.ok [9, 8])⟩,
    ⟨.host (.writeFile "/tmp/last_generated.csr" (utf8 (pem subject))), .ok ()⟩,
    ⟨.provider (.close (.digest ⟨device, 4⟩)), ()⟩,
    ⟨.provider (.close (.container container)), ()⟩,
    ⟨.provider (.close (.application ⟨device, "app", 2⟩)), ()⟩,
    ⟨.provider (.close (.device device)), ()⟩]

theorem sliceable : (rsaBlob key).Sliceable := ⟨by decide, by decide⟩

theorem ran (subject : String) :
    Yields (CreatePKCS10.handle (.serving []) (params subject) .EN) (trace subject)
      (.ok (.ofFields [("pem", .string (pem subject)), ("container", .string "c1"),
        ("keyType", .string "RSA"),
        ("keyLength", .ofU32 256)]) none) := by
  refine .inl ?_
  unfold trace
  have upper : (SkfContext.serving []).platform.toUppercase ((params subject).optionalStr 4 "SM2") =
      "RSA" := by
    change (SkfContext.serving []).platform.toUppercase "RSA" = "RSA"
    decide
  apply Reaches.step
  apply Reaches.step
  apply Reaches.step
  apply Reaches.step
  rw [upper]
  apply Reaches.step
  dsimp only [Program.bind, Handler.settled]
  rw [done_bind]
  dsimp only
  rw [buildRsaSpki_write sliceable]
  apply Reaches.step
  apply Reaches.step
  apply Reaches.step
  apply Reaches.step
  apply Reaches.step
  apply Reaches.step
  apply Reaches.step
  apply Reaches.step
  apply Reaches.step
  exact Reaches.refl _

theorem short : ((Issued.rsa key [9, 8]).request
    (subjectAttributes (SkfContext.serving []).platform.toUppercase "CN=Test,C=CN")).node.Short
      65536 :=
  short_of_derWrite (by decide +kernel)

theorem returned (subject : String) : (Issued.rsa key [9, 8]).ReturnedIn (trace subject) :=
  ⟨⟨container, 256, .tail _ (.tail _ (.tail _ (.tail _ (.head _))))⟩, container,
    CreatePKCS10.sha256DigestInfo ++ [7],
    .tail _ (.tail _ (.tail _ (.tail _ (.tail _ (.tail _ (.tail _ (.tail _ (.head _))))))))⟩

end Issuing

theorem csr_round_trip_rsa : ∃ der tbs algorithm value,
    Pem.decode "CERTIFICATE REQUEST" (Issuing.pem "CN=Test,C=CN") = some der ∧
    Pkcs10.parse der = some ((Issued.rsa Issuing.key [9, 8]).request
      (subjectAttributes (SkfContext.serving []).platform.toUppercase "CN=Test,C=CN")) ∧
    elements der = some [tbs, algorithm, value] ∧
      digestInputs (Issuing.trace "CN=Test,C=CN") = [tbs] :=
  csr_round_trip (Issuing.ran _) rfl (pem_member _ _ _ _) (Issuing.returned _)
    ⟨by decide, by decide, by decide, by decide +kernel, by decide⟩ Issuing.short

end SkfService
