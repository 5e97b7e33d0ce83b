import SkfService.Csr.Encoding
import SkfService.Dispatch.Scopes
import SkfService.Streams.Requests

/-! Runs of `CreatePKCS10`: what one that answers with a request has asked the provider for. -/

set_option autoImplicit false

namespace SkfService

open Text Asn1 Interaction Program Handler

def Op.drafts : Op → Bool
  | .provider (.genEccKeyPair _ _) | .provider (.genRsaKeyPair _ _) | .provider (.update _ _)
  | .provider (.signEcc _ _) | .provider (.signRsa _ _) => true
  | _ => false

def drafting : Monitor Skf (List (Event Skf)) where
  allowed _ _ := True
  possible _ _ _ := True
  advance s op reply := if Op.drafts op then s ++ [⟨op, reply⟩] else s

theorem drafting_possible (s : List (Event Skf)) (trace : List (Event Skf)) :
    drafting.Possible s trace := by
  induction trace generalizing s with
  | nil => trivial
  | cons event rest ih => exact ⟨trivial, ih _⟩

theorem drafting_follow (s trace : List (Event Skf)) :
    drafting.follow s trace = s ++ trace.filter fun event => Op.drafts event.op := by
  induction trace generalizing s with
  | nil => exact (List.append_nil s).symm
  | cons event rest ih =>
    rw [Monitor.follow, ih, List.filter_cons]
    simp only [drafting]
    split
    · rw [List.append_assoc, List.singleton_append]
    · rfl

namespace Issued

/-- The numbers that go into the request, from the arrays the provider returned. -/
def draftKey : Issued → Pkcs10.PublicKey
  | sm2 key _ => (eccBlob key).key
  | rsa key _ => (rsaBlob key).key

def draftSignature : Issued → Pkcs10.Signature
  | sm2 _ signature => signatureHalves signature
  | rsa _ signature => .rsa signature

/-- The request that is written, whatever the provider returned. -/
def draft (issued : Issued) (subject : List Pkcs10.Attribute) : Pkcs10.Request :=
  ⟨subject, issued.draftKey, issued.draftSignature⟩

def calls (container : Container) (digest : Digest) (bits : ULONG) (hash tbs : List UInt8) :
    Issued → List (Event Skf)
  | sm2 key signature => [⟨.provider (.genEccKeyPair container SGD_SM2_1), some (.ok key)⟩,
      ⟨.provider (.update digest tbs), some (.ok ())⟩,
      ⟨.provider (.signEcc container hash), some (.ok signature)⟩]
  | rsa key signature => [⟨.provider (.genRsaKeyPair container bits), some (.ok key)⟩,
      ⟨.provider (.update digest tbs), some (.ok ())⟩,
      ⟨.provider (.signRsa container (CreatePKCS10.sha256DigestInfo ++ hash)),
        some (.ok signature)⟩]

end Issued

/-- A reply without a result, or one with a request whose calls are those recorded. -/
def Drafted (ctx : SkfContext) (subject : String) (s : List (Event Skf)) (response : RpcResponse) :
    Prop :=
  response.result = .null ∨ ∃ (issued : Issued) (container : Container) (digest : Digest)
    (bits : ULONG)
    (hash : List UInt8),
    (∀ key signature, issued = .rsa key signature → (rsaBlob key).Sliceable) ∧
    s = issued.calls container digest bits hash
      (derWrite
        (Pkcs10.infoNode (subjectAttributes ctx.platform.toUppercase subject) issued.draftKey)) ∧
    response.result.member "pem" = some (.string (CreatePKCS10.pemOf
      (derWrite (issued.draft (subjectAttributes ctx.platform.toUppercase subject)).node)))

def Fruitless (exit : Exit) : Prop := ∀ response, exit = .reply response → response.result = .null

theorem fruitless_panic (why : Panic) : Fruitless (.panic why) := by
  intro response early
  cases early

theorem fruitless_native (e : ProviderError) (message : ULONG → String) (id : Option Json) :
    Fruitless (.reply (nativeFailure e message id)) := by
  intro response early
  cases early
  unfold nativeFailure
  split <;> rfl

section meets

variable {ctx : SkfContext} {device : Device} {container : Container} {id : Option Json}
  {s : List (Event Skf)}

theorem meets_generateKey_sm2 (keyLength : UInt32) :
    (CreatePKCS10.generateKey container true keyLength id).Meets drafting
      (fun result t => ∃ key, result = (derWrite (eccBlob key).key.node, some key) ∧
        t = s ++ [⟨.provider (.genEccKeyPair container SGD_SM2_1), some (.ok key)⟩])
      (fun exit _ => Fruitless exit) s := by
  refine bind_call trivial fun reply _ =>
    bind_settled (fun result settled => ?_) fun _ => fruitless_panic _
  subst settled
  cases result with
  | error e => exact fruitless_native e _ _
  | ok key => exact ⟨key, by rw [buildSm2Spki_write], rfl⟩

theorem meets_generateKey_rsa (keyLength : UInt32) :
    (CreatePKCS10.generateKey container false keyLength id).Meets drafting
      (fun result t =>
        ∃ key, (rsaBlob key).Sliceable ∧ result = (derWrite (rsaBlob key).key.node, none) ∧
        t = s ++ [⟨.provider (.genRsaKeyPair container keyLength), some (.ok key)⟩])
      (fun exit _ => Fruitless exit) s := by
  refine bind_call trivial fun reply _ =>
    bind_settled (fun result settled => ?_) fun _ => fruitless_panic _
  subst settled
  cases result with
  | error e => exact fruitless_native e _ _
  | ok key =>
    refine bind_unwrap (fun spki built => ?_) fun _ => fruitless_panic _
    have sliceable : (rsaBlob key).Sliceable := by
      rw [← buildRsaSpki_isSome_iff, built]
      rfl
    rw [buildRsaSpki_write sliceable, Option.some.injEq] at built
    exact ⟨key, sliceable, by rw [built], rfl⟩

theorem meets_beginDigest (eccKey : Option EccPublicKey) :
    (CreatePKCS10.beginDigest device eccKey id).Meets drafting (fun _ t => t = s)
      (fun exit _ => Fruitless exit) s := by
  unfold CreatePKCS10.beginDigest
  cases eccKey with
  | none =>
    refine bind_call trivial fun reply _ =>
      bind_settled (fun result settled => ?_) fun _ => fruitless_panic _
    cases result with
    | error e => exact fruitless_native e _ _
    | ok raw => rfl
  | some key =>
    refine bind_call trivial fun reply _ =>
      bind_settled (fun result settled => ?_) fun _ => fruitless_panic _
    cases result with
    | error e => exact fruitless_native e _ _
    | ok raw => rfl

theorem meets_digestTbs (digest : Digest) (tbs : List UInt8) :
    (CreatePKCS10.digestTbs digest tbs id).Meets drafting
      (fun _ t => t = s ++ [⟨.provider (.update digest tbs), some (.ok ())⟩])
        (fun exit _ => Fruitless exit) s := by
  refine bind_call trivial fun reply _ =>
    bind_settled (fun result settled => ?_) fun _ => fruitless_panic _
  subst settled
  cases result with
  | error e => exact fruitless_native e _ _
  | ok updated =>
    refine bind_call trivial fun reply _ =>
      bind_settled (fun result settled => ?_) fun _ => fruitless_panic _
    cases result with
    | error e => exact fruitless_native e _ _
    | ok hash => rfl

theorem meets_signDigest_sm2 (hash : List UInt8) :
    (CreatePKCS10.signDigest container true hash id).Meets drafting
      (fun sigBits t =>
        ∃ signature, derBitString sigBits = derWrite (signatureHalves signature).value ∧
        t = s ++ [⟨.provider (.signEcc container hash), some (.ok signature)⟩])
      (fun exit _ => Fruitless exit) s := by
  refine bind_call trivial fun reply _ =>
    bind_settled (fun result settled => ?_) fun _ => fruitless_panic _
  subst settled
  cases result with
  | error e => exact fruitless_native e _ _
  | ok signature =>
    refine bind_unwrap (fun r rCut =>
      bind_unwrap (fun rDer rWritten => bind_unwrap (fun sHalf sCut =>
      bind_unwrap (fun sDer sWritten => ?_) fun _ =>
        fruitless_panic _) fun _ => fruitless_panic _) fun _ =>
        fruitless_panic _) fun _ => fruitless_panic _
    -- The second slice was taken, so that the signature is long enough for both.
    have long : 128 ≤ signature.length := by
      unfold slice at sCut
      split at sCut
      · next inside => exact inside.2
      · cases sCut
    obtain ⟨r', s', rDer', sDer', rCut', rWritten', sCut', sWritten', written⟩ :=
      sm2Halves_write long
    obtain rfl := Option.some.inj (rCut.symm.trans rCut')
    obtain rfl := Option.some.inj (sCut.symm.trans sCut')
    obtain rfl := Option.some.inj (rWritten.symm.trans rWritten')
    obtain rfl := Option.some.inj (sWritten.symm.trans sWritten')
    exact ⟨signature, written, rfl⟩

theorem meets_signDigest_rsa (hash : List UInt8) :
    (CreatePKCS10.signDigest container false hash id).Meets drafting
      (fun sigBits t => t = s ++
        [⟨.provider (.signRsa container (CreatePKCS10.sha256DigestInfo ++ hash)),
          some (.ok sigBits)⟩])
      (fun exit _ => Fruitless exit) s := by
  refine bind_call trivial fun reply _ =>
    bind_settled (fun result settled => ?_) fun _ => fruitless_panic _
  subst settled
  cases result with
  | error e => exact fruitless_native e _ _
  | ok signature => rfl

theorem pem_member (pem container keyType : String) (keyLength : UInt32) :
    (Json.ofFields [("pem", .string pem), ("container", .string container),
      ("keyType", .string keyType),
      ("keyLength", .ofU32 keyLength)]).member "pem" = some (.string pem) := by
  simp only [Json.ofFields, Json.member, List.foldl_cons, List.foldl_nil, Json.lookup_insertMember]
  rfl

/-- Both key types digest and sign the same way, and the digest is closed however that ends. -/
theorem meets_signing {isEcc : Bool} {good : RpcResponse → List (Event Skf) → Prop}
    {build : List UInt8 → Handler RpcResponse} (eccKey : Option EccPublicKey) (tbs : List UInt8)
    (signs : ∀ digest hash, (CreatePKCS10.signDigest container isEcc hash id).Meets drafting
      (fun sigBits t => (build sigBits).Meets drafting good (fun exit _ => Fruitless exit) t)
      (fun exit _ => Fruitless exit) (s ++ [⟨.provider (.update digest tbs), some (.ok ())⟩])) :
    (CreatePKCS10.beginDigest device eccKey id >>= fun digest =>
      (CreatePKCS10.digestTbs digest tbs id >>= fun hash =>
        CreatePKCS10.signDigest container isEcc hash id >>= build).ensuring
          (provider (.close (.digest digest)))).Meets drafting good
            (fun exit _ => Fruitless exit) s := by
  have released {exit : Exit} {digest : Digest} {t : List (Event Skf)} (left : Fruitless exit) :
      (provider (.close (.digest digest))).Meets drafting (fun _ _ => Fruitless exit)
        (fun exit _ => Fruitless exit) t :=
    ⟨trivial, fun _ _ => left⟩
  rw [meets_bind]
  refine (meets_beginDigest _).mono (fun digest t same => ?_) fun _ _ left => left
  subst same
  rw [meets_ensuring, meets_bind]
  refine (meets_digestTbs digest _).mono (fun hash t digested => ?_) fun _ _ left => released left
  subst digested
  rw [meets_bind]
  refine (signs digest hash).mono (fun sigBits t built => ?_) fun _ _ left => released left
  exact built.mono (fun _ _ answered => ⟨trivial, fun _ _ => answered⟩) fun _ _ left =>
    released left

theorem meets_withKey (subject keyType : String) (keyLength : UInt32) :
    (CreatePKCS10.withKey ctx device container subject keyType keyLength id).Meets drafting
      (fun response t => Drafted ctx subject t response) (fun exit _ => Fruitless exit) [] := by
  unfold CreatePKCS10.withKey
  dsimp only
  generalize (decide (keyType = "SM2") || decide (keyType = "ECC")) = isEcc
  -- The key types differ in how the key comes and in how the signature is written.
  cases isEcc with
  | true =>
    rw [meets_bind]
    refine (meets_generateKey_sm2 keyLength).mono (fun result t generated => ?_) fun _ _ left =>
      left
    obtain ⟨key, rfl, rfl⟩ := generated
    refine meets_signing _ _ fun digest hash => ?_
    refine (meets_signDigest_sm2 hash).mono (fun sigBits t signed => ?_) fun _ _ left => left
    obtain ⟨signature, written, rfl⟩ := signed
    refine bind_call trivial fun _ _ => .inr ?_
    refine ⟨.sm2 key signature, container, digest, keyLength, hash, fun _ _ other => ?_, ?_, ?_⟩
    · cases other
    · rw [tbsOf_write]
      rfl
    · rw [RpcResponse.ok, pem_member, written, signatureAlgorithm_sm2 signature]
      exact congrArg (fun der => some (Json.string (CreatePKCS10.pemOf der)))
        (csrDer_write ctx subject (eccBlob key).key (signatureHalves signature))
  | false =>
    rw [meets_bind]
    refine (meets_generateKey_rsa keyLength).mono (fun result t generated => ?_) fun _ _ left =>
      left
    obtain ⟨key, sliceable, rfl, rfl⟩ := generated
    refine meets_signing _ _ fun digest hash => ?_
    refine (meets_signDigest_rsa hash).mono (fun sigBits t signed => ?_) fun _ _ left => left
    subst signed
    refine bind_call trivial fun _ _ => .inr ?_
    refine ⟨.rsa key sigBits, container, digest, keyLength, hash, fun _ _ same => ?_, ?_, ?_⟩
    · cases same
      exact sliceable
    · rw [tbsOf_write]
      rfl
    · rw [RpcResponse.ok, pem_member, signatureAlgorithm_rsa sigBits]
      exact congrArg (fun der => some (Json.string (CreatePKCS10.pemOf der)))
        (csrDer_write ctx subject (rsaBlob key).key (.rsa sigBits))

theorem drafting_scoped (s : List (Event Skf)) :
    Scoped drafting (fun exit _ => Fruitless exit) s where
  allowed _ _ _ := trivial
  quiet t op reply scopes := by
    have quiet : Op.drafts op = false := by
      cases op with
      | provider op => cases op <;> first | rfl | cases scopes
      | session | host => rfl
      | vendor => cases scopes
    simp only [drafting, quiet, Bool.false_eq_true, if_false]
  refuses response empty early same := by
    cases same
    exact empty
  panics := fruitless_panic

/-- A `CreatePKCS10` that answers with a request has asked for its drafting calls and no others. -/
theorem meets_handle {params : Params} {lang : Language} {subject : String}
    (named : params.str 3 = some subject) :
    (CreatePKCS10.handle ctx params lang).Meets drafting
      (fun response t => Drafted ctx subject t response)
      (fun exit _ => Fruitless exit) [] := by
  apply (drafting_scoped []).createPKCS10
  intro device container value given
  obtain rfl : subject = value := Option.some.inj (named.symm.trans given)
  apply meets_withKey

end meets

theorem followed_of_yields {p : Handler RpcResponse} {trace : List (Event Skf)}
    {told : List (Event Skf) → RpcResponse → Prop}
    (refused : ∀ s response, response.result = .null → told s response)
    (met : p.Meets drafting (fun response t => told t response) (fun exit _ => Fruitless exit) [])
    {response : RpcResponse} (ran : Yields p trace response) :
    told (trace.filter fun event => Op.drafts event.op) response := by
  have seen := drafting_follow [] trace
  rw [List.nil_append] at seen
  rw [← seen]
  rcases ran with ended | early
  · exact met.returned ended (drafting_possible [] trace)
  · exact refused _ _ (met.stopped early (drafting_possible [] trace) response rfl)

theorem drafted_of_yields {ctx : SkfContext} {params : Params} {lang : Language} {subject : String}
    {trace : List (Event Skf)} {response : RpcResponse} (named : params.str 3 = some subject)
    (ran : Yields (CreatePKCS10.handle ctx params lang) trace response) :
    Drafted ctx subject (trace.filter fun event => Op.drafts event.op) response :=
  followed_of_yields (fun _ _ => .inl) (meets_handle named) ran

end SkfService
