import SkfService.Conduct.Rules
import SkfService.Domain.Crypto

/-! The twelve guard-based handlers under the conduct monitor. -/

set_option autoImplicit false

namespace SkfService.Conduct

open Interaction Program Handler

variable {permit : Permit} {B : Type} {ret : B → Conduct → Prop} {s : Conduct} {ctx : SkfContext}
  {params : Params} {lang : Language}

theorem bind_containerNames {k : String × String × String → Handler B}
    (settled : s.Settled)
    (goes : ∀ names, (k names).Meets (conduct permit) ret (Leaves params.id) s) :
    (containerNames params >>= k).Meets (conduct permit) ret (Leaves params.id) s := by
  rw [meets_bind, containerNames]
  exact bind_requiredStr settled fun _ => bind_requiredStr settled fun _ =>
    bind_requiredStr settled fun _ => goes _

theorem checkPIN (careful : permit.forgetful = false) (grants : permit.grants = true) :
    (CheckPIN.handle ctx params lang).Meets (conduct permit) (Answers params.id)
      (Leaves params.id) start := by
  refine bind_requiredStr start_settled fun certKey =>
    bind_requiredStr start_settled fun pinStr => ?_
  refine bind_expect (fun parts _ => ?_) fun _ => ⟨rfl, .inl start_settled⟩
  refine bind_resolveOr start_settled (fun _ => rfl) fun library same => ?_
  refine meets_withDevice careful same fun device inLibrary named => ?_
  refine meets_withApplication (meets_applicationLost careful) fun application onDevice appNamed =>
    ?_
  refine bind_call ⟨.inl opened_settled, fun _ => covers_none rfl⟩ fun verdict _ => ?_
  cases verdict with
  | none => exact opened_settled
  | some verdict =>
    cases verdict with
    | error e => exact ⟨nativeFailure_id _ _ _, .inl opened_settled⟩
    | ok outcome =>
      obtain ⟨success, retries, code⟩ := outcome
      cases success with
      | false => exact ⟨rfl, .inl opened_settled⟩
      | true =>
        -- the grant is for the application whose PIN was just verified
        have verified :
            (⟨ctx.normalizeAlias (parts.getD 0 ""), parts.getD 1 "", parts.getD 2 ""⟩ : AuthKey) ∈
            [application.key] := by
          rw [List.mem_singleton, Application.key, onDevice, inLibrary, same, named, appNamed]
        refine bind_call ⟨grants, rfl, verified⟩ fun recorded _ => ?_
        obtain ⟨now, recorded⟩ := recorded
        cases recorded with
        | true => exact ⟨rfl, .inl opened_settled⟩
        | false => exact opened_settled

theorem createContainer (careful : permit.forgetful = false) :
    (CreateContainer.handle ctx params lang).Meets (conduct permit) (Answers params.id)
      (Leaves params.id) start := by
  refine bind_containerNames start_settled fun names => ?_
  refine bind_resolveOr start_settled (fun _ => rfl) fun library same => ?_
  refine meets_withAuthorized careful same fun application => ?_
  refine bind_granted rfl rfl fun created => ?_
  cases created with
  | none => exact cleared_settled _
  | some created =>
    cases created with
    | error e => exact ⟨nativeFailure_id _ _ _, .inl (cleared_settled _)⟩
    | ok raw => exact bind_provider rfl (cleared_settled _) (fun _ => covers_none rfl) fun _ =>
        ⟨rfl, .inl (cleared_settled _)⟩

theorem deleteContainer (careful : permit.forgetful = false)
    (unprotected : permit.unprotected = true) :
    (DeleteContainer.handle ctx params lang).Meets (conduct permit) (Answers params.id)
      (Leaves params.id) start := by
  refine bind_containerNames start_settled fun names => ?_
  refine bind_resolveOr start_settled (fun _ => rfl) fun library same => ?_
  refine meets_withDeviceApplication careful same fun application _ => ?_
  refine bind_provider rfl opened_settled (fun off => by simp [unprotected] at off) fun outcome =>
    ?_
  exact bind_settled (fun _ _ => ⟨concluded_id _ _ _ _, .inl opened_settled⟩) fun _ =>
    opened_settled

theorem getContainerType (careful : permit.forgetful = false)
    (unprotected : permit.unprotected = true) :
    (GetContainerType.handle ctx params lang).Meets (conduct permit) (Answers params.id)
      (Leaves params.id) start := by
  have free (op : Op) : permit.unprotected = false → opened.Covers op := by simp [unprotected]
  refine bind_containerNames start_settled fun names => ?_
  refine bind_resolveOr start_settled (fun _ => rfl) fun library same => ?_
  refine meets_withDeviceApplication careful same fun application _ => ?_
  refine meets_withContainer opened_settled (free _) fun container _ => ?_
  refine bind_provider rfl opened_settled (free _) fun outcome => ?_
  exact bind_settled (fun _ _ => ⟨concluded_id _ _ _ _, .inl opened_settled⟩) fun _ =>
    opened_settled

theorem meets_concluding {A : Type} {application : Application} {outcome : Attempt A}
    {result : A → Text.Json} {message : ULONG → String} :
    (settled outcome >>= fun outcome => pure (concluded outcome result message params.id)).Meets
      (conduct permit) (Answers params.id) (Leaves params.id) (cleared application.key) :=
  bind_settled (fun _ _ => ⟨concluded_id _ _ _ _, .inl (cleared_settled _)⟩) fun _ =>
    cleared_settled _

theorem importCertificate (careful : permit.forgetful = false) :
    (ImportCertificate.handle ctx params lang).Meets (conduct permit) (Answers params.id)
      (Leaves params.id) start := by
  refine bind_containerNames start_settled fun names => ?_
  refine bind_expect (fun signFlag _ => ?_) fun _ => ⟨rfl, .inl start_settled⟩
  refine bind_requiredStr start_settled fun certStr => ?_
  refine bind_orReply (fun _ _ => ?_) fun _ rejected =>
    ⟨Params.checkPayloadLen_error rejected, .inl start_settled⟩
  refine bind_mapped start_settled (fun _ => rfl) fun certBytes => ?_
  refine bind_resolveOr start_settled (fun _ => rfl) fun library same => ?_
  refine meets_withGrantedContainer careful same fun container => ?_
  exact bind_granted rfl rfl fun outcome => meets_concluding

theorem meets_generateKeyPair {fallback : UInt64}
    {generate : Container → ULONG → Handler RpcResponse} (careful : permit.forgetful = false)
    (goes : ∀ container number, (generate container number).Meets (conduct permit)
      (Answers params.id) (Leaves params.id) (cleared container.application.key)) :
    (generateKeyPair ctx params lang fallback generate).Meets (conduct permit) (Answers params.id)
      (Leaves params.id) start := by
  refine bind_requiredStr start_settled fun providerName => ?_
  refine bind_containerNames start_settled fun names => ?_
  refine bind_resolveOr start_settled (fun _ => rfl) fun library same => ?_
  exact meets_withGrantedContainer careful same fun container => goes container _

theorem genECCKeyPair (careful : permit.forgetful = false) :
    (GenECCKeyPair.handle ctx params lang).Meets (conduct permit) (Answers params.id)
      (Leaves params.id) start :=
  meets_generateKeyPair careful fun _ _ => bind_granted rfl rfl fun _ => meets_concluding

theorem genRSAKeyPair (careful : permit.forgetful = false) :
    (GenRSAKeyPair.handle ctx params lang).Meets (conduct permit) (Answers params.id)
      (Leaves params.id) start :=
  meets_generateKeyPair careful fun _ _ => bind_granted rfl rfl fun _ => meets_concluding

theorem bind_certKeyNames {certKey : String} {k : String × String × String × String → Handler B}
    (settled : s.Settled)
    (goes : ∀ names, (k names).Meets (conduct permit) ret (Leaves params.id) s) :
    (certKeyNames ctx params certKey >>= k).Meets (conduct permit) ret (Leaves params.id) s := by
  rw [meets_bind, certKeyNames]
  exact bind_expect (fun parts _ => goes _) fun _ => ⟨rfl, .inl settled⟩

theorem meets_withSigningContainer {sign : Container → List UInt8 → Handler RpcResponse}
    (careful : permit.forgetful = false)
    (goes : ∀ container data, (sign container data).Meets (conduct permit) (Answers params.id)
      (Leaves params.id) (cleared container.application.key)) :
    (withSigningContainer ctx params sign).Meets (conduct permit) (Answers params.id)
      (Leaves params.id) start := by
  refine bind_requiredStr start_settled fun certKey =>
    bind_requiredStr start_settled fun dataB64 => ?_
  refine bind_certKeyNames start_settled fun names => bind_decode start_settled fun dataBytes => ?_
  refine bind_resolveOr start_settled (fun _ => rfl) fun library same => ?_
  exact meets_withGrantedContainer careful same fun container => goes container _

theorem bind_signatureDer {sig : List UInt8} {k : List UInt8 → Handler B} (settled : s.Settled)
    {id : Option Text.Json} (goes : ∀ der, (k der).Meets (conduct permit) ret (Leaves id) s) :
    (signatureDer sig >>= k).Meets (conduct permit) ret (Leaves id) s := by
  rw [meets_bind, signatureDer]
  exact bind_unwrap (fun _ _ =>
    bind_unwrap (fun _ _ => bind_unwrap (fun _ _ => bind_unwrap (fun _ _ =>
    goes _) fun _ => settled) fun _ => settled) fun _ => settled) fun _ => settled

theorem signData (careful : permit.forgetful = false) :
    (SignData.handle ctx params lang).Meets (conduct permit) (Answers params.id)
      (Leaves params.id) start := by
  refine meets_withSigningContainer careful fun container data => ?_
  refine bind_granted rfl rfl fun queried =>
    bind_settled (fun queried _ => ?_) fun _ => cleared_settled _
  refine meets_ite (fun _ => ?_) fun _ => bind_granted rfl rfl fun outcome => meets_concluding
  refine bind_granted rfl rfl fun signed =>
    bind_settled (fun signed _ => ?_) fun _ => cleared_settled _
  cases signed with
  | ok sig => exact bind_signatureDer (cleared_settled _) fun der => ⟨rfl, .inl (cleared_settled _)⟩
  | error e => exact ⟨nativeFailure_id _ _ _, .inl (cleared_settled _)⟩

theorem rsaSignData (careful : permit.forgetful = false) :
    (RSASignData.handle ctx params lang).Meets (conduct permit) (Answers params.id)
      (Leaves params.id) start :=
  meets_withSigningContainer careful fun _ _ => bind_granted rfl rfl fun _ => meets_concluding

theorem bind_setSymmKey {container : Container} {symKey : Option (List UInt8)}
    {k : Unit → Handler RpcResponse}
    (goes : (k ()).Meets (conduct permit) (Answers params.id) (Leaves params.id)
      (cleared container.application.key)) :
    (setSymmKey container symKey lang params.id >>= k).Meets (conduct permit) (Answers params.id)
      (Leaves params.id) (cleared container.application.key) := by
  rw [meets_bind]
  cases symKey with
  | none => exact goes
  | some keyBytes =>
    refine meets_ite (fun _ => ⟨rfl, .inl (cleared_settled _)⟩) fun _ =>
      bind_granted rfl rfl fun stored => ?_
    refine bind_settled (fun stored _ => ?_) fun _ => cleared_settled _
    cases stored with
    | ok done => exact goes
    | error e => exact ⟨nativeFailure_id _ _ _, .inl (cleared_settled _)⟩

theorem meets_withSymmetricKey {missingData invalidData : String}
    {cipher : Container → List UInt8 → ULONG → List UInt8 → Handler RpcResponse}
    (careful : permit.forgetful = false)
    (goes : ∀ container iv padding data, (cipher container iv padding data).Meets (conduct permit)
      (Answers params.id) (Leaves params.id) (cleared container.application.key)) :
    (withSymmetricKey ctx params lang missingData invalidData cipher).Meets (conduct permit)
      (Answers params.id) (Leaves params.id) start := by
  refine bind_requiredStr start_settled fun certKey =>
    bind_requiredStr start_settled fun dataB64 => ?_
  refine bind_requiredStr start_settled fun ivB64 =>
    bind_orReply (fun symKey _ => ?_) fun rejection rejected => ?_
  · refine bind_certKeyNames start_settled fun names => ?_
    refine bind_decode start_settled fun dataBytes => bind_decode start_settled fun ivBytes => ?_
    refine bind_resolveOr start_settled (fun _ => rfl) fun library same => ?_
    exact meets_withGrantedContainer careful same fun container =>
      bind_setSymmKey (goes container _ _ _)
  · -- only a present key can be rejected, by its decoder
    split at rejected
    · next encoded _ =>
      cases decoded : params.decode ctx.platform.base64Error encoded "Invalid base64 symKey" with
      | ok bytes => simp [decoded, Except.map] at rejected
      | error reason =>
        simp only [decoded, Except.map, Except.error.injEq] at rejected
        rw [← rejected]
        exact ⟨Params.decode_error decoded, .inl start_settled⟩
    · cases rejected

theorem encryptData (careful : permit.forgetful = false) :
    (EncryptData.handle ctx params lang).Meets (conduct permit) (Answers params.id)
      (Leaves params.id) start :=
  meets_withSymmetricKey careful fun _ _ _ _ => bind_granted rfl rfl fun _ => meets_concluding

theorem decryptData (careful : permit.forgetful = false) :
    (DecryptData.handle ctx params lang).Meets (conduct permit) (Answers params.id)
      (Leaves params.id) start :=
  meets_withSymmetricKey careful fun _ _ _ _ => bind_granted rfl rfl fun _ => meets_concluding

section request

open CreatePKCS10

variable {application : Application} {id : Option Text.Json}

theorem bind_grantedDevice {op : ProviderOp} {k : op.Reply → Handler B}
    (silent : quiet (.provider op) = true)
    (about : (Op.provider op).beyond = some application.device.subject)
    (goes : ∀ reply, (k reply).Meets (conduct permit) ret (Leaves id) (cleared application.key)) :
    (provider op >>= k).Meets (conduct permit) ret (Leaves id) (cleared application.key) :=
  bind_provider silent (cleared_settled _)
    (fun _ => covers_device (List.mem_singleton.mpr rfl) about) goes

theorem bind_chooseName (application : Application) {requested : String} {k : String → Handler B}
    (goes : ∀ name, (k name).Meets (conduct permit) ret (Leaves id) (cleared application.key)) :
    (chooseName application.device requested >>= k).Meets (conduct permit) ret (Leaves id)
      (cleared application.key) := by
  rw [meets_bind]
  refine meets_ite (fun _ => goes _) fun _ => bind_grantedDevice rfl rfl fun drawn => ?_
  refine bind_settled (fun drawn _ => ?_) fun _ => cleared_settled _
  cases drawn with
  | ok bytes => exact bind_unwrap (fun _ _ => goes _) fun _ => cleared_settled _
  | error e =>
    exact bind_host (cleared_settled _) fun nanos =>
      bind_unwrap (fun _ _ => goes _) fun _ => cleared_settled _

theorem bind_obtainContainer (application : Application) {requested contName : String}
    {k : Container → Handler B}
    (goes : ∀ raw, (k ⟨application, contName, raw⟩).Meets (conduct permit) ret (Leaves id)
      (cleared application.key)) :
    (obtainContainer application requested contName id >>= k).Meets (conduct permit) ret (Leaves id)
      (cleared application.key) := by
  rw [meets_bind]
  refine bind_granted rfl rfl fun created =>
    bind_settled (fun created _ => ?_) fun _ => cleared_settled _
  cases created with
  | ok raw => exact goes raw
  | error e =>
    refine meets_ite (fun _ => ?_) fun _ => ⟨nativeFailure_id _ _ _, .inl (cleared_settled _)⟩
    refine bind_granted rfl rfl fun existing =>
      bind_settled (fun existing _ => ?_) fun _ => cleared_settled _
    cases existing with
    | ok raw => exact goes raw
    | error e => exact ⟨nativeFailure_id _ _ _, .inl (cleared_settled _)⟩

theorem bind_generateKey {container : Container} {isEcc : Bool} {keyLength : UInt32}
    {k : List UInt8 × Option EccPublicKey → Handler B}
    (goes : ∀ key,
      (k key).Meets (conduct permit) ret (Leaves id) (cleared container.application.key)) :
    (generateKey container isEcc keyLength id >>= k).Meets (conduct permit) ret (Leaves id)
      (cleared container.application.key) := by
  rw [meets_bind]
  refine meets_ite (fun _ => ?_) fun _ => ?_
  · refine bind_granted rfl rfl fun made =>
      bind_settled (fun made _ => ?_) fun _ => cleared_settled _
    cases made with
    | ok key => exact goes _
    | error e => exact ⟨nativeFailure_id _ _ _, .inl (cleared_settled _)⟩
  · refine bind_granted rfl rfl fun made =>
      bind_settled (fun made _ => ?_) fun _ => cleared_settled _
    cases made with
    | ok key => exact bind_unwrap (fun _ _ => goes _) fun _ => cleared_settled _
    | error e => exact ⟨nativeFailure_id _ _ _, .inl (cleared_settled _)⟩

theorem bind_beginDigest {eccKey : Option EccPublicKey} {k : Digest → Handler B}
    (goes : ∀ raw, (k ⟨application.device, raw⟩).Meets (conduct permit) ret (Leaves id)
      (cleared application.key)) :
    (CreatePKCS10.beginDigest application.device eccKey id >>= k).Meets (conduct permit) ret
      (Leaves id)
      (cleared application.key) := by
  rw [meets_bind]
  cases eccKey
  -- The digest begins with or without the key; what follows is the same.
  all_goals
    refine bind_grantedDevice rfl rfl fun attempt => ?_
    refine bind_settled (fun begun _ => ?_) fun _ => cleared_settled _
    cases begun with
    | ok raw => exact goes raw
    | error e => exact ⟨nativeFailure_id _ _ _, .inl (cleared_settled _)⟩

theorem bind_digestTbs {raw : Nat} {tbs : List UInt8} {k : List UInt8 → Handler B}
    (goes : ∀ hash, (k hash).Meets (conduct permit) ret (Leaves id) (cleared application.key)) :
    (digestTbs ⟨application.device, raw⟩ tbs id >>= k).Meets (conduct permit) ret (Leaves id)
      (cleared application.key) := by
  rw [meets_bind]
  refine bind_grantedDevice rfl rfl fun fed =>
    bind_settled (fun fed _ => ?_) fun _ => cleared_settled _
  cases fed with
  | error e => exact ⟨nativeFailure_id _ _ _, .inl (cleared_settled _)⟩
  | ok done =>
    refine bind_grantedDevice rfl rfl fun ended =>
      bind_settled (fun ended _ => ?_) fun _ => cleared_settled _
    cases ended with
    | ok hash => exact goes hash
    | error e => exact ⟨nativeFailure_id _ _ _, .inl (cleared_settled _)⟩

theorem bind_signDigest (container : Container) {isEcc : Bool} {hash : List UInt8}
    {k : List UInt8 → Handler B}
    (goes : ∀ sig,
      (k sig).Meets (conduct permit) ret (Leaves id) (cleared container.application.key)) :
    (signDigest container isEcc hash id >>= k).Meets (conduct permit) ret (Leaves id)
      (cleared container.application.key) := by
  rw [meets_bind]
  refine meets_ite (fun _ => ?_) fun _ => ?_
  · refine bind_granted rfl rfl fun signed =>
      bind_settled (fun signed _ => ?_) fun _ => cleared_settled _
    cases signed with
    | ok sig =>
      exact bind_unwrap (fun _ _ =>
        bind_unwrap (fun _ _ => bind_unwrap (fun _ _ => bind_unwrap (fun _ _ =>
        goes _) fun _ => cleared_settled _) fun _ => cleared_settled _) fun _ => cleared_settled _)
        fun _ => cleared_settled _
    | error e => exact ⟨nativeFailure_id _ _ _, .inl (cleared_settled _)⟩
  · refine bind_granted rfl rfl fun signed =>
      bind_settled (fun signed _ => ?_) fun _ => cleared_settled _
    cases signed with
    | ok sig => exact goes sig
    | error e => exact ⟨nativeFailure_id _ _ _, .inl (cleared_settled _)⟩

theorem meets_withKey (application : Application) {contName subject keyType : String} {raw : Nat}
    {keyLength : UInt32} :
    (withKey ctx application.device ⟨application, contName, raw⟩ subject keyType keyLength id).Meets
      (conduct permit) (Answers id) (Leaves id) (cleared application.key) := by
  refine bind_generateKey fun key => bind_beginDigest fun digest => meets_closing ?_
  refine bind_digestTbs fun hash => bind_signDigest ⟨application, contName, raw⟩ fun sig => ?_
  exact bind_host (cleared_settled _) fun written => ⟨rfl, .inl (cleared_settled _)⟩

end request

attribute [local irreducible] CreatePKCS10.withKey in
theorem createPKCS10 (lang : Language) (careful : permit.forgetful = false) :
    (CreatePKCS10.handle ctx params lang).Meets (conduct permit) (Answers params.id)
      (Leaves params.id) start := by
  refine bind_requiredStr start_settled fun devName =>
    bind_requiredStr start_settled fun appName => ?_
  refine bind_requiredStr start_settled fun subject => ?_
  refine bind_resolveOr start_settled (fun _ => rfl) fun library same => ?_
  refine meets_withDevice careful same fun device inLibrary named => ?_
  refine meets_withApplication (fun e => ⟨nativeFailure_id _ _ _, .inl opened_settled⟩)
    fun application onDevice appNamed => ?_
  subst onDevice
  have key : (⟨ctx.normalizeAlias (params.optionalStr 0 ""), devName, appName⟩ : AuthKey) =
      application.key := by
    rw [Application.key, inLibrary, same, named, appNamed]
  refine bind_requireAuthorized careful ⟨rfl, rfl⟩ ?_
  rw [key]
  refine bind_chooseName application fun contName => ?_
  exact bind_obtainContainer application fun raw => meets_closing (meets_withKey application)

end SkfService.Conduct
