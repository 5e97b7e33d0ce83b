import SkfService.Domain.Crypto
import SkfService.Failures.Honest

/-! The guard-based handlers tell every failure that counts. -/

set_option autoImplicit false

namespace SkfService

open Text Interaction Program Handler RpcResponse

abbrev Honest.Branch (tolerates : Symbol → Bool) (missing : Int32) (p : Handler RpcResponse) :
    Prop :=
  Honest tolerates missing (Explains missing) none p

namespace Honest

section scopes

variable {ctx : SkfContext} {tolerates : Symbol → Bool} {library : Library} {device : Device}
  {application : Application} {provName devName appName contName : String} {id : Option Json}
  {ret : RpcResponse → Option ULONG → Prop}

theorem resolveOr {name : String} {failed : String → RpcResponse}
    (own : ∀ reason, (failed reason).Own) :
    Honest tolerates (-5) Fine none (resolveOr ctx name failed) :=
  unwatched.meets_resolveOr (fun reason => own reason) (fun _ => rfl) fun _ _ _ => rfl

theorem requireAuthorized {rejection : RpcResponse} (own : rejection.Own) :
    Honest tolerates (-5) Fine none (requireAuthorized provName devName appName rejection) := by
  refine (session _).after fun reply => ?_
  obtain ⟨now, outcome⟩ := reply
  cases outcome with
  | ok granted => exact rfl
  | error reason => exact own

theorem openDevice (strict : Strict tolerates) :
    Honest tolerates (-5) Fine none (openDevice library provName devName id) := by
  refine asked (strict _ rfl) (fun _ source => source) (fun _ => rfl) (fun raw => rfl)
    fun e source => ?_
  exact noteDeviceUnavailable.behind fun _ => explains_nativeFailure source _ _

theorem withDevice (strict : Strict tolerates) {body : Device → Handler RpcResponse}
    (inside : ∀ device, Branch tolerates (-5) (body device)) :
    Branch tolerates (-5) (withDevice library provName devName id body) :=
  (openDevice strict).after fun device => (inside device).ensuring

theorem applicationLost {message : ULONG → String} {e : ProviderError} (source : e.FromLibrary) :
    Honest tolerates (-5) Fine e.code (applicationLost provName devName message id e) :=
  noteDeviceUnavailable.behind fun _ => explains_nativeFailure source _ _

theorem withApplication (strict : Strict tolerates) {failed : ProviderError → Handler Application}
    {body : Application → Handler RpcResponse}
    (fails : ∀ e : ProviderError, e.FromLibrary → Honest tolerates (-5) Fine e.code (failed e))
    (inside : ∀ application, Branch tolerates (-5) (body application)) :
    Branch tolerates (-5) (withApplication device appName failed body) := by
  have opening : Honest tolerates (-5) Fine none (openApplication device appName failed) :=
    asked (strict _ rfl) (fun _ source => source) (fun _ => rfl) (fun raw => rfl) fails
  exact opening.after fun application => (inside application).ensuring

theorem withContainer (strict : Strict tolerates) {body : Container → Handler RpcResponse}
    (inside : ∀ container, Branch tolerates (-5) (body container)) :
    Branch tolerates (-5) (withContainer application contName id body) :=
  asked (strict _ rfl) (fun _ source => source) (fun _ => rfl)
    (fun raw => (inside ⟨application, contName, raw⟩).ensuring) fun _ source =>
      explains_nativeFailure source _ _

theorem withDeviceApplication (strict : Strict tolerates) {body : Application → Handler RpcResponse}
    (inside : ∀ application, Branch tolerates (-5) (body application)) :
    Branch tolerates (-5) (withDeviceApplication library provName devName appName id body) :=
  withDevice strict fun _ => withApplication strict (fun _ source => applicationLost source) inside

theorem withAuthorized (strict : Strict tolerates) {body : Application → Handler RpcResponse}
    (inside : ∀ application, Branch tolerates (-5) (body application)) :
    Branch tolerates (-5) (withAuthorized library provName devName appName id body) :=
  withDeviceApplication strict fun application =>
    (requireAuthorized (own_err (by decide))).after fun _ => inside application

theorem withGrantedContainer (strict : Strict tolerates) {body : Container → Handler RpcResponse}
    (inside : ∀ container, Branch tolerates (-5) (body container)) :
    Branch tolerates (-5)
      (withGrantedContainer library provName devName appName contName id body) :=
  withAuthorized strict fun _ => withContainer strict inside

theorem concluding {op : ProviderOp} {A : Type} {attempt : op.Reply → Attempt A} {result : A → Json}
    {message : ULONG → String} (counts : Counts tolerates op.symbol)
    (source : ∀ reply, op.FromLibrary reply → Attempt.FromLibrary (attempt reply))
    (same : ∀ reply, op.failure reply = Attempt.failure (attempt reply)) :
    Branch tolerates (-5) (Handler.provider op >>= fun reply =>
      Handler.settled (attempt reply) >>= fun outcome =>
      .done (concluded outcome result message id)) :=
  asked counts source same (fun _ => explains_ok _ _) fun _ source =>
    explains_nativeFailure source _ _

end scopes

theorem strict_false : Strict (fun _ => false) := by
  intro symbol minded failure
  cases symbol <;> first | rfl | cases minded

section handlers

variable {ctx : SkfContext} {params : Params} {lang : Language} {tolerates : Symbol → Bool}

theorem containerNames : Honest tolerates (-5) Fine none (containerNames params) :=
  (requiredStr _ _).after fun _ =>
    (requiredStr _ _).after fun _ => (requiredStr _ _).after fun _ => rfl

theorem checkPIN (strict : Strict tolerates) :
    Branch tolerates (-5) (CheckPIN.handle ctx params lang) := by
  unfold CheckPIN.handle
  refine (requiredStr _ _).after fun certKey => (requiredStr _ _).after fun pinStr => ?_
  refine (expect _ own_badRequest).after fun parts =>
    (resolveOr fun _ => own_loadFailed _).after fun library => ?_
  refine withDevice strict fun device => withApplication strict (fun _ source =>
      applicationLost source) fun application => ?_
  -- A PIN that is not accepted comes back as an outcome with its code.
  refine ⟨.inl rfl, fun attempt fair => ?_⟩
  have told : (verdicts tolerates).monitor.advance none
      (.provider (.verifyPin application pinStr)) attempt =
      PinOutcome.failure attempt := strict .VerifyPIN rfl _
  rw [told]
  rcases attempt with - | e | outcome
  · exact rfl
  · exact explains_nativeFailure fair _ _
  · obtain ⟨success, retryCount, code⟩ := outcome
    have accepted : success = decide (code = SAR_OK) := fair
    subst accepted
    change Honest tolerates (-5) (Explains (-5)) (failureOf code) _
    by_cases succeeded : code = SAR_OK
    · rw [failureOf_ok succeeded]
      refine ite (fun _ => (session _).after fun granted => ?_) fun refused =>
        (refused (decide_eq_true succeeded)).elim
      obtain ⟨now, kept⟩ := granted
      cases kept with
      | true => exact explains_ok _ _
      | false => exact rfl
    · rw [failureOf_failed succeeded]
      exact ite (fun accepted => (succeeded (of_decide_eq_true accepted)).elim) fun _ =>
        explains_err

theorem createContainer :
    Branch (fun _ => false) (-5) (CreateContainer.handle ctx params lang) := by
  unfold CreateContainer.handle
  refine containerNames.after fun names =>
    (resolveOr fun _ => own_loadFailed _).after fun library => ?_
  refine withAuthorized strict_false fun application => ?_
  refine asked (fun _ => rfl) (fun _ source => source) (fun _ => rfl) (fun raw => ?_)
    fun e source => explains_nativeFailure source _ _
  exact (close _).behind fun _ => explains_ok _ _

theorem deleteContainer (strict : Strict tolerates) : Branch tolerates (-5)
    (DeleteContainer.handle ctx params lang) := by
  unfold DeleteContainer.handle
  refine containerNames.after fun names =>
    (resolveOr fun _ => own_loadFailed _).after fun library => ?_
  exact withDeviceApplication strict fun application =>
    concluding (strict _ rfl) (fun _ source => source) fun _ => rfl

theorem getContainerType :
    Branch (fun _ => false) (-5) (GetContainerType.handle ctx params lang) := by
  unfold GetContainerType.handle
  refine containerNames.after fun names =>
    (resolveOr fun _ => own_loadFailed _).after fun library => ?_
  refine withDeviceApplication strict_false fun application =>
    withContainer strict_false fun container => ?_
  exact concluding (fun _ => rfl) (fun _ source => source) fun _ => rfl

theorem importCertificate (strict : Strict tolerates) :
    Branch tolerates (-5) (ImportCertificate.handle ctx params lang) := by
  unfold ImportCertificate.handle
  refine containerNames.after fun names => (expect _ own_badRequest).after fun signFlag => ?_
  refine (requiredStr _ _).after fun certStr => (checkPayloadLen _).after fun _ => ?_
  refine (mapError fun _ => own_err (by decide)).after fun certBytes => ?_
  refine (resolveOr fun _ => own_loadFailed _).after fun library =>
    withGrantedContainer strict fun container => ?_
  exact concluding (strict _ rfl) (fun _ source => source) fun _ => rfl

theorem generateKeyPair (strict : Strict tolerates) {fallback : UInt64}
    {generate : Container → ULONG → Handler RpcResponse}
    (generates : ∀ container number, Branch tolerates (-5) (generate container number)) :
    Branch tolerates (-5) (generateKeyPair ctx params lang fallback generate) := by
  unfold SkfService.generateKeyPair
  refine (requiredStr _ _).after fun provName => containerNames.after fun names => ?_
  refine (resolveOr fun _ => own_err (by decide)).after fun library => ?_
  exact withGrantedContainer strict fun container => generates container _

theorem genECCKeyPair (strict : Strict tolerates) :
    Branch tolerates (-5) (GenECCKeyPair.handle ctx params lang) :=
  generateKeyPair strict fun _ _ => concluding (strict _ rfl) (fun _ source => source) fun _ => rfl

theorem genRSAKeyPair (strict : Strict tolerates) :
    Branch tolerates (-5) (GenRSAKeyPair.handle ctx params lang) :=
  generateKeyPair strict fun _ _ => concluding (strict _ rfl) (fun _ source => source) fun _ => rfl

theorem certKeyNames {certKey : String} :
    Honest tolerates (-5) Fine none (certKeyNames ctx params certKey) :=
  (expect _ own_badRequest).after fun _ => rfl

theorem signatureDer {sig : List UInt8} : Honest tolerates (-5) Fine none (signatureDer sig) :=
  (unwrap _ _).after fun _ =>
    (unwrap _ _).after fun _ => (unwrap _ _).after fun _ => (unwrap _ _).after fun _ => rfl

theorem withSigningContainer (strict : Strict tolerates)
    {sign : Container → List UInt8 → Handler RpcResponse}
    (signs : ∀ container data, Branch tolerates (-5) (sign container data)) :
    Branch tolerates (-5) (withSigningContainer ctx params sign) := by
  unfold SkfService.withSigningContainer
  refine (requiredStr _ _).after fun certKey => (requiredStr _ _).after fun dataB64 =>
    certKeyNames.after fun names => ?_
  refine (decode _ _ _).after fun dataBytes =>
    (resolveOr fun _ => own_loadFailed _).after fun library => ?_
  exact withGrantedContainer strict fun container => signs container dataBytes

theorem signData (strict : Strict tolerates) (tolerable : tolerates .GetContainerType = true) :
    Branch tolerates (-5) (SignData.handle ctx params lang) := by
  refine withSigningContainer strict fun container dataBytes =>
    tolerated tolerable fun queried => ?_
  refine ite (fun _ => ?_) fun _ => ?_
  · refine asked (strict _ rfl) (fun _ source => source) (fun _ => rfl) (fun sig => ?_)
      fun e source => explains_nativeFailure source _ _
    exact signatureDer.after fun _ => explains_ok _ _
  · exact concluding (strict _ rfl) (fun _ source => source) fun _ => rfl

theorem rsaSignData (strict : Strict tolerates) :
    Branch tolerates (-5) (RSASignData.handle ctx params lang) :=
  withSigningContainer strict fun _ _ =>
    concluding (strict _ rfl) (fun _ source => source) fun _ => rfl

theorem setSymmKey (strict : Strict tolerates) {container : Container}
    (symKey : Option (List UInt8)) {id : Option Json} :
    Honest tolerates (-5) Fine none (setSymmKey container symKey lang id) := by
  cases symKey with
  | none => exact rfl
  | some keyBytes =>
    refine ite (fun _ => own_badRequest) fun _ => ?_
    exact asked (strict _ rfl) (fun _ source => source) (fun _ => rfl) (fun _ => rfl)
      fun e source => explains_nativeFailure source _ _

theorem withSymmetricKey (strict : Strict tolerates) {missingData invalidData : String}
    {cipher : Container → List UInt8 → ULONG → List UInt8 → Handler RpcResponse}
    (enciphers : ∀ container iv padding data,
      Branch tolerates (-5) (cipher container iv padding data)) :
    Branch tolerates (-5) (withSymmetricKey ctx params lang missingData invalidData cipher) := by
  unfold SkfService.withSymmetricKey
  refine (requiredStr _ _).after fun certKey => (requiredStr _ _).after fun dataB64 => ?_
  refine (requiredStr _ _).after fun ivB64 =>
    (orReply fun rejection rejected => ?_).after fun symKey => ?_
  -- The key is optional: only one that is given can be refused.
  · cases given : params.str 4 with
    | none =>
      rw [given] at rejected
      cases rejected
    | some encoded =>
      rw [given] at rejected
      dsimp only at rejected
      cases decoded : params.decode ctx.platform.base64Error encoded "Invalid base64 symKey" with
      | ok bytes =>
        rw [decoded] at rejected
        cases rejected
      | error early =>
        rw [decoded] at rejected
        cases rejected
        exact own_decode decoded
  · refine certKeyNames.after fun names =>
      (decode _ _ _).after fun dataBytes => (decode _ _ _).after fun ivBytes => ?_
    refine (resolveOr fun _ => own_loadFailed _).after fun library =>
      withGrantedContainer strict fun container => ?_
    exact (setSymmKey strict symKey).after fun _ => enciphers container ivBytes _ dataBytes

theorem encryptData (strict : Strict tolerates) :
    Branch tolerates (-5) (EncryptData.handle ctx params lang) :=
  withSymmetricKey strict fun _ _ _ _ =>
    concluding (strict _ rfl) (fun _ source => source) fun _ => rfl

theorem decryptData (strict : Strict tolerates) :
    Branch tolerates (-5) (DecryptData.handle ctx params lang) :=
  withSymmetricKey strict fun _ _ _ _ =>
    concluding (strict _ rfl) (fun _ source => source) fun _ => rfl

end handlers

section request

open CreatePKCS10

variable {ctx : SkfContext} {params : Params} {lang : Language} {tolerates : Symbol → Bool}
  {id : Option Json} {container : Container} {requested contName : String}

/-- Without random bytes the name is taken from the clock. -/
theorem chooseName {device : Device} (tolerable : tolerates .GenRandom = true) :
    Honest tolerates (-5) Fine none (chooseName device requested) := by
  refine ite (fun _ => rfl) fun _ => tolerated tolerable fun drawn => ?_
  cases drawn with
  | ok bytes => exact (unwrap _ _).after fun _ => rfl
  | error e => exact (host _).after fun clock => (unwrap _ _).after fun _ => rfl

/-- A container that was named may exist already, so that its creation may fail. -/
theorem obtainContainer (strict : Strict tolerates) {application : Application}
    (tolerable : requested ≠ "" → tolerates .CreateContainer = true)
    (counts : requested = "" → Counts tolerates .CreateContainer) :
    Honest tolerates (-5) Fine none (obtainContainer application requested contName id) := by
  -- Only a name that came from the client is opened when it cannot be created.
  by_cases unnamed : requested = ""
  · refine asked (counts unnamed) (fun _ source => source) (fun _ => rfl) (fun raw => rfl)
      fun e source => ?_
    dsimp only
    rw [if_neg (not_not.mpr unnamed)]
    exact explains_nativeFailure source _ _
  · refine tolerated (tolerable unnamed) fun created => ?_
    cases created with
    | ok raw => exact rfl
    | error e =>
      dsimp only
      rw [if_pos unnamed]
      exact asked (strict _ rfl) (fun _ source => source) (fun _ => rfl) (fun raw => rfl)
        fun e source => explains_nativeFailure source _ _

theorem generateKey (strict : Strict tolerates) {isEcc : Bool} {keyLength : UInt32} :
    Honest tolerates (-5) Fine none (generateKey container isEcc keyLength id) := by
  refine ite (fun _ => ?_) fun _ => ?_
  · exact asked (strict _ rfl) (fun _ source => source) (fun _ => rfl) (fun key => rfl)
      fun e source => explains_nativeFailure source _ _
  · exact asked (strict _ rfl) (fun _ source => source) (fun _ => rfl)
      (fun key => (unwrap _ _).after fun _ => rfl)
      fun e source => explains_nativeFailure source _ _

theorem beginDigest (strict : Strict tolerates) {device : Device} (eccKey : Option EccPublicKey) :
    Honest tolerates (-5) Fine none (beginDigest device eccKey id) := by
  unfold CreatePKCS10.beginDigest
  cases eccKey with
  | some key =>
    exact asked (strict _ rfl) (fun _ source => source) (fun _ => rfl) (fun raw => rfl)
      fun e source => explains_nativeFailure source _ _
  | none =>
    exact asked (strict _ rfl) (fun _ source => source) (fun _ => rfl) (fun raw => rfl)
      fun e source => explains_nativeFailure source _ _

theorem digestTbs (strict : Strict tolerates) {digest : Digest} {tbs : List UInt8} :
    Honest tolerates (-5) Fine none (digestTbs digest tbs id) := by
  refine asked (strict _ rfl) (fun _ source => source) (fun _ => rfl) (fun _ => ?_)
    fun e source => explains_nativeFailure source _ _
  exact asked (strict _ rfl) (fun _ source => source) (fun _ => rfl) (fun hash => rfl)
    fun e source => explains_nativeFailure source _ _

theorem signDigest (strict : Strict tolerates) {isEcc : Bool} {hash : List UInt8} :
    Honest tolerates (-5) Fine none (signDigest container isEcc hash id) := by
  refine ite (fun _ => ?_) fun _ => ?_
  · refine asked (strict _ rfl) (fun _ source => source) (fun _ => rfl) (fun sig => ?_)
      fun e source => explains_nativeFailure source _ _
    exact (unwrap _ _).after fun _ => (unwrap _ _).after fun _ => (unwrap _ _).after fun _ =>
      (unwrap _ _).after fun _ => rfl
  · exact asked (strict _ rfl) (fun _ source => source) (fun _ => rfl) (fun sig => rfl)
      fun e source => explains_nativeFailure source _ _

theorem withKey (strict : Strict tolerates) {device : Device} {subject keyType : String}
    {keyLength : UInt32} :
    Branch tolerates (-5) (withKey ctx device container subject keyType keyLength id) := by
  refine (generateKey strict).after fun generated =>
    (beginDigest strict generated.2).after fun digest => ensuring ?_
  refine (digestTbs strict).after fun hash => (signDigest strict).after fun sig => ?_
  exact (host _).after fun _ => explains_ok _ _

theorem createPKCS10 (strict : Strict tolerates) (random : tolerates .GenRandom = true)
    (tolerable : params.optionalStr 6 "" ≠ "" → tolerates .CreateContainer = true)
    (counts : params.optionalStr 6 "" = "" → Counts tolerates .CreateContainer) :
    Branch tolerates (-5) (CreatePKCS10.handle ctx params lang) := by
  unfold CreatePKCS10.handle
  refine (requiredStr _ _).after fun devName => (requiredStr _ _).after fun appName => ?_
  refine (requiredStr _ _).after fun subject =>
    (resolveOr fun _ => own_loadFailed _).after fun library => ?_
  refine withDevice strict fun device =>
    withApplication strict (fun e source => explains_nativeFailure source _ _)
    fun application => (requireAuthorized (own_err (by decide))).after fun _ => ?_
  refine (chooseName random).after fun contName =>
    (obtainContainer strict tolerable counts).after fun container => ?_
  exact (withKey strict).ensuring

end request
end Honest
end SkfService
