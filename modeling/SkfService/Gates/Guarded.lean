import SkfService.Domain.Crypto
import SkfService.Gates.Monitor

/-! The guard-based handlers keep to the gate of the library they resolve. -/

set_option autoImplicit false

namespace SkfService

open Text Interaction Program Handler

namespace Serial

section scopes

variable {ctx : SkfContext} {symbols : Bool} {A : Type} {ret : A → Prop} {library : Library}
  {device : Device} {application : Application} {provName devName appName contName : String}
  {id : Option Json}

theorem noteDeviceUnavailable :
    Serial ctx symbols (fun _ => True) (noteDeviceUnavailable provName devName) :=
  (session rfl).after fun _ => trivial

theorem resolveOr {name : String} {failed : String → RpcResponse} :
    Serial ctx symbols (fun library => library.Gated ctx) (resolveOr ctx name failed) :=
  unwatched.meets_resolveOr (fun _ => trivial) (fun _ => gated_provider ctx) fun other _ _ =>
    gated_other other

theorem requireAuthorized {rejection : RpcResponse} :
    Serial ctx symbols (fun _ => True) (requireAuthorized provName devName appName rejection) := by
  refine (session rfl).after fun reply => ?_
  obtain ⟨now, outcome⟩ := reply
  cases outcome <;> trivial

theorem openDevice (gated : library.Gated ctx) :
    Serial ctx symbols (fun device => device.library.Gated ctx)
      (openDevice library provName devName id) := by
  refine (provider gated).after fun attempt => (settled attempt).after fun opened => ?_
  cases opened with
  | ok raw => exact gated
  | error e => exact noteDeviceUnavailable.after fun _ => trivial

theorem withDevice (gated : library.Gated ctx) {body : Device → Handler A}
    (inside : ∀ device, device.library.Gated ctx → Serial ctx symbols ret (body device)) :
    Serial ctx symbols ret (withDevice library provName devName id body) :=
  (openDevice gated).bind fun device opened => (inside device opened).ensuring (provider opened)

theorem applicationLost {message : ULONG → String} (e : ProviderError) :
    Serial ctx symbols (fun application => application.device.library.Gated ctx)
      (applicationLost provName devName message id e) :=
  noteDeviceUnavailable.after fun _ => trivial

theorem withApplication (gated : device.library.Gated ctx)
    {failed : ProviderError → Handler Application} {body : Application → Handler A}
    (fails : ∀ e,
      Serial ctx symbols (fun application => application.device.library.Gated ctx) (failed e))
    (inside : ∀ application : Application, application.device.library.Gated ctx →
      Serial ctx symbols ret (body application)) :
    Serial ctx symbols ret (withApplication device appName failed body) := by
  have opening : Serial ctx symbols (fun application => application.device.library.Gated ctx)
      (openApplication device appName failed) := by
    refine (provider gated).after fun attempt => (settled attempt).after fun opened => ?_
    cases opened with
    | ok raw => exact gated
    | error e => exact fails e
  exact opening.bind fun application opened =>
    (inside application opened).ensuring (provider opened)

theorem withContainer (gated : application.device.library.Gated ctx) {body : Container → Handler A}
    (inside : ∀ container : Container, container.application.device.library.Gated ctx →
      Serial ctx symbols ret (body container)) :
    Serial ctx symbols ret (withContainer application contName id body) := by
  refine (provider gated).after fun attempt => (settled attempt).after fun opened => ?_
  cases opened with
  | ok raw => exact (inside ⟨application, contName, raw⟩ gated).ensuring (provider gated)
  | error e => trivial

theorem withDeviceApplication (gated : library.Gated ctx) {body : Application → Handler A}
    (inside : ∀ application : Application, application.device.library.Gated ctx →
      Serial ctx symbols ret (body application)) :
    Serial ctx symbols ret (withDeviceApplication library provName devName appName id body) :=
  withDevice gated fun _ opened => withApplication opened applicationLost inside

theorem withAuthorized (gated : library.Gated ctx) {body : Application → Handler A}
    (inside : ∀ application : Application, application.device.library.Gated ctx →
      Serial ctx symbols ret (body application)) :
    Serial ctx symbols ret (withAuthorized library provName devName appName id body) :=
  withDeviceApplication gated fun application opened =>
    requireAuthorized.after fun _ => inside application opened

theorem withGrantedContainer (gated : library.Gated ctx) {body : Container → Handler A}
    (inside : ∀ container : Container, container.application.device.library.Gated ctx →
      Serial ctx symbols ret (body container)) :
    Serial ctx symbols ret
      (withGrantedContainer library provName devName appName contName id body) :=
  withAuthorized gated fun _ opened => withContainer opened inside

theorem concluding {op : ProviderOp} (gated : op.library.Gated ctx) {B : Type}
    {attempt : op.Reply → Attempt B} {response : Except ProviderError B → RpcResponse} :
    Serial ctx symbols (fun _ => True)
      (Handler.provider op >>= fun reply =>
        Handler.settled (attempt reply) >>= fun outcome => .done (response outcome)) :=
  (provider gated).after fun _ => (settled _).after fun _ => trivial

end scopes

section handlers

variable {ctx : SkfContext} {params : Params} {lang : Language} {symbols : Bool}

theorem checkPIN : Serial ctx symbols (fun _ => True) (CheckPIN.handle ctx params lang) := by
  unfold CheckPIN.handle
  refine (orReply _).after fun certKey =>
    (orReply _).after fun pinStr => (expect _ _).after fun parts => ?_
  refine resolveOr.bind fun library resolved => withDevice resolved fun device connected => ?_
  refine withApplication connected applicationLost fun application opened => ?_
  refine (provider opened).after fun attempt => (settled attempt).after fun verified => ?_
  cases verified with
  | error e => trivial
  | ok outcome =>
    refine ite (fun _ => (session rfl).after fun granted => ?_) fun _ => trivial
    obtain ⟨now, kept⟩ := granted
    cases kept <;> trivial

theorem containerNames : Serial ctx symbols (fun _ => True) (containerNames params) :=
  (orReply _).after fun _ => (orReply _).after fun _ => (orReply _).after fun _ => trivial

theorem createContainer :
    Serial ctx symbols (fun _ => True) (CreateContainer.handle ctx params lang) := by
  unfold CreateContainer.handle
  refine containerNames.after fun names => resolveOr.bind fun library resolved => ?_
  refine withAuthorized resolved fun application opened => ?_
  refine (provider opened).after fun attempt => (settled attempt).after fun created => ?_
  cases created with
  | ok raw => exact (provider opened).after fun _ => trivial
  | error e => trivial

theorem deleteContainer :
    Serial ctx symbols (fun _ => True) (DeleteContainer.handle ctx params lang) := by
  unfold DeleteContainer.handle
  refine containerNames.after fun names => resolveOr.bind fun library resolved => ?_
  exact withDeviceApplication resolved fun application opened => concluding opened

theorem getContainerType :
    Serial ctx symbols (fun _ => True) (GetContainerType.handle ctx params lang) := by
  unfold GetContainerType.handle
  refine containerNames.after fun names => resolveOr.bind fun library resolved => ?_
  refine withDeviceApplication resolved fun application opened => ?_
  exact withContainer opened fun container inside => concluding inside

theorem importCertificate :
    Serial ctx symbols (fun _ => True) (ImportCertificate.handle ctx params lang) := by
  unfold ImportCertificate.handle
  refine containerNames.after fun names =>
    (expect _ _).after fun signFlag => (orReply _).after fun certStr => ?_
  refine (orReply _).after fun _ =>
    (orReply _).after fun certBytes => resolveOr.bind fun library resolved => ?_
  exact withGrantedContainer resolved fun container inside => concluding inside

theorem generateKeyPair {fallback : UInt64} {generate : Container → ULONG → Handler RpcResponse}
    (generates : ∀ (container : Container) (number : ULONG),
      container.application.device.library.Gated ctx →
        Serial ctx symbols (fun _ => True) (generate container number)) :
    Serial ctx symbols (fun _ => True) (generateKeyPair ctx params lang fallback generate) := by
  unfold SkfService.generateKeyPair
  refine (orReply _).after fun provName => containerNames.after fun names => ?_
  exact resolveOr.bind fun library resolved =>
    withGrantedContainer resolved fun container inside => generates container _ inside

theorem genECCKeyPair : Serial ctx symbols (fun _ => True) (GenECCKeyPair.handle ctx params lang) :=
  generateKeyPair fun _ _ inside => concluding inside

theorem genRSAKeyPair : Serial ctx symbols (fun _ => True) (GenRSAKeyPair.handle ctx params lang) :=
  generateKeyPair fun _ _ inside => concluding inside

theorem certKeyNames {certKey : String} :
    Serial ctx symbols (fun _ => True) (certKeyNames ctx params certKey) :=
  (expect _ _).after fun _ => trivial

theorem signatureDer {sig : List UInt8} : Serial ctx symbols (fun _ => True) (signatureDer sig) :=
  (unwrap _ _).after fun _ =>
    (unwrap _ _).after fun _ => (unwrap _ _).after fun _ => (unwrap _ _).after fun _ => trivial

theorem withSigningContainer {sign : Container → List UInt8 → Handler RpcResponse}
    (signs : ∀ (container : Container) (data : List UInt8),
      container.application.device.library.Gated ctx →
        Serial ctx symbols (fun _ => True) (sign container data)) :
    Serial ctx symbols (fun _ => True) (withSigningContainer ctx params sign) := by
  unfold SkfService.withSigningContainer
  refine (orReply _).after fun certKey =>
    (orReply _).after fun dataB64 => certKeyNames.after fun names => ?_
  refine (orReply _).after fun dataBytes => resolveOr.bind fun library resolved => ?_
  exact withGrantedContainer resolved fun container inside => signs container dataBytes inside

theorem signData : Serial ctx symbols (fun _ => True) (SignData.handle ctx params lang) := by
  refine withSigningContainer fun container dataBytes inside => ?_
  refine (provider inside).after fun attempt =>
    (settled attempt).after fun queried => ite (fun _ => ?_) fun _ => ?_
  · refine (provider inside).after fun attempt => (settled attempt).after fun signed => ?_
    cases signed with
    | ok sig => exact signatureDer.after fun _ => trivial
    | error e => trivial
  · exact concluding inside

theorem rsaSignData : Serial ctx symbols (fun _ => True) (RSASignData.handle ctx params lang) :=
  withSigningContainer fun _ _ inside => concluding inside

theorem setSymmKey {container : Container} (inside : container.application.device.library.Gated ctx)
    (symKey : Option (List UInt8)) {id : Option Json} :
    Serial ctx symbols (fun _ => True) (setSymmKey container symKey lang id) := by
  cases symKey with
  | none => trivial
  | some keyBytes =>
    refine ite (fun _ => trivial) fun _ =>
      (provider inside).after fun attempt => (settled attempt).after fun set => ?_
    cases set <;> trivial

theorem withSymmetricKey {missingData invalidData : String}
    {cipher : Container → List UInt8 → ULONG → List UInt8 → Handler RpcResponse}
    (enciphers : ∀ (container : Container) (iv : List UInt8) (padding : ULONG) (data : List UInt8),
      container.application.device.library.Gated ctx →
        Serial ctx symbols (fun _ => True) (cipher container iv padding data)) :
    Serial ctx symbols (fun _ =>
      True) (withSymmetricKey ctx params lang missingData invalidData cipher) := by
  unfold SkfService.withSymmetricKey
  refine (orReply _).after fun certKey =>
    (orReply _).after fun dataB64 => (orReply _).after fun ivB64 => ?_
  refine (orReply _).after fun symKey =>
    certKeyNames.after fun names => (orReply _).after fun dataBytes => ?_
  refine (orReply _).after fun ivBytes => resolveOr.bind fun library resolved => ?_
  refine withGrantedContainer resolved fun container inside =>
    (setSymmKey inside symKey).after fun _ => ?_
  exact enciphers container ivBytes _ dataBytes inside

theorem encryptData : Serial ctx symbols (fun _ => True) (EncryptData.handle ctx params lang) :=
  withSymmetricKey fun _ _ _ _ inside => concluding inside

theorem decryptData : Serial ctx symbols (fun _ => True) (DecryptData.handle ctx params lang) :=
  withSymmetricKey fun _ _ _ _ inside => concluding inside

end handlers

section request

open CreatePKCS10

variable {ctx : SkfContext} {params : Params} {lang : Language} {symbols : Bool} {id : Option Json}
  {container : Container} {requested contName : String}

theorem chooseName {device : Device} (opened : device.library.Gated ctx) :
    Serial ctx symbols (fun _ => True) (chooseName device requested) := by
  refine ite (fun _ => trivial) fun _ =>
    (provider opened).after fun attempt => (settled attempt).after fun drawn => ?_
  cases drawn with
  | ok bytes => exact (unwrap _ _).after fun _ => trivial
  | error e => exact (host _).after fun clock => (unwrap _ _).after fun _ => trivial

theorem obtainContainer {application : Application}
    (opened : application.device.library.Gated ctx) :
    Serial ctx symbols (fun container => container.application.device.library.Gated ctx)
      (obtainContainer application requested contName id) := by
  refine (provider opened).after fun attempt => (settled attempt).after fun created => ?_
  cases created with
  | ok raw => exact opened
  | error e =>
    refine ite (fun _ =>
      (provider opened).after fun attempt =>
        (settled attempt).after fun found => ?_) fun _ => trivial
    cases found with
    | ok raw => exact opened
    | error e => trivial

theorem generateKey {isEcc : Bool} {keyLength : UInt32}
    (inside : container.application.device.library.Gated ctx) :
    Serial ctx symbols (fun _ => True) (generateKey container isEcc keyLength id) := by
  refine ite (fun _ => ?_) fun _ => ?_
  · refine (provider inside).after fun attempt => (settled attempt).after fun generated => ?_
    cases generated <;> trivial
  · refine (provider inside).after fun attempt => (settled attempt).after fun generated => ?_
    cases generated with
    | ok key => exact (unwrap _ _).after fun _ => trivial
    | error e => trivial

theorem beginDigest {device : Device} (opened : device.library.Gated ctx)
    (eccKey : Option EccPublicKey) :
    Serial ctx symbols (fun digest => digest.device.library.Gated ctx)
      (beginDigest device eccKey id) := by
  unfold CreatePKCS10.beginDigest
  cases eccKey with
  | some key =>
    refine (provider opened).after fun attempt => (settled attempt).after fun begun => ?_
    cases begun with
    | ok raw => exact opened
    | error e => trivial
  | none =>
    refine (provider opened).after fun attempt => (settled attempt).after fun begun => ?_
    cases begun with
    | ok raw => exact opened
    | error e => trivial

theorem digestTbs {digest : Digest} {tbs : List UInt8} (begun : digest.device.library.Gated ctx) :
    Serial ctx symbols (fun _ => True) (digestTbs digest tbs id) := by
  refine (provider begun).after fun attempt => (settled attempt).after fun updated => ?_
  cases updated with
  | error e => trivial
  | ok done =>
    refine (provider begun).after fun attempt => (settled attempt).after fun finalized => ?_
    cases finalized <;> trivial

theorem signDigest {isEcc : Bool} {hash : List UInt8}
    (inside : container.application.device.library.Gated ctx) :
    Serial ctx symbols (fun _ => True) (signDigest container isEcc hash id) := by
  refine ite (fun _ => ?_) fun _ => ?_
  · refine (provider inside).after fun attempt => (settled attempt).after fun signed => ?_
    cases signed with
    | error e => trivial
    | ok sig =>
      exact (unwrap _ _).after fun _ =>
        (unwrap _ _).after fun _ => (unwrap _ _).after fun _ => (unwrap _ _).after fun _ =>
        trivial
  · refine (provider inside).after fun attempt => (settled attempt).after fun signed => ?_
    cases signed <;> trivial

theorem withKey {device : Device} {subject keyType : String} {keyLength : UInt32}
    (opened : device.library.Gated ctx) (inside : container.application.device.library.Gated ctx) :
    Serial ctx symbols (fun _ =>
      True) (withKey ctx device container subject keyType keyLength id) := by
  refine (generateKey inside).after fun generated =>
    (beginDigest opened generated.2).bind fun digest begun => ?_
  refine ensuring ?_ (provider begun)
  exact (digestTbs begun).after fun hash =>
    (signDigest inside).after fun sig => (host _).after fun _ => trivial

theorem createPKCS10 :
    Serial ctx symbols (fun _ => True) (CreatePKCS10.handle ctx params lang) := by
  unfold CreatePKCS10.handle
  refine (orReply _).after fun devName =>
    (orReply _).after fun appName => (orReply _).after fun subject => ?_
  refine resolveOr.bind fun library resolved => withDevice resolved fun device connected => ?_
  refine withApplication connected (fun _ => trivial) fun application opened =>
    requireAuthorized.after fun _ => ?_
  refine (chooseName connected).after fun contName =>
    (obtainContainer opened).bind fun container inside => ?_
  exact (withKey connected inside).ensuring (provider inside)

end request
end Serial
end SkfService
