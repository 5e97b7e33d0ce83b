import SkfService.Dispatch.Routine

/-! The branches that open an application or work on a hash object of the session, sorted by what
they ask for. -/

set_option autoImplicit false

namespace SkfService

open Text Interaction Program Handler

/-- A sort of operations that has those without a client's structure that change no more than
`changes`. -/
class Covers (changes : List Change) (Q : Op → Prop) : Prop where
  covers : ∀ op : Op, op.structured = false → op.within changes = true → Q op

instance coversUnstructured {changes : List Change} :
    Covers changes fun op => op.structured = false :=
  ⟨fun _ unstructured _ => unstructured⟩

instance coversWithin {changes : List Change} : Covers changes fun op => op.within changes = true :=
  ⟨fun _ _ within => within⟩

instance readsWithin {changes : List Change} : AdmitsReads fun op => op.within changes = true :=
  ⟨fun _ _ quiet => Op.within_of_none quiet⟩

theorem Confined.covered {Q : Op → Prop} (changes : List Change) [Covers changes Q]
    {op : ProviderOp} (unstructured : (Op.provider op).structured = false)
    (within : (Op.provider op).within changes = true) :
    Confined Q (Handler.provider op) := asks_ask (Covers.covers _ unstructured within)

section rules

variable {Q : Op → Prop} [AdmitsReads Q] {A B : Type} {ctx : SkfContext} {params : Params}
  {lang : Language} {id : Option Json}

theorem confined_resolveOr (name : String) (failed : String → RpcResponse) :
    Confined Q (resolveOr ctx name failed) := by
  have resolved : Confined Q (ctx.resolve name) := by
    refine Confined.ite trivial ((confined_getApi name).bind fun found => ?_)
    cases found with
    | ok library => exact (Confined.host _).bind fun _ => trivial
    | error reason => exact trivial
  refine resolved.bind fun found => ?_
  cases found <;> exact trivial

theorem confined_withDevice (library : Library) (provName devName : String)
    {body : Device → Handler A} (inside : ∀ device, Confined Q (body device)) :
    Confined Q (withDevice library provName devName id body) := by
  refine ((Confined.readProvider rfl rfl).bind fun opened =>
    (Confined.settled _).bind fun result =>
      ?_).bind fun device => (inside device).closing (AdmitsReads.reads _ rfl rfl)
  cases result with
  | ok raw => exact trivial
  | error e => exact confined_lost _ _ _

theorem confined_withApplication (device : Device) (appName : String)
    {failed : ProviderError → Handler Application} {body : Application → Handler A}
    (fails : ∀ e, Confined Q (failed e)) (inside : ∀ application, Confined Q (body application)) :
    Confined Q (withApplication device appName failed body) := by
  refine ((Confined.readProvider rfl rfl).bind fun opened =>
    (Confined.settled _).bind fun result =>
      ?_).bind fun application => (inside application).closing (AdmitsReads.reads _ rfl rfl)
  cases result with
  | ok raw => exact trivial
  | error e => exact fails e

theorem confined_withContainer (application : Application) (contName : String)
    {body : Container → Handler A} (inside : ∀ container, Confined Q (body container)) :
    Confined Q (withContainer application contName id body) := by
  refine (Confined.readProvider rfl rfl).bind fun opened =>
    (Confined.settled _).bind fun result => ?_
  cases result with
  | ok raw => exact (inside _).closing (AdmitsReads.reads _ rfl rfl)
  | error e => exact trivial

theorem confined_requireAuthorized (provName devName appName : String) (rejection : RpcResponse) :
    Confined Q (requireAuthorized provName devName appName rejection) := by
  refine (Confined.session _).bind fun answer => ?_
  obtain ⟨now, outcome⟩ := answer
  cases outcome <;> exact trivial

theorem confined_withDeviceApplication (library : Library) (provName devName appName : String)
    {body : Application → Handler A} (inside : ∀ application, Confined Q (body application)) :
    Confined Q (withDeviceApplication library provName devName appName id body) :=
  confined_withDevice _ _ _ fun _ =>
    confined_withApplication _ _ (fun _ => confined_lost _ _ _) inside

theorem confined_withAuthorized (library : Library) (provName devName appName : String)
    {body : Application → Handler A} (inside : ∀ application, Confined Q (body application)) :
    Confined Q (withAuthorized library provName devName appName id body) :=
  confined_withDeviceApplication _ _ _ _ fun application =>
    (confined_requireAuthorized _ _ _ _).bind fun _ => inside application

theorem confined_withGrantedContainer (library : Library)
    (provName devName appName contName : String) {body : Container → Handler A}
    (inside : ∀ container, Confined Q (body container)) :
    Confined Q (withGrantedContainer library provName devName appName contName id body) :=
  confined_withAuthorized _ _ _ _ fun _ => confined_withContainer _ _ inside

omit [AdmitsReads Q] in
theorem confined_containerNames : Confined Q (containerNames params) :=
  (Confined.orReply _).bind fun _ =>
    (Confined.orReply _).bind fun _ => (Confined.orReply _).bind fun _ => trivial

end rules

section branches

variable {Q : Op → Prop} [AdmitsReads Q] {ctx : SkfContext} {params : Params} {lang : Language}

theorem confined_digestFinal [Covers [] Q] : Confined Q (DigestFinal.handle params lang) := by
  refine (Confined.expect _ _).bind fun handle => (Confined.session _).bind fun removed => ?_
  cases removed with
  | error reason => exact trivial
  | ok digest =>
    refine Confined.closing ?_ (@Covers.covers [] _ _ _ rfl rfl)
    refine (Confined.covered [] rfl rfl).bind fun finalized =>
      (Confined.settled _).bind fun result => ?_
    cases result <;> exact trivial

theorem confined_closeHash [Covers [] Q] : Confined Q (CloseHash.handle params) := by
  refine (Confined.expect _ _).bind fun handle => (Confined.session _).bind fun removed => ?_
  cases removed with
  | ok digest => exact (Confined.covered [] rfl rfl).bind fun _ => trivial
  | error reason => exact trivial

theorem confined_checkPIN [Covers [.pinRetries] Q] :
    Confined Q (CheckPIN.handle ctx params lang) := by
  refine (Confined.orReply _).bind fun _ =>
    (Confined.orReply _).bind fun _ => (Confined.expect _ _).bind fun _ =>
    (confined_resolveOr _ _).bind fun _ => confined_withDevice _ _ _ fun _ =>
      confined_withApplication _ _ (fun _ => confined_lost _ _ _) fun application => ?_
  refine (Confined.covered [.pinRetries] rfl rfl).bind fun verified =>
    (Confined.settled _).bind fun result => ?_
  cases result with
  | error e => exact trivial
  | ok outcome =>
    refine Confined.ite ((Confined.session _).bind fun answer => ?_) trivial
    obtain ⟨now, granted⟩ := answer
    cases granted <;> exact trivial

theorem confined_createContainer [Covers [.containers] Q] :
    Confined Q (CreateContainer.handle ctx params lang) := by
  refine confined_containerNames.bind fun names => (confined_resolveOr _ _).bind fun library =>
    confined_withAuthorized _ _ _ _ fun application => ?_
  refine (Confined.covered [.containers] rfl rfl).bind fun created =>
    (Confined.settled _).bind fun result => ?_
  cases result with
  | ok raw => exact (Confined.readProvider rfl rfl).bind fun _ => trivial
  | error e => exact trivial

theorem confined_deleteContainer [Covers [.containers] Q] :
    Confined Q (DeleteContainer.handle ctx params lang) :=
  confined_containerNames.bind fun _ => (confined_resolveOr _ _).bind fun _ =>
    confined_withDeviceApplication _ _ _ _ fun _ =>
      (Confined.covered [.containers] rfl rfl).bind fun _ =>
      (Confined.settled _).bind fun _ => trivial

theorem confined_getContainerType : Confined Q (GetContainerType.handle ctx params lang) :=
  confined_containerNames.bind fun _ => (confined_resolveOr _ _).bind fun _ =>
    confined_withDeviceApplication _ _ _ _ fun _ => confined_withContainer _ _ fun _ =>
      (Confined.readProvider rfl rfl).bind fun _ => (Confined.settled _).bind fun _ => trivial

theorem confined_generateKeyPair {fallback : UInt64}
    {generate : Container → ULONG → Handler RpcResponse}
    (generates : ∀ container number, Confined Q (generate container number)) :
    Confined Q (generateKeyPair ctx params lang fallback generate) :=
  (Confined.orReply _).bind fun _ =>
    confined_containerNames.bind fun _ => (confined_resolveOr _ _).bind fun _ =>
    confined_withGrantedContainer _ _ _ _ _ fun container => generates container _

theorem confined_genECCKeyPair [Covers [.keyPairs] Q] :
    Confined Q (GenECCKeyPair.handle ctx params lang) := by
  unfold GenECCKeyPair.handle
  apply confined_generateKeyPair
  intro container algId
  exact (Confined.covered [.keyPairs] rfl rfl).bind fun made =>
    (Confined.settled made).bind fun _ => asks_done _

theorem confined_genRSAKeyPair [Covers [.keyPairs] Q] :
    Confined Q (GenRSAKeyPair.handle ctx params lang) := by
  unfold GenRSAKeyPair.handle
  apply confined_generateKeyPair
  intro container bitsLen
  exact (Confined.covered [.keyPairs] rfl rfl).bind fun made =>
    (Confined.settled made).bind fun _ => asks_done _

theorem confined_importCertificate [Covers [.certificates] Q] :
    Confined Q (ImportCertificate.handle ctx params lang) :=
  confined_containerNames.bind fun _ =>
    (Confined.expect _ _).bind fun _ => (Confined.orReply _).bind fun _ =>
    (Confined.orReply _).bind fun _ =>
      (Confined.orReply _).bind fun _ => (confined_resolveOr _ _).bind fun _ =>
      confined_withGrantedContainer _ _ _ _ _ fun _ =>
        (Confined.covered [.certificates] rfl rfl).bind fun _ =>
        (Confined.settled _).bind fun _ => trivial

omit [AdmitsReads Q] in
theorem confined_certKeyNames (certKey : String) : Confined Q (certKeyNames ctx params certKey) :=
  (Confined.expect _ _).bind fun _ => trivial

theorem confined_withSigningContainer {sign : Container → List UInt8 → Handler RpcResponse}
    (signs : ∀ container data, Confined Q (sign container data)) :
    Confined Q (withSigningContainer ctx params sign) :=
  (Confined.orReply _).bind fun _ =>
    (Confined.orReply _).bind fun _ => (confined_certKeyNames _).bind fun _ =>
    (Confined.orReply _).bind fun _ => (confined_resolveOr _ _).bind fun _ =>
      confined_withGrantedContainer _ _ _ _ _ fun container => signs container _

theorem confined_signData : Confined Q (SignData.handle ctx params lang) := by
  apply confined_withSigningContainer
  intro container data
  refine (Confined.readProvider rfl rfl).bind fun _ =>
    (Confined.settled _).bind fun _ => Confined.ite ?_ ?_
  · refine (Confined.readProvider rfl rfl).bind fun signed =>
      (Confined.settled _).bind fun result => ?_
    cases result with
    | ok sig =>
      exact Confined.bind ((Confined.unwrap _ _).bind fun _ => (Confined.unwrap _ _).bind fun _ =>
        (Confined.unwrap _ _).bind fun _ =>
          (Confined.unwrap _ _).bind fun _ => trivial) fun _ => trivial
    | error e => exact trivial
  · exact (Confined.readProvider rfl rfl).bind fun _ => (Confined.settled _).bind fun _ => trivial

theorem confined_rsaSignData : Confined Q (RSASignData.handle ctx params lang) :=
  confined_withSigningContainer fun _ _ => (Confined.readProvider rfl rfl).bind fun _ =>
    (Confined.settled _).bind fun _ => trivial

theorem confined_withSymmetricKey {missingData invalidData : String}
    {cipher : Container → List UInt8 → ULONG → List UInt8 → Handler RpcResponse}
    (ciphers : ∀ container iv padding data, Confined Q (cipher container iv padding data)) :
    Confined Q (withSymmetricKey ctx params lang missingData invalidData cipher) := by
  have keyed (container : Container) (symKey : Option (List UInt8)) :
      Confined Q (setSymmKey container symKey lang params.id) := by
    cases symKey with
    | none => exact trivial
    | some keyBytes =>
      refine Confined.ite trivial ((Confined.readProvider rfl rfl).bind fun _ =>
        (Confined.settled _).bind fun result => ?_)
      cases result <;> exact trivial
  refine (Confined.orReply _).bind fun _ =>
    (Confined.orReply _).bind fun _ => (Confined.orReply _).bind fun _ =>
    (Confined.orReply _).bind fun symKey => (confined_certKeyNames _).bind fun _ =>
      (Confined.orReply _).bind fun _ => ?_
  refine (Confined.orReply _).bind fun _ => (confined_resolveOr _ _).bind fun _ => ?_
  exact confined_withGrantedContainer _ _ _ _ _ fun container =>
    (keyed container symKey).bind fun _ =>
    ciphers container _ _ _

theorem confined_encryptData
    (encrypts : ∀ container algId iv padding data,
      Q (.provider (.encrypt container algId iv padding data))) :
        Confined Q (EncryptData.handle ctx params lang) :=
  confined_withSymmetricKey fun _ _ _ _ => Confined.bind (asks_ask (encrypts _ _ _ _ _)) fun _ =>
    (Confined.settled _).bind fun _ => trivial

theorem confined_decryptData
    (decrypts : ∀ container algId iv padding data,
      Q (.provider (.decrypt container algId iv padding data))) :
        Confined Q (DecryptData.handle ctx params lang) :=
  confined_withSymmetricKey fun _ _ _ _ => Confined.bind (asks_ask (decrypts _ _ _ _ _)) fun _ =>
    (Confined.settled _).bind fun _ => trivial

theorem confined_digest [Covers [] Q] : Confined Q (Digest.handle ctx params lang) := by
  refine (Confined.orReply _).bind fun _ =>
    (Confined.orReply _).bind fun _ => (Confined.orReply _).bind fun _ =>
    (Confined.expect _ _).bind fun _ =>
      (Confined.orReply _).bind fun _ => (confined_apiOr _ _).bind fun _ => ?_
  refine (confined_connectDev _ _ _).bind fun device =>
    (Confined.readVendor rfl rfl).bind fun started =>
    Confined.ite ?_ ?_
  · exact (Confined.asked (@Covers.covers [] _ _ _ rfl rfl)).bind fun _ =>
      (confined_disConnectDev _).bind fun _ =>
      Confined.ite trivial trivial
  · exact (confined_disConnectDev _).bind fun _ => trivial

theorem confined_digestInit : Confined Q (DigestInit.handle ctx params lang) := by
  refine confined_requiredNames.bind fun _ => Confined.ite ?_ ?_
  · refine (Confined.readProvider rfl rfl).bind fun opened =>
      (Confined.settled _).bind fun result => ?_
    cases result with
    | error e => exact trivial
    | ok raw =>
      refine (Confined.readProvider rfl rfl).bind fun begun => ?_
      rcases begun with - | e | hash
      · exact (Confined.readProvider rfl rfl).bind fun _ => trivial
      · exact (Confined.readProvider rfl rfl).bind fun _ => trivial
      · exact (Confined.session _).bind fun _ => (Confined.session _).bind fun _ => trivial
  · refine (confined_apiOr _ _).bind fun _ => (confined_cString _).bind fun _ =>
      (Confined.readVendor rfl rfl).bind fun _ => ?_
    exact Confined.ite ((confined_disConnectDev _).bind fun _ => trivial) trivial

theorem confined_digestUpdate [Covers [] Q] : Confined Q (DigestUpdate.handle ctx params lang) := by
  refine (Confined.expect _ _).bind fun _ =>
    (Confined.expect _ _).bind fun _ => (Confined.orReply _).bind fun _ =>
    (Confined.session _).bind fun found => ?_
  cases found with
  | error reason => exact trivial
  | ok digest =>
    refine (Confined.covered [] rfl rfl).bind fun updated =>
      (Confined.settled _).bind fun result => ?_
    cases result <;> exact trivial

section request

open CreatePKCS10

variable {id : Option Json}

theorem confined_chooseName (device : Device) (requested : String) :
    Confined Q (chooseName device requested) := by
  refine Confined.ite (asks_done _) ((Confined.readProvider rfl rfl).bind fun filled =>
      (Confined.settled _).bind fun result => ?_)
  cases result with
  | ok randBytes => exact (Confined.unwrap _ _).bind fun _ => asks_done _
  | error e => exact (Confined.host _).bind fun _ => (Confined.unwrap _ _).bind fun _ => asks_done _

theorem confined_obtainContainer [Covers [.containers, .keyPairs] Q] (application : Application)
    (requested contName : String) :
    Confined Q (obtainContainer application requested contName id) := by
  refine (Confined.covered [.containers, .keyPairs] rfl rfl).bind fun created =>
    (Confined.settled _).bind fun result => ?_
  cases result with
  | ok raw => exact asks_done _
  | error e =>
    refine Confined.ite ((Confined.readProvider rfl rfl).bind fun opened =>
      (Confined.settled _).bind fun result => ?_) (asks_stop _)
    cases result with
    | ok raw => exact asks_done _
    | error e => exact asks_stop _

omit [AdmitsReads Q] in
theorem confined_generateKey [Covers [.containers, .keyPairs] Q] (container : Container)
    (isEcc : Bool) (keyLength : UInt32) :
    Confined Q (generateKey container isEcc keyLength id) := by
  refine Confined.ite ((Confined.covered [.containers, .keyPairs] rfl rfl).bind fun made =>
      (Confined.settled _).bind fun result => ?_)
    ((Confined.covered [.containers, .keyPairs] rfl rfl).bind fun made =>
      (Confined.settled _).bind fun result => ?_)
  · cases result with
    | ok key => exact asks_done _
    | error e => exact asks_stop _
  · cases result with
    | ok key => exact (Confined.unwrap _ _).bind fun _ => asks_done _
    | error e => exact asks_stop _

theorem confined_beginDigest (device : Device) (eccKey : Option EccPublicKey) :
    Confined Q (CreatePKCS10.beginDigest device eccKey id) := by
  unfold CreatePKCS10.beginDigest
  cases eccKey with
  | some key =>
    refine (Confined.readProvider rfl rfl).bind fun _ => (Confined.settled _).bind fun begun => ?_
    cases begun with
    | ok raw => exact asks_done _
    | error e => exact asks_stop _
  | none =>
    refine (Confined.readProvider rfl rfl).bind fun _ => (Confined.settled _).bind fun begun => ?_
    cases begun with
    | ok raw => exact asks_done _
    | error e => exact asks_stop _

omit [AdmitsReads Q] in
theorem confined_digestTbs [Covers [.containers, .keyPairs] Q] (digest : Digest)
    (tbs : List UInt8) :
    Confined Q (digestTbs digest tbs id) := by
  refine (Confined.covered [.containers, .keyPairs] rfl rfl).bind fun updated =>
    (Confined.settled _).bind fun result => ?_
  cases result with
  | error e => exact asks_stop _
  | ok done =>
    refine (Confined.covered [.containers, .keyPairs] rfl rfl).bind fun finalized =>
      (Confined.settled _).bind fun result => ?_
    cases result with
    | ok hash => exact asks_done _
    | error e => exact asks_stop _

theorem confined_signDigest (container : Container) (isEcc : Bool) (hash : List UInt8) :
    Confined Q (signDigest container isEcc hash id) := by
  refine Confined.ite ((Confined.readProvider rfl rfl).bind fun signed =>
    (Confined.settled _).bind fun result => ?_)
    ((Confined.readProvider rfl rfl).bind fun signed => (Confined.settled _).bind fun result => ?_)
  · cases result with
    | ok sig => exact (Confined.unwrap _ _).bind fun _ => (Confined.unwrap _ _).bind fun _ =>
        (Confined.unwrap _ _).bind fun _ => (Confined.unwrap _ _).bind fun _ => asks_done _
    | error e => exact asks_stop _
  · cases result with
    | ok sig => exact asks_done _
    | error e => exact asks_stop _

theorem confined_withKey [Covers [.containers, .keyPairs] Q] (device : Device)
    (container : Container) (subject keyType : String) (keyLength : UInt32) :
    Confined Q (withKey ctx device container subject keyType keyLength id) := by
  unfold withKey
  refine (confined_generateKey _ _ _).bind fun key => ?_
  refine (confined_beginDigest device key.2).bind fun digest => ?_
  refine Confined.closing ((confined_digestTbs digest _).bind fun hash => ?_)
    (@Covers.covers [.containers, .keyPairs] _ _ _ rfl rfl)
  refine (confined_signDigest _ _ hash).bind fun sigBits => ?_
  exact Confined.bind (Confined.host _) fun _ => trivial

theorem confined_createPKCS10 [Covers [.containers, .keyPairs] Q] :
    Confined Q (CreatePKCS10.handle ctx params lang) := by
  unfold CreatePKCS10.handle
  refine (Confined.orReply _).bind fun devName => (Confined.orReply _).bind fun appName =>
    (Confined.orReply _).bind fun subject => (confined_resolveOr _ _).bind fun library => ?_
  refine confined_withDevice _ _ _ fun device =>
    confined_withApplication _ _ (fun _ => asks_stop _) fun application => ?_
  refine (confined_requireAuthorized _ _ _ _).bind fun _ =>
    (confined_chooseName _ _).bind fun contName => ?_
  refine (confined_obtainContainer application _ contName).bind fun container => ?_
  generalize ctx.platform.toUppercase (params.optionalStr 4 "SM2") = keyType
  have inside :=
    @confined_withKey Q _ ctx params.id _ device container subject keyType
      (params.optionalU64 5 256).toUInt32
  exact inside.closing (AdmitsReads.reads _ rfl rfl)

end request

end branches

end SkfService
