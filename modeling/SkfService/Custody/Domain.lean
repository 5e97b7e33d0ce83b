import SkfService.Custody.Inventory
import SkfService.Dispatch.HandleRequest

/-! The guard-based handlers close everything they open, child before parent, on every way out. -/

set_option autoImplicit false

namespace SkfService.Custody

open Interaction Program Handler

/-- A program that holds as much at its end as at its start, whether it returns, answers early or
unwinds, and that keeps to the ledger in between. -/
def Keeps {A : Type} (held : List Resource) (p : Handler A) : Prop :=
  p.Meets (inventory.audit unflagged) (fun _ s => s = .clear held) (fun _ s => s = .clear held)
    (.clear held)

section steps

variable {A B : Type} {held : List Resource}

theorem keeps_done (value : A) : Keeps held (Program.done value : Handler A) := rfl

theorem keeps_reply (response : RpcResponse) : Keeps held (reply response : Handler A) := rfl

theorem keeps_panic (why : Panic) : Keeps held (panic why : Handler A) := rfl

theorem Keeps.bind {p : Handler A} {k : A → Handler B} (first : Keeps held p)
    (next : ∀ value, Keeps held (k value)) : Keeps held (p >>= k) := by
  rw [Keeps, meets_bind]
  refine Meets.mono first (fun value t same => ?_) fun _ _ same => same
  rw [same]
  exact next value

theorem keeps_ite {c : Prop} [Decidable c] {p q : Handler A} (yes : Keeps held p)
    (no : Keeps held q) :
    Keeps held (if c then p else q) := by
  split
  · exact yes
  · exact no

theorem keeps_orReply (x : Except RpcResponse A) : Keeps held (orReply x) := by
  cases x <;> rfl

theorem keeps_expect (x : Option A) (rejection : RpcResponse) :
    Keeps held (expect x rejection) := by
  cases x <;> rfl

theorem keeps_unwrap (x : Option A) (why : Panic) : Keeps held (unwrap x why) := by
  cases x <;> rfl

theorem keeps_settled (x : Attempt A) : Keeps held (Handler.settled x) := by
  cases x <;> rfl

theorem keeps_ask {op : Op} (quiet : idle op = true) (used : ∀ r ∈ uses op, r ∈ held) :
    Keeps held (Program.ask (I := Skf) op : Handler op.Reply) := by
  have met : Keeps held (Program.ask (I := Skf) op >>= Program.done : Handler op.Reply) :=
    bind_idle quiet (fun _ => rfl) used fun _ => rfl
  exact met

theorem keeps_host (op : HostOp) : Keeps held (host op) := keeps_ask rfl (by simp [uses])

theorem keeps_session (op : SessionOp) : Keeps held (session op) := keeps_ask rfl (by simp [uses])

theorem keeps_provider {op : ProviderOp} (quiet : idle (.provider op) = true)
    (used : ∀ r ∈ providerUses op, r ∈ held) : Keeps held (provider op) :=
  keeps_ask quiet used

theorem keeps_noteDeviceUnavailable {provName devName : String} :
    Keeps held (noteDeviceUnavailable provName devName) :=
  (keeps_session _).bind fun _ => keeps_done _

theorem keeps_resolveOr {ctx : SkfContext} {name : String} {failed : String → RpcResponse} :
    Keeps held (resolveOr ctx name failed) :=
  (unwatched fun _ _ => rfl).meets_resolveOr (fun _ => rfl) (fun _ => rfl) fun _ _ _ => rfl

theorem keeps_requireAuthorized {provName devName appName : String} {rejection : RpcResponse} :
    Keeps held (requireAuthorized provName devName appName rejection) := by
  refine (keeps_session _).bind fun verdict => ?_
  obtain ⟨now, verdict⟩ := verdict
  cases verdict with
  | ok live => exact keeps_done _
  | error reason => exact keeps_reply _

theorem keeps_concluding {outcome : Attempt A} {response : Except ProviderError A → RpcResponse} :
    Keeps held (Handler.settled outcome >>= fun outcome => pure (response outcome)) :=
  (keeps_settled _).bind fun _ => keeps_done _

end steps

section guards

variable {A : Type} {held : List Resource} {id : Option Text.Json}

theorem meets_guarded {r : Resource} {body : Handler A}
    (childless : ∀ child ∈ r :: held, child.parent ≠ some r) (met : Keeps (r :: held) body) :
    (body.ensuring (provider (.close r))).Meets (inventory.audit unflagged)
      (fun _ s => s = .clear held)
      (fun _ s => s = .clear held) (.clear (r :: held)) := by
  have closed {B : Type} (q : Handler B) (ends : Keeps held q) :
      (provider (.close r) >>= fun _ => q).Meets (inventory.audit unflagged)
        (fun _ s => s = .clear held)
        (fun _ s => s = .clear held) (.clear (r :: held)) :=
    bind_closing rfl rfl (fun _ => rfl) (fun _ => rfl) childless fun _ => ends
  rw [meets_ensuring]
  refine Meets.mono met (fun value t same => ?_) fun exit t same => ?_
  · rw [same]
    exact (meets_bind _ _).mp (closed (Program.done value) rfl)
  · rw [same]
    exact (meets_bind _ _).mp (closed (Program.stop exit : Handler A) rfl)

theorem keeps_withDevice {library : Library} {provName devName : String} {body : Device → Handler A}
    (goes : ∀ device, Keeps [.device device] (body device)) :
    Keeps [] (withDevice library provName devName id body) := by
  rw [withDevice, openDevice, bind_bind]
  refine bind_opening rfl (fun _ => rfl) (by simp [uses, providerUses]) fun result => ?_
  cases result with
  | none => rfl
  | some result =>
    cases result with
    | ok raw => exact meets_guarded (by simp [Resource.parent]) (goes ⟨library, devName, raw⟩)
    | error e => exact keeps_noteDeviceUnavailable.bind fun _ => keeps_reply _

theorem keeps_withApplication {device : Device} {appName : String}
    {failed : ProviderError → Handler Application} {body : Application → Handler A}
    (refused : ∀ e, (failed e).Meets (inventory.audit unflagged) (fun _ _ => False)
      (fun _ s => s = .clear [.device device]) (.clear [.device device]))
    (goes : ∀ application : Application, application.device = device →
      Keeps [.application application, .device device] (body application)) :
    Keeps [.device device] (withApplication device appName failed body) := by
  rw [withApplication, openApplication, bind_bind]
  refine bind_opening rfl (fun _ => rfl) (by simp [uses, providerUses]) fun result => ?_
  cases result with
  | none => rfl
  | some result =>
    cases result with
    | ok raw => exact meets_guarded (by simp [Resource.parent]) (goes ⟨device, appName, raw⟩ rfl)
    | error e =>
      refine (meets_bind _ _).mpr ?_
      exact (refused e).mono (fun _ _ absurd => absurd.elim) fun _ _ same => same

theorem meets_applicationLost {device : Device} {provName devName : String}
    {message : ULONG → String} (e : ProviderError) :
    (applicationLost provName devName message id e).Meets (inventory.audit unflagged)
      (fun _ _ => False)
      (fun _ s => s = .clear [.device device]) (.clear [.device device]) := by
  refine (meets_bind _ _).mpr ?_
  refine Meets.mono (@keeps_noteDeviceUnavailable [.device device] _ _) (fun _ t same => ?_)
    fun _ _ same => same
  rw [same]
  rfl

theorem keeps_withDeviceApplication {library : Library} {provName devName appName : String}
    {body : Application → Handler A}
    (goes : ∀ application : Application,
      Keeps [.application application, .device application.device] (body application)) :
    Keeps [] (withDeviceApplication library provName devName appName id body) := by
  refine keeps_withDevice fun device =>
    keeps_withApplication meets_applicationLost fun application on => ?_
  rw [← on]
  exact goes application

theorem keeps_withAuthorized {library : Library} {provName devName appName : String}
    {body : Application → Handler A}
    (goes : ∀ application : Application,
      Keeps [.application application, .device application.device] (body application)) :
    Keeps [] (withAuthorized library provName devName appName id body) :=
  keeps_withDeviceApplication fun application =>
    keeps_requireAuthorized.bind fun _ => goes application

theorem keeps_withContainer {application : Application} {contName : String}
    {body : Container → Handler A}
    (goes : ∀ container : Container, container.application = application →
      Keeps [.container container, .application application, .device application.device]
        (body container)) :
    Keeps [.application application, .device application.device]
      (withContainer application contName id body) := by
  refine bind_opening rfl (fun _ => rfl) (by simp [uses, providerUses]) fun result => ?_
  cases result with
  | none => rfl
  | some result =>
    cases result with
    | ok raw =>
      exact meets_guarded (by simp [Resource.parent]) (goes ⟨application, contName, raw⟩ rfl)
    | error e => exact keeps_reply _

theorem keeps_withGrantedContainer {library : Library} {provName devName appName contName : String}
    {body : Container → Handler A}
    (goes : ∀ container : Container, Keeps (containerHeld container) (body container)) :
    Keeps [] (withGrantedContainer library provName devName appName contName id body) := by
  refine keeps_withAuthorized fun application => keeps_withContainer fun container inside => ?_
  subst inside
  exact goes container

theorem keeps_onContainer {op : ProviderOp} {container : Container}
    (quiet : idle (.provider op) = true) (about : providerUses op = [.container container]) :
    Keeps (containerHeld container) (provider op) :=
  keeps_provider quiet (by simp [about, containerHeld])

end guards

section handlers

variable {ctx : SkfContext} {params : Params} {lang : Language}

theorem checkPIN : Keeps [] (CheckPIN.handle ctx params lang) := by
  refine (keeps_orReply _).bind fun certKey => (keeps_orReply _).bind fun pinStr => ?_
  refine (keeps_expect _ _).bind fun parts => keeps_resolveOr.bind fun library => ?_
  refine keeps_withDevice fun device =>
    keeps_withApplication meets_applicationLost fun application on => ?_
  refine (keeps_provider rfl (by simp [providerUses])).bind fun verified =>
    (keeps_settled _).bind fun verified => ?_
  cases verified with
  | error e => exact keeps_done _
  | ok outcome =>
    refine keeps_ite ((keeps_session _).bind fun granted => ?_) (keeps_done _)
    obtain ⟨now, granted⟩ := granted
    cases granted with
    | true => exact keeps_done _
    | false => exact keeps_panic _

theorem keeps_containerNames {held : List Resource} : Keeps held (containerNames params) :=
  (keeps_orReply _).bind fun _ =>
    (keeps_orReply _).bind fun _ => (keeps_orReply _).bind fun _ => keeps_done _

theorem createContainer : Keeps [] (CreateContainer.handle ctx params lang) := by
  refine keeps_containerNames.bind fun names => keeps_resolveOr.bind fun library => ?_
  refine keeps_withAuthorized fun application => ?_
  refine bind_opening rfl (fun _ => rfl) (by simp [uses, providerUses]) fun created => ?_
  cases created with
  | none => rfl
  | some created =>
    cases created with
    | error e => rfl
    | ok raw =>
      exact bind_closing rfl rfl (fun _ => rfl) (fun _ => rfl) (by simp [Resource.parent]) fun _ =>
        rfl

theorem deleteContainer : Keeps [] (DeleteContainer.handle ctx params lang) := by
  refine keeps_containerNames.bind fun names => keeps_resolveOr.bind fun library => ?_
  refine keeps_withDeviceApplication fun application => ?_
  exact (keeps_provider rfl (by simp [providerUses])).bind fun _ => keeps_concluding

theorem getContainerType : Keeps [] (GetContainerType.handle ctx params lang) := by
  refine keeps_containerNames.bind fun names => keeps_resolveOr.bind fun library => ?_
  refine keeps_withDeviceApplication fun application =>
    keeps_withContainer fun container inside => ?_
  exact (keeps_provider rfl (by simp [providerUses])).bind fun _ => keeps_concluding

theorem importCertificate : Keeps [] (ImportCertificate.handle ctx params lang) := by
  refine keeps_containerNames.bind fun names => (keeps_expect _ _).bind fun signFlag => ?_
  refine (keeps_orReply _).bind fun certStr => (keeps_orReply _).bind fun _ => ?_
  refine (keeps_orReply _).bind fun certBytes => keeps_resolveOr.bind fun library => ?_
  refine keeps_withGrantedContainer fun container => ?_
  exact (keeps_onContainer rfl rfl).bind fun _ => keeps_concluding

theorem keeps_generateKeyPair {fallback : UInt64}
    {generate : Container → ULONG → Handler RpcResponse}
    (goes : ∀ container number, Keeps (containerHeld container) (generate container number)) :
    Keeps [] (generateKeyPair ctx params lang fallback generate) := by
  refine (keeps_orReply _).bind fun providerName => keeps_containerNames.bind fun names => ?_
  exact keeps_resolveOr.bind fun library =>
    keeps_withGrantedContainer fun container => goes container _

theorem genECCKeyPair : Keeps [] (GenECCKeyPair.handle ctx params lang) :=
  keeps_generateKeyPair fun _ _ => (keeps_onContainer rfl rfl).bind fun _ => keeps_concluding

theorem genRSAKeyPair : Keeps [] (GenRSAKeyPair.handle ctx params lang) :=
  keeps_generateKeyPair fun _ _ => (keeps_onContainer rfl rfl).bind fun _ => keeps_concluding

theorem keeps_certKeyNames {held : List Resource} {certKey : String} :
    Keeps held (certKeyNames ctx params certKey) :=
  (keeps_expect _ _).bind fun _ => keeps_done _

theorem keeps_withSigningContainer {sign : Container → List UInt8 → Handler RpcResponse}
    (goes : ∀ container data, Keeps (containerHeld container) (sign container data)) :
    Keeps [] (withSigningContainer ctx params sign) := by
  refine (keeps_orReply _).bind fun certKey => (keeps_orReply _).bind fun dataB64 => ?_
  refine keeps_certKeyNames.bind fun names => (keeps_orReply _).bind fun data => ?_
  exact keeps_resolveOr.bind fun library =>
    keeps_withGrantedContainer fun container => goes container data

theorem keeps_signatureDer {held : List Resource} {sig : List UInt8} :
    Keeps held (signatureDer sig) := by
  refine (keeps_unwrap _ _).bind fun _ => (keeps_unwrap _ _).bind fun _ => ?_
  exact (keeps_unwrap _ _).bind fun _ => (keeps_unwrap _ _).bind fun _ => keeps_done _

theorem signData : Keeps [] (SignData.handle ctx params lang) := by
  refine keeps_withSigningContainer fun container data => ?_
  refine (keeps_onContainer rfl rfl).bind fun _ =>
    (keeps_settled _).bind fun queried => keeps_ite ?_ ?_
  · refine (keeps_onContainer rfl rfl).bind fun _ => (keeps_settled _).bind fun signed => ?_
    cases signed with
    | ok sig => exact keeps_signatureDer.bind fun _ => keeps_done _
    | error e => exact keeps_done _
  · exact (keeps_onContainer rfl rfl).bind fun _ => keeps_concluding

theorem rsaSignData : Keeps [] (RSASignData.handle ctx params lang) :=
  keeps_withSigningContainer fun _ _ => (keeps_onContainer rfl rfl).bind fun _ => keeps_concluding

theorem keeps_setSymmKey {container : Container} {symKey : Option (List UInt8)} :
    Keeps (containerHeld container) (setSymmKey container symKey lang params.id) := by
  cases symKey with
  | none => exact keeps_done _
  | some keyBytes =>
    refine keeps_ite (keeps_reply _) ((keeps_onContainer rfl rfl).bind fun _ => ?_)
    refine (keeps_settled _).bind fun set => ?_
    cases set with
    | ok done => exact keeps_done _
    | error e => exact keeps_reply _

theorem keeps_withSymmetricKey {missingData invalidData : String}
    {cipher : Container → List UInt8 → ULONG → List UInt8 → Handler RpcResponse}
    (goes : ∀ container iv padding data,
      Keeps (containerHeld container) (cipher container iv padding data)) :
    Keeps [] (withSymmetricKey ctx params lang missingData invalidData cipher) := by
  refine (keeps_orReply _).bind fun certKey => (keeps_orReply _).bind fun dataB64 => ?_
  refine (keeps_orReply _).bind fun ivB64 => (keeps_orReply _).bind fun symKey => ?_
  refine keeps_certKeyNames.bind fun names => (keeps_orReply _).bind fun data => ?_
  refine (keeps_orReply _).bind fun iv => keeps_resolveOr.bind fun library => ?_
  exact keeps_withGrantedContainer fun container =>
    keeps_setSymmKey.bind fun _ => goes container _ _ _

theorem encryptData : Keeps [] (EncryptData.handle ctx params lang) :=
  keeps_withSymmetricKey fun _ _ _ _ => (keeps_onContainer rfl rfl).bind fun _ => keeps_concluding

theorem decryptData : Keeps [] (DecryptData.handle ctx params lang) :=
  keeps_withSymmetricKey fun _ _ _ _ => (keeps_onContainer rfl rfl).bind fun _ => keeps_concluding

section request

open CreatePKCS10

variable {application : Application} {id : Option Text.Json} {B : Type}

theorem keeps_chooseName {requested : String} :
    Keeps (applicationHeld application) (chooseName application.device requested) := by
  refine keeps_ite (keeps_done _) ?_
  refine (keeps_provider rfl (by simp [providerUses, applicationHeld])).bind fun _ => ?_
  refine (keeps_settled _).bind fun drawn => ?_
  cases drawn with
  | ok bytes => exact (keeps_unwrap _ _).bind fun _ => keeps_done _
  | error e => exact (keeps_host _).bind fun _ => (keeps_unwrap _ _).bind fun _ => keeps_done _

theorem bind_obtainContainer {requested contName : String} {k : Container → Handler RpcResponse}
    (goes : ∀ raw, (k ⟨application, contName, raw⟩).Meets (inventory.audit unflagged)
      (fun _ s => s = .clear (applicationHeld application))
        (fun _ s => s = .clear (applicationHeld application))
          (.clear (containerHeld ⟨application, contName, raw⟩))) :
    Keeps (applicationHeld application)
      (obtainContainer application requested contName id >>= k) := by
  refine (meets_bind _ _).mpr ?_
  refine bind_opening rfl (fun _ => rfl) (by simp [uses, providerUses, applicationHeld])
    fun created => ?_
  cases created with
  | none => rfl
  | some created =>
    cases created with
    | ok raw => exact goes raw
    | error e =>
      refine meets_ite (fun _ => ?_) fun _ => rfl
      refine bind_opening rfl (fun _ => rfl) (by simp [uses, providerUses, applicationHeld])
        fun found => ?_
      cases found with
      | none => rfl
      | some found =>
        cases found with
        | ok raw => exact goes raw
        | error e => rfl

theorem keeps_generateKey {container : Container} {isEcc : Bool} {keyLength : UInt32} :
    Keeps (containerHeld container) (generateKey container isEcc keyLength id) := by
  refine keeps_ite ?_ ?_
  · refine (keeps_onContainer rfl rfl).bind fun _ => (keeps_settled _).bind fun made => ?_
    cases made with
    | ok key => exact keeps_done _
    | error e => exact keeps_reply _
  · refine (keeps_onContainer rfl rfl).bind fun _ => (keeps_settled _).bind fun made => ?_
    cases made with
    | ok key => exact (keeps_unwrap _ _).bind fun _ => keeps_done _
    | error e => exact keeps_reply _

theorem bind_beginDigest {container : Container} {eccKey : Option EccPublicKey}
    {k : Digest → Handler RpcResponse}
    (goes : ∀ raw,
      (k ⟨container.application.device, raw⟩).Meets (inventory.audit unflagged) (fun _ s =>
        s = .clear (containerHeld container)) (fun _ s => s = .clear (containerHeld container))
          (.clear (.digest ⟨container.application.device, raw⟩ :: containerHeld container))) :
    Keeps (containerHeld container)
      (CreatePKCS10.beginDigest container.application.device eccKey id >>= k) := by
  refine (meets_bind _ _).mpr ?_
  -- SM2 hashes with the key and the identity, RSA without; both open one digest.
  cases eccKey with
  | some key =>
    refine bind_opening rfl (fun _ => rfl) (by simp [uses, providerUses, containerHeld])
      fun begun => ?_
    cases begun with
    | none => rfl
    | some begun =>
      cases begun with
      | ok raw => exact goes raw
      | error e => rfl
  | none =>
    refine bind_opening rfl (fun _ => rfl) (by simp [uses, providerUses, containerHeld])
      fun begun => ?_
    cases begun with
    | none => rfl
    | some begun =>
      cases begun with
      | ok raw => exact goes raw
      | error e => rfl

theorem keeps_digestTbs {held : List Resource} {digest : Digest} {tbs : List UInt8} :
    Keeps (.digest digest :: held) (digestTbs digest tbs id) := by
  refine (keeps_provider rfl (by simp [providerUses])).bind fun _ =>
    (keeps_settled _).bind fun fed => ?_
  cases fed with
  | error e => exact keeps_reply _
  | ok done =>
    refine (keeps_provider rfl (by simp [providerUses])).bind fun _ =>
      (keeps_settled _).bind fun ended => ?_
    cases ended with
    | ok hash => exact keeps_done _
    | error e => exact keeps_reply _

theorem keeps_signDigest {digest : Digest} {container : Container} {isEcc : Bool}
    {hash : List UInt8} :
    Keeps (.digest digest :: containerHeld container) (signDigest container isEcc hash id) := by
  refine keeps_ite ?_ ?_
  · refine (keeps_provider rfl (by simp [providerUses, containerHeld])).bind fun _ => ?_
    refine (keeps_settled _).bind fun signed => ?_
    cases signed with
    | error e => exact keeps_reply _
    | ok sig =>
      refine (keeps_unwrap _ _).bind fun _ => (keeps_unwrap _ _).bind fun _ => ?_
      exact (keeps_unwrap _ _).bind fun _ => (keeps_unwrap _ _).bind fun _ => keeps_done _
  · refine (keeps_provider rfl (by simp [providerUses, containerHeld])).bind fun _ => ?_
    refine (keeps_settled _).bind fun signed => ?_
    cases signed with
    | ok sig => exact keeps_done _
    | error e => exact keeps_reply _

theorem keeps_withKey {contName subject keyType : String} {raw : Nat} {keyLength : UInt32} :
    Keeps (containerHeld ⟨application, contName, raw⟩)
      (withKey ctx application.device ⟨application, contName, raw⟩ subject keyType
        keyLength id) := by
  refine keeps_generateKey.bind fun key => bind_beginDigest fun digest => ?_
  refine meets_guarded (by simp [Resource.parent, containerHeld]) ?_
  refine keeps_digestTbs.bind fun hash => keeps_signDigest.bind fun sigBits => ?_
  exact (keeps_host _).bind fun _ => keeps_done _

attribute [local irreducible] CreatePKCS10.withKey in
theorem createPKCS10 (lang : Language) : Keeps [] (CreatePKCS10.handle ctx params lang) := by
  refine (keeps_orReply _).bind fun devName => (keeps_orReply _).bind fun appName => ?_
  refine (keeps_orReply _).bind fun subject => keeps_resolveOr.bind fun library => ?_
  refine keeps_withDevice fun device =>
    keeps_withApplication (fun e => rfl) fun application on => ?_
  subst on
  refine keeps_requireAuthorized.bind fun _ => keeps_chooseName.bind fun contName => ?_
  exact bind_obtainContainer fun raw =>
    meets_guarded (by simp [Resource.parent, applicationHeld]) keeps_withKey

end request

end handlers

end Custody

def Method.isGuarded : Method → Bool
  | .CheckPIN | .CreateContainer | .DeleteContainer | .GetContainerType | .ImportCertificate
  | .SignData | .RSASignData | .EncryptData | .DecryptData | .CreatePKCS10 | .GenECCKeyPair
  | .GenRSAKeyPair => true
  | _ => false

theorem Custody.keeps_branch {ctx : SkfContext} {params : Params} {lang : Language}
    {method : Method} (guarded : method.isGuarded = true) :
    Keeps [] (method.branch ctx params lang) := by
  cases method with
  | CheckPIN => exact checkPIN
  | CreateContainer => exact createContainer
  | DeleteContainer => exact deleteContainer
  | GetContainerType => exact getContainerType
  | ImportCertificate => exact importCertificate
  | SignData => exact signData
  | RSASignData => exact rsaSignData
  | EncryptData => exact encryptData
  | DecryptData => exact decryptData
  | CreatePKCS10 => exact createPKCS10 lang
  | GenECCKeyPair => exact genECCKeyPair
  | GenRSAKeyPair => exact genRSAKeyPair
  | _ => cases guarded

end SkfService
