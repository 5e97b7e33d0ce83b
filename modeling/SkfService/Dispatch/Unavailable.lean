import SkfService.Dispatch.HandleRequest
import SkfService.Dispatch.HostOnly
import SkfService.Dispatch.Rules

/-! A default provider whose library could not be prepared: it fails every call with the reason, and
a request that calls it first answers with that reason. -/

set_option autoImplicit false

namespace SkfService

open Text Interaction Program Handler

def NativeSkfProvider.fromConfig (platform : Platform) (config : SkfConfig)
    (load : String → Except String Unit) (name : String) : Except ProviderError Unit :=
  match resolveLibPath platform config name with
  | .error _ => .error (.ProviderNotConfigured name platform.os)
  | .ok path => (load path).mapError fun detail => .LibraryLoadFailed path platform.arch detail

structure UnavailableProvider where
  providerAlias : String
  detail : String

/-- `build`: a provider that is not available takes the place of one whose library cannot be
prepared. -/
def NativeProviderFactory.build (platform : Platform) (config : SkfConfig)
    (load : String → Except String Unit) :
    Option UnavailableProvider :=
  match NativeSkfProvider.fromConfig platform config load config.default with
  | .ok () => none
  | .error e => some ⟨config.default, e.display⟩

def ProviderOp.onLibrary : ProviderOp → Option Library
  | enumDevices library _ | deviceState library _ | waitForEvent library _
  | cancelWaitForEvent library | openDevice library _ => some library
  | _ => none

namespace UnavailableProvider

variable (self : UnavailableProvider) (platform : Platform)

def error : ProviderError := .LibraryLoadFailed self.detail platform.arch self.detail

def enumDevices (_presentOnly : Bool) : Except ProviderError (List String) :=
  .error (self.error platform)

def deviceState (_name : String) : Except ProviderError UInt32 := .error (self.error platform)

def waitForEvent (_bufLen : Nat) : Except ProviderError (String × UInt32) :=
  .error (self.error platform)

def cancelWaitForEvent : Except ProviderError Unit := .error (self.error platform)

def openDevice (_name : String) : Except ProviderError Nat := .error (self.error platform)

def Answers : (op : ProviderOp) → op.Reply → Prop
  | .enumDevices _ presentOnly, reply => reply = some (self.enumDevices platform presentOnly)
  | .deviceState _ name, reply => reply = some (self.deviceState platform name)
  | .waitForEvent _ bufLen, reply => reply = some (self.waitForEvent platform bufLen)
  | .cancelWaitForEvent _, reply => reply = some (self.cancelWaitForEvent platform)
  | .openDevice _ name, reply => reply = some (self.openDevice platform name)
  | _, _ => True

end UnavailableProvider

def Op.outward : Op → Bool
  | provider _ | vendor _ => true
  | _ => false

def Op.forgets : Op → Bool
  | session (.invalidateDevice _ _) => true
  | _ => false

inductive Outward
  | nowhere
  | elsewhere
  | unavailable

/-- After a first call on the default provider, which is not available, a request only drops grants. -/
def outage (ctx : SkfContext) (self : UnavailableProvider) : Monitor Skf Outward where
  allowed
    | .unavailable, op => op.forgets = true
    | _, _ => True
  possible
    | .nowhere, .provider op, reply =>
      op.onLibrary = some ctx.provider → self.Answers ctx.platform op reply
    | _, _, _ => True
  advance
    | .nowhere, .provider op, _ =>
      if op.onLibrary = some ctx.provider then .unavailable else .elsewhere
    | .nowhere, .vendor _, _ => .elsewhere
    | s, _, _ => s

def Reasoned (ctx : SkfContext) (self : UnavailableProvider) (code : Int32)
    (response : RpcResponse) : Prop :=
  ∃ lang, response = loadLibFailed code (self.error ctx.platform).display lang response.id

def Concedes (ctx : SkfContext) (self : UnavailableProvider) (code : Int32) (exit : Exit)
    (s : Outward) : Prop :=
  s = .unavailable → ∃ response, exit = .reply response ∧ Reasoned ctx self code response

/-- A program that starts before the first outward call. What it returns matters only after a call
on the provider. -/
abbrev Surrenders (ctx : SkfContext) (self : UnavailableProvider) (code : Int32) {A : Type}
    (returned : A → Prop) (p : Handler A) : Prop :=
  p.Meets (outage ctx self) (fun value s => s = .unavailable → returned value)
    (Concedes ctx self code) .nowhere

abbrev Avoids (ctx : SkfContext) (self : UnavailableProvider) (code : Int32) {A : Type}
    (p : Handler A) : Prop :=
  Surrenders ctx self code (fun _ => False) p

abbrev Departs (ctx : SkfContext) (self : UnavailableProvider) (code : Int32) {A : Type}
    (p : Handler A) : Prop :=
  p.Meets (outage ctx self) (fun _ s => s = .elsewhere) (Concedes ctx self code) .nowhere

section rules

variable {ctx : SkfContext} {self : UnavailableProvider} {code : Int32} {A B : Type}
  {returned : B → Prop}

/-- After a first call elsewhere nothing is watched. -/
theorem meets_elsewhere {ret : A → Outward → Prop} {exits : Exit → Outward → Prop}
    (returns : ∀ value, ret value .elsewhere) (leaves : ∀ exit, exits exit .elsewhere)
    (p : Handler A) :
    p.Meets (outage ctx self) ret exits .elsewhere := by
  induction p with
  | done value => exact returns value
  | stop exit => exact leaves exit
  | call op next ih => exact ⟨trivial, fun reply _ => ih reply⟩

theorem concedes_elsewhere (exit : Exit) : Concedes ctx self code exit .elsewhere := by
  intro impossible
  cases impossible

theorem concedes_nowhere (exit : Exit) : Concedes ctx self code exit .nowhere := by
  intro impossible
  cases impossible

theorem surrenders_done (value : B) : Surrenders ctx self code returned (.done value) := by
  intro impossible
  cases impossible

theorem surrenders_elsewhere (p : Handler B) :
    p.Meets (outage ctx self) (fun value s => s = .unavailable → returned value)
      (Concedes ctx self code) .elsewhere :=
  meets_elsewhere (fun _ impossible => by cases impossible) concedes_elsewhere p

theorem unwatched_nowhere : Unwatched (outage ctx self) .nowhere :=
  ⟨fun _ => trivial, fun _ _ => rfl⟩

theorem departs_elsewhere (p : Handler A) :
    p.Meets (outage ctx self) (fun _ s => s = .elsewhere) (Concedes ctx self code) .elsewhere := by
  apply meets_elsewhere
  · exact fun _ => rfl
  · exact concedes_elsewhere

theorem Departs.bind {p : Handler A} {k : A → Handler B} (departs : Departs ctx self code p) :
    Surrenders ctx self code returned (p >>= k) := by
  rw [Surrenders, meets_bind]
  refine departs.mono (fun value s away => ?_) fun _ _ left => left
  subst away
  exact surrenders_elsewhere _

theorem Avoids.bind {p : Handler A} {k : A → Handler B} (avoids : Avoids ctx self code p)
    (goes : ∀ value, Surrenders ctx self code returned (k value)) :
    Surrenders ctx self code returned (p >>= k) := by
  rw [Surrenders, meets_bind]
  refine avoids.mono (fun value s away => ?_) fun _ _ left => left
  cases s with
  | nowhere => exact goes value
  | elsewhere => exact surrenders_elsewhere _
  | unavailable => exact (away rfl).elim

theorem Avoids.departs {p : Handler A} {k : A → Handler B} (avoids : Avoids ctx self code p)
    (goes : ∀ value, Departs ctx self code (k value)) : Departs ctx self code (p >>= k) := by
  rw [Departs, meets_bind]
  refine avoids.mono (fun value s away => ?_) fun _ _ left => left
  cases s with
  | nowhere => exact goes value
  | elsewhere => exact departs_elsewhere _
  | unavailable => exact (away rfl).elim

theorem surrenders_ite {c : Prop} [Decidable c] {p q : Handler B}
    (yes : c → Surrenders ctx self code returned p)
    (no : ¬c → Surrenders ctx self code returned q) :
    Surrenders ctx self code returned (if c then p else q) :=
  meets_ite yes no

theorem avoids_orReply (x : Except RpcResponse A) : Avoids ctx self code (orReply x) := by
  cases x with
  | ok value => exact surrenders_done value
  | error rejection => exact concedes_nowhere _

theorem avoids_expect (x : Option A) (rejection : RpcResponse) :
    Avoids ctx self code (expect x rejection) := by
  cases x with
  | some value => exact surrenders_done value
  | none => exact concedes_nowhere _

theorem avoids_unwrap (x : Option A) (why : Panic) : Avoids ctx self code (unwrap x why) := by
  cases x with
  | some value => exact surrenders_done value
  | none => exact concedes_nowhere _

theorem avoids_session (op : SessionOp) : Avoids ctx self code (session op) :=
  ⟨trivial, fun reply _ => surrenders_done reply⟩

theorem departs_vendor (op : VendorOp) : Departs ctx self code (vendor op) :=
  ⟨trivial, fun _ _ => rfl⟩

theorem departs_provider {op : ProviderOp} (other : op.onLibrary ≠ some ctx.provider) :
    Departs ctx self code (provider op) :=
  ⟨trivial, fun _ _ => if_neg other⟩

theorem surrenders_default {op : ProviderOp} {k : op.Reply → Handler B}
    (default : op.onLibrary = some ctx.provider)
    (goes : ∀ reply, self.Answers ctx.platform op reply → (k reply).Meets (outage ctx self)
      (fun value _ => returned value) (Concedes ctx self code) .unavailable) :
    Surrenders ctx self code returned (provider op >>= k) := by
  refine bind_call trivial fun reply possible => ?_
  have moved : (outage ctx self).advance .nowhere (.provider op) reply = .unavailable :=
    if_pos default
  rw [moved]
  exact (goes reply (possible default)).mono (fun _ _ gives _ => gives) fun _ _ left => left

theorem avoids_getApi (name : String) : Avoids ctx self code (ctx.getApi name) :=
  unwatched_nowhere.meets_getApi (fun _ impossible => by cases impossible) fun impossible =>
    by cases impossible

theorem avoids_apiOr (name : String) (failed : String → RpcResponse) :
    Avoids ctx self code (apiOr ctx name failed) :=
  unwatched_nowhere.meets_apiOr (fun _ => concedes_nowhere _) fun impossible => by cases impossible

theorem avoids_loadedApi (name : String) (lang : Language) (id : Option Json) :
    Avoids ctx self code (loadedApi ctx name lang id) :=
  unwatched_nowhere.meets_loadedApi (fun _ => concedes_nowhere _) (concedes_nowhere _)
    fun impossible => by cases impossible

theorem avoids_resolveOr (name : String) (failed : String → RpcResponse) :
    Avoids ctx self code (resolveOr ctx name failed) :=
  unwatched_nowhere.meets_resolveOr (fun _ => concedes_nowhere _)
    (fun _ impossible => by cases impossible)
    fun _ _ _ impossible => by cases impossible

theorem departs_connectDev (api : Library) (provName devName : String) (id : Option Json) :
    Departs ctx self code (connectDev api provName devName id) :=
  (avoids_unwrap _ _).departs fun _ => ⟨trivial, fun _ _ => departs_elsewhere _⟩

/-- A device of the provider does not open, whatever would be done with it. -/
theorem surrenders_withDevice (library : Library) (provName devName : String) (id : Option Json)
    (body : Device → Handler B) :
    Surrenders ctx self (-5) returned (withDevice library provName devName id body) := by
  unfold withDevice openDevice
  rw [bind_assoc]
  by_cases default : library = ctx.provider
  · subst default
    refine surrenders_default rfl ?_
    rintro reply rfl
    -- The device is not opened: its grants are dropped, and the request is left with the reason in
    -- English.
    exact ⟨rfl, fun _ _ _ => ⟨_, rfl, .EN, rfl⟩⟩
  · have other : (ProviderOp.openDevice library devName).onLibrary ≠ some ctx.provider :=
      fun same => default (Option.some.inj same)
    exact (departs_provider other).bind

end rules

def Method.outageCode : Method → Int32
  | CancelWaitForDevEvent => -1
  | _ => -5

section branches

variable {ctx : SkfContext} {self : UnavailableProvider} {params : Params} {lang : Language}

abbrev Resigns (ctx : SkfContext) (self : UnavailableProvider) (code : Int32)
    (branch : Handler RpcResponse) : Prop :=
  Surrenders ctx self code (Reasoned ctx self code) branch

theorem reasoned_nativeOr (message : ULONG → String) (lang : Language) (id : Option Json) :
    Reasoned ctx self (-5) (nativeOr (self.error ctx.platform) message lang id) := ⟨lang, rfl⟩

theorem resigns_waitForDevEvent :
    Resigns ctx self (-5) (WaitForDevEvent.handle ctx params lang) := by
  refine surrenders_ite (fun _ => surrenders_default rfl ?_) fun _ => ?_
  · rintro reply rfl
    exact reasoned_nativeOr _ _ _
  · exact (avoids_apiOr _ _).bind fun api => (departs_vendor _).bind

theorem resigns_enumDevice : Resigns ctx self (-5) (EnumDevice.handle ctx params lang) := by
  refine surrenders_ite (fun _ => surrenders_default rfl ?_) fun _ => ?_
  · rintro reply rfl
    exact reasoned_nativeOr _ _ _
  · exact (avoids_apiOr _ _).bind fun api => (departs_vendor _).bind

theorem resigns_connectDev : Resigns ctx self (-5) (ConnectDev.handle ctx params lang) := by
  refine (avoids_expect _ _).bind fun name => surrenders_default rfl ?_
  rintro reply rfl
  exact reasoned_nativeOr _ _ _

theorem resigns_getDevState : Resigns ctx self (-5) (GetDevState.handle ctx params lang) := by
  refine (avoids_orReply _).bind fun devName =>
    surrenders_ite (fun _ => surrenders_default rfl ?_) fun _ => ?_
  · rintro reply rfl
    exact reasoned_nativeOr _ _ _
  · exact (avoids_apiOr _ _).bind fun api =>
      (avoids_unwrap _ _).bind fun _ => (departs_vendor _).bind

theorem resigns_cancelWait :
    Resigns ctx self (-1) (CancelWaitForDevEvent.handle ctx params lang) := by
  refine surrenders_default rfl ?_
  rintro reply rfl
  exact ⟨lang, rfl⟩

theorem avoids_requiredNames : Avoids ctx self (-5) (requiredNames params) :=
  (avoids_orReply _).bind fun _ => (avoids_orReply _).bind fun _ => surrenders_done _

theorem resigns_digestInit : Resigns ctx self (-5) (DigestInit.handle ctx params lang) := by
  refine avoids_requiredNames.bind fun names =>
    surrenders_ite (fun _ => surrenders_default rfl ?_) fun _ => ?_
  · rintro reply rfl
    exact reasoned_nativeOr _ _ _
  · exact (avoids_apiOr _ _).bind fun api =>
      (avoids_unwrap _ _).bind fun _ => (departs_vendor _).bind

theorem resigns_digest : Resigns ctx self (-5) (Digest.handle ctx params lang) :=
  (avoids_orReply _).bind fun _ => (avoids_orReply _).bind fun _ => (avoids_orReply _).bind fun _ =>
    (avoids_expect _ _).bind fun _ =>
      (avoids_orReply _).bind fun _ => (avoids_apiOr _ _).bind fun _ =>
      (departs_connectDev _ _ _ _).bind

theorem resigns_enumApplication : Resigns ctx self (-5) (EnumApplication.handle ctx params lang) :=
  (avoids_orReply _).bind fun _ =>
    (avoids_apiOr _ _).bind fun _ => (departs_connectDev _ _ _ _).bind

theorem resigns_enumContainer : Resigns ctx self (-5) (EnumContainer.handle ctx params lang) :=
  (avoids_orReply _).bind fun _ => (avoids_orReply _).bind fun _ => (avoids_apiOr _ _).bind fun _ =>
    (departs_connectDev _ _ _ _).bind

theorem resigns_importKeyPair : Resigns ctx self (-5) (ImportKeyPair.handle ctx params lang) := by
  have read : Avoids ctx self (-5) (KeyPairRequest.read ctx params lang) :=
    (avoids_orReply _).bind fun _ =>
      (avoids_orReply _).bind fun _ => (avoids_orReply _).bind fun _ =>
      (avoids_orReply _).bind fun _ =>
        (avoids_orReply _).bind fun _ => (avoids_expect _ _).bind fun _ =>
        (avoids_orReply _).bind fun _ => surrenders_done _
  exact read.bind fun request =>
    (avoids_apiOr _ _).bind fun api => (departs_connectDev _ _ _ _).bind

theorem resigns_getDevInfo : Resigns ctx self (-5) (GetDevInfo.handle ctx params lang) :=
  (avoids_orReply _).bind fun _ =>
    (avoids_apiOr _ _).bind fun _ => (departs_connectDev _ _ _ _).bind

theorem resigns_setLabel : Resigns ctx self (-5) (SetLabel.handle ctx params lang) :=
  (avoids_orReply _).bind fun _ => (avoids_orReply _).bind fun _ => (avoids_apiOr _ _).bind fun _ =>
    (departs_connectDev _ _ _ _).bind

theorem resigns_eccVerify : Resigns ctx self (-5) (ECCVerify.handle ctx params lang) := by
  refine (avoids_orReply _).bind fun _ =>
    (avoids_orReply _).bind fun _ => (avoids_orReply _).bind fun _ =>
    (avoids_orReply _).bind fun _ =>
      (avoids_orReply _).bind fun _ => (avoids_orReply _).bind fun _ => ?_
  refine (avoids_orReply _).bind fun _ => surrenders_ite (fun _ => concedes_nowhere _) fun _ => ?_
  refine surrenders_ite (fun _ => concedes_nowhere _) fun _ => (avoids_apiOr _ _).bind fun _ => ?_
  exact (departs_connectDev _ _ _ _).bind

theorem resigns_lockDev : Resigns ctx self (-5) (LockDev.handle ctx params lang) :=
  avoids_requiredNames.bind fun _ =>
    (avoids_loadedApi _ _ _).bind fun _ => (departs_connectDev _ _ _ _).bind

theorem resigns_unlockDev : Resigns ctx self (-5) (UnlockDev.handle ctx params lang) :=
  avoids_requiredNames.bind fun _ =>
    (avoids_loadedApi _ _ _).bind fun _ => (departs_connectDev _ _ _ _).bind

theorem resigns_transmit : Resigns ctx self (-5) (Transmit.handle ctx params lang) :=
  avoids_requiredNames.bind fun _ =>
    (avoids_orReply _).bind fun _ => (avoids_orReply _).bind fun _ =>
    (avoids_loadedApi _ _ _).bind fun _ => (departs_connectDev _ _ _ _).bind

theorem resigns_rsaVerify : Resigns ctx self (-5) (RSAVerify.handle ctx params lang) := by
  refine avoids_requiredNames.bind fun _ =>
    (avoids_orReply _).bind fun _ => (avoids_orReply _).bind fun _ =>
    (avoids_orReply _).bind fun _ => (avoids_orReply _).bind fun _ => ?_
  refine surrenders_ite (fun _ => concedes_nowhere _) fun _ => (avoids_orReply _).bind fun _ => ?_
  exact (avoids_orReply _).bind fun _ =>
    (avoids_loadedApi _ _ _).bind fun _ => (departs_connectDev _ _ _ _).bind

theorem departs_handle {op : ProviderOp} (other : op.onLibrary = none) :
    Departs ctx self (-5) (provider op) :=
  departs_provider (by rw [other]; exact (Option.some_ne_none _).symm)

theorem resigns_disConnectDev : Resigns ctx self (-5) (DisConnectDev.handle params) := by
  refine (avoids_expect _ _).bind fun handle => (avoids_session _).bind fun removed => ?_
  cases removed with
  | ok guard => exact (departs_handle rfl).bind
  | error reason => exact surrenders_done _

theorem resigns_generateRandom : Resigns ctx self (-5) (GenerateRandom.handle params lang) := by
  refine (avoids_expect _ _).bind fun handle => (avoids_expect _ _).bind fun len =>
    (avoids_session _).bind fun found => ?_
  cases found with
  | ok guard => exact (departs_handle rfl).bind
  | error reason => exact surrenders_done _

theorem resigns_digestUpdate : Resigns ctx self (-5) (DigestUpdate.handle ctx params lang) := by
  refine (avoids_expect _ _).bind fun handle => (avoids_expect _ _).bind fun data =>
    (avoids_orReply _).bind fun bytes => (avoids_session _).bind fun found => ?_
  cases found with
  | ok digest => exact (departs_handle rfl).bind
  | error reason => exact surrenders_done _

theorem resigns_digestFinal : Resigns ctx self (-5) (DigestFinal.handle params lang) := by
  refine (avoids_expect _ _).bind fun handle => (avoids_session _).bind fun removed => ?_
  cases removed with
  | ok digest => exact ⟨trivial, fun _ _ => surrenders_elsewhere _⟩
  | error reason => exact surrenders_done _

theorem resigns_closeHash : Resigns ctx self (-5) (CloseHash.handle params) := by
  refine (avoids_expect _ _).bind fun handle => (avoids_session _).bind fun removed => ?_
  cases removed with
  | ok digest => exact (departs_handle rfl).bind
  | error reason => exact surrenders_done _

theorem resigns_issueCertificate : Resigns ctx self (-5) (IssueCertificate.handle ctx params) := by
  -- This branch asks the host alone, and so never calls a library.
  have host := meets_of_hostOnly (@IssueCertificate.meets_handle ctx params)
    (fun host => (@unwatched_nowhere ctx self).allowed host) (@unwatched_nowhere ctx self).quiet
  refine host.mono (fun response s kept => ?_) fun exit s kept => ?_
  · obtain ⟨-, rfl⟩ := kept
    intro impossible
    cases impossible
  · obtain ⟨-, rfl⟩ := kept
    exact concedes_nowhere exit

theorem resigns_findCertificates : Resigns ctx self (-5) (FindCertificates.handle ctx params) := by
  have inProvider (want : FindCertificates.Wanted) (provName : String) :
      Avoids ctx self (-5) (FindCertificates.inProvider ctx want provName) := by
    refine (avoids_getApi provName).bind fun found => ?_
    cases found with
    | error reason => exact surrenders_done _
    | ok api =>
      -- It lists every provider through the symbol table, the default one as well.
      have lists : Departs ctx self (-5) (FindCertificates.listed fun buffer =>
        vendor (.enumDev api true buffer)) :=
        ⟨trivial, fun _ _ => departs_elsewhere _⟩
      exact lists.bind
  have all (want : FindCertificates.Wanted) (names : List String) :
      Avoids ctx self (-5) (Program.collect (FindCertificates.inProvider ctx want) names) := by
    induction names with
    | nil => exact surrenders_done _
    | cons name names ih =>
      exact (inProvider want name).bind fun _ => ih.bind fun _ => surrenders_done _
  exact (all _ _).bind fun _ => surrenders_done _

section domain

theorem avoids_containerNames : Avoids ctx self (-5) (containerNames params) :=
  (avoids_orReply _).bind fun _ =>
    (avoids_orReply _).bind fun _ => (avoids_orReply _).bind fun _ => surrenders_done _

theorem avoids_certKeyNames (certKey : String) :
    Avoids ctx self (-5) (certKeyNames ctx params certKey) :=
  (avoids_expect _ _).bind fun _ => surrenders_done _

theorem resigns_checkPIN : Resigns ctx self (-5) (CheckPIN.handle ctx params lang) :=
  (avoids_orReply _).bind fun _ =>
    (avoids_orReply _).bind fun _ => (avoids_expect _ _).bind fun _ =>
    (avoids_resolveOr _ _).bind fun _ => surrenders_withDevice _ _ _ _ _

theorem resigns_createContainer : Resigns ctx self (-5) (CreateContainer.handle ctx params lang) :=
  avoids_containerNames.bind fun _ =>
    (avoids_resolveOr _ _).bind fun _ => surrenders_withDevice _ _ _ _ _

theorem resigns_deleteContainer : Resigns ctx self (-5) (DeleteContainer.handle ctx params lang) :=
  avoids_containerNames.bind fun _ =>
    (avoids_resolveOr _ _).bind fun _ => surrenders_withDevice _ _ _ _ _

theorem resigns_getContainerType :
    Resigns ctx self (-5) (GetContainerType.handle ctx params lang) :=
  avoids_containerNames.bind fun _ =>
    (avoids_resolveOr _ _).bind fun _ => surrenders_withDevice _ _ _ _ _

theorem resigns_importCertificate :
    Resigns ctx self (-5) (ImportCertificate.handle ctx params lang) :=
  avoids_containerNames.bind fun _ =>
    (avoids_expect _ _).bind fun _ => (avoids_orReply _).bind fun _ =>
    (avoids_orReply _).bind fun _ =>
      (avoids_orReply _).bind fun _ => (avoids_resolveOr _ _).bind fun _ =>
      surrenders_withDevice _ _ _ _ _

theorem resigns_generateKeyPair (fallback : UInt64)
    (generate : Container → ULONG → Handler RpcResponse) :
    Resigns ctx self (-5) (generateKeyPair ctx params lang fallback generate) :=
  (avoids_orReply _).bind fun _ =>
    avoids_containerNames.bind fun _ => (avoids_resolveOr _ _).bind fun _ =>
    surrenders_withDevice _ _ _ _ _

theorem resigns_withSigningContainer (sign : Container → List UInt8 → Handler RpcResponse) :
    Resigns ctx self (-5) (withSigningContainer ctx params sign) :=
  (avoids_orReply _).bind fun _ =>
    (avoids_orReply _).bind fun _ => (avoids_certKeyNames _).bind fun _ =>
    (avoids_orReply _).bind fun _ =>
      (avoids_resolveOr _ _).bind fun _ => surrenders_withDevice _ _ _ _ _

theorem resigns_withSymmetricKey (missingData invalidData : String)
    (cipher : Container → List UInt8 → ULONG → List UInt8 → Handler RpcResponse) :
    Resigns ctx self (-5) (withSymmetricKey ctx params lang missingData invalidData cipher) := by
  refine (avoids_orReply _).bind fun _ =>
    (avoids_orReply _).bind fun _ => (avoids_orReply _).bind fun _ =>
    (avoids_orReply _).bind fun _ =>
      (avoids_certKeyNames _).bind fun _ => (avoids_orReply _).bind fun _ => ?_
  exact (avoids_orReply _).bind fun _ =>
    (avoids_resolveOr _ _).bind fun _ => surrenders_withDevice _ _ _ _ _

theorem resigns_signData : Resigns ctx self (-5) (SignData.handle ctx params lang) := by
  unfold SignData.handle
  exact resigns_withSigningContainer _

theorem resigns_rsaSignData : Resigns ctx self (-5) (RSASignData.handle ctx params lang) := by
  unfold RSASignData.handle
  exact resigns_withSigningContainer _

theorem resigns_encryptData : Resigns ctx self (-5) (EncryptData.handle ctx params lang) := by
  unfold EncryptData.handle
  exact resigns_withSymmetricKey _ _ _

theorem resigns_decryptData : Resigns ctx self (-5) (DecryptData.handle ctx params lang) := by
  unfold DecryptData.handle
  exact resigns_withSymmetricKey _ _ _

theorem resigns_genECCKeyPair : Resigns ctx self (-5) (GenECCKeyPair.handle ctx params lang) := by
  unfold GenECCKeyPair.handle
  exact resigns_generateKeyPair _ _

theorem resigns_genRSAKeyPair : Resigns ctx self (-5) (GenRSAKeyPair.handle ctx params lang) := by
  unfold GenRSAKeyPair.handle
  exact resigns_generateKeyPair _ _

theorem resigns_createPKCS10 : Resigns ctx self (-5) (CreatePKCS10.handle ctx params lang) :=
  (avoids_orReply _).bind fun _ => (avoids_orReply _).bind fun _ => (avoids_orReply _).bind fun _ =>
    (avoids_resolveOr _ _).bind fun _ => surrenders_withDevice _ _ _ _ _

end domain

/-- Every branch gives the reason; the branch that cancels a wait does so under another code. -/
theorem resigns_branch (method : Method) :
    Resigns ctx self method.outageCode (method.branch ctx params lang) := by
  -- Three branches ask nothing, and the others give up at their first outward call.
  cases method with
  | GetProtocolVersion | SetLanguage | EnumProvider => exact surrenders_done _
  | WaitForDevEvent => exact resigns_waitForDevEvent
  | EnumDevice => exact resigns_enumDevice
  | ConnectDev => exact resigns_connectDev
  | EnumApplication => exact resigns_enumApplication
  | EnumContainer => exact resigns_enumContainer
  | DeleteContainer => exact resigns_deleteContainer
  | IssueCertificate => exact resigns_issueCertificate
  | ImportCertificate => exact resigns_importCertificate
  | SignData => exact resigns_signData
  | ImportKeyPair => exact resigns_importKeyPair
  | DisConnectDev => exact resigns_disConnectDev
  | FindCertificates => exact resigns_findCertificates
  | GenerateRandom => exact resigns_generateRandom
  | Digest => exact resigns_digest
  | CheckPIN => exact resigns_checkPIN
  | CreatePKCS10 => exact @resigns_createPKCS10 ctx self params lang
  | EncryptData => exact resigns_encryptData
  | DecryptData => exact resigns_decryptData
  | GetDevInfo => exact resigns_getDevInfo
  | GetDevState => exact resigns_getDevState
  | SetLabel => exact resigns_setLabel
  | ECCVerify => exact resigns_eccVerify
  | CreateContainer => exact resigns_createContainer
  | GetContainerType => exact resigns_getContainerType
  | RSASignData => exact resigns_rsaSignData
  | LockDev => exact resigns_lockDev
  | UnlockDev => exact resigns_unlockDev
  | Transmit => exact resigns_transmit
  | CancelWaitForDevEvent => exact resigns_cancelWait
  | GenECCKeyPair => exact resigns_genECCKeyPair
  | GenRSAKeyPair => exact resigns_genRSAKeyPair
  | RSAVerify => exact resigns_rsaVerify
  | DigestInit => exact resigns_digestInit
  | DigestUpdate => exact resigns_digestUpdate
  | DigestFinal => exact resigns_digestFinal
  | CloseHash => exact resigns_closeHash

end branches

end SkfService
