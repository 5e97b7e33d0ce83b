import SkfService.Dispatch.HandleRequest
import SkfService.Dispatch.HostOnly
import SkfService.Gates.Guarded

/-! Which branches call the symbol table, and that every other call of the default alias is gated. -/

set_option autoImplicit false

namespace SkfService

open Text Interaction Program Handler

namespace Serial

section session

variable {ctx : SkfContext} {params : Params} {lang : Language} {symbols : Bool} {id : Option Json}

theorem connectDev : Serial ctx symbols (fun _ => True) (ConnectDev.handle ctx params lang) := by
  refine (expect _ _).after fun name => (provider (gated_provider ctx)).after fun attempt => ?_
  refine (settled attempt).after fun opened => ?_
  cases opened with
  | error e => trivial
  | ok raw =>
    refine (stored fun library held => ?_).after fun handle => trivial
    cases held
    exact gated_provider ctx

theorem disConnectDev : Serial ctx symbols (fun _ => True) (DisConnectDev.handle params) := by
  refine (expect _ _).after fun handle => (fetched rfl).bind fun removed gated => ?_
  cases removed with
  | error e => trivial
  | ok guard => exact (provider (gated _ rfl)).after fun _ => trivial

theorem generateRandom :
    Serial ctx symbols (fun _ => True) (GenerateRandom.handle params lang) := by
  refine (expect _ _).after fun handle =>
    (expect _ _).after fun len => (fetched rfl).bind fun found gated => ?_
  cases found with
  | error e => trivial
  | ok guard =>
    refine (provider (gated _ rfl)).after fun attempt => (settled attempt).after fun drawn => ?_
    cases drawn <;> trivial

theorem digestInit_onDefault {devName : String} {algId : ULONG} {idBytes : List UInt8} :
    Serial ctx symbols (fun _ =>
      True) (DigestInit.onDefault ctx devName algId idBytes lang id) := by
  refine (provider (gated_provider ctx)).after fun attempt =>
    (settled attempt).after fun opened => ?_
  cases opened with
  | error e => trivial
  | ok raw =>
    refine (provider (gated_provider ctx)).after fun begun => ?_
    rcases begun with - | e | hash
    · exact (provider (gated_provider ctx)).after fun _ => trivial
    · exact (provider (gated_provider ctx)).after fun _ => trivial
    · refine (stored fun library held => ?_).after fun handle =>
        (stored fun library held => ?_).after fun _ => trivial
      · cases held
        exact gated_provider ctx
      · cases held
        exact gated_provider ctx

theorem digestUpdate :
    Serial ctx symbols (fun _ => True) (DigestUpdate.handle ctx params lang) := by
  refine (expect _ _).after fun handle =>
    (expect _ _).after fun dataB64 => (orReply _).after fun dataBytes => ?_
  refine (fetched rfl).bind fun found gated => ?_
  cases found with
  | error e => trivial
  | ok digest =>
    refine (provider (gated _ rfl)).after fun attempt => (settled attempt).after fun updated => ?_
    cases updated <;> trivial

theorem digestFinal : Serial ctx symbols (fun _ => True) (DigestFinal.handle params lang) := by
  refine (expect _ _).after fun handle => (fetched rfl).bind fun found gated => ?_
  cases found with
  | error e => trivial
  | ok digest =>
    refine ensuring ?_ (provider (gated _ rfl))
    refine (provider (gated _ rfl)).after fun attempt => (settled attempt).after fun finalized => ?_
    cases finalized <;> trivial

theorem closeHash : Serial ctx symbols (fun _ => True) (CloseHash.handle params) := by
  refine (expect _ _).after fun handle => (fetched rfl).bind fun removed gated => ?_
  cases removed with
  | error e => trivial
  | ok digest => exact (provider (gated _ rfl)).after fun _ => trivial

theorem cancelWaitForDevEvent :
    Serial ctx symbols (fun _ => True) (CancelWaitForDevEvent.handle ctx params lang) := by
  refine (provider (gated_provider ctx)).after fun attempt =>
    (settled attempt).after fun cancelled => ?_
  rcases cancelled with e | done
  · cases e <;> trivial
  · trivial

theorem issueCertificate :
    Serial ctx symbols (fun _ => True) (IssueCertificate.handle ctx params) := by
  have hosted := @IssueCertificate.meets_handle ctx params
  have met : (IssueCertificate.handle ctx params).Meets (serial ctx symbols) _ _ () :=
    meets_of_hostOnly hosted Op.Serial.host fun _ _ => rfl
  exact met.mono (fun _ _ _ => trivial) fun _ _ _ => trivial

end session

section symbols

variable {ctx : SkfContext} {params : Params} {lang : Language} {symbols : Bool} {id : Option Json}
  {A : Type} {api : Library} {provName devName appName : String} {device : Device}
  {application : Application} {container : Container}

theorem apiOr {failed : String → RpcResponse} :
    Serial ctx symbols (fun _ => True) (apiOr ctx provName failed) :=
  unwatched.meets_apiOr (fun _ => trivial) trivial

theorem loadedApi : Serial ctx symbols (fun _ => True) (loadedApi ctx provName lang id) :=
  unwatched.meets_loadedApi (fun _ => trivial) trivial trivial

theorem cString {text : String} : Serial ctx symbols (fun _ => True) (cString text) := unwrap _ _

theorem connected :
    Serial ctx true (fun _ => True) (SkfService.connectDev api provName devName id) := by
  refine cString.after fun cDev => (vendor _).after fun answer => ite (fun _ => trivial) fun _ => ?_
  exact noteDeviceUnavailable.after fun _ => trivial

theorem disconnected : Serial ctx true (fun _ => True) (SkfService.disConnectDev device) :=
  (vendor _).after fun _ => trivial

theorem closeApplication : Serial ctx true (fun _ => True) (closeApplication application) :=
  (vendor _).after fun _ => trivial

theorem closeContainer : Serial ctx true (fun _ => True) (closeContainer container) :=
  (vendor _).after fun _ => trivial

theorem openApp : Serial ctx true (fun _ => True) (openApp device provName appName id) := by
  refine cString.after fun cApp => (vendor _).after fun answer => ite (fun _ => trivial) fun _ => ?_
  exact disconnected.after fun _ => noteDeviceUnavailable.after fun _ => trivial

theorem enumerated {query : Option ULONG → Handler Filled} {release : Handler Unit}
    {sizeFailed listFailed : String}
    (queries : ∀ buffer, Serial ctx true (fun _ => True) (query buffer))
    (releases : Serial ctx true (fun _ => True) release) :
    Serial ctx true (fun _ => True) (enumerated query release sizeFailed listFailed id) := by
  refine (queries _).after fun sized => ite (fun _ => ?_) fun _ => ?_
  · exact releases.after fun _ => ite (fun _ => trivial) fun _ => trivial
  · exact (queries _).after fun filled =>
      releases.after fun _ => ite (fun _ => trivial) fun _ => trivial

theorem withConnected {call : Handler A} (calls : Serial ctx true (fun _ => True) call) :
    Serial ctx true (fun _ => True) (withConnected device call) :=
  calls.after fun _ => disconnected.after fun _ => trivial

theorem decodedOr {encoded label : String} :
    Serial ctx symbols (fun _ => True) (decodedOr ctx encoded label id) :=
  orReply _

theorem requiredNames : Serial ctx symbols (fun _ => True) (requiredNames params) :=
  (orReply _).after fun _ => (orReply _).after fun _ => trivial

theorem enumApplication :
    Serial ctx true (fun _ => True) (EnumApplication.handle ctx params lang) :=
  (orReply _).after fun _ =>
    apiOr.after fun _ => connected.after fun _ => enumerated (fun _ => vendor _) disconnected

theorem enumContainer : Serial ctx true (fun _ => True) (EnumContainer.handle ctx params lang) := by
  refine (orReply _).after fun _ =>
    (orReply _).after fun _ => apiOr.after fun _ => connected.after fun _ => ?_
  exact openApp.after fun _ =>
    enumerated (fun _ => vendor _) (closeApplication.after fun _ => disconnected)

theorem keyPairRequest :
    Serial ctx symbols (fun _ => True) (KeyPairRequest.read ctx params lang) := by
  unfold KeyPairRequest.read
  refine (orReply _).after fun _ =>
    (orReply _).after fun _ => (orReply _).after fun _ => (orReply _).after fun _ => ?_
  exact (orReply _).after fun _ => (expect _ _).after fun _ => (orReply _).after fun _ => trivial

theorem intoContainer {request : KeyPairRequest} :
    Serial ctx true (fun _ => True) (ImportKeyPair.intoContainer ctx request container id) := by
  have release : Serial ctx true (fun _ => True) (do
      SkfService.closeContainer container
      SkfService.closeApplication container.application
      SkfService.disConnectDev container.application.device) :=
    closeContainer.after fun _ => closeApplication.after fun _ => disconnected
  unfold ImportKeyPair.intoContainer
  refine ite (fun _ => ?_) fun _ => ?_
  · exact (vendor _).after fun _ => release.after fun _ => ite (fun _ => trivial) fun _ => trivial
  · cases decodeBase64 ctx.platform.base64Error request.wrapKey with
    | error reason => exact release.after fun _ => trivial
    | ok wrapKey =>
      exact (vendor _).after fun _ => release.after fun _ => ite (fun _ => trivial) fun _ => trivial

theorem importKeyPair : Serial ctx true (fun _ => True) (ImportKeyPair.handle ctx params lang) := by
  refine keyPairRequest.after fun request =>
    apiOr.after fun _ => connected.after fun _ => openApp.after fun application => ?_
  refine (session rfl).after fun authorized => ?_
  obtain ⟨now, outcome⟩ := authorized
  cases outcome with
  | error reason =>
    -- The source closes both once more after the rejection.
    exact closeApplication.after fun _ =>
      disconnected.after fun _ => closeApplication.after fun _ =>
      disconnected.after fun _ => trivial
  | ok granted =>
    refine cString.after fun _ => (vendor _).after fun answer => ite (fun _ => ?_) fun _ => ?_
    · exact intoContainer
    · exact closeApplication.after fun _ => disconnected.after fun _ => trivial

theorem listed {query : Option ULONG → Handler Filled}
    (queries : ∀ buffer, Serial ctx true (fun _ => True) (query buffer)) :
    Serial ctx true (fun _ => True) (FindCertificates.listed query) := by
  refine (queries _).after fun sized =>
    ite (fun _ => (queries _).after fun filled => ?_) fun _ => trivial
  exact ite (fun _ => trivial) fun _ => trivial

theorem processCert {keyStem : String} {isSign : Bool} :
    Serial ctx true (fun _ =>
      True) (FindCertificates.processCert ctx keyStem container isSign) := by
  refine (vendor _).after fun sized =>
    ite (fun _ => (vendor _).after fun filled => ite (fun _ => ?_) fun _ => trivial)
    fun _ => trivial
  dsimp only
  cases ctx.platform.parseCertificate (filled.memory.take sized.size.toNat) <;> trivial

theorem inContainer {want : FindCertificates.Wanted} {keyStem contName : String} :
    Serial ctx true (fun _ =>
      True) (FindCertificates.inContainer ctx want keyStem application contName) := by
  refine cString.after fun _ => (vendor _).after fun answer => ite (fun _ => ?_) fun _ => trivial
  refine ite (fun _ => processCert.after fun sign => ?_) fun _ => ?_
  -- The second certificate is asked for or not, whatever became of the first.
  all_goals refine ite (fun _ => processCert.after fun enc => ?_) fun _ => ?_
  all_goals exact closeContainer.after fun _ => trivial

theorem inApplication {want : FindCertificates.Wanted} {keyStem : String} :
    Serial ctx true (fun _ =>
      True) (FindCertificates.inApplication ctx want keyStem device appName) := by
  refine cString.after fun _ => (vendor _).after fun answer => ite (fun _ => ?_) fun _ => trivial
  refine (listed fun _ => vendor _).after fun names => ?_
  exact (collect names fun _ => inContainer).after fun _ => closeApplication.after fun _ => trivial

theorem inDevice {want : FindCertificates.Wanted} :
    Serial ctx true (fun _ => True) (FindCertificates.inDevice ctx want api provName devName) := by
  refine cString.after fun _ => (vendor _).after fun answer => ite (fun _ => ?_) fun _ => trivial
  refine (listed fun _ => vendor _).after fun names => ?_
  exact (collect names fun _ => inApplication).after fun _ => disconnected.after fun _ => trivial

theorem inProvider {want : FindCertificates.Wanted} :
    Serial ctx true (fun _ => True) (FindCertificates.inProvider ctx want provName) := by
  refine after (unwatched.meets_getApi (fun _ => trivial) trivial) fun found => ?_
  cases found with
  | error reason => trivial
  | ok api => exact (listed fun _ => vendor _).after fun names => collect names fun _ => inDevice

theorem findCertificates : Serial ctx true (fun _ => True) (FindCertificates.handle ctx params) :=
  (collect _ fun _ => inProvider).after fun _ => trivial

theorem digest : Serial ctx true (fun _ => True) (Digest.handle ctx params lang) := by
  unfold Digest.handle
  refine (orReply _).after fun _ =>
    (orReply _).after fun _ => (orReply _).after fun _ => (expect _ _).after fun _ => ?_
  refine decodedOr.after fun _ =>
    apiOr.after fun _ => connected.after fun _ => (vendor _).after fun begun => ?_
  refine ite (fun _ => (vendor _).after fun filled => disconnected.after fun _ => ?_) fun _ => ?_
  · exact ite (fun _ => trivial) fun _ => trivial
  · exact disconnected.after fun _ => trivial

theorem getDevInfo : Serial ctx true (fun _ => True) (GetDevInfo.handle ctx params lang) := by
  unfold GetDevInfo.handle
  refine (orReply _).after fun _ =>
    apiOr.after fun _ => connected.after fun _ => (withConnected (vendor _)).after fun answer => ?_
  exact ite (fun _ => trivial) fun _ => trivial

theorem setLabel : Serial ctx true (fun _ => True) (SetLabel.handle ctx params lang) := by
  refine (orReply _).after fun _ =>
    (orReply _).after fun _ => apiOr.after fun _ => connected.after fun _ => ?_
  exact cString.after fun _ => (withConnected (vendor _)).after fun _ => trivial

theorem eccVerify : Serial ctx true (fun _ => True) (ECCVerify.handle ctx params lang) := by
  unfold ECCVerify.handle
  refine (orReply _).after fun _ =>
    (orReply _).after fun _ => (orReply _).after fun _ => (orReply _).after fun _ => ?_
  refine decodedOr.after fun _ =>
    decodedOr.after fun _ => decodedOr.after fun _ => ite (fun _ => trivial) fun _ => ?_
  refine ite (fun _ => trivial) fun _ => apiOr.after fun _ => connected.after fun _ => ?_
  exact (withConnected (vendor _)).after fun _ => trivial

theorem rsaVerify : Serial ctx true (fun _ => True) (RSAVerify.handle ctx params lang) := by
  unfold RSAVerify.handle
  refine requiredNames.after fun _ =>
    (orReply _).after fun _ => (orReply _).after fun _ => (orReply _).after fun _ => ?_
  refine decodedOr.after fun _ =>
    ite (fun _ => trivial) fun _ => decodedOr.after fun _ => decodedOr.after fun _ => ?_
  exact loadedApi.after fun _ =>
    connected.after fun _ => (withConnected (vendor _)).after fun _ => trivial

theorem lockDev : Serial ctx true (fun _ => True) (LockDev.handle ctx params lang) :=
  requiredNames.after fun _ => loadedApi.after fun _ => connected.after fun _ =>
    (withConnected (vendor _)).after fun _ => trivial

theorem unlockDev : Serial ctx true (fun _ => True) (UnlockDev.handle ctx params lang) :=
  requiredNames.after fun _ => loadedApi.after fun _ => connected.after fun _ =>
    (withConnected (vendor _)).after fun _ => trivial

theorem transmit : Serial ctx true (fun _ => True) (Transmit.handle ctx params lang) := by
  refine requiredNames.after fun _ =>
    (orReply _).after fun _ => decodedOr.after fun _ => loadedApi.after fun _ => ?_
  exact connected.after fun _ =>
    (withConnected (vendor _)).after fun _ => ite (fun _ => trivial) fun _ => trivial

end symbols

section mixed

variable {ctx : SkfContext} {params : Params} {lang : Language} {symbols : Bool}

/-- A branch that calls the symbol table for every alias but the default. -/
theorem waitForDevEvent
    (needed : params.optionalStr 0 ctx.config.default ≠ ctx.config.default → symbols = true) :
    Serial ctx symbols (fun _ => True) (WaitForDevEvent.handle ctx params lang) := by
  refine ite (fun _ => ?_) fun other => ?_
  · refine (provider (gated_provider ctx)).after fun attempt =>
      (settled attempt).after fun waited => ?_
    cases waited <;> trivial
  · cases needed other
    exact apiOr.after fun _ => (vendor _).after fun _ => ite (fun _ => trivial) fun _ => trivial

theorem enumDevice
    (needed : params.optionalStr 0 ctx.config.default ≠ ctx.config.default → symbols = true) :
    Serial ctx symbols (fun _ => True) (EnumDevice.handle ctx params lang) := by
  refine ite (fun _ => ?_) fun other => ?_
  · refine (provider (gated_provider ctx)).after fun attempt =>
      (settled attempt).after fun names => ?_
    cases names <;> trivial
  · cases needed other
    exact apiOr.after fun _ => enumerated (fun _ => vendor _) trivial

theorem getDevState (needed : defaulted ctx params ≠ ctx.config.default → symbols = true) :
    Serial ctx symbols (fun _ => True) (GetDevState.handle ctx params lang) := by
  refine (orReply _).after fun _ => ite (fun _ => ?_) fun other => ?_
  · refine (provider (gated_provider ctx)).after fun attempt =>
      (settled attempt).after fun found => ?_
    cases found <;> trivial
  · cases needed other
    exact apiOr.after fun _ =>
      cString.after fun _ => (vendor _).after fun _ => ite (fun _ => trivial) fun _ => trivial

theorem requiredStr {index : Nat} {message : String} :
    Serial ctx symbols (fun value => params.str index = some value)
      (Handler.orReply (params.requiredStr index message)) := by
  unfold Params.requiredStr
  cases given : params.str index with
  | none => trivial
  | some value => rfl

theorem digestInit
    (needed : ∀ name, params.str 0 = some name → name ≠ ctx.config.default → symbols = true) :
    Serial ctx symbols (fun _ => True) (DigestInit.handle ctx params lang) := by
  -- The alias the branch compares is the first parameter as it was given, without a default.
  have names : Serial ctx symbols (fun names => params.str 0 = some names.1)
      (SkfService.requiredNames params) :=
    requiredStr.bind fun provName given => (orReply _).after fun devName => given
  refine names.bind fun names given => ite (fun _ => digestInit_onDefault) fun other => ?_
  cases needed _ given other
  refine apiOr.after fun _ =>
    cString.after fun _ => (vendor _).after fun answer => ite (fun _ => ?_) fun _ => trivial
  exact disconnected.after fun _ => trivial

end mixed
end Serial

/-- Whether a method calls the symbol table: always, for any alias but the default, or never. -/
def Method.symbols (ctx : SkfContext) (params : Params) : Method → Bool
  | EnumApplication | EnumContainer | ImportKeyPair | FindCertificates | Digest | GetDevInfo
  | SetLabel | ECCVerify | LockDev | UnlockDev | Transmit | RSAVerify => true
  | WaitForDevEvent | EnumDevice => params.optionalStr 0 ctx.config.default != ctx.config.default
  | GetDevState => defaulted ctx params != ctx.config.default
  | DigestInit => (params.str 0).any (· != ctx.config.default)
  | _ => false

theorem serial_branch (ctx : SkfContext) (params : Params) (lang : Language) (method : Method) :
    Serial ctx (method.symbols ctx params) (fun _ => True) (method.branch ctx params lang) := by
  cases method with
  | GetProtocolVersion | SetLanguage | EnumProvider => trivial
  | WaitForDevEvent => exact Serial.waitForDevEvent fun other => bne_iff_ne.mpr other
  | EnumDevice => exact Serial.enumDevice fun other => bne_iff_ne.mpr other
  | ConnectDev => exact Serial.connectDev
  | EnumApplication => exact Serial.enumApplication
  | EnumContainer => exact Serial.enumContainer
  | DeleteContainer => exact Serial.deleteContainer
  | IssueCertificate => exact Serial.issueCertificate
  | ImportCertificate => exact Serial.importCertificate
  | SignData => exact Serial.signData
  | ImportKeyPair => exact Serial.importKeyPair
  | DisConnectDev => exact Serial.disConnectDev
  | FindCertificates => exact Serial.findCertificates
  | GenerateRandom => exact Serial.generateRandom
  | Digest => exact Serial.digest
  | CheckPIN => exact Serial.checkPIN
  | CreatePKCS10 => exact @Serial.createPKCS10 ctx params lang _
  | EncryptData => exact Serial.encryptData
  | DecryptData => exact Serial.decryptData
  | GetDevInfo => exact Serial.getDevInfo
  | GetDevState => exact Serial.getDevState fun other => bne_iff_ne.mpr other
  | SetLabel => exact Serial.setLabel
  | ECCVerify => exact Serial.eccVerify
  | CreateContainer => exact Serial.createContainer
  | GetContainerType => exact Serial.getContainerType
  | RSASignData => exact Serial.rsaSignData
  | LockDev => exact Serial.lockDev
  | UnlockDev => exact Serial.unlockDev
  | Transmit => exact Serial.transmit
  | CancelWaitForDevEvent => exact Serial.cancelWaitForDevEvent
  | GenECCKeyPair => exact Serial.genECCKeyPair
  | GenRSAKeyPair => exact Serial.genRSAKeyPair
  | RSAVerify => exact Serial.rsaVerify
  | DigestInit =>
    -- DigestInit reads its alias as it was given, without a default.
    refine Serial.digestInit fun name given other => ?_
    rw [Method.symbols, given]
    exact bne_iff_ne.mpr other
  | DigestUpdate => exact Serial.digestUpdate
  | DigestFinal => exact Serial.digestFinal
  | CloseHash => exact Serial.closeHash

def symbolsOf (ctx : SkfContext) (text : String) : Bool :=
  (reached ctx text).any fun found => found.1.symbols ctx found.2

theorem serial_request (ctx : SkfContext) (text : String) (lang : Language) :
    (handleRequest ctx text lang).Meets (serial ctx (symbolsOf ctx text)) (fun _ _ => True)
      (fun _ _ => True) () := by
  unfold symbolsOf
  cases there : reached ctx text with
  | none =>
    obtain ⟨response, same, -⟩ := handleRequest_unreached there lang
    rw [same]
    trivial
  | some found =>
    have met : (found.1.branch ctx found.2 lang).Meets (serial ctx (found.1.symbols ctx found.2))
        (fun _ _ => True)
        (fun exit _ => ∀ response, exit = .reply response → True) () :=
      (serial_branch ctx found.2 lang found.1).mono (fun _ _ _ => trivial) fun _ _ _ _ _ => trivial
    exact meets_handleRequest there met

end SkfService
