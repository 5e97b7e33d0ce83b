import SkfService.Failures.Guarded
import SkfService.Failures.Issuing

/-! Every branch tells the failures that count, and does nothing else after one. -/

set_option autoImplicit false

namespace SkfService

open Text Interaction Program Handler RpcResponse

namespace Honest

section session

variable {ctx : SkfContext} {params : Params} {lang : Language} {tolerates : Symbol → Bool}
  {id : Option Json}

theorem connectDev (strict : Strict tolerates) :
    Branch tolerates (-5) (ConnectDev.handle ctx params lang) := by
  refine (expect _ own_badRequest).after fun name => ?_
  refine asked (strict _ rfl) (fun _ source => source) (fun _ => rfl) (fun raw => ?_)
    fun e source => explains_nativeOr source _ _ _
  exact (session _).after fun handle => explains_ok _ _

theorem disConnectDev : Branch tolerates (-5) (DisConnectDev.handle params) := by
  refine (expect _ (own_err (by decide))).after fun handle => (session _).after fun removed => ?_
  cases removed with
  | ok guard => exact (close _).behind fun _ => explains_ok _ _
  | error e => exact own_err (by decide)

theorem generateRandom : Branch (fun _ => false) (-5) (GenerateRandom.handle params lang) := by
  refine (expect _ own_badRequest).after fun handle => (expect _ own_badRequest).after fun len => ?_
  refine (session _).after fun found => ?_
  cases found with
  | error e => exact own_err (by decide)
  | ok guard =>
    exact asked (fun _ => rfl) (fun _ source => source) (fun _ => rfl)
      (fun bytes => explains_ok _ _)
      fun e source => explains_nativeOr source _ _ _

theorem digestInit_onDefault (strict : Strict tolerates) {devName : String} {algId : ULONG}
    {idBytes : List UInt8} :
    Branch tolerates (-5) (DigestInit.onDefault ctx devName algId idBytes lang id) := by
  refine asked (strict _ rfl) (fun _ source => source) (fun _ => rfl) (fun raw => ?_)
    fun e source => explains_nativeOr source _ _ _
  -- The device is given back by hand here, whatever the digest came to.
  refine ⟨.inl rfl, fun begun fair => ?_⟩
  have told : (verdicts tolerates).monitor.advance none
      (.provider (.beginDigest ⟨ctx.provider, devName, raw⟩ algId idBytes)) begun =
        Attempt.failure begun :=
    strict .DigestInit rfl _
  rw [told]
  rcases begun with - | e | hash
  · exact (close _).behind fun _ => rfl
  · exact (close _).behind fun _ => explains_nativeOr fair _ _ _
  · exact (session _).after fun handle => (session _).after fun _ => explains_ok _ _

theorem digestUpdate (strict : Strict tolerates) :
    Branch tolerates (-5) (DigestUpdate.handle ctx params lang) := by
  refine (expect _ own_badRequest).after fun handle =>
    (expect _ own_badRequest).after fun dataB64 => ?_
  refine (mapError fun _ => own_badRequest).after fun dataBytes => (session _).after fun found => ?_
  cases found with
  | error e => exact own_err (by decide)
  | ok digest =>
    exact asked (strict _ rfl) (fun _ source => source) (fun _ => rfl) (fun _ => explains_ok _ _)
      fun e source => explains_nativeOr source _ _ _

theorem digestFinal (strict : Strict tolerates) :
    Branch tolerates (-5) (DigestFinal.handle params lang) := by
  refine (expect _ own_badRequest).after fun handle => (session _).after fun found => ?_
  cases found with
  | error e => exact own_err (by decide)
  | ok digest =>
    refine ensuring ?_
    exact asked (strict _ rfl) (fun _ source => source) (fun _ => rfl) (fun hash => explains_ok _ _)
      fun e source => explains_nativeOr source _ _ _

theorem closeHash : Branch tolerates (-5) (CloseHash.handle params) := by
  refine (expect _ own_badRequest).after fun handle => (session _).after fun removed => ?_
  cases removed with
  | ok guard => exact (close _).behind fun _ => explains_ok _ _
  | error e => exact own_err (by decide)

theorem cancelWaitForDevEvent (strict : Strict tolerates) :
    Branch tolerates (-1) (CancelWaitForDevEvent.handle ctx params lang) := by
  refine asked (strict _ rfl) (fun _ source => source) (fun _ => rfl) (fun _ => explains_ok _ _)
    fun e source => ?_
  cases e with
  | Native code context => exact explains_err
  | SymbolUnavailable name => exact .inr ⟨rfl, rfl, rfl, rfl⟩
  | InvalidArgument context => exact own_err (by decide)
  | LibraryLoadFailed | ProviderNotConfigured | Injected => cases source

theorem issueCertificate : Branch tolerates (-5) (IssueCertificate.handle ctx params) := by
  have hosted := @IssueCertificate.own_handle ctx params
  refine Meets.mono (meets_of_hostOnly hosted (fun _ => .inl rfl) fun _ _ => rfl)
    (fun response s held => ?_)
    fun exit s left => ?_
  · obtain ⟨own, rfl⟩ := held
    exact own
  · obtain ⟨own, rfl⟩ := left
    cases exit with
    | reply response => exact own
    | panic why => rfl

end session

section symbols

variable {ctx : SkfContext} {params : Params} {lang : Language} {tolerates : Symbol → Bool}
  {id : Option Json} {A B : Type} {s : Option ULONG} {ret : B → Option ULONG → Prop} {api : Library}
  {provName devName appName : String} {device : Device} {application : Application}
  {container : Container}

theorem called {op : VendorOp} {k : op.Reply → Handler B} (counts : Counts tolerates op.symbol)
    (goes : ∀ reply, Honest tolerates (-5) ret (failureOf (op.code reply)) (k reply)) :
    Honest tolerates (-5) ret none (Handler.vendor op >>= k) :=
  (vendor counts).bind fun reply _ same => by
    cases same
    exact goes reply

theorem apiOr {failed : String → RpcResponse} (own : ∀ reason, (failed reason).Own) :
    Honest tolerates (-5) Fine none (apiOr ctx provName failed) :=
  unwatched.meets_apiOr (fun reason => own reason) rfl

theorem loadedApi : Honest tolerates (-5) Fine none (loadedApi ctx provName lang id) :=
  unwatched.meets_loadedApi (fun _ => own_err (by decide)) rfl rfl

theorem cString {text : String} : Honest tolerates (-5) Fine none (cString text) := unwrap _ _

theorem connected (strict : Strict tolerates) :
    Honest tolerates (-5) Fine none (SkfService.connectDev api provName devName id) := by
  refine cString.after fun cDev => called (strict _ rfl) fun answer => ?_
  obtain ⟨ret, raw⟩ := answer
  exact decided rfl (noteDeviceUnavailable.behind fun _ => explains_err)

theorem disconnected :
    Honest tolerates (-5) (fun _ after => after = s) s (SkfService.disConnectDev device) :=
  (released rfl).behind fun _ => rfl

theorem closeApplication :
    Honest tolerates (-5) (fun _ after => after = s) s (closeApplication application) :=
  (released rfl).behind fun _ => rfl

theorem closeContainer :
    Honest tolerates (-5) (fun _ after => after = s) s (closeContainer container) :=
  (released rfl).behind fun _ => rfl

theorem openApp (strict : Strict tolerates) :
    Honest tolerates (-5) Fine none (openApp device provName appName id) := by
  refine cString.after fun cApp => called (strict _ rfl) fun answer => ?_
  obtain ⟨ret, raw⟩ := answer
  exact decided rfl (disconnected.behind fun _ =>
    noteDeviceUnavailable.behind fun _ => explains_err)

theorem enumerated {query : Option ULONG → Handler Filled} {release : Handler Unit}
    {sizeFailed listFailed : String}
    (queries : ∀ buffer,
      Honest tolerates (-5) (fun filled after => after = failureOf filled.ret) none (query buffer))
    (releases : ∀ s, Honest tolerates (-5) (fun _ after => after = s) s release) :
    Branch tolerates (-5) (enumerated query release sizeFailed listFailed id) := by
  refine (queries none).bind fun sized _ same => ?_
  cases same
  -- The first branch is that of a failure as well as of an empty list.
  refine ite (fun _ => ?_) fun going => ?_
  · exact (releases _).behind fun _ => decided (explains_ok _ _) explains_err
  · have succeeded : sized.ret = SAR_OK := by_contra fun failed => going (.inl failed)
    rw [failureOf, if_pos succeeded]
    refine (queries _).bind fun filled _ same => ?_
    cases same
    exact (releases _).behind fun _ => decided (explains_ok _ _) explains_err

theorem inConnected {op : VendorOp} {k : op.Reply → Handler B} (counts : Counts tolerates op.symbol)
    (goes : ∀ reply, Honest tolerates (-5) ret (failureOf (op.code reply)) (k reply)) :
    Honest tolerates (-5) ret none (withConnected device (Handler.vendor op) >>= k) := by
  have calls : Honest tolerates (-5) (fun reply after => after = failureOf (op.code reply)) none
      (withConnected device (Handler.vendor op)) :=
    called counts fun reply => disconnected.behind fun _ => rfl
  refine calls.bind fun reply _ same => ?_
  cases same
  exact goes reply

theorem decodedOr {encoded label : String} :
    Honest tolerates (-5) Fine none (decodedOr ctx encoded label id) :=
  mapError fun _ => own_badRequest

theorem requiredNames : Honest tolerates (-5) Fine none (requiredNames params) :=
  (requiredStr _ _).after fun _ => (requiredStr _ _).after fun _ => rfl

theorem enumApplication (strict : Strict tolerates) :
    Branch tolerates (-5) (EnumApplication.handle ctx params lang) :=
  (requiredStr _ _).after fun _ =>
    (apiOr fun _ => own_loadFailed _).after fun _ => (connected strict).after fun _ =>
    enumerated (fun _ => vendor (strict _ rfl)) fun _ => disconnected

theorem enumContainer (strict : Strict tolerates) :
    Branch tolerates (-5) (EnumContainer.handle ctx params lang) := by
  refine (requiredStr _ _).after fun _ => (requiredStr _ _).after fun _ => (apiOr fun _ =>
      own_loadFailed _).after fun _ => ?_
  refine (connected strict).after fun _ => (openApp strict).after fun _ => ?_
  exact enumerated (fun _ => vendor (strict _ rfl)) fun _ =>
    closeApplication.behind fun _ => disconnected

theorem keyPairRequest : Honest tolerates (-5) Fine none (KeyPairRequest.read ctx params lang) := by
  unfold KeyPairRequest.read
  refine (requiredStr _ _).after fun _ =>
    (requiredStr _ _).after fun _ => (requiredStr _ _).after fun _ => ?_
  refine (requiredStr _ _).after fun _ =>
    (requiredStr _ _).after fun _ => (expect _ own_badRequest).after fun _ => ?_
  exact (mapError fun _ => own_err (by decide)).after fun _ => rfl

theorem intoContainer (strict : Strict tolerates) {request : KeyPairRequest} :
    Branch tolerates (-5) (ImportKeyPair.intoContainer ctx request container id) := by
  have release (s : Option ULONG) : Honest tolerates (-5) (fun _ after => after = s) s (do
      SkfService.closeContainer container
      SkfService.closeApplication container.application
      SkfService.disConnectDev container.application.device) :=
    closeContainer.behind fun _ => closeApplication.behind fun _ => disconnected
  unfold ImportKeyPair.intoContainer
  refine ite (fun _ => ?_) fun _ => ?_
  · exact called (strict _ rfl) fun code =>
      (release _).behind fun _ => decided (explains_ok _ _) explains_err
  · cases decodeBase64 ctx.platform.base64Error request.wrapKey with
    | error reason => exact (release _).behind fun _ => own_err (by decide)
    | ok wrapKey =>
      exact called (strict _ rfl) fun code =>
        (release _).behind fun _ => decided (explains_ok _ _) explains_err

theorem importKeyPair (strict : Strict tolerates) :
    Branch tolerates (-5) (ImportKeyPair.handle ctx params lang) := by
  refine keyPairRequest.after fun request => (apiOr fun _ => own_loadFailed _).after fun _ => ?_
  refine (connected strict).after fun _ => (openApp strict).after fun application =>
    (session _).after fun authorized => ?_
  obtain ⟨now, outcome⟩ := authorized
  cases outcome with
  | error reason =>
    -- The source closes both once more after the rejection.
    exact closeApplication.behind fun _ =>
      disconnected.behind fun _ => closeApplication.behind fun _ =>
      disconnected.behind fun _ => own_err (by decide)
  | ok granted =>
    refine cString.after fun _ => called (strict _ rfl) fun answer => ?_
    obtain ⟨ret, raw⟩ := answer
    exact decided (intoContainer strict) (closeApplication.behind fun _ =>
      disconnected.behind fun _ => explains_err)

theorem digest (strict : Strict tolerates) :
    Branch tolerates (-5) (Digest.handle ctx params lang) := by
  unfold Digest.handle
  refine (requiredStr _ _).after fun _ =>
    (requiredStr _ _).after fun _ => (requiredStr _ _).after fun _ => ?_
  refine (expect _ own_badRequest).after fun _ => decodedOr.after fun _ => (apiOr fun _ =>
      own_loadFailed _).after fun _ => ?_
  refine (connected strict).after fun _ => called (strict _ rfl) fun begun => ?_
  obtain ⟨started, raw⟩ := begun
  refine decided (called (strict _ rfl) fun filled => disconnected.behind fun _ => ?_) ?_
  · exact decided (explains_ok _ _) explains_err
  · exact disconnected.behind fun _ => explains_err

theorem getDevInfo (strict : Strict tolerates) :
    Branch tolerates (-5) (GetDevInfo.handle ctx params lang) := by
  unfold GetDevInfo.handle
  refine (requiredStr _ _).after fun _ => (apiOr fun _ => own_loadFailed _).after fun _ =>
    (connected strict).after fun _ => ?_
  refine inConnected (strict _ rfl) fun answer => ?_
  obtain ⟨ret, info⟩ := answer
  exact decided (explains_ok _ _) explains_err

theorem setLabel (strict : Strict tolerates) :
    Branch tolerates (-5) (SetLabel.handle ctx params lang) := by
  refine (requiredStr _ _).after fun _ => (requiredStr _ _).after fun _ => (apiOr fun _ =>
      own_loadFailed _).after fun _ => ?_
  refine (connected strict).after fun _ => cString.after fun _ => ?_
  exact inConnected (strict _ rfl) fun code => explains_codeReply _ _ _

theorem eccVerify (strict : Strict tolerates) :
    Branch tolerates (-5) (ECCVerify.handle ctx params lang) := by
  unfold ECCVerify.handle
  refine (requiredStr _ _).after fun _ =>
    (requiredStr _ _).after fun _ => (requiredStr _ _).after fun _ => ?_
  refine (requiredStr _ _).after fun _ =>
    decodedOr.after fun _ => decodedOr.after fun _ => decodedOr.after fun _ => ?_
  refine ite (fun _ => own_badRequest) fun _ => ite (fun _ => own_badRequest) fun _ => ?_
  refine (apiOr fun _ => own_loadFailed _).after fun _ => (connected strict).after fun _ => ?_
  exact inConnected (strict _ rfl) fun code => explains_codeReply _ _ _

theorem rsaVerify (strict : Strict tolerates) :
    Branch tolerates (-5) (RSAVerify.handle ctx params lang) := by
  unfold RSAVerify.handle
  refine requiredNames.after fun _ =>
    (requiredStr _ _).after fun _ => (requiredStr _ _).after fun _ => ?_
  refine (requiredStr _ _).after fun _ =>
    decodedOr.after fun _ => ite (fun _ => own_badRequest) fun _ => ?_
  refine decodedOr.after fun _ =>
    decodedOr.after fun _ => loadedApi.after fun _ => (connected strict).after fun _ => ?_
  exact inConnected (strict _ rfl) fun code => explains_codeReply _ _ _

theorem lockDev (strict : Strict tolerates) :
    Branch tolerates (-5) (LockDev.handle ctx params lang) :=
  requiredNames.after fun _ => loadedApi.after fun _ => (connected strict).after fun _ =>
    inConnected (strict _ rfl) fun _ => explains_codeReply _ _ _

theorem unlockDev (strict : Strict tolerates) :
    Branch tolerates (-5) (UnlockDev.handle ctx params lang) :=
  requiredNames.after fun _ => loadedApi.after fun _ => (connected strict).after fun _ =>
    inConnected (strict _ rfl) fun _ => explains_codeReply _ _ _

theorem transmit (strict : Strict tolerates) :
    Branch tolerates (-5) (Transmit.handle ctx params lang) := by
  refine requiredNames.after fun _ => (requiredStr _ _).after fun _ => decodedOr.after fun _ =>
    loadedApi.after fun _ => ?_
  refine (connected strict).after fun _ => inConnected (strict _ rfl) fun filled => ?_
  exact decided (explains_ok _ _) explains_err

theorem waitForDevEvent (strict : Strict tolerates) : Branch tolerates (-5)
    (WaitForDevEvent.handle ctx params lang) := by
  refine ite (fun _ => ?_) fun _ => ?_
  · exact asked (strict _ rfl) (fun _ source => source) (fun _ => rfl)
      (fun waited => explains_ok _ _)
      fun e source => explains_nativeOr source _ _ _
  · refine (apiOr fun _ => own_err (by decide)).after fun _ =>
      called (strict _ rfl) fun answer => ?_
    obtain ⟨filled, event⟩ := answer
    exact decided (explains_ok _ _) explains_err

theorem enumDevice (strict : Strict tolerates) :
    Branch tolerates (-5) (EnumDevice.handle ctx params lang) := by
  refine ite (fun _ => ?_) fun _ => ?_
  · exact asked (strict _ rfl) (fun _ source => source) (fun _ => rfl)
      (fun names => explains_ok _ _)
      fun e source => explains_nativeOr source _ _ _
  · refine (apiOr fun _ => own_err (by decide)).after fun _ => ?_
    exact enumerated (fun _ => vendor (strict _ rfl)) fun _ => rfl

theorem getDevState (strict : Strict tolerates) :
    Branch tolerates (-5) (GetDevState.handle ctx params lang) := by
  refine (requiredStr _ _).after fun _ => ite (fun _ => ?_) fun _ => ?_
  · exact asked (strict _ rfl) (fun _ source => source) (fun _ => rfl)
      (fun state => explains_ok _ _)
      fun e source => explains_nativeOr source _ _ _
  · refine (apiOr fun _ => own_loadFailed _).after fun _ => cString.after fun _ =>
      called (strict _ rfl) fun answer => ?_
    obtain ⟨ret, state⟩ := answer
    exact decided (explains_ok _ _) explains_err

theorem digestInit (strict : Strict tolerates) :
    Branch tolerates (-5) (DigestInit.handle ctx params lang) := by
  refine requiredNames.after fun names => ite (fun _ => digestInit_onDefault strict) fun _ => ?_
  refine (apiOr fun _ => own_err (by decide)).after fun _ => cString.after fun _ =>
    called (strict _ rfl) fun answer => ?_
  obtain ⟨ret, raw⟩ := answer
  exact decided (disconnected.behind fun _ => own_err (by decide)) explains_err

end symbols

section search

variable {ctx : SkfContext} {params : Params} {A B : Type} {provName devName appName : String}
  {device : Device} {application : Application} {container : Container}

theorem skipped (op : VendorOp) : Honest (fun _ => true) (-5) Fine none (Handler.vendor op) := by
  refine ⟨.inl rfl, fun _ _ => ?_⟩
  have excused : (op.symbol.releases || true) = true := Bool.or_true _
  exact if_pos excused

theorem collect {step : A → Handler (List B)} (items : List A)
    (each : ∀ item, Honest (fun _ => true) (-5) Fine none (step item)) :
    Honest (fun _ => true) (-5) Fine none (Program.collect step items) := by
  induction items with
  | nil => exact rfl
  | cons item rest ih => exact (each item).after fun _ => ih.after fun _ => rfl

theorem listed {query : Option ULONG → Handler Filled}
    (queries : ∀ buffer, Honest (fun _ => true) (-5) Fine none (query buffer)) :
    Honest (fun _ => true) (-5) Fine none (FindCertificates.listed query) := by
  refine (queries _).after fun sized =>
    ite (fun _ => (queries _).after fun filled => ?_) fun _ => rfl
  exact ite (fun _ => rfl) fun _ => rfl

theorem processCert {keyStem : String} {isSign : Bool} :
    Honest (fun _ =>
      true) (-5) Fine none (FindCertificates.processCert ctx keyStem container isSign) := by
  refine (skipped _).after fun sized =>
    ite (fun _ => (skipped _).after fun filled => ite (fun _ => ?_) fun _ => rfl)
    fun _ => rfl
  dsimp only
  cases ctx.platform.parseCertificate (filled.memory.take sized.size.toNat) <;> exact rfl

theorem inContainer {want : FindCertificates.Wanted} {keyStem contName : String} :
    Honest (fun _ => true) (-5) Fine none
      (FindCertificates.inContainer ctx want keyStem application contName) := by
  refine cString.after fun _ => (skipped _).after fun answer => ite (fun _ => ?_) fun _ => rfl
  refine ite (fun _ => processCert.after fun sign => ?_) fun _ => ?_
  -- The second certificate is asked for or not, whatever became of the first.
  all_goals refine ite (fun _ => processCert.after fun enc => ?_) fun _ => ?_
  all_goals exact closeContainer.behind fun _ => rfl

theorem inApplication {want : FindCertificates.Wanted} {keyStem : String} :
    Honest (fun _ =>
      true) (-5) Fine none (FindCertificates.inApplication ctx want keyStem device appName) := by
  refine cString.after fun _ => (skipped _).after fun answer => ite (fun _ => ?_) fun _ => rfl
  refine after (listed fun _ => ?_) fun names => ?_
  · exact skipped _
  · exact (collect names fun _ => inContainer).after fun _ => closeApplication.behind fun _ => rfl

theorem inDevice {want : FindCertificates.Wanted} {api : Library} :
    Honest (fun _ =>
      true) (-5) Fine none (FindCertificates.inDevice ctx want api provName devName) := by
  refine cString.after fun _ => (skipped _).after fun answer => ite (fun _ => ?_) fun _ => rfl
  refine after (listed fun _ => ?_) fun names => ?_
  · exact skipped _
  · exact (collect names fun _ => inApplication).after fun _ => disconnected.behind fun _ => rfl

theorem inProvider {want : FindCertificates.Wanted} :
    Honest (fun _ => true) (-5) Fine none (FindCertificates.inProvider ctx want provName) := by
  have looked : Honest (fun _ => true) (-5) Fine none (ctx.getApi provName) :=
    unwatched.meets_getApi (fun _ => rfl) rfl
  refine looked.after fun found => ?_
  cases found with
  | error reason => exact rfl
  | ok api =>
    refine after (listed fun _ => ?_) fun names => ?_
    · exact skipped _
    · exact collect names fun _ => inDevice

theorem findCertificates : Branch (fun _ => true) (-5) (FindCertificates.handle ctx params) :=
  (collect _ fun _ => inProvider).after fun _ => explains_ok _ _

end search
end Honest

namespace Method

/-- The functions whose failure a method does not mind: the certificate search skips what fails, a
container whose type cannot be read is signed with as RSA, and a request for a certificate goes on
without random bytes and with a named container that exists. -/
def tolerates (params : Params) : Method → Symbol → Bool
  | FindCertificates => fun _ => true
  | SignData => fun symbol => symbol == .GetContainerType
  | CreatePKCS10 =>
    fun symbol =>
      symbol == .GenRandom || symbol == .CreateContainer && params.optionalStr 6 "" != ""
  | _ => fun _ => false

theorem strict_of {tolerates : Symbol → Bool}
    (minds : ∀ symbol : Symbol, symbol.minded = true → tolerates symbol = false) :
    Strict tolerates := by
  intro symbol minded failure
  have keeps : symbol.releases = false := by cases symbol <;> first | rfl | cases minded
  rw [counted, keeps, minds symbol minded]
  exact if_neg Bool.false_ne_true

theorem strict_signData (params : Params) : Strict (tolerates params SignData) :=
  strict_of fun symbol minded => by cases symbol <;> first | rfl | cases minded

theorem strict_createPKCS10 (params : Params) : Strict (tolerates params CreatePKCS10) :=
  strict_of fun symbol minded => by cases symbol <;> first | rfl | cases minded

theorem counts_createContainer {params : Params} (unnamed : params.optionalStr 6 "" = "") :
    Counts (tolerates params CreatePKCS10) .CreateContainer := by
  intro failure
  have minds : tolerates params CreatePKCS10 .CreateContainer = false := by
    rw [tolerates, unnamed]
    rfl
  rw [counted, minds]
  exact if_neg Bool.false_ne_true

theorem tolerates_createContainer {params : Params} (named : params.optionalStr 6 "" ≠ "") :
    tolerates params CreatePKCS10 .CreateContainer = true :=
  bne_iff_ne.mpr named

end Method

theorem own_setLanguage (ctx : SkfContext) (params : Params) (lang : Language) :
    (SetLanguage.respond ctx params lang).1.Own := by
  unfold SetLanguage.respond
  split
  · exact .inl ⟨rfl, rfl⟩
  · exact own_badRequest

theorem own_enumProvider (ctx : SkfContext) (params : Params) (lang : Language) :
    (EnumProvider.respond ctx params lang).Own := by
  unfold EnumProvider.respond
  dsimp only
  split
  · split
    · exact .inl ⟨rfl, rfl⟩
    · exact own_err (by decide)
  · exact .inl ⟨rfl, rfl⟩

theorem honest_branch (ctx : SkfContext) (params : Params) (lang : Language) (method : Method) :
    Honest.Branch (method.tolerates params) method.outageCode (method.branch ctx params lang) := by
  -- Three methods tolerate something; for the others nothing is excused.
  cases method with
  | GetProtocolVersion => exact explains_ok _ _
  | SetLanguage => exact own_setLanguage ctx params lang
  | EnumProvider => exact own_enumProvider ctx params lang
  | WaitForDevEvent => exact Honest.waitForDevEvent Honest.strict_false
  | EnumDevice => exact Honest.enumDevice Honest.strict_false
  | ConnectDev => exact Honest.connectDev Honest.strict_false
  | EnumApplication => exact Honest.enumApplication Honest.strict_false
  | EnumContainer => exact Honest.enumContainer Honest.strict_false
  | DeleteContainer => exact Honest.deleteContainer Honest.strict_false
  | IssueCertificate => exact Honest.issueCertificate
  | ImportCertificate => exact Honest.importCertificate Honest.strict_false
  | SignData => exact Honest.signData (Method.strict_signData params) rfl
  | ImportKeyPair => exact Honest.importKeyPair Honest.strict_false
  | DisConnectDev => exact Honest.disConnectDev
  | FindCertificates => exact Honest.findCertificates
  | GenerateRandom => exact Honest.generateRandom
  | Digest => exact Honest.digest Honest.strict_false
  | CheckPIN => exact Honest.checkPIN Honest.strict_false
  | CreatePKCS10 =>
    exact @Honest.createPKCS10 ctx params lang _
      (Method.strict_createPKCS10 params) rfl Method.tolerates_createContainer
      Method.counts_createContainer
  | EncryptData => exact Honest.encryptData Honest.strict_false
  | DecryptData => exact Honest.decryptData Honest.strict_false
  | GetDevInfo => exact Honest.getDevInfo Honest.strict_false
  | GetDevState => exact Honest.getDevState Honest.strict_false
  | SetLabel => exact Honest.setLabel Honest.strict_false
  | ECCVerify => exact Honest.eccVerify Honest.strict_false
  | CreateContainer => exact Honest.createContainer
  | GetContainerType => exact Honest.getContainerType
  | RSASignData => exact Honest.rsaSignData Honest.strict_false
  | LockDev => exact Honest.lockDev Honest.strict_false
  | UnlockDev => exact Honest.unlockDev Honest.strict_false
  | Transmit => exact Honest.transmit Honest.strict_false
  | CancelWaitForDevEvent => exact Honest.cancelWaitForDevEvent Honest.strict_false
  | GenECCKeyPair => exact Honest.genECCKeyPair Honest.strict_false
  | GenRSAKeyPair => exact Honest.genRSAKeyPair Honest.strict_false
  | RSAVerify => exact Honest.rsaVerify Honest.strict_false
  | DigestInit => exact Honest.digestInit Honest.strict_false
  | DigestUpdate => exact Honest.digestUpdate Honest.strict_false
  | DigestFinal => exact Honest.digestFinal Honest.strict_false
  | CloseHash => exact Honest.closeHash

end SkfService
