import SkfService.Dispatch.Changes
import SkfService.Dispatch.HandleRequest
import SkfService.Dispatch.HostOnly
import SkfService.Interaction.Asks
import SkfService.Provider.Buffers
import SkfService.Streams.Hashes

/-! The branches that ask for nothing but routine operations: no call carries a structure of a
client's, and none works on a hash object. -/

set_option autoImplicit false

namespace SkfService

open Text Interaction Program Handler

def Op.routine (op : Op) : Bool := !op.structured && op.hashes.isNone

/-- A sort of operations that has all the routine ones. -/
class Admits (Q : Op → Prop) : Prop where
  routine : ∀ op : Op, op.routine = true → Q op

instance admitsUnstructured : Admits fun op => op.structured = false := by
  constructor
  intro op routine
  simp only [Op.routine, Bool.and_eq_true, Bool.not_eq_true'] at routine
  exact routine.1

instance admitsUnhashed : Admits fun op => op.hashes = none := by
  constructor
  intro op routine
  simp only [Op.routine, Bool.and_eq_true, Option.isNone_iff_eq_none] at routine
  exact routine.2

class AdmitsReads (Q : Op → Prop) : Prop where
  reads : ∀ op : Op, op.routine = true → op.change = none → Q op

instance reads_of_admits {Q : Op → Prop} [Admits Q] : AdmitsReads Q :=
  ⟨fun op routine _ => Admits.routine op routine⟩

abbrev Confined (Q : Op → Prop) {A : Type} (p : Handler A) : Prop := p.Asks Q

namespace Confined

variable {Q : Op → Prop} {A B : Type} {ctx : SkfContext} {params : Params} {lang : Language}
  {id : Option Json}

theorem bind {p : Handler B} {k : B → Handler A} (first : Confined Q p)
    (later : ∀ value, Confined Q (k value)) :
    Confined Q (p >>= k) := asks_bind first later

theorem orReply (x : Except RpcResponse A) : Confined Q (Handler.orReply x) := by
  cases x <;> exact trivial

theorem expect (x : Option A) (rejection : RpcResponse) :
    Confined Q (Handler.expect x rejection) := by
  cases x <;> exact trivial

theorem unwrap (x : Option A) (why : Panic) : Confined Q (Handler.unwrap x why) := by
  cases x <;> exact trivial

theorem settled (x : Attempt A) : Confined Q (Handler.settled x) := by
  cases x <;> exact trivial

theorem ite {c : Prop} [Decidable c] {p q : Handler A} (yes : Confined Q p) (no : Confined Q q) :
    Confined Q (if c then p else q) := asks_ite yes no

theorem asked {op : VendorOp} (holds : Q (.vendor op)) : Confined Q (Handler.vendor op) :=
  asks_ask holds

theorem closing {body : Handler A} {resource : Resource} (inside : Confined Q body)
    (closes : Q (.provider (.close resource))) :
    Confined Q (body.ensuring (Handler.provider (.close resource))) :=
  asks_ensuring inside (asks_ask closes)

theorem provider [Admits Q] {op : ProviderOp} (routine : (Op.provider op).routine = true) :
    Confined Q (Handler.provider op) := asks_ask (Admits.routine _ routine)

theorem vendor [Admits Q] {op : VendorOp} (routine : (Op.vendor op).routine = true) :
    Confined Q (Handler.vendor op) := asks_ask (Admits.routine _ routine)

variable [AdmitsReads Q]

theorem session (op : SessionOp) : Confined Q (Handler.session op) :=
  asks_ask (AdmitsReads.reads (.session op) rfl rfl)

theorem host (op : HostOp) : Confined Q (Handler.host op) :=
  asks_ask (AdmitsReads.reads (.host op) rfl rfl)

theorem readProvider {op : ProviderOp} (routine : (Op.provider op).routine = true)
    (quiet : op.change = none) :
    Confined Q (Handler.provider op) := asks_ask (AdmitsReads.reads _ routine quiet)

theorem readVendor {op : VendorOp} (routine : (Op.vendor op).routine = true)
    (quiet : op.change = none) :
    Confined Q (Handler.vendor op) := asks_ask (AdmitsReads.reads _ routine quiet)

end Confined

section rules

variable {Q : Op → Prop} [AdmitsReads Q] {A B : Type} {ctx : SkfContext} {params : Params}
  {lang : Language} {id : Option Json}

theorem confined_getApi (name : String) : Confined Q (ctx.getApi name) := by
  refine (Confined.host _).bind fun cached => ?_
  cases cached with
  | true => exact trivial
  | false =>
    dsimp only
    split
    · trivial
    · refine (Confined.host _).bind fun loaded => ?_
      cases loaded with
      | ok done => exact (Confined.host _).bind fun _ => trivial
      | error reason => exact trivial

theorem confined_apiOr (name : String) (failed : String → RpcResponse) :
    Confined Q (apiOr ctx name failed) := by
  refine (confined_getApi name).bind fun found => ?_
  cases found <;> exact trivial

theorem confined_loadedApi (name : String) : Confined Q (loadedApi ctx name lang id) := by
  refine (Confined.orReply _).bind fun path => (Confined.host _).bind fun loaded => ?_
  cases loaded <;> exact trivial

theorem confined_lost (provName devName : String) (response : RpcResponse) :
    Confined Q (noteDeviceUnavailable provName devName >>= fun _ => (reply response : Handler A)) :=
  Confined.bind ((Confined.session _).bind fun _ => trivial) fun _ => trivial

omit [AdmitsReads Q] in
theorem confined_cString (text : String) : Confined Q (cString text) := Confined.unwrap _ _

theorem confined_disConnectDev (device : Device) : Confined Q (disConnectDev device) :=
  (Confined.readVendor rfl rfl).bind fun _ => trivial

theorem confined_closeApplication (application : Application) :
    Confined Q (closeApplication application) :=
  (Confined.readVendor rfl rfl).bind fun _ => trivial

theorem confined_closeContainer (container : Container) : Confined Q (closeContainer container) :=
  (Confined.readVendor rfl rfl).bind fun _ => trivial

theorem confined_connectDev (api : Library) (provName devName : String) :
    Confined Q (connectDev api provName devName id) :=
  (confined_cString _).bind fun _ => (Confined.readVendor rfl rfl).bind fun _ =>
    Confined.ite trivial (confined_lost _ _ _)

theorem confined_openApp (device : Device) (provName appName : String) :
    Confined Q (openApp device provName appName id) :=
  (confined_cString _).bind fun _ => (Confined.readVendor rfl rfl).bind fun _ =>
    Confined.ite trivial ((confined_disConnectDev _).bind fun _ => confined_lost _ _ _)

theorem confined_withConnected {op : VendorOp} (device : Device) (asked : Q (.vendor op)) :
    Confined Q (withConnected device (vendor op)) :=
  (Confined.asked asked).bind fun _ => (confined_disConnectDev _).bind fun _ => trivial

omit [AdmitsReads Q] in
theorem confined_enumerated {query : Option ULONG → Handler Filled} {release : Handler Unit}
    {sizeFailed listFailed : String} (queried : ∀ buffer, Confined Q (query buffer))
    (released : Confined Q release) :
    Confined Q (enumerated query release sizeFailed listFailed id) := by
  refine (queried _).bind fun sized => Confined.ite ?_ ?_
  · exact released.bind fun _ => Confined.ite trivial trivial
  · exact (queried _).bind fun filled => released.bind fun _ => Confined.ite trivial trivial

omit [AdmitsReads Q] in
theorem confined_requiredNames : Confined Q (requiredNames params) :=
  (Confined.orReply _).bind fun _ => (Confined.orReply _).bind fun _ => trivial

end rules

section branches

variable {Q : Op → Prop} [AdmitsReads Q] {ctx : SkfContext} {params : Params} {lang : Language}

theorem confined_connect : Confined Q (ConnectDev.handle ctx params lang) := by
  refine (Confined.expect _ _).bind fun name => (Confined.readProvider rfl rfl).bind fun opened =>
    (Confined.settled _).bind fun result => ?_
  cases result with
  | ok raw => exact (Confined.session _).bind fun _ => trivial
  | error e => exact trivial

theorem confined_disConnect : Confined Q (DisConnectDev.handle params) := by
  refine (Confined.expect _ _).bind fun handle => (Confined.session _).bind fun removed => ?_
  cases removed with
  | ok guard => exact (Confined.readProvider rfl rfl).bind fun _ => trivial
  | error reason => exact trivial

theorem confined_generateRandom : Confined Q (GenerateRandom.handle params lang) := by
  refine (Confined.expect _ _).bind fun handle => (Confined.expect _ _).bind fun len =>
    (Confined.session _).bind fun found => ?_
  cases found with
  | error reason => exact trivial
  | ok guard =>
    refine (Confined.readProvider rfl rfl).bind fun filled =>
      (Confined.settled _).bind fun result => ?_
    cases result <;> exact trivial

theorem confined_cancelWait : Confined Q (CancelWaitForDevEvent.handle ctx params lang) := by
  refine (Confined.readProvider rfl rfl).bind fun cancelled =>
    (Confined.settled _).bind fun result => ?_
  cases result with
  | ok done => exact trivial
  | error e => cases e <;> exact trivial

theorem confined_wait : Confined Q (WaitForDevEvent.handle ctx params lang) := by
  refine Confined.ite ((Confined.readProvider rfl rfl).bind fun waited =>
    (Confined.settled _).bind fun result => ?_) ?_
  · cases result <;> exact trivial
  · exact (confined_apiOr _ _).bind fun api => (Confined.readVendor rfl rfl).bind fun waited =>
      Confined.ite trivial trivial

theorem confined_enumDevice : Confined Q (EnumDevice.handle ctx params lang) := by
  refine Confined.ite ((Confined.readProvider rfl rfl).bind fun listed =>
    (Confined.settled _).bind fun result => ?_) ?_
  · cases result <;> exact trivial
  · exact (confined_apiOr _ _).bind fun api =>
      confined_enumerated (fun _ => Confined.readVendor rfl rfl) trivial

theorem confined_enumApplication : Confined Q (EnumApplication.handle ctx params lang) :=
  (Confined.orReply _).bind fun _ =>
    (confined_apiOr _ _).bind fun _ => (confined_connectDev _ _ _).bind fun device =>
    confined_enumerated (fun _ => Confined.readVendor rfl rfl) (confined_disConnectDev device)

theorem confined_enumContainer : Confined Q (EnumContainer.handle ctx params lang) :=
  (Confined.orReply _).bind fun _ =>
    (Confined.orReply _).bind fun _ => (confined_apiOr _ _).bind fun _ =>
    (confined_connectDev _ _ _).bind fun device => (confined_openApp _ _ _).bind fun application =>
      confined_enumerated (fun _ => Confined.readVendor rfl rfl)
        ((confined_closeApplication application).bind fun _ => confined_disConnectDev device)

theorem confined_getDevInfo : Confined Q (GetDevInfo.handle ctx params lang) :=
  (Confined.orReply _).bind fun _ =>
    (confined_apiOr _ _).bind fun _ => (confined_connectDev _ _ _).bind fun device =>
    (confined_withConnected device (AdmitsReads.reads _ rfl rfl)).bind fun _ =>
      Confined.ite trivial trivial

theorem confined_getDevState : Confined Q (GetDevState.handle ctx params lang) := by
  refine (Confined.orReply _).bind fun devName => Confined.ite ?_ ?_
  · refine (Confined.readProvider rfl rfl).bind fun found =>
      (Confined.settled _).bind fun result => ?_
    cases result <;> exact trivial
  · exact (confined_apiOr _ _).bind fun api => (confined_cString _).bind fun _ =>
      (Confined.readVendor rfl rfl).bind fun _ => Confined.ite trivial trivial

theorem confined_setLabel (labels : ∀ device label, Q (.vendor (.setLabel device label))) :
    Confined Q (SetLabel.handle ctx params lang) :=
  (Confined.orReply _).bind fun _ =>
    (Confined.orReply _).bind fun _ => (confined_apiOr _ _).bind fun _ =>
    (confined_connectDev _ _ _).bind fun device => (confined_cString _).bind fun _ =>
      (confined_withConnected device (labels _ _)).bind fun _ => trivial

theorem confined_lockDev (locks : ∀ device timeout, Q (.vendor (.lockDev device timeout))) :
    Confined Q (LockDev.handle ctx params lang) :=
  confined_requiredNames.bind fun _ => (confined_loadedApi _).bind fun _ =>
    (confined_connectDev _ _ _).bind fun device =>
      (confined_withConnected device (locks _ _)).bind fun _ => trivial

theorem confined_unlockDev (unlocks : ∀ device, Q (.vendor (.unlockDev device))) :
    Confined Q (UnlockDev.handle ctx params lang) :=
  confined_requiredNames.bind fun _ => (confined_loadedApi _).bind fun _ =>
    (confined_connectDev _ _ _).bind fun device =>
      (confined_withConnected device (unlocks _)).bind fun _ => trivial

theorem confined_findCertificates : Confined Q (FindCertificates.handle ctx params) := by
  have listed (query : Option ULONG → Handler Filled)
      (queried : ∀ buffer, Confined Q (query buffer)) :
      Confined Q (FindCertificates.listed query) :=
    (queried _).bind fun _ =>
      Confined.ite ((queried _).bind fun _ => Confined.ite trivial trivial) trivial
  have processed (keyStem : String) (container : Container) (isSign : Bool) :
      Confined Q (FindCertificates.processCert ctx keyStem container isSign) := by
    refine (Confined.readVendor rfl rfl).bind fun _ =>
      Confined.ite ((Confined.readVendor rfl rfl).bind fun filled =>
        Confined.ite ?_ trivial) trivial
    dsimp only
    cases ctx.platform.parseCertificate (filled.memory.take _) <;> exact trivial
  -- One level of the tree after the other: providers, devices, applications, containers.
  refine Confined.bind (asks_collect (fun provName => ?_) _) fun _ => trivial
  refine (confined_getApi provName).bind fun found => ?_
  cases found with
  | error reason => exact trivial
  | ok api =>
    refine (listed _ fun _ => Confined.readVendor rfl rfl).bind fun _ =>
      asks_collect (fun devName => ?_) _
    refine (confined_cString _).bind fun _ =>
      (Confined.readVendor rfl rfl).bind fun _ => Confined.ite ?_ trivial
    refine (listed _ fun _ => Confined.readVendor rfl rfl).bind fun _ =>
      Confined.bind (asks_collect (fun appName => ?_) _) fun _ =>
        (confined_disConnectDev _).bind fun _ => trivial
    refine (confined_cString _).bind fun _ =>
      (Confined.readVendor rfl rfl).bind fun _ => Confined.ite ?_ trivial
    refine (listed _ fun _ => Confined.readVendor rfl rfl).bind fun _ =>
      Confined.bind (asks_collect (fun contName => ?_) _) fun _ =>
        (confined_closeApplication _).bind fun _ => trivial
    refine (confined_cString _).bind fun _ =>
      (Confined.readVendor rfl rfl).bind fun _ => Confined.ite ?_ trivial
    refine Confined.ite ((processed _ _ _).bind fun sign => ?_) ?_
    · exact Confined.ite ((processed _ _ _).bind fun _ =>
        (confined_closeContainer _).bind fun _ => trivial)
        ((confined_closeContainer _).bind fun _ => trivial)
    · exact Confined.ite ((processed _ _ _).bind fun _ =>
        (confined_closeContainer _).bind fun _ => trivial)
        ((confined_closeContainer _).bind fun _ => trivial)

theorem confined_issueCertificate : Confined Q (IssueCertificate.handle ctx params) := by
  refine asks_of_meets (@IssueCertificate.meets_handle ctx params) (fun _ _ _ => trivial)
    fun _ op host => ?_
  obtain ⟨host, rfl⟩ := host
  exact AdmitsReads.reads (.host host) rfl rfl

theorem confined_transmit
    (sends : ∀ device command capacity, Q (.vendor (.transmit device command capacity))) :
    Confined Q (Transmit.handle ctx params lang) := by
  refine confined_requiredNames.bind fun _ =>
    (Confined.orReply _).bind fun _ => (Confined.orReply _).bind fun _ => ?_
  refine (confined_loadedApi _).bind fun _ => (confined_connectDev _ _ _).bind fun device => ?_
  refine (confined_withConnected device (sends _ _ _)).bind fun _ => ?_
  exact Confined.ite trivial trivial

theorem confined_eccVerify
    (verifies : ∀ device key data signature, Q (.vendor (.eccVerify device key data signature))) :
    Confined Q (ECCVerify.handle ctx params lang) := by
  refine (Confined.orReply _).bind fun _ =>
    (Confined.orReply _).bind fun _ => (Confined.orReply _).bind fun _ =>
    (Confined.orReply _).bind fun _ => ?_
  refine (Confined.orReply _).bind fun _ =>
    (Confined.orReply _).bind fun _ => (Confined.orReply _).bind fun _ => ?_
  refine Confined.ite trivial (Confined.ite trivial ?_)
  refine (confined_apiOr _ _).bind fun _ => (confined_connectDev _ _ _).bind fun device => ?_
  exact (confined_withConnected device (verifies _ _ _ _)).bind fun _ => trivial

theorem confined_rsaVerify
    (verifies : ∀ device key data signature, Q (.vendor (.rsaVerify device key data signature))) :
    Confined Q (RSAVerify.handle ctx params lang) := by
  refine confined_requiredNames.bind fun _ =>
    (Confined.orReply _).bind fun _ => (Confined.orReply _).bind fun _ =>
    (Confined.orReply _).bind fun _ => (Confined.orReply _).bind fun _ => Confined.ite trivial ?_
  refine (Confined.orReply _).bind fun _ => (Confined.orReply _).bind fun _ => ?_
  refine (confined_loadedApi _).bind fun _ => (confined_connectDev _ _ _).bind fun device => ?_
  exact (confined_withConnected device (verifies _ _ _ _)).bind fun _ => trivial

theorem confined_importKeyPair
    (importsEcc : ∀ container blob, Q (.vendor (.importEccKeyPair container blob)))
    (importsRsa : ∀ container alg wrapKey key,
      Q (.vendor (.importRsaKeyPair container alg wrapKey key))) :
    Confined Q (ImportKeyPair.handle ctx params lang) := by
  have reads : Confined Q (KeyPairRequest.read ctx params lang) := by
    refine (Confined.orReply _).bind fun _ =>
      (Confined.orReply _).bind fun _ => (Confined.orReply _).bind fun _ =>
      (Confined.orReply _).bind fun _ => (Confined.orReply _).bind fun _ => ?_
    exact (Confined.expect _ _).bind fun _ => (Confined.orReply _).bind fun _ => trivial
  have releases (application : Application) {k : Unit → Handler RpcResponse}
      (next : ∀ value, Confined Q (k value)) :
      Confined Q (closeApplication application >>= fun _ =>
        disConnectDev application.device >>= k) :=
    (confined_closeApplication _).bind fun _ => (confined_disConnectDev _).bind next
  have imports (request : KeyPairRequest) (container : Container) :
      Confined Q (ImportKeyPair.intoContainer ctx request container params.id) := by
    unfold ImportKeyPair.intoContainer
    have released : Confined Q (do
        closeContainer container
        closeApplication container.application
        disConnectDev container.application.device) :=
      (confined_closeContainer _).bind fun _ =>
        (confined_closeApplication _).bind fun _ => confined_disConnectDev _
    split
    · apply Confined.bind (Confined.asked (importsEcc _ _))
      intro ret
      exact released.bind fun _ => Confined.ite trivial trivial
    -- A wrapped key that does not decode is refused once everything is closed again.
    · split
      · exact released.bind fun _ => trivial
      · apply Confined.bind (Confined.asked (importsRsa _ _ _ _))
        intro ret
        exact released.bind fun _ => Confined.ite trivial trivial
  refine reads.bind fun request =>
    (confined_apiOr _ _).bind fun _ => (confined_connectDev _ _ _).bind fun device => ?_
  refine (confined_openApp _ _ _).bind fun application => (Confined.session _).bind fun answer => ?_
  obtain ⟨now, outcome⟩ := answer
  cases outcome with
  | error reason => exact releases application fun _ => releases application fun _ => trivial
  | ok done =>
    refine (confined_cString _).bind fun _ =>
      (Confined.readVendor rfl rfl).bind fun opened => Confined.ite ?_ ?_
    · exact imports request _
    · exact releases application fun _ => trivial

end branches

end SkfService
