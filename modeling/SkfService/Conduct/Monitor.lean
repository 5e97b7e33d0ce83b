import SkfService.Skf.Rules
import SkfService.Domain.Common

/-! What a request may do with the authority of its session.

The monitor watches one request. A request looks at a grant, records one or drops some only while
its device is connected; it records a grant only for an application whose PIN was verified; and one
that finds its device gone drops the device's grants and does nothing else. What a method may do
beyond that is its `Permit`. -/

set_option autoImplicit false

namespace SkfService

open Interaction

def Application.key (application : Application) : AuthKey :=
  ⟨application.device.library.providerAlias, application.device.name, application.name⟩

/-- What a vendor call works on: a device, and an application of it where the call is about one. -/
structure Subject where
  provider : String
  device : String
  application : Option String

def Subject.CoveredBy (subject : Subject) (key : AuthKey) : Prop :=
  subject.provider = key.provider ∧ subject.device = key.device ∧
    ∀ application, subject.application = some application → application = key.application

def Device.subject (device : Device) : Subject := ⟨device.library.providerAlias, device.name, none⟩

def Application.subject (application : Application) : Subject :=
  ⟨application.device.library.providerAlias, application.device.name, some application.name⟩

theorem Application.subject_covered (application : Application) :
    application.subject.CoveredBy application.key :=
  ⟨rfl, rfl, fun _ same => (Option.some.inj same).symm⟩

/-- The subject of a provider call that goes beyond opening, verifying a PIN and closing. -/
def ProviderOp.beyond : ProviderOp → Option Subject
  | random device _ | beginDigest device _ _ | beginDigestWithKey device _ _ _ =>
    some device.subject
  | openContainer application _ | createContainer application _ | deleteContainer application _ =>
    some application.subject
  | containerType container | importCertificate container _ _ | signEcc container _
  | signRsa container _ | genEccKeyPair container _ | genRsaKeyPair container _
  | setSymmKey container _ _ | encrypt container _ _ _ _ | decrypt container _ _ _ _ =>
    some container.application.subject
  | update digest _ | finalize digest => some digest.device.subject
  | enumDevices _ _ | deviceState _ _ | waitForEvent _ _ | cancelWaitForEvent _ | openDevice _ _
  | openApplication _ _ | verifyPin _ _ | close _ => none

def VendorOp.beyond : VendorOp → Option Subject
  | enumApplication device _ | digestInit device _ | getDevInfo device | setLabel device _
  | lockDev device _ | unlockDev device | transmit device _ _ | eccVerify device _ _ _
  | rsaVerify device _ _ _ => some device.subject
  | enumContainer application _ | openContainer application _ => some application.subject
  | exportCertificate container _ _ | importEccKeyPair container _
  | importRsaKeyPair container _ _ _ =>
    some container.application.subject
  | digest hash _ _ => some hash.device.subject
  | enumDev _ _ _ | connectDev _ _ | disConnectDev _ | getDevState _ _ | waitForDevEvent _ _
  | openApplication _ _ | closeApplication _ | closeContainer _ => none

def Op.beyond : Op → Option Subject
  | provider op => op.beyond
  | vendor op => op.beyond
  | _ => none

def Op.closing : Op → Bool
  | provider (.close _) => true
  | vendor (.disConnectDev _) | vendor (.closeApplication _) | vendor (.closeContainer _) => true
  | _ => false

/-- How a request stands with its device, and with the session that may refuse its use. -/
inductive Contact
  | untouched
  | connected
  | refused
  | lost (provider device : String)
  | revoked (provider device : String)

/-- What a request has seen so far: its device, and the applications whose PIN it verified and whose
grant it found live. -/
structure Conduct where
  contact : Contact
  verified : List AuthKey
  authorized : List AuthKey

namespace Conduct

def start : Conduct := ⟨.untouched, [], []⟩

def Free (s : Conduct) : Prop := s.contact = .untouched ∨ s.contact = .connected

/-- No failed connect is still waiting for its grants to be dropped, and nothing was refused. -/
def Settled (s : Conduct) : Prop :=
  (∀ provider device, s.contact ≠ .lost provider device) ∧ s.contact ≠ .refused

theorem Free.settled {s : Conduct} (free : s.Free) : s.Settled := by
  rcases free with untouched | connected
  · simp [Settled, untouched]
  · simp [Settled, connected]

end Conduct

/-- What a method may do beyond what every request may do. -/
structure Permit where
  handles : Bool
  grants : Bool
  unprotected : Bool
  forgetful : Bool

namespace Conduct

variable (permit : Permit)

def allowsSession (s : Conduct) : SessionOp → Prop
  | .authorize _ => permit.forgetful = false ∧ s.contact = .connected
  | .grant key => permit.grants = true ∧ s.contact = .connected ∧ key ∈ s.verified
  | .invalidateDevice provider device =>
    permit.forgetful = false ∧ (s.contact = .connected ∨ s.contact = .lost provider device)
  | _ => permit.handles = true ∧ s.Settled

def Covers (s : Conduct) (op : Op) : Prop :=
  ∀ subject, op.beyond = some subject → ∃ key ∈ s.authorized, subject.CoveredBy key

/-- Only a forgetful method connects more than once. -/
def MayConnect (s : Conduct) : Prop :=
  s.contact = .untouched ∨ (permit.forgetful = true ∧ s.contact = .connected)

/-- A request does nothing else before it has told the session about a connect that failed. After a
refusal it only closes what it has open. -/
def allows (s : Conduct) : Op → Prop
  | .session op => s.allowsSession permit op
  | .provider (.openDevice _ _) | .vendor (.connectDev _ _) => s.MayConnect permit
  | op => (s.Settled ∨ (s.contact = .refused ∧ op.closing = true)) ∧
      (permit.unprotected = false → s.Covers op)

/-- The state after a connect. A forgetful method goes on after one that failed. -/
def afterConnect (s : Conduct) (connected : Bool) (provider device : String) : Conduct :=
  if connected then { s with contact := .connected }
  else if permit.forgetful then s
  else { s with contact := .lost provider device }

def advance (s : Conduct) : (op : Op) → op.Reply → Conduct
  | .provider (.openDevice library name), some result =>
    s.afterConnect permit result.isOk library.providerAlias name
  | .vendor (.connectDev library name), (ret, _) =>
    s.afterConnect permit (ret = SAR_OK) library.providerAlias name.text
  | .provider (.verifyPin application _), some (.ok outcome) =>
    if outcome.success then { s with verified := application.key :: s.verified } else s
  | .session (.authorize key), (_, .ok ()) => { s with authorized := key :: s.authorized }
  | .session (.authorize _), (_, .error _) => { s with contact := .refused }
  | .session (.invalidateDevice _ _), _ =>
    match s.contact with
    | .lost provider device => { s with contact := .revoked provider device }
    | _ => s
  | _, _ => s

end Conduct

def conduct (permit : Permit) : Monitor Skf Conduct where
  allowed := Conduct.allows permit
  possible _ _ _ := True
  advance := Conduct.advance permit

/-- A request is answered under its own id, with nothing left to tell the session; one that was
refused is answered with code -10. -/
def Answers (id : Option Text.Json) (response : RpcResponse) (s : Conduct) : Prop :=
  response.id = id ∧ (s.Settled ∨ (s.contact = .refused ∧ response.error = -10))

def Leaves (id : Option Text.Json) : Exit → Conduct → Prop
  | .reply response, s => Answers id response s
  | .panic _, s => s.Settled

end SkfService
