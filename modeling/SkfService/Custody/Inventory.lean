import SkfService.Interaction.Ledger
import SkfService.Skf.Rules
import SkfService.Dispatch.Rules

/-! The devices, applications, containers and digests a request opens, and what becomes of them.

The two ways to a library share one inventory: a guard is closed by its drop, a raw handle by the
symbol table's own call. -/

set_option autoImplicit false

namespace SkfService

open Interaction Program Handler

namespace Custody

def opens : (op : Op) → op.Reply → Option Resource
  | .provider (.openDevice library name), some (.ok raw) => some (.device ⟨library, name, raw⟩)
  | .provider (.openApplication device name), some (.ok raw) =>
    some (.application ⟨device, name, raw⟩)
  | .provider (.beginDigest device _ _), some (.ok raw) => some (.digest ⟨device, raw⟩)
  | .provider (.beginDigestWithKey device _ _ _), some (.ok raw) => some (.digest ⟨device, raw⟩)
  | .provider (.openContainer application name), some (.ok raw) =>
    some (.container ⟨application, name, raw⟩)
  | .provider (.createContainer application name), some (.ok raw) =>
    some (.container ⟨application, name, raw⟩)
  | .vendor (.connectDev library name), (ret, raw) =>
    if ret = SAR_OK then some (.device ⟨library, name.text, raw⟩) else none
  | .vendor (.openApplication device name), (ret, raw) =>
    if ret = SAR_OK then some (.application ⟨device, name.text, raw⟩) else none
  | .vendor (.openContainer application name), (ret, raw) =>
    if ret = SAR_OK then some (.container ⟨application, name.text, raw⟩) else none
  | .vendor (.digestInit device _), (ret, raw) =>
    if ret = SAR_OK then some (.digest ⟨device, raw⟩) else none
  | _, _ => none

def closes : Op → Option Resource
  | .provider (.close resource) => some resource
  | .vendor (.disConnectDev device) => some (.device device)
  | .vendor (.closeApplication application) => some (.application application)
  | .vendor (.closeContainer container) => some (.container container)
  | _ => none

def providerUses : ProviderOp → List Resource
  | .random device _ | .openApplication device _ | .beginDigest device _ _
  | .beginDigestWithKey device _ _ _ =>
    [.device device]
  | .verifyPin application _ | .openContainer application _ | .createContainer application _
  | .deleteContainer application _ => [.application application]
  | .containerType container | .importCertificate container _ _ | .signEcc container _
  | .signRsa container _ | .genEccKeyPair container _ | .genRsaKeyPair container _
  | .setSymmKey container _ _ | .encrypt container _ _ _ _ | .decrypt container _ _ _ _ =>
    [.container container]
  | .update digest _ | .finalize digest => [.digest digest]
  | .enumDevices _ _ | .deviceState _ _ | .waitForEvent _ _ | .cancelWaitForEvent _
  | .openDevice _ _ | .close _ => []

def vendorUses : VendorOp → List Resource
  | .enumApplication device _ | .openApplication device _ | .digestInit device _
  | .getDevInfo device | .setLabel device _ | .lockDev device _ | .unlockDev device
  | .transmit device _ _ | .eccVerify device _ _ _ | .rsaVerify device _ _ _ => [.device device]
  | .enumContainer application _ | .openContainer application _ => [.application application]
  | .exportCertificate container _ _ | .importEccKeyPair container _
  | .importRsaKeyPair container _ _ _ =>
    [.container container]
  | .digest hash _ _ => [.digest hash]
  | .enumDev _ _ _ | .connectDev _ _ | .disConnectDev _ | .getDevState _ _ | .waitForDevEvent _ _
  | .closeApplication _ | .closeContainer _ => []

/-- The handles an operation passes on, other than the one it closes. -/
def uses : Op → List Resource
  | .provider op => providerUses op
  | .vendor op => vendorUses op
  | _ => []

def inventory : Inventory Skf Resource := ⟨opens, closes, uses, Resource.parent⟩

def applicationHeld (application : Application) : List Resource :=
  [.application application, .device application.device]

def containerHeld (container : Container) : List Resource :=
  [.container container, .application container.application, .device container.application.device]

def unflagged : (op : Skf.Op) → Skf.Reply op → Bool := fun _ _ => false

def idle : Op → Bool
  | .provider (.openDevice _ _) | .provider (.openApplication _ _) | .provider (.openContainer _ _)
  | .provider (.createContainer _ _) | .provider (.beginDigest _ _ _)
  | .provider (.beginDigestWithKey _ _ _ _)
  | .provider (.close _) => false
  | .vendor (.connectDev _ _) | .vendor (.openApplication _ _) | .vendor (.openContainer _ _)
  | .vendor (.digestInit _ _) => false
  | .vendor (.disConnectDev _) | .vendor (.closeApplication _) | .vendor (.closeContainer _) =>
    false
  | _ => true

theorem opens_idle {op : Op} (reply : op.Reply) (quiet : idle op = true) :
    opens op reply = none := by
  cases op with
  | session op => cases op <;> rfl
  | host op => cases op <;> rfl
  | provider op => cases op <;> first | rfl | cases quiet
  | vendor op => cases op <;> first | rfl | cases quiet

theorem closes_idle {op : Op} (quiet : idle op = true) : closes op = none := by
  cases op with
  | session op => cases op <;> rfl
  | host op => cases op <;> rfl
  | provider op => cases op <;> first | rfl | cases quiet
  | vendor op => cases op <;> first | rfl | cases quiet

section rules

variable {flag : (op : Skf.Op) → Skf.Reply op → Bool} {A B : Type} {ret : B → Audit Resource → Prop}
  {exits : Exit → Audit Resource → Prop} {held : List Resource}

theorem bind_idle {op : Op} {k : op.Reply → Handler B} (quiet : idle op = true)
    (unflagged : ∀ reply, flag op reply = false) (used : ∀ r ∈ uses op, r ∈ held)
    (goes : ∀ reply, (k reply).Meets (inventory.audit flag) ret exits (.clear held)) :
    (Program.ask (I := Skf) op >>= k).Meets (inventory.audit flag) ret exits (.clear held) := by
  refine bind_call trivial fun reply _ => ?_
  have closing : inventory.closes op = none := closes_idle quiet
  have opening : inventory.opens op reply = none := opens_idle reply quiet
  have respects : inventory.Respects held op := ⟨used, by simp [closing]⟩
  have kept : (inventory.audit flag).advance (.clear held) op reply = .clear held := by
    rw [inventory.advance_clear flag respects (unflagged reply)]
    simp [Inventory.after, closing, opening]
  rw [kept]
  exact goes reply

/-- A clear audit does not watch the host, unless the host is what it flags. -/
theorem unwatched (unflagged : ∀ host reply, flag (.host host) reply = false) :
    Unwatched (inventory.audit flag) (.clear held) := by
  refine ⟨fun _ => trivial, fun host reply => ?_⟩
  rw [inventory.advance_clear flag ⟨by simp [inventory, uses], by simp [inventory, closes]⟩
    (unflagged host reply)]
  simp [Inventory.after, inventory, opens, closes]

theorem bind_opening {op : Op} {k : op.Reply → Handler B} (unclosing : closes op = none)
    (unflagged : ∀ reply, flag op reply = false) (used : ∀ r ∈ uses op, r ∈ held)
    (goes : ∀ reply,
      (k reply).Meets (inventory.audit flag) ret exits (.clear ((opens op reply).toList ++ held))) :
    (Program.ask (I := Skf) op >>= k).Meets (inventory.audit flag) ret exits (.clear held) := by
  refine bind_call trivial fun reply _ => ?_
  have closing : inventory.closes op = none := unclosing
  have respects : inventory.Respects held op := ⟨used, by simp [closing]⟩
  have opened : (inventory.audit flag).advance (.clear held) op reply =
      .clear ((opens op reply).toList ++ held) := by
    rw [inventory.advance_clear flag respects (unflagged reply)]
    simp only [Inventory.after, closing]
    rfl
  rw [opened]
  exact goes reply

theorem bind_closing {op : Op} {k : op.Reply → Handler B} {r : Resource}
    (closing : closes op = some r) (unused : uses op = [])
    (unopening : ∀ reply, opens op reply = none) (unflagged : ∀ reply, flag op reply = false)
    (childless : ∀ child ∈ r :: held, child.parent ≠ some r)
    (goes : ∀ reply, (k reply).Meets (inventory.audit flag) ret exits (.clear held)) :
    (Program.ask (I := Skf) op >>= k).Meets (inventory.audit flag) ret exits
      (.clear (r :: held)) := by
  refine bind_call trivial fun reply _ => ?_
  have respects : inventory.Respects (r :: held) op := by
    refine ⟨by simp [inventory, unused], fun other same => ?_⟩
    obtain rfl : r = other := Option.some.inj (closing.symm.trans same)
    exact ⟨by simp, childless⟩
  have closed : (inventory.audit flag).advance (.clear (r :: held)) op reply = .clear held := by
    have opening : inventory.opens op reply = none := unopening reply
    have gives : inventory.closes op = some r := closing
    rw [inventory.advance_clear flag respects (unflagged reply)]
    simp [Inventory.after, gives, opening]
  rw [closed]
  exact goes reply

end rules

end Custody
end SkfService
