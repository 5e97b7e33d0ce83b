import SkfService.Skf.Interface

/-! What a call may change on a token, beyond the resources it opens and closes. -/

set_option autoImplicit false

namespace SkfService

inductive Change
  | pinRetries
  | containers
  | certificates
  | keyPairs
  | label
  | lock
  | command
  deriving DecidableEq

def ProviderOp.change : ProviderOp → Option Change
  | verifyPin _ _ => some .pinRetries
  | createContainer _ _ | deleteContainer _ _ => some .containers
  | importCertificate _ _ _ => some .certificates
  | genEccKeyPair _ _ | genRsaKeyPair _ _ => some .keyPairs
  | _ => none

def VendorOp.change : VendorOp → Option Change
  | importEccKeyPair _ _ | importRsaKeyPair _ _ _ _ => some .keyPairs
  | setLabel _ _ => some .label
  | lockDev _ _ | unlockDev _ => some .lock
  | transmit _ _ _ => some .command
  | _ => none

namespace Op

def change : Op → Option Change
  | .provider op => op.change
  | .vendor op => op.change
  | _ => none

def within (changes : List Change) (op : Op) : Bool := op.change.all (changes.contains ·)

theorem within_of_none {changes : List Change} {op : Op} (quiet : op.change = none) :
    op.within changes = true := by
  rw [within, quiet]
  rfl

end Op
end SkfService
