import SkfService.Interaction.Verdict
import SkfService.Provider.Symbols

/-! The vendor failures of a request, as its branch is told of them and as they happen in the symbol
table.

The native provider tells every failure below it as exactly one above. -/

set_option autoImplicit false

namespace SkfService

open Interaction Program SkfApi

def failureOf (ret : ULONG) : Option ULONG := if ret = SAR_OK then none else some ret

theorem failureOf_ok {ret : ULONG} (succeeded : ret = SAR_OK) : failureOf ret = none :=
  if_pos succeeded

theorem failureOf_failed {ret : ULONG} (failed : ret ≠ SAR_OK) : failureOf ret = some ret :=
  if_neg failed

/-- The code a provider's error tells of; a missing symbol stands for its code. -/
def ProviderError.code : ProviderError → Option ULONG
  | .Native code _ => some code
  | .SymbolUnavailable _ => some SAR_COULDNOTGETFUNCADDR
  | _ => none

/-- The errors a loaded library can cause: a code that is no success, a missing symbol or a refused
name. -/
def ProviderError.FromLibrary : ProviderError → Prop
  | .Native code _ => code ≠ SAR_OK
  | .SymbolUnavailable _ | .InvalidArgument _ => True
  | _ => False

namespace Attempt

variable {A : Type}

def failure : Attempt A → Option ULONG
  | some (.error e) => e.code
  | _ => none

def FromLibrary : Attempt A → Prop
  | some (.error e) => e.FromLibrary
  | _ => True

end Attempt

/-- A PIN that was not accepted is a failure, although it is no error. -/
def PinOutcome.failure : Attempt PinOutcome → Option ULONG
  | some (.ok outcome) => failureOf outcome.code
  | attempt => Attempt.failure attempt

def PinOutcome.FromLibrary : Attempt PinOutcome → Prop
  | some (.ok outcome) => outcome.success = decide (outcome.code = SAR_OK)
  | attempt => Attempt.FromLibrary attempt

namespace ProviderOp

def symbol : ProviderOp → Symbol
  | enumDevices _ _ => .EnumDev
  | deviceState _ _ => .GetDevState
  | waitForEvent _ _ => .WaitForDevEvent
  | cancelWaitForEvent _ => .CancelWaitForDevEvent
  | openDevice _ _ => .ConnectDev
  | random _ _ => .GenRandom
  | openApplication _ _ => .OpenApplication
  | beginDigest _ _ _ | beginDigestWithKey _ _ _ _ => .DigestInit
  | verifyPin _ _ => .VerifyPIN
  | openContainer _ _ => .OpenContainer
  | createContainer _ _ => .CreateContainer
  | deleteContainer _ _ => .DeleteContainer
  | containerType _ => .GetContainerType
  | importCertificate _ _ _ => .ImportCertificate
  | signEcc _ _ => .ECCSignData
  | signRsa _ _ => .RSASignData
  | genEccKeyPair _ _ => .GenECCKeyPair
  | genRsaKeyPair _ _ => .GenRSAKeyPair
  | setSymmKey _ _ _ => .SetSymmKey
  | encrypt _ _ _ _ _ => .EncryptData
  | decrypt _ _ _ _ _ => .DecryptData
  | update _ _ => .DigestUpdate
  | finalize _ => .DigestFinal
  | close resource => resource.release.symbol

def failure : (op : ProviderOp) → op.Reply → Option ULONG
  | close _, _ => none
  | verifyPin _ _, attempt => PinOutcome.failure attempt
  | enumDevices _ _, attempt | deviceState _ _, attempt | waitForEvent _ _, attempt
  | cancelWaitForEvent _, attempt | openDevice _ _, attempt | random _ _, attempt
  | openApplication _ _, attempt | beginDigest _ _ _, attempt | beginDigestWithKey _ _ _ _, attempt
  | openContainer _ _, attempt | createContainer _ _, attempt | deleteContainer _ _, attempt
  | containerType _, attempt | importCertificate _ _ _, attempt | signEcc _ _, attempt
  | signRsa _ _, attempt | genEccKeyPair _ _, attempt | genRsaKeyPair _ _, attempt
  | setSymmKey _ _ _, attempt | encrypt _ _ _ _ _, attempt | decrypt _ _ _ _ _, attempt
  | update _ _, attempt | finalize _, attempt =>
    Attempt.failure attempt

def FromLibrary : (op : ProviderOp) → op.Reply → Prop
  | close _, _ => True
  | verifyPin _ _, attempt => PinOutcome.FromLibrary attempt
  | enumDevices _ _, attempt | deviceState _ _, attempt | waitForEvent _ _, attempt
  | cancelWaitForEvent _, attempt | openDevice _ _, attempt | random _ _, attempt
  | openApplication _ _, attempt | beginDigest _ _ _, attempt | beginDigestWithKey _ _ _ _, attempt
  | openContainer _ _, attempt | createContainer _ _, attempt | deleteContainer _ _, attempt
  | containerType _, attempt | importCertificate _ _ _, attempt | signEcc _ _, attempt
  | signRsa _ _, attempt | genEccKeyPair _ _, attempt | genRsaKeyPair _ _, attempt
  | setSymmKey _ _ _, attempt | encrypt _ _ _ _ _, attempt | decrypt _ _ _ _ _, attempt
  | update _ _, attempt | finalize _, attempt =>
    Attempt.FromLibrary attempt

end ProviderOp

/-- A failure counts unless its function gives a handle back or is one of those that are tolerated. -/
def counted (tolerates : Symbol → Bool) (symbol : Symbol) (failure : Option ULONG) : Option ULONG :=
  if symbol.releases || tolerates symbol then none else failure

theorem counted_none (tolerates : Symbol → Bool) (symbol : Symbol) :
    counted tolerates symbol none = none :=
  ite_self none

theorem counted_releases {tolerates : Symbol → Bool} {symbol : Symbol}
    (releases : symbol.releases = true) (failure : Option ULONG) :
    counted tolerates symbol failure = none := by
  rw [counted, releases, Bool.true_or, if_pos rfl]

theorem Resource.release_releases (resource : Resource) :
    resource.release.symbol.releases = true := by
  cases resource <;> rfl

/-- A reply that is no failure leaves the first failure what it was. -/
theorem or_unfailing {s failure : Option ULONG} (unfailing : failure = none) :
    s.or failure = s := by
  rw [unfailing, Option.or_none]

/-- What may follow a failure: handles are given back, and the grants of a device are dropped. -/
def Op.concludes : Op → Bool
  | .session (.invalidateDevice _ _) => true
  | .session _ | .host _ => false
  | .provider op => op.symbol.releases
  | .vendor op => op.symbol.releases

def ApiCall.concludes : ApiCall → Bool
  | .session (.invalidateDevice _ _) => true
  | .session _ | .host _ => false
  | .symbol op => op.symbol.releases

def ApiCall.failure (tolerates : Symbol → Bool) : (op : ApiCall) → op.Reply → Option ULONG
  | .symbol op, reply => counted tolerates op.symbol (failureOf (op.code reply))
  | .session _, _ | .host _, _ => none

def Op.failure (tolerates : Symbol → Bool) : (op : Op) → op.Reply → Option ULONG
  | .provider op, reply => counted tolerates op.symbol (op.failure reply)
  | .vendor op, reply => counted tolerates op.symbol (failureOf (op.code reply))
  | .session _, _ | .host _, _ => none

def Op.FromLibrary : (op : Op) → op.Reply → Prop
  | .provider op, reply => op.FromLibrary reply
  | .session _, _ | .host _, _ | .vendor _, _ => True

def verdicts (tolerates : Symbol → Bool) : Verdicts Skf ULONG where
  failure op reply := Op.failure tolerates op reply
  concludes op := Op.concludes op = true
  fair op reply := Op.FromLibrary op reply
  unfailing op reply concludes := by
    cases op with
    | session op | host op => rfl
    | provider op | vendor op => exact counted_releases concludes _

def apiVerdicts (tolerates : Symbol → Bool) : Verdicts SkfApi ULONG where
  failure op reply := ApiCall.failure tolerates op reply
  concludes op := ApiCall.concludes op = true
  fair _ _ := True
  unfailing op reply concludes := by
    cases op with
    | session op | host op => rfl
    | symbol op => exact counted_releases concludes _

end SkfService
