import SkfService.Connection.Exchange
import SkfService.Dispatch.Rules

/-! The gate a call takes.

A provider's calls take the gate of its library, apart from the wait and the cancel. A call of the
symbol table takes none. What a session holds from earlier requests brings its library with it. -/

set_option autoImplicit false

namespace SkfService

open Interaction Program Handler

def Resource.library : Resource → Library
  | .device it => it.library
  | .application it => it.device.library
  | .container it => it.application.device.library
  | .digest it => it.device.library

def ProviderOp.library : ProviderOp → Library
  | enumDevices library _ | deviceState library _ | waitForEvent library _
  | cancelWaitForEvent library | openDevice library _ => library
  | random device _ | openApplication device _ | beginDigest device _ _
  | beginDigestWithKey device _ _ _ =>
    device.library
  | verifyPin application _ | openContainer application _ | createContainer application _
  | deleteContainer application _ => application.device.library
  | containerType container | importCertificate container _ _ | signEcc container _
  | signRsa container _ | genEccKeyPair container _ | genRsaKeyPair container _
  | setSymmKey container _ _ | encrypt container _ _ _ _ | decrypt container _ _ _ _ =>
    container.application.device.library
  | update digest _ | finalize digest => digest.device.library
  | close resource => resource.library

def VendorOp.library : VendorOp → Library
  | enumDev library _ _ | connectDev library _ | getDevState library _
  | waitForDevEvent library _ => library
  | disConnectDev device | enumApplication device _ | openApplication device _ | digestInit device _
  | getDevInfo device | setLabel device _ | lockDev device _ | unlockDev device
  | transmit device _ _ | eccVerify device _ _ _ | rsaVerify device _ _ _ => device.library
  | closeApplication application | enumContainer application _ | openContainer application _ =>
    application.device.library
  | closeContainer container | exportCertificate container _ _ | importEccKeyPair container _
  | importRsaKeyPair container _ _ _ => container.application.device.library
  | digest hash _ _ => hash.device.library

namespace Op

def library : Op → Option Library
  | .provider op => some op.library
  | .vendor op => some op.library
  | .session _ | .host _ => none

/-- The wait and the cancel, which a provider passes on without its gate. -/
def waits : Op → Bool
  | .provider (.waitForEvent _ _) | .provider (.cancelWaitForEvent _) => true
  | _ => false

def direct : Op → Bool
  | .vendor _ => true
  | _ => false

/-- The gate that is held while the operation runs. -/
def gate (op : Op) : Option Nat :=
  -- The gate is the provider's own; a call through the symbol table does not know of it.
  if op.waits || op.direct then none else op.library.bind Library.gate

def stores : Op → Option Library
  | .session (.issueDevice guard) => some guard.library
  | .session (.issueDigest guard) => some guard.device.library
  | _ => none

def fetches : (op : Op) → op.Reply → Option Library
  | .session (.device _), .ok guard => some guard.library
  | .session (.removeDevice _), .ok guard => some guard.library
  | .session (.digest _), .ok guard => some guard.device.library
  | .session (.removeDigest _), .ok guard => some guard.device.library
  | _, _ => none

end Op

/-- The default alias is only reached through the gate that all its callers share. -/
def Library.Gated (ctx : SkfContext) (library : Library) : Prop :=
  library.providerAlias = ctx.config.default → library.gate = some 0

theorem gated_provider (ctx : SkfContext) : ctx.provider.Gated ctx := fun _ => rfl

theorem gated_other {ctx : SkfContext} {name : String} {gate : Option Nat}
    (other : name ≠ ctx.config.default) :
    Library.Gated ctx ⟨name, gate⟩ := fun same => absurd same other

/-- What a request may ask for: the symbol table only if `symbols`, and a provider only through its
gate. -/
structure Op.Serial (ctx : SkfContext) (symbols : Bool) (op : Op) : Prop where
  permitted : op.direct = true → symbols = true
  gated : op.direct = false → ∀ library ∈ op.library, library.Gated ctx
  stored : ∀ library ∈ op.stores, library.Gated ctx

section operations

variable {ctx : SkfContext} {symbols : Bool}

theorem Op.Serial.host (op : HostOp) : Op.Serial ctx symbols (.host op) := by
  constructor
  · intro direct
    cases direct
  · intro _ library called
    cases called
  · intro library stored
    cases stored

theorem Op.Serial.provider {op : ProviderOp} (gated : op.library.Gated ctx) :
    Op.Serial ctx symbols (.provider op) := by
  constructor
  · intro direct
    cases direct
  · intro _ library called
    cases called
    exact gated
  · intro library stored
    cases stored

theorem Op.Serial.vendor (op : VendorOp) : Op.Serial ctx true (.vendor op) := by
  constructor
  · exact fun _ => rfl
  · intro indirect
    cases indirect
  · intro library stored
    cases stored

theorem Op.Serial.session {op : SessionOp}
    (stored : ∀ library ∈ (Op.session op).stores, library.Gated ctx) :
    Op.Serial ctx symbols (.session op) := by
  constructor
  · intro direct
    cases direct
  · intro _ library called
    cases called
  · exact stored

end operations

def serial (ctx : SkfContext) (symbols : Bool) : Monitor Skf Unit where
  allowed _ op := op.Serial ctx symbols
  possible _ op reply := ∀ library ∈ op.fetches reply, library.Gated ctx
  advance _ _ _ := ()

/-- Whatever a program is answered, it keeps to the gates. -/
abbrev Serial (ctx : SkfContext) (symbols : Bool) {A : Type} (ret : A → Prop) (p : Handler A) :
    Prop :=
  p.Meets (serial ctx symbols) (fun value _ => ret value) (fun _ _ => True) ()

namespace Serial

variable {ctx : SkfContext} {symbols : Bool} {A B : Type} {ret : A → Prop} {onward : B → Prop}

theorem unwatched : Unwatched (serial ctx symbols) () := ⟨Op.Serial.host, fun _ _ => rfl⟩

theorem bind {p : Handler A} {k : A → Handler B} (first : Serial ctx symbols ret p)
    (goes : ∀ value, ret value → Serial ctx symbols onward (k value)) :
    Serial ctx symbols onward (p >>= k) :=
  (meets_bind p k).mpr (first.mono (fun value _ held => goes value held) fun _ _ _ => trivial)

theorem after {p : Handler A} {k : A → Handler B} (first : Serial ctx symbols (fun _ => True) p)
    (goes : ∀ value, Serial ctx symbols onward (k value)) : Serial ctx symbols onward (p >>= k) :=
  first.bind fun value _ => goes value

theorem ite {c : Prop} [Decidable c] {p q : Handler A} (yes : c → Serial ctx symbols ret p)
    (no : ¬c → Serial ctx symbols ret q) : Serial ctx symbols ret (if c then p else q) :=
  meets_ite yes no

theorem orReply (x : Except RpcResponse A) :
    Serial ctx symbols (fun _ => True) (Handler.orReply x) := by
  cases x <;> trivial

theorem expect (x : Option A) (rejection : RpcResponse) :
    Serial ctx symbols (fun _ => True) (Handler.expect x rejection) := by
  cases x <;> trivial

theorem unwrap (x : Option A) (why : Panic) :
    Serial ctx symbols (fun _ => True) (Handler.unwrap x why) := by
  cases x <;> trivial

theorem settled (x : Attempt A) : Serial ctx symbols (fun _ => True) (Handler.settled x) := by
  cases x <;> trivial

theorem host (op : HostOp) : Serial ctx symbols (fun _ => True) (Handler.host op) :=
  ⟨.host op, fun _ _ => trivial⟩

theorem provider {op : ProviderOp} (gated : op.library.Gated ctx) :
    Serial ctx symbols (fun _ => True) (Handler.provider op) :=
  ⟨.provider gated, fun _ _ => trivial⟩

theorem vendor (op : VendorOp) : Serial ctx true (fun _ => True) (Handler.vendor op) :=
  ⟨.vendor op, fun _ _ => trivial⟩

theorem stored {op : SessionOp} (held : ∀ library ∈ (Op.session op).stores, library.Gated ctx) :
    Serial ctx symbols (fun _ => True) (Handler.session op) :=
  ⟨.session held, fun _ _ => trivial⟩

theorem fetched {op : SessionOp} (quiet : (Op.session op).stores = none) :
    Serial ctx symbols (fun reply => ∀ library ∈ (Op.session op).fetches reply, library.Gated ctx)
      (Handler.session op) := by
  refine ⟨.session fun library held => ?_, fun _ possible => possible⟩
  rw [quiet] at held
  cases held

theorem session {op : SessionOp} (quiet : (Op.session op).stores = none) :
    Serial ctx symbols (fun _ => True) (Handler.session op) :=
  (fetched quiet).mono (fun _ _ _ => trivial) fun _ _ _ => trivial

theorem ensuring {body : Handler A} {release : Handler Unit} (inside : Serial ctx symbols ret body)
    (released : Serial ctx symbols (fun _ => True) release) :
    Serial ctx symbols ret (body.ensuring release) := by
  refine (meets_ensuring body release).mpr (inside.mono (fun value _ held => ?_) fun _ _ _ => ?_)
  · exact released.mono (fun _ _ _ => held) fun _ _ _ => trivial
  · exact released.mono (fun _ _ _ => trivial) fun _ _ _ => trivial

theorem collect {step : A → Handler (List B)} (items : List A)
    (each : ∀ item, Serial ctx symbols (fun _ => True) (step item)) :
    Serial ctx symbols (fun _ => True) (Program.collect step items) := by
  induction items with
  | nil => trivial
  | cons item rest ih => exact (each item).after fun _ => ih.after fun _ => trivial

end Serial
end SkfService
