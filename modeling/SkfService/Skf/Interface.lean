import SkfService.Interaction.Program
import SkfService.Protocol.Rpc
import SkfService.Session.State

/-! Everything a request may ask for outside its own computation: its session state, a provider, the
vendor library's symbol table and the host. -/

set_option autoImplicit false

namespace SkfService

open Interaction

/-- A name without an interior NUL, as a C string has to be. -/
structure CString where
  text : String
  noNul : Char.ofNat 0 ∉ text.toList

def CString.new (text : String) : Option CString :=
  if noNul : Char.ofNat 0 ∉ text.toList then some ⟨text, noNul⟩ else none

theorem CString.new_text {text : String} {made : CString} (built : CString.new text = some made) :
    made.text = text := by
  unfold CString.new at built
  split at built
  · cases built
    rfl
  · cases built

/-- What a provider call comes back with: its result, or nothing when it unwound. -/
abbrev Attempt (A : Type) := Option (Except ProviderError A)

/-- Calls through the provider traits; the four closing calls are the guards' `Drop`. -/
inductive ProviderOp
  | enumDevices (library : Library) (presentOnly : Bool)
  | deviceState (library : Library) (name : String)
  | waitForEvent (library : Library) (bufLen : Nat)
  | cancelWaitForEvent (library : Library)
  | openDevice (library : Library) (name : String)
  | random (device : Device) (len : Nat)
  | openApplication (device : Device) (name : String)
  | beginDigest (device : Device) (algId : ULONG) (id : List UInt8)
  | beginDigestWithKey (device : Device) (algId : ULONG) (id : List UInt8) (key : EccPublicKey)
  | verifyPin (application : Application) (pin : String)
  | openContainer (application : Application) (name : String)
  | createContainer (application : Application) (name : String)
  | deleteContainer (application : Application) (name : String)
  | containerType (container : Container)
  | importCertificate (container : Container) (signFlag : Bool) (cert : List UInt8)
  | signEcc (container : Container) (digest : List UInt8)
  | signRsa (container : Container) (data : List UInt8)
  | genEccKeyPair (container : Container) (algId : ULONG)
  | genRsaKeyPair (container : Container) (bits : ULONG)
  | setSymmKey (container : Container) (algId : ULONG) (key : List UInt8)
  | encrypt (container : Container) (algId : ULONG) (iv : List UInt8) (padding : ULONG)
      (data : List UInt8)
  | decrypt (container : Container) (algId : ULONG) (iv : List UInt8) (padding : ULONG)
      (data : List UInt8)
  | update (digest : Digest) (data : List UInt8)
  | finalize (digest : Digest)
  | close (resource : Resource)

abbrev ProviderOp.Reply : ProviderOp → Type
  | enumDevices _ _ => Attempt (List String)
  | deviceState _ _ => Attempt UInt32
  | waitForEvent _ _ => Attempt (String × UInt32)
  | cancelWaitForEvent _ => Attempt Unit
  | openDevice _ _ => Attempt Nat
  | random _ _ => Attempt (List UInt8)
  | openApplication _ _ => Attempt Nat
  | beginDigest _ _ _ => Attempt Nat
  | beginDigestWithKey _ _ _ _ => Attempt Nat
  | verifyPin _ _ => Attempt PinOutcome
  | openContainer _ _ => Attempt Nat
  | createContainer _ _ => Attempt Nat
  | deleteContainer _ _ => Attempt Unit
  | containerType _ => Attempt UInt32
  | importCertificate _ _ _ => Attempt Unit
  | signEcc _ _ => Attempt (List UInt8)
  | signRsa _ _ => Attempt (List UInt8)
  | genEccKeyPair _ _ => Attempt EccPublicKey
  | genRsaKeyPair _ _ => Attempt RsaPublicKey
  | setSymmKey _ _ _ => Attempt Unit
  | encrypt _ _ _ _ _ => Attempt (List UInt8)
  | decrypt _ _ _ _ _ => Attempt (List UInt8)
  | update _ _ => Attempt Unit
  | finalize _ => Attempt (List UInt8)
  | close _ => Unit

structure Version where
  major : UInt8
  minor : UInt8

/-- The fixed-layout device record the vendor fills; `beyond` is the memory after it. -/
structure DevInfo where
  version : Version
  manufacturer : List UInt8
  issuer : List UInt8
  label : List UInt8
  serialNumber : List UInt8
  hwVersion : Version
  firmwareVersion : Version
  padding : List UInt8
  algSymCap : ULONG
  algAsymCap : ULONG
  algHashCap : ULONG
  devAuthAlgId : ULONG
  totalSpace : ULONG
  freeSpace : ULONG
  maxECCBufferSize : ULONG
  maxBufferSize : ULONG
  reserved : List UInt8
  beyond : List UInt8

/-- What a call that fills a buffer leaves: its code, the size it reports and the memory that starts
at the buffer. -/
structure Filled where
  ret : ULONG
  size : ULONG
  memory : List UInt8

/-- Direct calls of the symbol table. `buffer` is `none` for a size query with a null pointer and
the capacity of the buffer otherwise. -/
inductive VendorOp
  | enumDev (library : Library) (present : Bool) (buffer : Option ULONG)
  | connectDev (library : Library) (name : CString)
  | disConnectDev (device : Device)
  | getDevState (library : Library) (name : CString)
  | waitForDevEvent (library : Library) (capacity : ULONG)
  | enumApplication (device : Device) (buffer : Option ULONG)
  | openApplication (device : Device) (name : CString)
  | closeApplication (application : Application)
  | enumContainer (application : Application) (buffer : Option ULONG)
  | openContainer (application : Application) (name : CString)
  | closeContainer (container : Container)
  | exportCertificate (container : Container) (signFlag : Bool) (buffer : Option ULONG)
  | importEccKeyPair (container : Container) (blob : List UInt8)
  | importRsaKeyPair (container : Container) (algId : ULONG) (wrapKey encKey : List UInt8)
  | digestInit (device : Device) (algId : ULONG)
  | digest (hash : Digest) (data : List UInt8) (capacity : ULONG)
  | getDevInfo (device : Device)
  | setLabel (device : Device) (label : CString)
  | lockDev (device : Device) (timeout : ULONG)
  | unlockDev (device : Device)
  | transmit (device : Device) (command : List UInt8) (capacity : ULONG)
  | eccVerify (device : Device) (key data signature : List UInt8)
  | rsaVerify (device : Device) (key data signature : List UInt8)

abbrev VendorOp.Reply : VendorOp → Type
  | enumDev _ _ _ => Filled
  | connectDev _ _ => ULONG × Nat
  | disConnectDev _ => ULONG
  | getDevState _ _ => ULONG × ULONG
  | waitForDevEvent _ _ => Filled × ULONG
  | enumApplication _ _ => Filled
  | openApplication _ _ => ULONG × Nat
  | closeApplication _ => ULONG
  | enumContainer _ _ => Filled
  | openContainer _ _ => ULONG × Nat
  | closeContainer _ => ULONG
  | exportCertificate _ _ _ => Filled
  | importEccKeyPair _ _ => ULONG
  | importRsaKeyPair _ _ _ _ => ULONG
  | digestInit _ _ => ULONG × Nat
  | digest _ _ _ => Filled
  | getDevInfo _ => ULONG × DevInfo
  | setLabel _ _ => ULONG
  | lockDev _ _ => ULONG
  | unlockDev _ => ULONG
  | transmit _ _ _ => Filled
  | eccVerify _ _ _ _ => ULONG
  | rsaVerify _ _ _ _ => ULONG

structure ProcessOutput where
  success : Bool
  stdout : List UInt8
  stderr : List UInt8

/-- The process around the dispatcher: the library cache and loader, the clock, files, `openssl` and
the software ciphers. -/
inductive HostOp
  | readCache (name : String)
  | loadLibrary (path : String)
  | writeCache (name : String)
  | newGate
  | systemTime
  | writeFile (path : String) (bytes : List UInt8)
  | removeFile (path : String)
  | readFile (path : String)
  | pathExists (path : String)
  | openssl (args : List String)
  | sm2GenKeypair
  | randomFill (len : Nat)
  | sm4EncryptEcb (key plain : List UInt8)
  | sm2Encrypt (publicKey : String) (plain : List UInt8)

/-- The clock answers the nanoseconds since the epoch, or nothing before it. -/
abbrev HostOp.Reply : HostOp → Type
  | readCache _ => Bool
  | loadLibrary _ => Except String Unit
  | writeCache _ => Unit
  | newGate => Nat
  | systemTime => Option Nat
  | writeFile _ _ => Except String Unit
  | removeFile _ => Unit
  | readFile _ => Option String
  | pathExists _ => Bool
  | openssl _ => Except String ProcessOutput
  | sm2GenKeypair => String × String
  | randomFill _ => List UInt8
  | sm4EncryptEcb _ _ => List UInt8
  | sm2Encrypt _ _ => List UInt8

inductive Op
  | session (op : SessionOp)
  | provider (op : ProviderOp)
  | vendor (op : VendorOp)
  | host (op : HostOp)

abbrev Op.Reply : Op → Type
  | session op => op.Reply
  | provider op => op.Reply
  | vendor op => op.Reply
  | host op => op.Reply

def Skf : Signature := ⟨Op, Op.Reply⟩

inductive Panic
  | interiorNul
  | libraryNotLoaded
  | clockBeforeEpoch
  | deadlineOverflow
  | outOfRange
  | callUnwound
  deriving DecidableEq

/-- How a branch is left before its end: with its reply, or by unwinding. -/
inductive Exit
  | reply (response : RpcResponse)
  | panic (why : Panic)

abbrev Handler (A : Type) := Program Skf Exit A

namespace Handler

def reply {A : Type} (response : RpcResponse) : Handler A := .stop (.reply response)

def panic {A : Type} (why : Panic) : Handler A := .stop (.panic why)

def session (op : SessionOp) : Handler op.Reply := .ask (I := Skf) (.session op)

def vendor (op : VendorOp) : Handler op.Reply := .ask (I := Skf) (.vendor op)

def host (op : HostOp) : Handler op.Reply := .ask (I := Skf) (.host op)

def provider (op : ProviderOp) : Handler op.Reply := .ask (I := Skf) (.provider op)

/-- The result of a provider call; a call that unwound unwinds its caller. -/
def settled {A : Type} : Attempt A → Handler (Except ProviderError A)
  | some result => .done result
  | none => panic .callUnwound

def orReply {A : Type} : Except RpcResponse A → Handler A
  | .ok value => .done value
  | .error rejection => reply rejection

def expect {A : Type} (value : Option A) (rejection : RpcResponse) : Handler A :=
  match value with
  | some value => .done value
  | none => reply rejection

def unwrap {A : Type} (value : Option A) (why : Panic) : Handler A :=
  match value with
  | some value => .done value
  | none => panic why

end Handler
end SkfService
