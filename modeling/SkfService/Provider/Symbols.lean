import SkfService.Dispatch.CertBytes
import SkfService.Dispatch.PublicKeys
import SkfService.Dispatch.Random
import SkfService.Interaction.Implement
import SkfService.Provider.Ciphers
import SkfService.Provider.NativeDevices

/-! The native provider's methods as programs over the vendor library's symbol table. -/

set_option autoImplicit false

namespace SkfService

open Text Interaction

inductive Symbol
  | WaitForDevEvent | CancelWaitForDevEvent | EnumDev | ConnectDev | DisConnectDev | GetDevState
  | SetLabel | GetDevInfo | LockDev | UnlockDev | Transmit | EnumApplication | OpenApplication
  | CloseApplication | EnumContainer | OpenContainer | CloseContainer | VerifyPIN | GenRandom
  | ECCSignData | ECCVerify | ExportCertificate | GetContainerType | RSASignData | DigestInit
  | Digest | DigestUpdate | DigestFinal | CloseHash | CreateContainer | DeleteContainer
  | GenECCKeyPair | GenRSAKeyPair | ImportCertificate | ImportECCKeyPair | ImportRSAKeyPair
  | EncryptData | DecryptData | SetSymmKey | RSAVerify
  deriving DecidableEq

def Symbol.releases : Symbol → Bool
  | DisConnectDev | CloseApplication | CloseContainer | CloseHash => true
  | _ => false

structure EccSignatureBlob where
  r : List UInt8
  s : List UInt8
  rLength : r.length = 64
  sLength : s.length = 64

/-- Calls of the symbol table: those of the direct branches, and what only the provider calls. -/
inductive SymbolOp
  | direct (op : VendorOp)
  | cancelWaitForDevEvent (library : Library)
  | genRandom (device : Device) (len : ULONG)
  | digestInit (device : Device) (algId : ULONG) (publicKey : Option EccPublicKeyBlob)
      (id : List UInt8)
  | digestUpdate (digest : Digest) (data : List UInt8)
  | digestFinal (digest : Digest) (capacity : ULONG)
  | closeHash (digest : Digest)
  | verifyPin (application : Application) (pinType : ULONG) (pin : CString)
  | createContainer (application : Application) (name : CString)
  | deleteContainer (application : Application) (name : CString)
  | getContainerType (container : Container)
  | importCertificate (container : Container) (signFlag : Bool) (cert : List UInt8)
  | eccSignData (container : Container) (data : List UInt8)
  | rsaSignData (container : Container) (data : List UInt8) (capacity : ULONG)
  | genEccKeyPair (container : Container) (algId : ULONG)
  | genRsaKeyPair (container : Container) (bits : ULONG)
  | setSymmKey (container : Container) (algId : ULONG) (key : List UInt8)
  | cipher (container : Container) (call : CipherCall)

abbrev SymbolOp.Reply : SymbolOp → Type
  | direct op => op.Reply
  | cancelWaitForDevEvent _ => ULONG
  | genRandom _ _ => Generated
  | digestInit _ _ _ _ => ULONG × Nat
  | digestUpdate _ _ => ULONG
  | digestFinal _ _ => Filled
  | closeHash _ => ULONG
  | verifyPin _ _ _ => ULONG × UInt32
  | createContainer _ _ => ULONG × Nat
  | deleteContainer _ _ => ULONG
  | getContainerType _ => ULONG × UInt32
  | importCertificate _ _ _ => ULONG
  | eccSignData _ _ => ULONG × EccSignatureBlob
  | rsaSignData _ _ _ => Filled
  | genEccKeyPair _ _ => ULONG × EccPublicKeyBlob
  | genRsaKeyPair _ _ => ULONG × RsaPublicKeyBlob
  | setSymmKey _ _ _ => ULONG
  | cipher _ _ => Filled

def VendorOp.code : (op : VendorOp) → op.Reply → ULONG
  | enumDev _ _ _, filled | enumApplication _ _, filled | enumContainer _ _, filled
  | exportCertificate _ _ _, filled | digest _ _ _, filled | transmit _ _ _, filled => filled.ret
  | waitForDevEvent _ _, (filled, _) => filled.ret
  | connectDev _ _, (ret, _) | openApplication _ _, (ret, _) | openContainer _ _, (ret, _)
  | digestInit _ _, (ret, _) => ret
  | getDevState _ _, (ret, _) => ret
  | getDevInfo _, (ret, _) => ret
  | disConnectDev _, ret | closeApplication _, ret | closeContainer _, ret
  | importEccKeyPair _ _, ret | importRsaKeyPair _ _ _ _, ret | setLabel _ _, ret | lockDev _ _, ret
  | unlockDev _, ret | eccVerify _ _ _ _, ret | rsaVerify _ _ _ _, ret => ret

def SymbolOp.code : (op : SymbolOp) → op.Reply → ULONG
  | direct op, reply => op.code reply
  | genRandom _ _, generated => generated.ret
  | digestFinal _ _, filled | rsaSignData _ _ _, filled | cipher _ _, filled => filled.ret
  | digestInit _ _ _ _, (ret, _) | createContainer _ _, (ret, _) => ret
  | verifyPin _ _ _, (ret, _) | getContainerType _, (ret, _) => ret
  | eccSignData _ _, (ret, _) => ret
  | genEccKeyPair _ _, (ret, _) => ret
  | genRsaKeyPair _ _, (ret, _) => ret
  | cancelWaitForDevEvent _, ret | digestUpdate _ _, ret | closeHash _, ret
  | deleteContainer _ _, ret | importCertificate _ _ _, ret | setSymmKey _ _ _, ret => ret

def VendorOp.symbol : VendorOp → Symbol
  | enumDev _ _ _ => .EnumDev
  | connectDev _ _ => .ConnectDev
  | disConnectDev _ => .DisConnectDev
  | getDevState _ _ => .GetDevState
  | waitForDevEvent _ _ => .WaitForDevEvent
  | enumApplication _ _ => .EnumApplication
  | openApplication _ _ => .OpenApplication
  | closeApplication _ => .CloseApplication
  | enumContainer _ _ => .EnumContainer
  | openContainer _ _ => .OpenContainer
  | closeContainer _ => .CloseContainer
  | exportCertificate _ _ _ => .ExportCertificate
  | importEccKeyPair _ _ => .ImportECCKeyPair
  | importRsaKeyPair _ _ _ _ => .ImportRSAKeyPair
  | digestInit _ _ => .DigestInit
  | digest _ _ _ => .Digest
  | getDevInfo _ => .GetDevInfo
  | setLabel _ _ => .SetLabel
  | lockDev _ _ => .LockDev
  | unlockDev _ => .UnlockDev
  | transmit _ _ _ => .Transmit
  | eccVerify _ _ _ _ => .ECCVerify
  | rsaVerify _ _ _ _ => .RSAVerify

def SymbolOp.symbol : SymbolOp → Symbol
  | direct op => op.symbol
  | cancelWaitForDevEvent _ => .CancelWaitForDevEvent
  | genRandom _ _ => .GenRandom
  | digestInit _ _ _ _ => .DigestInit
  | digestUpdate _ _ => .DigestUpdate
  | digestFinal _ _ => .DigestFinal
  | closeHash _ => .CloseHash
  | verifyPin _ _ _ => .VerifyPIN
  | createContainer _ _ => .CreateContainer
  | deleteContainer _ _ => .DeleteContainer
  | getContainerType _ => .GetContainerType
  | importCertificate _ _ _ => .ImportCertificate
  | eccSignData _ _ => .ECCSignData
  | rsaSignData _ _ _ => .RSASignData
  | genEccKeyPair _ _ => .GenECCKeyPair
  | genRsaKeyPair _ _ => .GenRSAKeyPair
  | setSymmKey _ _ _ => .SetSymmKey
  | cipher _ call => if call.direction = .encrypt then .EncryptData else .DecryptData

/-- What a request asks for below the provider: its session, the host and the symbol table. -/
inductive ApiCall
  | session (op : SessionOp)
  | host (op : HostOp)
  | symbol (op : SymbolOp)

abbrev ApiCall.Reply : ApiCall → Type
  | session op => op.Reply
  | host op => op.Reply
  | symbol op => op.Reply

def SkfApi : Signature := ⟨ApiCall, ApiCall.Reply⟩

namespace SkfApi

abbrev Calls (A : Type) := Program SkfApi Empty A

def symbol (op : SymbolOp) : Calls op.Reply := .ask (I := SkfApi) (.symbol op)

def checked {A : Type} (ret : ULONG) (name : String) (value : A) : Except ProviderError A :=
  if ret = SAR_OK then .ok value else .error (.fromNative ret name)

def named {A : Type} (value context : String) (go : CString → Calls (Except ProviderError A)) :
    Calls (Except ProviderError A) :=
  match NativeSkfProvider.cstring value context with
  | .ok name => go name
  | .error e => .done (.error e)

def devices (library : Library) : Implementation Devices SkfApi
  | .enumDev present buffer => symbol (.direct (.enumDev library present buffer))
  | .getDevState name => symbol (.direct (.getDevState library name))
  | .waitForDevEvent capacity => symbol (.direct (.waitForDevEvent library capacity))

def ciphers (container : Container) : Implementation Ciphers SkfApi :=
  fun call => symbol (.cipher container call)

end SkfApi

open SkfApi Program

namespace NativeSkfProvider

def openDevice (library : Library) (name : String) : Calls (Except ProviderError Nat) :=
  named name "ConnectDev" fun cName => do
    let (ret, raw) ← symbol (.direct (.connectDev library cName))
    return checked ret "ConnectDev" raw

/-- It takes no gate, as the wait it ends takes none. -/
def cancelWaitForEvent (library : Library) : Calls (Except ProviderError Unit) := do
  let ret ← symbol (.cancelWaitForDevEvent library)
  return checked ret "CancelWaitForDevEvent" ()

end NativeSkfProvider

namespace NativeDevice

def randomBytes (device : Device) (len : Nat) : Calls (Attempt (List UInt8)) := do
  -- `vec![0u8; len]` panics for more than `isize::MAX` bytes.
  if ISIZE_MAX < len then return none
  else
    let generated ← symbol (.genRandom device (.ofNat len))
    return some (checked generated.ret "GenRandom" (overwrite (.replicate len 0) generated.written))

def openApplication (device : Device) (name : String) : Calls (Except ProviderError Nat) :=
  named name "OpenApplication" fun cName => do
    let (ret, raw) ← symbol (.direct (.openApplication device cName))
    return checked ret "OpenApplication" raw

def beginDigestImpl (device : Device) (algId : ULONG) (id : List UInt8)
    (publicKey : Option EccPublicKeyBlob) :
    Calls (Except ProviderError Nat) := do
  let (ret, raw) ← symbol (.digestInit device algId publicKey id)
  return checked ret "DigestInit" raw

def beginDigest (device : Device) (algId : ULONG) (id : List UInt8) :
    Calls (Except ProviderError Nat) :=
  beginDigestImpl device algId id none

def beginDigestWithKey (device : Device) (algId : ULONG) (id : List UInt8) (key : EccPublicKey) :
    Calls (Except ProviderError Nat) :=
  beginDigestImpl device algId id (some (Native.eccBlob key))

end NativeDevice

namespace NativeApplication

/-- A rejected PIN is an outcome and no error. -/
def verifyPin (application : Application) (pin : String) :
    Calls (Except ProviderError PinOutcome) :=
  named pin "VerifyPIN" fun cPin => do
    let (ret, retryCount) ← symbol (.verifyPin application 1 cPin)
    return .ok ⟨ret = SAR_OK, retryCount, ret⟩

def openContainer (application : Application) (name : String) : Calls (Except ProviderError Nat) :=
  named name "OpenContainer" fun cName => do
    let (ret, raw) ← symbol (.direct (.openContainer application cName))
    return checked ret "OpenContainer" raw

def deleteContainer (application : Application) (name : String) :
    Calls (Except ProviderError Unit) :=
  named name "DeleteContainer" fun cName => do
    let ret ← symbol (.deleteContainer application cName)
    return checked ret "DeleteContainer" ()

def createContainer (application : Application) (name : String) :
    Calls (Except ProviderError Nat) :=
  named name "CreateContainer" fun cName => do
    let (ret, raw) ← symbol (.createContainer application cName)
    return checked ret "CreateContainer" raw

end NativeApplication

def RSA_SIG_BUF_LEN : Nat := 512

namespace NativeContainer

def containerType (container : Container) : Calls (Except ProviderError UInt32) := do
  let (ret, kind) ← symbol (.getContainerType container)
  return checked ret "GetContainerType" kind

def importCertificate (container : Container) (signFlag : Bool) (cert : List UInt8) :
    Calls (Except ProviderError Unit) := do
  let ret ← symbol (.importCertificate container signFlag cert)
  return checked ret "ImportCertificate" ()

def signEcc (container : Container) (digest : List UInt8) :
    Calls (Except ProviderError (List UInt8)) := do
  let (ret, signature) ← symbol (.eccSignData container digest)
  return checked ret "ECCSignData" (signature.r ++ signature.s)

def genEccKeyPair (container : Container) (algId : ULONG) :
    Calls (Except ProviderError EccPublicKey) := do
  let (ret, blob) ← symbol (.genEccKeyPair container algId)
  return checked ret "GenECCKeyPair" ⟨blob.bitLen, blob.xCoordinate, blob.yCoordinate⟩

def genRsaKeyPair (container : Container) (bits : ULONG) :
    Calls (Except ProviderError RsaPublicKey) := do
  let (ret, blob) ← symbol (.genRsaKeyPair container bits)
  return checked ret "GenRSAKeyPair" ⟨blob.algId, blob.bitLen, blob.modulus, blob.publicExponent⟩

def signRsa (container : Container) (data : List UInt8) :
    Calls (Except ProviderError (List UInt8)) := do
  let filled ← symbol (.rsaSignData container data (.ofNat RSA_SIG_BUF_LEN))
  return written RSA_SIG_BUF_LEN "RSASignData" filled

def setSymmKey (container : Container) (algId : ULONG) (key : List UInt8) :
    Calls (Except ProviderError Unit) := do
  let ret ← symbol (.setSymmKey container algId key)
  return checked ret "SetSymmKey" ()

end NativeContainer

def HASH_BUF_LEN : Nat := 64

namespace NativeDigest

def update (digest : Digest) (data : List UInt8) : Calls (Except ProviderError Unit) := do
  let ret ← symbol (.digestUpdate digest data)
  return checked ret "DigestUpdate" ()

def finalize (digest : Digest) : Calls (Except ProviderError (List UInt8)) := do
  let filled ← symbol (.digestFinal digest (.ofNat HASH_BUF_LEN))
  return NativeContainer.written HASH_BUF_LEN "DigestFinal" filled

end NativeDigest

/-- The raw handle of a resource. A null handle is 0. -/
def Resource.raw : Resource → Nat
  | .device it => it.raw
  | .application it => it.raw
  | .container it => it.raw
  | .digest it => it.raw

def Resource.release : Resource → SymbolOp
  | .device it => .direct (.disConnectDev it)
  | .application it => .direct (.closeApplication it)
  | .container it => .direct (.closeContainer it)
  | .digest it => .closeHash it

/-- `Drop`: a null handle is not given back, and the code is not looked at. -/
def Resource.drop (resource : Resource) : Calls Unit := do
  if resource.raw = 0 then return ()
  else
    -- The source drops the code: `let _ = ..`.
    let _ret ← symbol resource.release
    return ()

/-- The calls of the provider traits, carried out by the native provider and its guards. -/
def ProviderOp.native : (op : ProviderOp) → Calls op.Reply
  | enumDevices library presentOnly =>
    some <$> (NativeSkfProvider.enumDevices presentOnly).implement (devices library)
  | deviceState library name =>
    some <$> (NativeSkfProvider.deviceState name).implement (devices library)
  | waitForEvent library bufLen =>
    some <$> (NativeSkfProvider.waitForEvent bufLen).implement (devices library)
  | cancelWaitForEvent library => some <$> NativeSkfProvider.cancelWaitForEvent library
  | openDevice library name => some <$> NativeSkfProvider.openDevice library name
  | random device len => NativeDevice.randomBytes device len
  | openApplication device name => some <$> NativeDevice.openApplication device name
  | beginDigest device algId id => some <$> NativeDevice.beginDigest device algId id
  | beginDigestWithKey device algId id key =>
    some <$> NativeDevice.beginDigestWithKey device algId id key
  | verifyPin application pin => some <$> NativeApplication.verifyPin application pin
  | openContainer application name => some <$> NativeApplication.openContainer application name
  | createContainer application name => some <$> NativeApplication.createContainer application name
  | deleteContainer application name => some <$> NativeApplication.deleteContainer application name
  | containerType container => some <$> NativeContainer.containerType container
  | importCertificate container signFlag cert =>
    some <$> NativeContainer.importCertificate container signFlag cert
  | signEcc container digest => some <$> NativeContainer.signEcc container digest
  | signRsa container data => some <$> NativeContainer.signRsa container data
  | genEccKeyPair container algId => some <$> NativeContainer.genEccKeyPair container algId
  | genRsaKeyPair container bits => some <$> NativeContainer.genRsaKeyPair container bits
  | setSymmKey container algId key => some <$> NativeContainer.setSymmKey container algId key
  | encrypt container algId iv padding data =>
    some <$> (NativeContainer.encrypt container algId iv padding data).implement (ciphers container)
  | decrypt container algId iv padding data =>
    some <$> (NativeContainer.decrypt container algId iv padding data).implement (ciphers container)
  | update digest data => some <$> NativeDigest.update digest data
  | finalize digest => some <$> NativeDigest.finalize digest
  | close resource => resource.drop

/-- A request's operations over the symbol table: the provider is the native one, the rest is what
it is. -/
def nativeProvider : Implementation Skf SkfApi
  | .session op => .ask (I := SkfApi) (.session op)
  | .host op => .ask (I := SkfApi) (.host op)
  | .vendor op => symbol (.direct op)
  | .provider op => op.native

end SkfService
