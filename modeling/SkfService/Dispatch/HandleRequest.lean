import SkfService.Dispatch.Device
import SkfService.Dispatch.FindCertificates
import SkfService.Dispatch.IssueCertificate
import SkfService.Domain.Crypto

/-! The dispatcher: one request text in, one response out. -/

set_option autoImplicit false

namespace SkfService

open Text Interaction Handler

inductive Method
  | GetProtocolVersion | SetLanguage | WaitForDevEvent | EnumProvider | EnumDevice | ConnectDev
  | EnumApplication | EnumContainer | DeleteContainer | IssueCertificate | ImportCertificate
  | SignData | ImportKeyPair | DisConnectDev | FindCertificates | GenerateRandom | Digest | CheckPIN
  | CreatePKCS10 | EncryptData | DecryptData | GetDevInfo | GetDevState | SetLabel | ECCVerify
  | CreateContainer | GetContainerType | RSASignData | LockDev | UnlockDev | Transmit
  | CancelWaitForDevEvent | GenECCKeyPair | GenRSAKeyPair | RSAVerify | DigestInit | DigestUpdate
  | DigestFinal | CloseHash
  deriving DecidableEq

namespace Method

def name : Method → String
  | GetProtocolVersion => "GetProtocolVersion"
  | SetLanguage => "SetLanguage"
  | WaitForDevEvent => "WaitForDevEvent"
  | EnumProvider => "EnumProvider"
  | EnumDevice => "EnumDevice"
  | ConnectDev => "ConnectDev"
  | EnumApplication => "EnumApplication"
  | EnumContainer => "EnumContainer"
  | DeleteContainer => "DeleteContainer"
  | IssueCertificate => "IssueCertificate"
  | ImportCertificate => "ImportCertificate"
  | SignData => "SignData"
  | ImportKeyPair => "ImportKeyPair"
  | DisConnectDev => "DisConnectDev"
  | FindCertificates => "FindCertificates"
  | GenerateRandom => "GenerateRandom"
  | Digest => "Digest"
  | CheckPIN => "CheckPIN"
  | CreatePKCS10 => "CreatePKCS10"
  | EncryptData => "EncryptData"
  | DecryptData => "DecryptData"
  | GetDevInfo => "GetDevInfo"
  | GetDevState => "GetDevState"
  | SetLabel => "SetLabel"
  | ECCVerify => "ECCVerify"
  | CreateContainer => "CreateContainer"
  | GetContainerType => "GetContainerType"
  | RSASignData => "RSASignData"
  | LockDev => "LockDev"
  | UnlockDev => "UnlockDev"
  | Transmit => "Transmit"
  | CancelWaitForDevEvent => "CancelWaitForDevEvent"
  | GenECCKeyPair => "GenECCKeyPair"
  | GenRSAKeyPair => "GenRSAKeyPair"
  | RSAVerify => "RSAVerify"
  | DigestInit => "DigestInit"
  | DigestUpdate => "DigestUpdate"
  | DigestFinal => "DigestFinal"
  | CloseHash => "CloseHash"

def all : List Method :=
  [GetProtocolVersion, SetLanguage, WaitForDevEvent, EnumProvider, EnumDevice, ConnectDev,
    EnumApplication,
    EnumContainer, DeleteContainer, IssueCertificate, ImportCertificate, SignData, ImportKeyPair,
    DisConnectDev, FindCertificates, GenerateRandom, Digest, CheckPIN, CreatePKCS10, EncryptData,
    DecryptData, GetDevInfo, GetDevState, SetLabel, ECCVerify, CreateContainer, GetContainerType,
    RSASignData, LockDev, UnlockDev, Transmit, CancelWaitForDevEvent, GenECCKeyPair, GenRSAKeyPair,
    RSAVerify, DigestInit, DigestUpdate, DigestFinal, CloseHash]

def ofName (name : String) : Option Method := all.find? (·.name = name)

theorem ofName_name (method : Method) : ofName method.name = some method := by
  cases method <;> rfl

/-- The branch of a method, apart from the two that answer without asking anything. -/
def branch (ctx : SkfContext) (params : Params) (lang : Language) : Method → Handler RpcResponse
  | GetProtocolVersion => .done (GetProtocolVersion.respond ctx params)
  | SetLanguage => .done (SetLanguage.respond ctx params lang).1
  | WaitForDevEvent => WaitForDevEvent.handle ctx params lang
  | EnumProvider => .done (EnumProvider.respond ctx params lang)
  | EnumDevice => EnumDevice.handle ctx params lang
  | ConnectDev => ConnectDev.handle ctx params lang
  | EnumApplication => EnumApplication.handle ctx params lang
  | EnumContainer => EnumContainer.handle ctx params lang
  | DeleteContainer => DeleteContainer.handle ctx params lang
  | IssueCertificate => IssueCertificate.handle ctx params
  | ImportCertificate => ImportCertificate.handle ctx params lang
  | SignData => SignData.handle ctx params lang
  | ImportKeyPair => ImportKeyPair.handle ctx params lang
  | DisConnectDev => DisConnectDev.handle params
  | FindCertificates => FindCertificates.handle ctx params
  | GenerateRandom => GenerateRandom.handle params lang
  | Digest => Digest.handle ctx params lang
  | CheckPIN => CheckPIN.handle ctx params lang
  | CreatePKCS10 => CreatePKCS10.handle ctx params lang
  | EncryptData => EncryptData.handle ctx params lang
  | DecryptData => DecryptData.handle ctx params lang
  | GetDevInfo => GetDevInfo.handle ctx params lang
  | GetDevState => GetDevState.handle ctx params lang
  | SetLabel => SetLabel.handle ctx params lang
  | ECCVerify => ECCVerify.handle ctx params lang
  | CreateContainer => CreateContainer.handle ctx params lang
  | GetContainerType => GetContainerType.handle ctx params lang
  | RSASignData => RSASignData.handle ctx params lang
  | LockDev => LockDev.handle ctx params lang
  | UnlockDev => UnlockDev.handle ctx params lang
  | Transmit => Transmit.handle ctx params lang
  | CancelWaitForDevEvent => CancelWaitForDevEvent.handle ctx params lang
  | GenECCKeyPair => GenECCKeyPair.handle ctx params lang
  | GenRSAKeyPair => GenRSAKeyPair.handle ctx params lang
  | RSAVerify => RSAVerify.handle ctx params lang
  | DigestInit => DigestInit.handle ctx params lang
  | DigestUpdate => DigestUpdate.handle ctx params lang
  | DigestFinal => DigestFinal.handle params lang
  | CloseHash => CloseHash.handle params

def languageAfter (ctx : SkfContext) (params : Params) (lang : Language) : Method → Language
  | SetLanguage => (SetLanguage.respond ctx params lang).2
  | _ => lang

def isRestricted : Method → Bool
  | IssueCertificate | Transmit => true
  | _ => false

/-- The wait and cancel pair, exempt from the request timeout. -/
def isWait : Method → Bool
  | WaitForDevEvent | CancelWaitForDevEvent => true
  | _ => false

end Method

def restrictedEnabled (platform : Platform) : Bool :=
  match platform.env "SKF_RESTRICT_LEGACY" with
  | some value => toAsciiLowercase (trim value) = "1" || toAsciiLowercase (trim value) = "true"
  | none => false

def CURRENT_API_VERSION : UInt32 := 1

def unsupportedVersion (req : RpcRequest) : Option RpcResponse :=
  match req.apiVersion with
  | some requested =>
    if CURRENT_API_VERSION < requested then
      some (.err (-1) ("Unsupported apiVersion " ++ decimal requested.toNat ++
        "; this service supports up to " ++ decimal CURRENT_API_VERSION.toNat) req.id)
    else none
  | none => none

def restrictedRejection (platform : Platform) (method : Method) (id : Option Json) :
    Option RpcResponse :=
  if restrictedEnabled platform && method.isRestricted then
    some (.err (-100) ("Method " ++ method.name ++
      " is restricted in this deployment; see RELEASE-NOTES.md") id)
  else none

def rejectedEarly (platform : Platform) (req : RpcRequest) : Option RpcResponse :=
  (unsupportedVersion req).or
    ((Method.ofName req.method).bind fun method => restrictedRejection platform method req.id)

/-- Settles a branch: an early reply is its response, a panic unwinds the task. -/
def settleBranch {A : Type} (body : Handler A) (early : RpcResponse → A) : Program Skf Panic A :=
  body.recover fun exit =>
    match exit with
    | .reply response => .done (early response)
    | .panic why => .stop why

def answer (ctx : SkfContext) (req : RpcRequest) (lang : Language) :
    Program Skf Panic (RpcResponse × Language) :=
  match rejectedEarly ctx.platform req with
  | some rejection => .done (rejection, lang)
  | none =>
    match Method.ofName req.method with
    | none => .done (.err (-3) ("Method " ++ req.method ++ " not found") req.id, lang)
    | some method =>
      let params : Params := ⟨req.params, req.id⟩
      settleBranch ((fun response => (response, method.languageAfter ctx params lang)) <$>
        method.branch ctx params lang) (·, lang)

def handleRequest (ctx : SkfContext) (text : String) (lang : Language) :
    Program Skf Panic (RpcResponse × Language) :=
  match ctx.platform.parseRequest text with
  | .error reason => .done (.err (-1) ("Invalid JSON: " ++ reason) none, lang)
  | .ok req => answer ctx req lang

end SkfService
