import SkfService.Dispatch.Applications

/-! The classes of the methods, and what the branch of a method may change. -/

set_option autoImplicit false

namespace SkfService

open Text Interaction Program Handler

inductive OperationClass
  | ReadOnly
  | Destructive
  deriving DecidableEq

/-- The table has no entry for `ImportKeyPair`. -/
def CLASSIFIED_METHODS : List (String × OperationClass) :=
  [("SetLanguage", .ReadOnly), ("WaitForDevEvent", .ReadOnly), ("EnumProvider", .ReadOnly),
    ("EnumDevice", .ReadOnly),
    ("ConnectDev", .Destructive), ("EnumApplication", .ReadOnly), ("EnumContainer", .ReadOnly),
    ("DeleteContainer", .Destructive), ("IssueCertificate", .Destructive),
    ("ImportCertificate", .Destructive),
    ("SignData", .ReadOnly), ("DisConnectDev", .Destructive), ("FindCertificates", .ReadOnly),
    ("GenerateRandom", .ReadOnly), ("Digest", .ReadOnly), ("CheckPIN", .Destructive),
    ("CreatePKCS10", .Destructive),
    ("EncryptData", .ReadOnly), ("DecryptData", .ReadOnly), ("GetDevInfo", .ReadOnly),
    ("GetDevState", .ReadOnly),
    ("SetLabel", .Destructive), ("ECCVerify", .ReadOnly), ("CreateContainer", .Destructive),
    ("GetContainerType", .ReadOnly), ("RSASignData", .ReadOnly), ("LockDev", .Destructive),
    ("UnlockDev", .Destructive),
    ("Transmit", .Destructive), ("CancelWaitForDevEvent", .ReadOnly),
    ("GenECCKeyPair", .Destructive),
    ("GenRSAKeyPair", .Destructive), ("RSAVerify", .ReadOnly), ("DigestInit", .ReadOnly),
    ("DigestUpdate", .ReadOnly),
    ("DigestFinal", .ReadOnly), ("CloseHash", .ReadOnly), ("GetProtocolVersion", .ReadOnly)]

def classify (method : String) : Option OperationClass :=
  (CLASSIFIED_METHODS.find? fun entry => entry.1 = method).map fun entry => entry.2

def Method.changes : Method → List Change
  | CheckPIN => [.pinRetries]
  | CreateContainer | DeleteContainer => [.containers]
  | ImportCertificate => [.certificates]
  | ImportKeyPair | GenECCKeyPair | GenRSAKeyPair => [.keyPairs]
  | CreatePKCS10 => [.containers, .keyPairs]
  | SetLabel => [.label]
  | LockDev | UnlockDev => [.lock]
  | Transmit => [.command]
  | _ => []

abbrev ChangesWithin (changes : List Change) {A : Type} (p : Handler A) : Prop :=
  Confined (fun op => op.within changes = true) p

section branches

variable {ctx : SkfContext} {params : Params} {lang : Language}

theorem within_branch_nil {method : Method} (quiet : method.changes = []) :
    ChangesWithin [] (method.branch ctx params lang) := by
  cases method with
  | GetProtocolVersion | SetLanguage | EnumProvider => exact asks_done _
  | WaitForDevEvent => exact confined_wait
  | EnumDevice => exact confined_enumDevice
  | ConnectDev => exact confined_connect
  | EnumApplication => exact confined_enumApplication
  | EnumContainer => exact confined_enumContainer
  | IssueCertificate => exact confined_issueCertificate
  | SignData => exact confined_signData
  | DisConnectDev => exact confined_disConnect
  | FindCertificates => exact confined_findCertificates
  | GenerateRandom => exact confined_generateRandom
  | Digest => exact confined_digest
  | EncryptData => exact confined_encryptData fun _ _ _ _ _ => rfl
  | DecryptData => exact confined_decryptData fun _ _ _ _ _ => rfl
  | GetDevInfo => exact confined_getDevInfo
  | GetDevState => exact confined_getDevState
  | ECCVerify => exact confined_eccVerify fun _ _ _ _ => rfl
  | GetContainerType => exact confined_getContainerType
  | RSASignData => exact confined_rsaSignData
  | CancelWaitForDevEvent => exact confined_cancelWait
  | RSAVerify => exact confined_rsaVerify fun _ _ _ _ => rfl
  | DigestInit => exact confined_digestInit
  | DigestUpdate => exact confined_digestUpdate
  | DigestFinal => exact confined_digestFinal
  | CloseHash => exact confined_closeHash
  | CheckPIN | CreateContainer | DeleteContainer | ImportCertificate | ImportKeyPair | GenECCKeyPair
  | GenRSAKeyPair | CreatePKCS10 | SetLabel | LockDev | UnlockDev | Transmit => cases quiet

theorem within_branch (method : Method) :
    ChangesWithin method.changes (method.branch ctx params lang) := by
  cases method with
  | CheckPIN => exact (confined_checkPIN : ChangesWithin [.pinRetries] _)
  | CreateContainer => exact (confined_createContainer : ChangesWithin [.containers] _)
  | DeleteContainer => exact (confined_deleteContainer : ChangesWithin [.containers] _)
  | ImportCertificate => exact (confined_importCertificate : ChangesWithin [.certificates] _)
  | ImportKeyPair =>
    exact (confined_importKeyPair (fun _ _ => rfl) fun _ _ _ _ => rfl : ChangesWithin [.keyPairs] _)
  | GenECCKeyPair => exact (confined_genECCKeyPair : ChangesWithin [.keyPairs] _)
  | GenRSAKeyPair => exact (confined_genRSAKeyPair : ChangesWithin [.keyPairs] _)
  | CreatePKCS10 =>
    exact @confined_createPKCS10 (fun op => op.within [.containers, .keyPairs] = true) _ ctx
      params lang _
  | SetLabel => exact (confined_setLabel fun _ _ => rfl : ChangesWithin [.label] _)
  | LockDev => exact (confined_lockDev fun _ _ => rfl : ChangesWithin [.lock] _)
  | UnlockDev => exact (confined_unlockDev fun _ => rfl : ChangesWithin [.lock] _)
  | Transmit => exact (confined_transmit fun _ _ _ => rfl : ChangesWithin [.command] _)
  | _ => exact within_branch_nil rfl

end branches

section classes

/-- A method that changes something is classified as destructive, or it has no class at all. -/
theorem classify_changes {method : Method} (changes : method.changes ≠ []) :
    classify method.name = some .Destructive ∨
      (method = .ImportKeyPair ∧ classify method.name = none) := by
  cases method with
  | ImportKeyPair => exact .inr ⟨rfl, by decide⟩
  | CheckPIN | CreateContainer | DeleteContainer | ImportCertificate | GenECCKeyPair | GenRSAKeyPair
  | CreatePKCS10 | SetLabel | LockDev | UnlockDev | Transmit => exact .inl (by decide)
  | _ => exact absurd rfl changes

theorem changes_command {method : Method} (sends : Change.command ∈ method.changes) :
    method = .Transmit := by
  cases method <;> first | rfl | simp [Method.changes] at sends

end classes

end SkfService
