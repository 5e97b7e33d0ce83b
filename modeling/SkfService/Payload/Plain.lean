import SkfService.Dispatch.Applications

/-! The branches that hand no structure of a client's to a library. -/

set_option autoImplicit false

namespace SkfService

open Text Interaction Program Handler

/-- No call of the program takes a pointer to a structure. -/
abbrev Plain {A : Type} (p : Handler A) : Prop := Confined (fun op => op.structured = false) p

def Method.decoding : Method → Bool
  | .SignData | .RSASignData | .EncryptData | .DecryptData | .ImportCertificate | .ImportKeyPair
  | .Digest | .ECCVerify | .RSAVerify | .Transmit | .DigestInit | .DigestUpdate => true
  | _ => false

theorem plain_branch {ctx : SkfContext} {params : Params} {lang : Language} {method : Method}
    (other : method.decoding = false) : Plain (method.branch ctx params lang) := by
  cases method with
  | GetProtocolVersion | SetLanguage | EnumProvider => exact asks_done _
  | WaitForDevEvent => exact confined_wait
  | EnumDevice => exact confined_enumDevice
  | ConnectDev => exact confined_connect
  | EnumApplication => exact confined_enumApplication
  | EnumContainer => exact confined_enumContainer
  | DeleteContainer => exact confined_deleteContainer
  | IssueCertificate => exact confined_issueCertificate
  | DisConnectDev => exact confined_disConnect
  | FindCertificates => exact confined_findCertificates
  | GenerateRandom => exact confined_generateRandom
  | CheckPIN => exact confined_checkPIN
  | CreatePKCS10 => exact @confined_createPKCS10 _ _ ctx params lang _
  | GetDevInfo => exact confined_getDevInfo
  | GetDevState => exact confined_getDevState
  | SetLabel => exact confined_setLabel fun _ _ => rfl
  | CreateContainer => exact confined_createContainer
  | GetContainerType => exact confined_getContainerType
  | LockDev => exact confined_lockDev fun _ _ => rfl
  | UnlockDev => exact confined_unlockDev fun _ => rfl
  | CancelWaitForDevEvent => exact confined_cancelWait
  | GenECCKeyPair => exact confined_genECCKeyPair
  | GenRSAKeyPair => exact confined_genRSAKeyPair
  | DigestFinal => exact confined_digestFinal
  | CloseHash => exact confined_closeHash
  | SignData | RSASignData | EncryptData | DecryptData | ImportCertificate | ImportKeyPair | Digest
  | ECCVerify | RSAVerify | Transmit | DigestInit | DigestUpdate => cases other

end SkfService
