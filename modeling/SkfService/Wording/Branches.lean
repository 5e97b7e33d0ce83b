import SkfService.Wording.Rules
import SkfService.Dispatch.HandleRequest

/-! No branch does anything with the session's language but word its messages. -/

set_option autoImplicit false

namespace SkfService

open Text Interaction Program Handler

namespace Reworded

variable {ctx : SkfContext} {params : Params} {lang lang' : Language}

theorem checkPIN :
    (CheckPIN.handle ctx params lang).SameButMessage (CheckPIN.handle ctx params lang') := by
  unfold CheckPIN.handle
  apply after
  intro certKey
  apply after
  intro pinStr
  apply after
  intro parts
  apply after
  intro library
  apply withDevice
  intro device
  apply withApplication
  intro application
  apply after
  intro attempt
  apply after
  intro verified
  cases verified with
  | error e => exact answers (.nativeFailure _ _ _ _)
  | ok outcome =>
    apply ite
    · intro success
      exact branch _
    · intro refused
      exact answers (.err _ _ _ _)

theorem createContainer :
    (CreateContainer.handle ctx params lang).SameButMessage
      (CreateContainer.handle ctx params lang') := by
  unfold CreateContainer.handle
  apply after
  rintro ⟨devName, appName, contName⟩
  apply after
  intro library
  apply withAuthorized
  intro application
  apply after
  intro attempt
  apply after
  intro created
  cases created with
  | ok raw => exact branch _
  | error e => exact answers (.nativeFailure _ _ _ _)

theorem deleteContainer :
    (DeleteContainer.handle ctx params lang).SameButMessage
      (DeleteContainer.handle ctx params lang') := by
  unfold DeleteContainer.handle
  apply after
  rintro ⟨devName, appName, contName⟩
  apply after
  intro library
  apply withDeviceApplication
  intro application
  apply after
  intro attempt
  apply after
  intro outcome
  exact answers (.concluded _ _ _ _ _)

theorem getContainerType :
    (GetContainerType.handle ctx params lang).SameButMessage
      (GetContainerType.handle ctx params lang') := by
  unfold GetContainerType.handle
  apply after
  rintro ⟨devName, appName, contName⟩
  apply after
  intro library
  apply withDeviceApplication
  intro application
  apply withContainer
  intro container
  apply after
  intro attempt
  apply after
  intro outcome
  exact answers (.concluded _ _ _ _ _)

theorem importCertificate :
    (ImportCertificate.handle ctx params lang).SameButMessage
      (ImportCertificate.handle ctx params lang') := by
  unfold ImportCertificate.handle
  apply after
  rintro ⟨devName, appName, contName⟩
  apply after
  intro signFlag
  apply after
  intro certStr
  apply after
  intro checked
  apply after
  intro certBytes
  apply after
  intro library
  apply withGrantedContainer
  intro container
  apply after
  intro attempt
  apply after
  intro outcome
  exact answers (.concluded _ _ _ _ _)

theorem generateKeyPair (fallback : UInt64)
    {generate generate' : Container → ULONG → Handler RpcResponse}
    (generates : ∀ container number,
      (generate container number).SameButMessage (generate' container number)) :
    (SkfService.generateKeyPair ctx params lang fallback generate).SameButMessage
      (SkfService.generateKeyPair ctx params lang' fallback generate') := by
  unfold SkfService.generateKeyPair
  apply after
  intro providerName
  apply after
  rintro ⟨devName, appName, contName⟩
  apply andThen (resolveOr ctx providerName fun reason => .loadFailedLocalized _ _ _ _)
  intro library
  apply withGrantedContainer
  intro container
  exact generates container _

theorem genECCKeyPair :
    (GenECCKeyPair.handle ctx params lang).SameButMessage
      (GenECCKeyPair.handle ctx params lang') := by
  apply generateKeyPair
  intro container algId
  apply after
  intro attempt
  apply after
  intro outcome
  exact answers (.concluded _ _ _ _ _)

theorem genRSAKeyPair :
    (GenRSAKeyPair.handle ctx params lang).SameButMessage
      (GenRSAKeyPair.handle ctx params lang') := by
  apply generateKeyPair
  intro container bitsLen
  apply after
  intro attempt
  apply after
  intro outcome
  exact answers (.concluded _ _ _ _ _)

theorem withSigningContainer {sign sign' : Container → List UInt8 → Handler RpcResponse}
    (signs : ∀ container data, (sign container data).SameButMessage (sign' container data)) :
    (SkfService.withSigningContainer ctx params sign).SameButMessage
      (SkfService.withSigningContainer ctx params sign') := by
  unfold SkfService.withSigningContainer
  apply after
  intro certKey
  apply after
  intro dataB64
  apply after
  rintro ⟨provName, devName, appName, contName⟩
  apply after
  intro dataBytes
  apply after
  intro library
  apply withGrantedContainer
  intro container
  exact signs container dataBytes

theorem signData :
    (SignData.handle ctx params lang).SameButMessage (SignData.handle ctx params lang') := by
  apply withSigningContainer
  intro container dataBytes
  apply after
  intro asked
  apply after
  intro queried
  apply ite
  · intro ecc
    apply after
    intro attempt
    apply after
    intro signed
    cases signed with
    | ok sig => exact branch _
    | error e => exact answers (.nativeFailure _ _ _ _)
  · intro rsa
    apply after
    intro attempt
    apply after
    intro outcome
    exact answers (.concluded _ _ _ _ _)

theorem rsaSignData :
    (RSASignData.handle ctx params lang).SameButMessage (RSASignData.handle ctx params lang') := by
  apply withSigningContainer
  intro container dataBytes
  apply after
  intro attempt
  apply after
  intro outcome
  exact answers (.concluded _ _ _ _ _)

theorem setSymmKey (container : Container) (symKey : Option (List UInt8)) (id : Option Json) :
    Reworded Eq (SkfService.setSymmKey container symKey lang id)
      (SkfService.setSymmKey container symKey lang' id) := by
  cases symKey with
  | none => exact same _
  | some keyBytes =>
    apply ite
    · intro length
      exact replies (.refl _)
    · intro length
      apply after
      intro attempt
      apply after
      intro accepted
      cases accepted with
      | ok done => exact .done rfl
      | error e => exact replies (.nativeFailure _ _ _ _)

theorem withSymmetricKey (missingData invalidData : String)
    {cipher cipher' : Container → List UInt8 → ULONG → List UInt8 → Handler RpcResponse}
    (ciphers : ∀ container iv padding data,
      (cipher container iv padding data).SameButMessage (cipher' container iv padding data)) :
    (SkfService.withSymmetricKey ctx params lang missingData invalidData cipher).SameButMessage
      (SkfService.withSymmetricKey ctx params lang' missingData invalidData cipher') := by
  unfold SkfService.withSymmetricKey
  apply after
  intro certKey
  apply after
  intro dataB64
  apply after
  intro ivB64
  apply after
  intro symKey
  apply after
  rintro ⟨provName, devName, appName, contName⟩
  apply after
  intro dataBytes
  apply after
  intro ivBytes
  apply after
  intro library
  apply withGrantedContainer
  intro container
  apply andThen (setSymmKey container symKey params.id)
  intro keyed
  exact ciphers container ivBytes _ dataBytes

theorem encryptData :
    (EncryptData.handle ctx params lang).SameButMessage (EncryptData.handle ctx params lang') := by
  apply withSymmetricKey
  intro container iv padding data
  apply after
  intro attempt
  apply after
  intro outcome
  exact answers (.concluded _ _ _ _ _)

theorem decryptData :
    (DecryptData.handle ctx params lang).SameButMessage (DecryptData.handle ctx params lang') := by
  apply withSymmetricKey
  intro container iv padding data
  apply after
  intro attempt
  apply after
  intro outcome
  exact answers (.concluded _ _ _ _ _)

theorem connectDev :
    (ConnectDev.handle ctx params lang).SameButMessage (ConnectDev.handle ctx params lang') := by
  unfold ConnectDev.handle
  apply after
  intro name
  apply after
  intro attempt
  apply after
  intro opened
  cases opened with
  | ok raw => exact branch _
  | error e => exact answers (.nativeOr _ _ _ _ _ _)

theorem generateRandom :
    (GenerateRandom.handle params lang).SameButMessage (GenerateRandom.handle params lang') := by
  unfold GenerateRandom.handle
  apply after
  intro handle
  apply after
  intro len
  apply after
  intro held
  cases held with
  | error reason => exact branch _
  | ok guard =>
    apply after
    intro attempt
    apply after
    intro filled
    cases filled with
    | ok bytes => exact branch _
    | error e => exact answers (.nativeOr _ _ _ _ _ _)

theorem digestInit :
    (DigestInit.handle ctx params lang).SameButMessage (DigestInit.handle ctx params lang') := by
  unfold DigestInit.handle
  apply after
  rintro ⟨provName, devName⟩
  apply ite
  · intro default
    apply after
    intro attempt
    apply after
    intro opened
    cases opened with
    | error e => exact answers (.nativeOr _ _ _ _ _ _)
    | ok raw =>
      apply after
      intro begun
      -- No reply means that the provider unwound: both runs unwind too.
      cases begun with
      | none => exact branch _
      | some begun =>
        cases begun with
        | ok hash => exact branch _
        | error e =>
          apply after
          intro closed
          exact answers (.nativeOr _ _ _ _ _ _)
  · intro other
    apply andThen (apiOr ctx provName fun reason => .loadLibFailed _ _ _ _ _)
    intro api
    exact branch _

theorem digestUpdate :
    (DigestUpdate.handle ctx params lang).SameButMessage
      (DigestUpdate.handle ctx params lang') := by
  unfold DigestUpdate.handle
  apply after
  intro handle
  apply after
  intro dataB64
  apply after
  intro dataBytes
  apply after
  intro held
  cases held with
  | error reason => exact branch _
  | ok digest =>
    apply after
    intro attempt
    apply after
    intro updated
    cases updated with
    | ok done => exact branch _
    | error e => exact answers (.nativeOr _ _ _ _ _ _)

theorem digestFinal :
    (DigestFinal.handle params lang).SameButMessage (DigestFinal.handle params lang') := by
  unfold DigestFinal.handle
  apply after
  intro handle
  apply after
  intro held
  cases held with
  | error reason => exact branch _
  | ok digest =>
    apply Alike.ensuring
    · apply after
      intro attempt
      apply after
      intro finalized
      cases finalized with
      | ok hash => exact branch _
      | error e => exact answers (.nativeOr _ _ _ _ _ _)
    · exact .refl (fun _ => trivial) exits_refl _

theorem cancelWaitForDevEvent :
    (CancelWaitForDevEvent.handle ctx params lang).SameButMessage
      (CancelWaitForDevEvent.handle ctx params lang') := by
  unfold CancelWaitForDevEvent.handle
  apply after
  intro attempt
  apply after
  intro cancelled
  cases cancelled with
  | ok done => exact branch _
  | error e =>
    cases e with
    | Native code context => exact answers (.err _ _ _ _)
    | _ => exact answers (.loadLibFailed _ _ _ _ _)

theorem enumDevice :
    (EnumDevice.handle ctx params lang).SameButMessage (EnumDevice.handle ctx params lang') := by
  unfold EnumDevice.handle
  apply ite
  · intro default
    apply after
    intro attempt
    apply after
    intro listed
    cases listed with
    | ok names => exact branch _
    | error e => exact answers (.nativeOr _ _ _ _ _ _)
  · intro other
    apply andThen (apiOr ctx _ fun reason => .loadLibFailed _ _ _ _ _)
    intro api
    exact enumerated _ _ _ _ _ _ _

theorem waitForDevEvent :
    (WaitForDevEvent.handle ctx params lang).SameButMessage
      (WaitForDevEvent.handle ctx params lang') := by
  unfold WaitForDevEvent.handle
  apply ite
  · intro default
    apply after
    intro attempt
    apply after
    intro waited
    cases waited with
    | ok event => exact branch _
    | error e => exact answers (.nativeOr _ _ _ _ _ _)
  · intro other
    apply andThen (apiOr ctx _ fun reason => .loadLibFailed _ _ _ _ _)
    intro api
    exact branch _

theorem enumApplication :
    (EnumApplication.handle ctx params lang).SameButMessage
      (EnumApplication.handle ctx params lang') := by
  unfold EnumApplication.handle
  apply after
  intro devName
  apply after
  intro api
  apply after
  intro device
  exact enumerated _ _ _ _ _ _ _

theorem enumContainer :
    (EnumContainer.handle ctx params lang).SameButMessage
      (EnumContainer.handle ctx params lang') := by
  unfold EnumContainer.handle
  apply after
  intro devName
  apply after
  intro appName
  apply after
  intro api
  apply after
  intro device
  apply after
  intro application
  exact enumerated _ _ _ _ _ _ _

theorem readKeyPair (ctx : SkfContext) (params : Params) :
    Reworded Eq (KeyPairRequest.read ctx params lang) (KeyPairRequest.read ctx params lang') := by
  unfold KeyPairRequest.read
  apply after
  intro devName
  apply after
  intro appName
  apply after
  intro contName
  apply after
  intro algStr
  apply after
  intro encKeyPairStr
  apply andThen (expect _ (.err _ _ _ _))
  intro sm4AlgId
  exact same _

theorem importKeyPair :
    (ImportKeyPair.handle ctx params lang).SameButMessage
      (ImportKeyPair.handle ctx params lang') := by
  unfold ImportKeyPair.handle
  apply andThen (readKeyPair ctx params)
  intro request
  exact branch _

theorem digest :
    (Digest.handle ctx params lang).SameButMessage (Digest.handle ctx params lang') := by
  unfold Digest.handle
  apply after
  intro provName
  apply after
  intro devName
  apply after
  intro dataB64
  apply after
  intro algId
  apply after
  intro dataBytes
  apply after
  intro api
  apply after
  intro device
  apply after
  rintro ⟨started, raw⟩
  apply ite
  · intro accepted
    apply after
    intro filled
    apply after
    intro disconnected
    exact ite (fun _ => branch _) fun _ => answers (.err _ _ _ _)
  · intro refused
    exact branch _

theorem getDevInfo :
    (GetDevInfo.handle ctx params lang).SameButMessage (GetDevInfo.handle ctx params lang') := by
  unfold GetDevInfo.handle
  apply after
  intro devName
  apply after
  intro api
  apply after
  intro device
  apply after
  rintro ⟨ret, info⟩
  exact ite (fun _ => branch _) fun _ => answers (.err _ _ _ _)

theorem getDevState :
    (GetDevState.handle ctx params lang).SameButMessage (GetDevState.handle ctx params lang') := by
  unfold GetDevState.handle
  apply after
  intro devName
  apply ite
  · intro default
    apply after
    intro attempt
    apply after
    intro answered
    cases answered with
    | ok state => exact branch _
    | error e => exact answers (.nativeOr _ _ _ _ _ _)
  · intro other
    apply after
    intro api
    apply after
    intro cDev
    apply after
    rintro ⟨ret, state⟩
    exact ite (fun _ => branch _) fun _ => answers (.err _ _ _ _)

theorem setLabel :
    (SetLabel.handle ctx params lang).SameButMessage (SetLabel.handle ctx params lang') := by
  unfold SetLabel.handle
  apply after
  intro devName
  apply after
  intro label
  apply after
  intro api
  apply after
  intro device
  apply after
  intro cLabel
  apply after
  intro ret
  exact answers (.codeReply _ _ _ _)

theorem eccVerify :
    (ECCVerify.handle ctx params lang).SameButMessage (ECCVerify.handle ctx params lang') := by
  unfold ECCVerify.handle
  apply after
  intro devName
  apply after
  intro pubKeyB64
  apply after
  intro dataB64
  apply after
  intro sigB64
  apply after
  intro pubKeyBytes
  apply after
  intro dataBytes
  apply after
  intro sigBytes
  apply ite
  · intro short
    exact branch _
  · intro long
    apply ite
    · intro short
      exact branch _
    · intro long
      apply after
      intro api
      apply after
      intro device
      apply after
      intro ret
      exact answers (.codeReply _ _ _ _)

theorem lockDev :
    (LockDev.handle ctx params lang).SameButMessage (LockDev.handle ctx params lang') := by
  unfold LockDev.handle
  apply after
  rintro ⟨provName, devName⟩
  apply andThen (loadedApi ctx provName lang lang' params.id)
  intro api
  apply after
  intro device
  apply after
  intro ret
  exact answers (.codeReply _ _ _ _)

theorem unlockDev :
    (UnlockDev.handle ctx params lang).SameButMessage (UnlockDev.handle ctx params lang') := by
  unfold UnlockDev.handle
  apply after
  rintro ⟨provName, devName⟩
  apply andThen (loadedApi ctx provName lang lang' params.id)
  intro api
  apply after
  intro device
  apply after
  intro ret
  exact answers (.codeReply _ _ _ _)

theorem transmit :
    (Transmit.handle ctx params lang).SameButMessage (Transmit.handle ctx params lang') := by
  unfold Transmit.handle
  apply after
  rintro ⟨provName, devName⟩
  apply after
  intro cmdB64
  apply after
  intro cmdBytes
  apply andThen (loadedApi ctx provName lang lang' params.id)
  intro api
  apply after
  intro device
  apply after
  intro filled
  exact ite (fun _ => branch _) fun _ => answers (.err _ _ _ _)

theorem rsaVerify :
    (RSAVerify.handle ctx params lang).SameButMessage (RSAVerify.handle ctx params lang') := by
  unfold RSAVerify.handle
  apply after
  rintro ⟨provName, devName⟩
  apply after
  intro pubKeyB64
  apply after
  intro dataB64
  apply after
  intro sigB64
  apply after
  intro pubKeyBytes
  apply ite
  · intro short
    exact branch _
  · intro long
    apply after
    intro dataBytes
    apply after
    intro sigBytes
    apply andThen (loadedApi ctx provName lang lang' params.id)
    intro api
    apply after
    intro device
    apply after
    intro ret
    exact answers (.codeReply _ _ _ _)

theorem enumProvider :
    (EnumProvider.respond ctx params lang).SameButMessage
      (EnumProvider.respond ctx params lang') := by
  unfold EnumProvider.respond
  dsimp only
  split
  · split
    · exact .refl _
    · exact .err _ _ _ _
  · exact .refl _

theorem setLanguage :
    (SetLanguage.respond ctx params lang).1.SameButMessage
      (SetLanguage.respond ctx params lang').1 := by
  unfold SetLanguage.respond
  split
  · exact .refl _
  · exact .refl _

end Reworded

/-- Every branch asks for the same and answers the same in either language, up to its message. -/
theorem branch_reworded (ctx : SkfContext) (params : Params) (lang lang' : Language)
    (method : Method) :
    (method.branch ctx params lang).SameButMessage (method.branch ctx params lang') := by
  -- The language reaches a branch through its messages only.
  cases method with
  | GetProtocolVersion | IssueCertificate | DisConnectDev | FindCertificates | CreatePKCS10
  | CloseHash =>
    exact Reworded.branch _
  | SetLanguage => exact Reworded.answers Reworded.setLanguage
  | EnumProvider => exact Reworded.answers Reworded.enumProvider
  | WaitForDevEvent => exact Reworded.waitForDevEvent
  | EnumDevice => exact Reworded.enumDevice
  | ConnectDev => exact Reworded.connectDev
  | EnumApplication => exact Reworded.enumApplication
  | EnumContainer => exact Reworded.enumContainer
  | DeleteContainer => exact Reworded.deleteContainer
  | ImportCertificate => exact Reworded.importCertificate
  | SignData => exact Reworded.signData
  | ImportKeyPair => exact Reworded.importKeyPair
  | GenerateRandom => exact Reworded.generateRandom
  | Digest => exact Reworded.digest
  | CheckPIN => exact Reworded.checkPIN
  | EncryptData => exact Reworded.encryptData
  | DecryptData => exact Reworded.decryptData
  | GetDevInfo => exact Reworded.getDevInfo
  | GetDevState => exact Reworded.getDevState
  | SetLabel => exact Reworded.setLabel
  | ECCVerify => exact Reworded.eccVerify
  | CreateContainer => exact Reworded.createContainer
  | GetContainerType => exact Reworded.getContainerType
  | RSASignData => exact Reworded.rsaSignData
  | LockDev => exact Reworded.lockDev
  | UnlockDev => exact Reworded.unlockDev
  | Transmit => exact Reworded.transmit
  | CancelWaitForDevEvent => exact Reworded.cancelWaitForDevEvent
  | GenECCKeyPair => exact Reworded.genECCKeyPair
  | GenRSAKeyPair => exact Reworded.genRSAKeyPair
  | RSAVerify => exact Reworded.rsaVerify
  | DigestInit => exact Reworded.digestInit
  | DigestUpdate => exact Reworded.digestUpdate
  | DigestFinal => exact Reworded.digestFinal

end SkfService
