import SkfService.Domain.Common

/-! `CheckPIN` and the container and certificate handlers. -/

set_option autoImplicit false

namespace SkfService

open Text Interaction Handler

/-- Params `[certKey, pin]`. A verified PIN is kept as a deadline only. -/
def CheckPIN.handle (ctx : SkfContext) (params : Params) (lang : Language) : Handler RpcResponse :=
  do
  let certKey ← orReply (params.requiredStr 0 "Missing certKey param")
  let pinStr ← orReply (params.requiredStr 1 "Missing PIN param")
  let parts ← expect (splitCertKey certKey 3)
    (.err (-2) "Invalid certKey format, expected at least: provider/device/app" params.id)
  let provName := ctx.normalizeAlias (parts.getD 0 "")
  let devName := parts.getD 1 ""
  let appName := parts.getD 2 ""
  let library ← resolveOr ctx provName (loadFailed · params.id)
  let applicationMessage (code : ULONG) : String :=
    failedAs "OpenApplication" code ++ if code = 0x0A00002E then " (Application Not Exists)" else ""
  withDevice library provName devName params.id fun device =>
    withApplication device appName (applicationLost provName devName applicationMessage params.id)
      fun application => do
        match ← settled (← provider (.verifyPin application pinStr)) with
        | .error e =>
          let message (code : ULONG) : String :=
            lang.pick ("PIN验证失败: 0x" ++ hex8 code ++ ", 剩余次数: 0")
              ("VerifyPIN failed: 0x" ++ hex8 code ++ ", retries left: 0")
          return nativeFailure e message params.id
        | .ok outcome =>
          if outcome.success then
            match ← session (.grant ⟨provName, devName, appName⟩) with
            | (_, true) => return .ok (.bool true) params.id
            | (_, false) => panic .deadlineOverflow
          else
            let left := decimal outcome.retryCount.toNat
            return .err (codeAsI32 outcome.code)
              (lang.pick ("PIN验证失败: 0x" ++ hex8 outcome.code ++ ", 剩余次数: " ++ left)
                ("VerifyPIN failed: 0x" ++ hex8 outcome.code ++ ", retries left: " ++ left))
                  params.id

def containerNames (params : Params) : Handler (String × String × String) := do
  let devName ← orReply (params.requiredStr 1 "Missing deviceName param")
  let appName ← orReply (params.requiredStr 2 "Missing appName param")
  let contName ← orReply (params.requiredStr 3 "Missing containerName param")
  return (devName, appName, contName)

/-- Params `[provider, device, app, container]`. The created container is closed at once. -/
def CreateContainer.handle (ctx : SkfContext) (params : Params) (lang : Language) :
    Handler RpcResponse := do
  let provName := ctx.normalizeAlias (params.optionalStr 0 "")
  let (devName, appName, contName) ← containerNames params
  let library ← resolveOr ctx provName (loadFailed · params.id)
  withAuthorized library provName devName appName params.id fun application => do
    match ← settled (← provider (.createContainer application contName)) with
    | .ok raw =>
      provider (.close (.container ⟨application, contName, raw⟩))
      return .ok (.string contName) params.id
    | .error e => return nativeFailure e (failedIn lang "创建容器失败" "CreateContainer") params.id

/-- Params `[provider, device, app, container]`. There is no authorization check, and an empty alias
is not folded into the default. -/
def DeleteContainer.handle (ctx : SkfContext) (params : Params) (lang : Language) :
    Handler RpcResponse := do
  let provName := params.optionalStr 0 ctx.config.default
  let (devName, appName, contName) ← containerNames params
  let library ← resolveOr ctx provName (loadFailed · params.id)
  withDeviceApplication library provName devName appName params.id fun application => do
    let outcome ← settled (← provider (.deleteContainer application contName))
    return concluded outcome (fun _ => .bool true)
      (failedIn lang "删除容器失败" "DeleteContainer") params.id

def containerTypeName (containerType : UInt32) : String :=
  if containerType = 1 then "Sign"
  else if containerType = 2 then "Enc"
  else if containerType = 3 then "Both"
  else "Unknown"

/-- Params `[provider, device, app, container]`. -/
def GetContainerType.handle (ctx : SkfContext) (params : Params) (lang : Language) :
    Handler RpcResponse := do
  let provName := ctx.normalizeAlias (params.optionalStr 0 "")
  let (devName, appName, contName) ← containerNames params
  let library ← resolveOr ctx provName (loadFailed · params.id)
  withDeviceApplication library provName devName appName params.id fun application =>
    withContainer application contName params.id fun container => do
      let outcome ← settled (← provider (.containerType container))
      let result (containerType : UInt32) : Json := .ofFields
        [("type", .ofU32 containerType), ("typeStr", .string (containerTypeName containerType))]
      return concluded outcome result (failedIn lang "获取容器类型失败" "GetContainerType") params.id

/-- A PEM text that does not decode after its markers and line ends are stripped counts as raw
bytes. -/
def decodeCertificate (errorText : DecodeErrorText) (certStr : String) :
    Except String (List UInt8) :=
  if contains "-----BEGIN" certStr then
    let body :=
      replace "-----END CERTIFICATE-----" "" (replace "-----BEGIN CERTIFICATE-----" "" certStr)
    let b64 : String := .ofList (body.toList.filter fun c => c != '\n' && c != '\r')
    match Base64.decode b64 with
    | some bytes => .ok bytes
    | none => .ok (utf8 certStr)
  else decodeBase64 errorText certStr

/-- Params `[provider, device, app, container, signFlag, cert]`. -/
def ImportCertificate.handle (ctx : SkfContext) (params : Params) (lang : Language) :
    Handler RpcResponse := do
  let provName := params.optionalStr 0 ctx.config.default
  let (devName, appName, contName) ← containerNames params
  let signFlag ← expect (params.bool 4) (.err (-2) "Missing bSignFlag param" params.id)
  let certStr ← orReply (params.requiredStr 5 "Missing certData param")
  -- The size is checked on the text, before it is decoded.
  orReply (params.checkPayloadLen certStr)
  let certBytes ← orReply
    ((decodeCertificate ctx.platform.base64Error certStr).mapError fun reason =>
    .err (-3) ("Invalid cert base64: " ++ reason) params.id)
  let library ← resolveOr ctx provName (loadFailed · params.id)
  withGrantedContainer library provName devName appName contName params.id fun container => do
    let outcome ← settled (← provider (.importCertificate container signFlag certBytes))
    return concluded outcome (fun _ => .bool true)
      (failedIn lang "导入证书失败" "ImportCertificate") params.id

end SkfService
