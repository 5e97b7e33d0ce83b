import SkfService.Dispatch.Session

/-! The dispatcher's branches that call a library's symbol table themselves. They hold raw handles
and close them by hand on each of their returns. -/

set_option autoImplicit false

namespace SkfService

open Text Interaction Handler

/-- `CString::new(text).unwrap()`. -/
def cString (text : String) : Handler CString := unwrap (CString.new text) .interiorNul

def apiOr (ctx : SkfContext) (name : String) (failed : String → RpcResponse) : Handler Library := do
  match ← ctx.getApi name with
  | .ok api => return api
  | .error reason => reply (failed reason)

/-- A library loaded for this request only; one that does not load unwinds. -/
def loadedApi (ctx : SkfContext) (name : String) (lang : Language) (id : Option Json) :
    Handler Library := do
  let libPath ← orReply ((ctx.getLibPath name).mapError (loadLibFailed (-1) · lang id))
  match ← host (.loadLibrary libPath) with
  | .ok () => return ⟨name, none⟩
  | .error _ => panic .libraryNotLoaded

def defaulted (ctx : SkfContext) (params : Params) : String :=
  ctx.normalizeAlias ((params.str 0).getD "")

/-- Connects a device; one that does not connect loses its grants. -/
def connectDev (api : Library) (provName devName : String) (id : Option Json) : Handler Device := do
  let cDev ← cString devName
  let (ret, raw) ← vendor (.connectDev api cDev)
  if ret = SAR_OK then return ⟨api, devName, raw⟩
  else
    noteDeviceUnavailable provName devName
    reply (.err (codeAsI32 ret) (failedAs "ConnectDev" ret) id)

def disConnectDev (device : Device) : Handler Unit := do
  let _ret ← vendor (.disConnectDev device)
  return ()

/-- Opens an application of a connected device. When it does not open, the device is disconnected
and loses its grants. -/
def openApp (device : Device) (provName appName : String) (id : Option Json) :
    Handler Application := do
  let cApp ← cString appName
  let (ret, raw) ← vendor (.openApplication device cApp)
  if ret = SAR_OK then return ⟨device, appName, raw⟩
  else
    disConnectDev device
    -- Any failure counts as a lost device.
    noteDeviceUnavailable provName device.name
    reply (.err (codeAsI32 ret) (failedAs "OpenApplication" ret) id)

def closeApplication (application : Application) : Handler Unit := do
  let _ret ← vendor (.closeApplication application)
  return ()

def closeContainer (container : Container) : Handler Unit := do
  let _ret ← vendor (.closeContainer container)
  return ()

def namesOf (filled : Filled) : List String :=
  (((filled.memory.take filled.size.toNat).splitOn 0).filter (· ≠ [])).map fromUtf8Lossy

/-- Asks for the size of a name list, fetches it, and releases before the reply. -/
def enumerated (query : Option ULONG → Handler Filled) (release : Handler Unit)
    (sizeFailed listFailed : String) (id : Option Json) : Handler RpcResponse := do
  let sized ← query none
  if sized.ret ≠ SAR_OK ∨ sized.size = 0 then
    release
    if sized.ret = SAR_OK then return .ok (.strings []) id
    else return .err (codeAsI32 sized.ret) sizeFailed id
  else
    let filled ← query (some sized.size)
    release
    if filled.ret = SAR_OK then return .ok (.strings (namesOf filled)) id
    else return .err (codeAsI32 filled.ret) listFailed id

/-- Params `[provider?]`. -/
def EnumDevice.handle (ctx : SkfContext) (params : Params) (lang : Language) :
    Handler RpcResponse := do
  let provName := params.optionalStr 0 ctx.config.default
  let sizeFailed := lang.pick "枚举设备获取大小失败" "EnumDev failed size check"
  if provName = ctx.config.default then
    match ← settled (← provider (.enumDevices ctx.provider true)) with
    | .ok names => return .ok (.strings names) params.id
    | .error e => return nativeOr e (fun _ => sizeFailed) lang params.id
  else
    let api ← apiOr ctx provName (loadLibFailed (-5) · lang params.id)
    enumerated (fun buffer => vendor (.enumDev api true buffer)) (.done ()) sizeFailed
      (lang.pick "枚举设备失败" "EnumDev failed") params.id

/-- Params `[provider?, device]`. -/
def EnumApplication.handle (ctx : SkfContext) (params : Params) (lang : Language) :
    Handler RpcResponse := do
  let provName := params.optionalStr 0 ctx.config.default
  let devName ← orReply (params.requiredStr 1 "Missing deviceName param")
  let api ← apiOr ctx provName (loadFailed · params.id)
  let device ← connectDev api provName devName params.id
  enumerated (fun buffer => vendor (.enumApplication device buffer)) (disConnectDev device)
    (lang.pick "枚举应用获取大小失败" "EnumApplication failed size check")
    (lang.pick "枚举应用失败" "EnumApplication failed") params.id

/-- Params `[provider?, device, application]`. -/
def EnumContainer.handle (ctx : SkfContext) (params : Params) (lang : Language) :
    Handler RpcResponse := do
  let provName := params.optionalStr 0 ctx.config.default
  let devName ← orReply (params.requiredStr 1 "Missing deviceName param")
  let appName ← orReply (params.requiredStr 2 "Missing appName param")
  let api ← apiOr ctx provName (loadFailed · params.id)
  let device ← connectDev api provName devName params.id
  let application ← openApp device provName appName params.id
  let release : Handler Unit := do
    closeApplication application
    disConnectDev device
  enumerated (fun buffer => vendor (.enumContainer application buffer)) release
    (lang.pick "枚举容器获取大小失败" "EnumContainer failed size check")
    (lang.pick "枚举容器失败" "EnumContainer failed") params.id

/-- Params `[provider?]`. The wait takes no gate, so that a cancel can reach the library. -/
def WaitForDevEvent.handle (ctx : SkfContext) (params : Params) (lang : Language) :
    Handler RpcResponse := do
  let provName := params.optionalStr 0 ctx.config.default
  let message (code : ULONG) : String := "WaitForDevEvent failed: " ++ hexPlain code
  let result (name : String) (event : UInt32) : Json :=
    .ofFields [("deviceName", .string name), ("event", .ofU32 event)]
  if provName = ctx.config.default then
    match ← settled (← provider (.waitForEvent ctx.provider 256)) with
    | .ok (name, event) => return .ok (result name event) params.id
    | .error e => return nativeOr e message lang params.id
  else
    let api ← apiOr ctx provName (loadLibFailed (-1) · lang params.id)
    let (filled, event) ← vendor (.waitForDevEvent api 256)
    if filled.ret = SAR_OK then
      let actualLen := Nat.min filled.size.toNat 256
      let name := trimEndMatches (Char.ofNat 0) (fromUtf8Lossy (filled.memory.take actualLen))
      return .ok (result name event) params.id
    else return .err (codeAsI32 filled.ret) (message filled.ret) params.id

def SUPPORTED_SM4 (mode : Option String) : Option ULONG :=
  match mode with
  | some mode =>
    if eqIgnoreAsciiCase mode "CBC" then some SGD_SM4_CBC
    else if eqIgnoreAsciiCase mode "ECB" then some SGD_SM4_ECB
    else none
  | none => some SGD_SM4_ECB

structure KeyPairRequest where
  provName : String
  devName : String
  appName : String
  contName : String
  isEcc : Bool
  sm4AlgId : ULONG
  encKeyPair : List UInt8
  wrapKey : String

/-- Params `[provider, device, application, container, alg, encKeyPair, wrapKey?, sm4Mode?]`. -/
def KeyPairRequest.read (ctx : SkfContext) (params : Params) (lang : Language) :
    Handler KeyPairRequest := do
  let devName ← orReply (params.requiredStr 1 "Missing deviceName param")
  let appName ← orReply (params.requiredStr 2 "Missing appName param")
  let contName ← orReply (params.requiredStr 3 "Missing containerName param")
  let algStr ← orReply (params.requiredStr 4 "Missing alg param")
  let encKeyPairStr ← orReply (params.requiredStr 5 "Missing encKeyPair param")
  let mode := params.str 7
  let sm4AlgId ← expect (SUPPORTED_SM4 mode)
    (.err (-2) (lang.pick ("不支持的SM4模式: " ++ mode.getD "" ++ ", 支持: ECB, CBC")
      ("Unsupported SM4 mode: " ++ mode.getD "" ++ ", supported: ECB, CBC")) params.id)
  let isEcc := eqIgnoreAsciiCase algStr "SM2" || eqIgnoreAsciiCase algStr "ECC"
  let encKeyPair ← orReply
    ((decodeBase64 ctx.platform.base64Error encKeyPairStr).mapError fun reason =>
    .err (-3) ("Invalid encKeyPair base64: " ++ reason) params.id)
  return ⟨defaulted ctx params, devName, appName, contName, isEcc, sm4AlgId, encKeyPair,
    (params.str 6).getD ""⟩

/-- Imports into an open container; the container, the application and the device are closed before
either reply. -/
def ImportKeyPair.intoContainer (ctx : SkfContext) (request : KeyPairRequest)
    (container : Container) (id : Option Json) : Handler RpcResponse := do
  let release : Handler Unit := do
    closeContainer container
    closeApplication container.application
    disConnectDev container.application.device
  let ret ←
    if request.isEcc then vendor (.importEccKeyPair container request.encKeyPair)
    else
      match decodeBase64 ctx.platform.base64Error request.wrapKey with
      | .error reason => do
        release
        reply (.err (-3) ("Invalid wrapKey base64: " ++ reason) id)
      | .ok wrapKey =>
        vendor (.importRsaKeyPair container request.sm4AlgId wrapKey request.encKeyPair)
  release
  if ret = SAR_OK then return .ok (.bool true) id
  else return .err (codeAsI32 ret) (failedAs "ImportKeyPair" ret) id

/-- The unauthorized branch closes the application and the device twice. -/
def ImportKeyPair.unauthorized (application : Application) (id : Option Json) :
    Handler RpcResponse := do
  closeApplication application
  disConnectDev application.device
  closeApplication application
  disConnectDev application.device
  return .err (-10) "User not logged in (PIN cache empty). Call CheckPIN first." id

def ImportKeyPair.intoApplication (ctx : SkfContext) (request : KeyPairRequest)
    (application : Application) (id : Option Json) : Handler RpcResponse := do
  match ← session (.authorize ⟨request.provName, request.devName, request.appName⟩) with
  | (_, .error _) => ImportKeyPair.unauthorized application id
  | (_, .ok ()) =>
    let cCont ← cString request.contName
    let (ret, raw) ← vendor (.openContainer application cCont)
    if ret = SAR_OK then
      ImportKeyPair.intoContainer ctx request ⟨application, request.contName, raw⟩ id
    else
      closeApplication application
      disConnectDev application.device
      return .err (codeAsI32 ret) (failedAs "OpenContainer" ret) id

def ImportKeyPair.handle (ctx : SkfContext) (params : Params) (lang : Language) :
    Handler RpcResponse := do
  let request ← KeyPairRequest.read ctx params lang
  let api ← apiOr ctx request.provName (loadFailed · params.id)
  let device ← connectDev api request.provName request.devName params.id
  let application ← openApp device request.provName request.appName params.id
  ImportKeyPair.intoApplication ctx request application params.id

end SkfService
