import SkfService.Dispatch.Direct

/-! The symbol-table branches that do one thing with a connected device, and the certificate search. -/

set_option autoImplicit false

namespace SkfService

open Text Interaction Handler

/-- Decodes a base64 parameter of a branch that applies no payload limit. -/
def decodedOr (ctx : SkfContext) (encoded label : String) (id : Option Json) :
    Handler (List UInt8) :=
  orReply ((decodeBase64 ctx.platform.base64Error encoded).mapError fun reason =>
    .err (-2) ("Invalid base64 " ++ label ++ ": " ++ reason) id)

def withConnected {A : Type} (device : Device) (call : Handler A) : Handler A := do
  let result ← call
  disConnectDev device
  return result

def digestAlgorithm (name : String) : Option ULONG :=
  match name with
  | "SM3" => some SGD_SM3
  | "SHA1" => some 0x00000002
  | "SHA256" => some 0x00000004
  | _ => none

/-- Params `[provider, device, dataBase64, alg?]`. The hash object is not closed. -/
def Digest.handle (ctx : SkfContext) (params : Params) (lang : Language) : Handler RpcResponse := do
  let provName ← orReply (params.requiredStr 0 "Missing providerName param")
  let devName ← orReply (params.requiredStr 1 "Missing deviceName param")
  let dataB64 ← orReply (params.requiredStr 2 "Missing data param")
  let algName := params.optionalStr 3 "SM3"
  let algId ← expect (digestAlgorithm (ctx.platform.toUppercase algName))
    (.err (-2) ("Unsupported algorithm: " ++ algName) params.id)
  let dataBytes ← decodedOr ctx dataB64 "data" params.id
  let api ← apiOr ctx provName (loadFailed · params.id)
  let device ← connectDev api provName devName params.id
  let (started, raw) ← vendor (.digestInit device algId)
  if started = SAR_OK then
    let filled ← vendor (.digest ⟨device, raw⟩ dataBytes 64)
    disConnectDev device
    if filled.ret = SAR_OK then
      let hash := (filled.memory.take 64).take filled.size.toNat
      return .ok
        (.ofFields [("hex", .string (hexBytes hash)), ("base64", .string (Base64.encode hash)),
        ("algorithm", .string algName), ("length", .ofU32 filled.size)]) params.id
    else return .err (codeAsI32 filled.ret) (failedIn lang "摘要计算失败" "Digest" filled.ret) params.id
  else
    disConnectDev device
    return .err (codeAsI32 started) (failedAs "DigestInit" started) params.id

namespace DevInfo

def serialTail (info : DevInfo) : List UInt8 :=
  info.serialNumber ++ [info.hwVersion.major, info.hwVersion.minor, info.firmwareVersion.major,
    info.firmwareVersion.minor] ++ info.padding ++ leBytes info.algSymCap ++
    leBytes info.algAsymCap ++
    leBytes info.algHashCap ++ leBytes info.devAuthAlgId ++ leBytes info.totalSpace ++
    leBytes info.freeSpace ++ leBytes info.maxECCBufferSize ++ leBytes info.maxBufferSize ++
    info.reserved ++ info.beyond

def labelTail (info : DevInfo) : List UInt8 := info.label ++ info.serialTail

def issuerTail (info : DevInfo) : List UInt8 := info.issuer ++ info.labelTail

def manufacturerTail (info : DevInfo) : List UInt8 := info.manufacturer ++ info.issuerTail

end DevInfo

/-- `CStr::from_ptr` on memory: it reads up to the first NUL, wherever that is. -/
def cStrAt (memory : List UInt8) : String := fromUtf8Lossy (memory.takeWhile (· ≠ 0))

def versionJson (version : Version) : Json :=
  .ofFields [("major", .ofU32 version.major.toUInt32), ("minor", .ofU32 version.minor.toUInt32)]

def devInfoJson (info : DevInfo) : Json :=
  .ofFields [("version", versionJson info.version),
    ("manufacturer", .string (cStrAt info.manufacturerTail)),
    ("issuer", .string (cStrAt info.issuerTail)), ("label", .string (cStrAt info.labelTail)),
    ("serialNumber", .string (cStrAt info.serialTail)), ("hwVersion", versionJson info.hwVersion),
    ("firmwareVersion", versionJson info.firmwareVersion), ("algSymCap", .ofU32 info.algSymCap),
    ("algAsymCap", .ofU32 info.algAsymCap), ("algHashCap", .ofU32 info.algHashCap),
    ("devAuthAlgId", .ofU32 info.devAuthAlgId), ("totalSpace", .ofU32 info.totalSpace),
    ("freeSpace", .ofU32 info.freeSpace), ("maxECCBufferSize", .ofU32 info.maxECCBufferSize),
    ("maxBufferSize", .ofU32 info.maxBufferSize)]

/-- Params `[provider?, device]`. -/
def GetDevInfo.handle (ctx : SkfContext) (params : Params) (lang : Language) :
    Handler RpcResponse := do
  let provName := defaulted ctx params
  let devName ← orReply (params.requiredStr 1 "Missing deviceName param")
  let api ← apiOr ctx provName (loadFailed · params.id)
  let device ← connectDev api provName devName params.id
  let (ret, info) ← withConnected device (vendor (.getDevInfo device))
  if ret = SAR_OK then return .ok (devInfoJson info) params.id
  else return .err (codeAsI32 ret) (failedIn lang "获取设备信息失败" "GetDevInfo" ret) params.id

def stateName (state : UInt32) : String :=
  if state = 0 then "absent" else if state = 1 then "present" else if state = 2 then "busy"
  else "unknown"

def stateJson (state : UInt32) : Json :=
  .ofFields [("state", .ofU32 state), ("stateStr", .string (stateName state))]

/-- Params `[provider?, device]`. -/
def GetDevState.handle (ctx : SkfContext) (params : Params) (lang : Language) :
    Handler RpcResponse := do
  let provName := defaulted ctx params
  let devName ← orReply (params.requiredStr 1 "Missing deviceName param")
  let message := failedIn lang "获取设备状态失败" "GetDevState"
  if provName = ctx.config.default then
    match ← settled (← provider (.deviceState ctx.provider devName)) with
    | .ok state => return .ok (stateJson state) params.id
    | .error e => return nativeOr e message lang params.id
  else
    let api ← apiOr ctx provName (loadFailed · params.id)
    -- A NUL in the name unwinds here, where the provider reports it.
    let cDev ← cString devName
    let (ret, state) ← vendor (.getDevState api cDev)
    if ret = SAR_OK then return .ok (stateJson state) params.id
    else return .err (codeAsI32 ret) (message ret) params.id

def codeReply (ret : ULONG) (message : ULONG → String) (id : Option Json) : RpcResponse :=
  if ret = SAR_OK then .ok (.bool true) id else .err (codeAsI32 ret) (message ret) id

@[simp] theorem codeReply_id (ret : ULONG) (message : ULONG → String) (id : Option Json) :
    (codeReply ret message id).id = id := by
  unfold codeReply
  split <;> rfl

/-- Params `[provider?, device, label]`. -/
def SetLabel.handle (ctx : SkfContext) (params : Params) (lang : Language) : Handler RpcResponse :=
  do
  let provName := defaulted ctx params
  let devName ← orReply (params.requiredStr 1 "Missing deviceName param")
  let label ← orReply (params.requiredStr 2 "Missing label param")
  let api ← apiOr ctx provName (loadFailed · params.id)
  let device ← connectDev api provName devName params.id
  let cLabel ← cString label
  let ret ← withConnected device (vendor (.setLabel device cLabel))
  return codeReply ret (failedIn lang "设置设备标签失败" "SetLabel") params.id

/-- Params `[provider?, device, pubKeyBase64, dataBase64, signatureBase64]`. -/
def ECCVerify.handle (ctx : SkfContext) (params : Params) (lang : Language) : Handler RpcResponse :=
  do
  let provName := defaulted ctx params
  let devName ← orReply (params.requiredStr 1 "Missing deviceName param")
  let pubKeyB64 ← orReply (params.requiredStr 2 "Missing pubKey param")
  let dataB64 ← orReply (params.requiredStr 3 "Missing data param")
  let sigB64 ← orReply (params.requiredStr 4 "Missing signature param")
  let pubKeyBytes ← decodedOr ctx pubKeyB64 "pubKey" params.id
  let dataBytes ← decodedOr ctx dataB64 "data" params.id
  let sigBytes ← decodedOr ctx sigB64 "signature" params.id
  if pubKeyBytes.length < ECCPUBLICKEYBLOB_SIZE then
    reply (.err (-2) "pubKey too short for ECCPUBLICKEYBLOB" params.id)
  else if sigBytes.length < ECCSIGNATUREBLOB_SIZE then
    reply (.err (-2) "signature too short for ECCSIGNATUREBLOB" params.id)
  else
    -- What goes beyond the two structures is cut off.
    let eccPubKey := pubKeyBytes.take ECCPUBLICKEYBLOB_SIZE
    let eccSig := sigBytes.take ECCSIGNATUREBLOB_SIZE
    let api ← apiOr ctx provName (loadFailed · params.id)
    let device ← connectDev api provName devName params.id
    let ret ← withConnected device (vendor (.eccVerify device eccPubKey dataBytes eccSig))
    return codeReply ret (failedIn lang "ECC签名验证失败" "ECCVerify") params.id

def requiredNames (params : Params) : Handler (String × String) := do
  let provName ← orReply (params.requiredStr 0 "Missing providerName param")
  let devName ← orReply (params.requiredStr 1 "Missing deviceName param")
  return (provName, devName)

/-- Params `[provider, device, timeout?]`. -/
def LockDev.handle (ctx : SkfContext) (params : Params) (lang : Language) : Handler RpcResponse :=
  do
  let (provName, devName) ← requiredNames params
  let timeout := (params.optionalU64 2 5000).toUInt32
  let api ← loadedApi ctx provName lang params.id
  let device ← connectDev api provName devName params.id
  let ret ← withConnected device (vendor (.lockDev device timeout))
  return codeReply ret (failedIn lang "锁定设备失败" "LockDev") params.id

/-- Params `[provider, device]`. -/
def UnlockDev.handle (ctx : SkfContext) (params : Params) (lang : Language) : Handler RpcResponse :=
  do
  let (provName, devName) ← requiredNames params
  let api ← loadedApi ctx provName lang params.id
  let device ← connectDev api provName devName params.id
  let ret ← withConnected device (vendor (.unlockDev device))
  return codeReply ret (failedIn lang "解锁设备失败" "UnlockDev") params.id

/-- Params `[provider, device, commandBase64]`. -/
def Transmit.handle (ctx : SkfContext) (params : Params) (lang : Language) : Handler RpcResponse :=
  do
  let (provName, devName) ← requiredNames params
  let cmdB64 ← orReply (params.requiredStr 2 "Missing commandBase64 param")
  let cmdBytes ← decodedOr ctx cmdB64 "command" params.id
  let api ← loadedApi ctx provName lang params.id
  let device ← connectDev api provName devName params.id
  let filled ← withConnected device (vendor (.transmit device cmdBytes 4096))
  if filled.ret = SAR_OK then
    let response := (filled.memory.take 4096).take filled.size.toNat
    return .ok (.string (Base64.encode response)) params.id
  else return .err (codeAsI32 filled.ret) (failedIn lang "透传APDU失败" "Transmit" filled.ret) params.id

/-- Params `[provider, device, pubKeyBase64, dataBase64, signatureBase64]`. -/
def RSAVerify.handle (ctx : SkfContext) (params : Params) (lang : Language) : Handler RpcResponse :=
  do
  let (provName, devName) ← requiredNames params
  let pubKeyB64 ← orReply (params.requiredStr 2 "Missing pubKeyBase64 param")
  let dataB64 ← orReply (params.requiredStr 3 "Missing dataBase64 param")
  let sigB64 ← orReply (params.requiredStr 4 "Missing signatureBase64 param")
  let pubKeyBytes ← decodedOr ctx pubKeyB64 "publicKey" params.id
  if pubKeyBytes.length < RSAPUBLICKEYBLOB_SIZE then
    reply (.err (-2) "RSAPUBLICKEYBLOB data too short" params.id)
  else
    -- Data and signature are looked at only behind the check of the key.
    let dataBytes ← decodedOr ctx dataB64 "data" params.id
    let sigBytes ← decodedOr ctx sigB64 "signature" params.id
    let api ← loadedApi ctx provName lang params.id
    let device ← connectDev api provName devName params.id
    let rsaPubKey := pubKeyBytes.take RSAPUBLICKEYBLOB_SIZE
    let ret ← withConnected device (vendor (.rsaVerify device rsaPubKey dataBytes sigBytes))
    return codeReply ret (failedIn lang "RSA验签失败" "RSAVerify") params.id

/-- Another alias's part of `DigestInit`: it connects, disconnects and refuses. -/
def DigestInit.onOther (ctx : SkfContext) (provName devName : String) (lang : Language)
    (id : Option Json) :
    Handler RpcResponse := do
  let api ← apiOr ctx provName (loadLibFailed (-1) · lang id)
  let cDev ← cString devName
  let (ret, raw) ← vendor (.connectDev api cDev)
  if ret = SAR_OK then
    disConnectDev ⟨api, devName, raw⟩
    return .err (-1) "DigestInit requires the default provider" id
  else return .err (codeAsI32 ret) (failedAs "ConnectDev" ret) id

/-- Params `[provider, device, algId?, idBase64?]`. -/
def DigestInit.handle (ctx : SkfContext) (params : Params) (lang : Language) :
    Handler RpcResponse := do
  let (provName, devName) ← requiredNames params
  let algId := (params.optionalU64 2 SGD_SM3.toUInt64).toUInt32
  let idBytes := (Base64.decode (params.optionalStr 3 "")).getD []
  if provName = ctx.config.default then
    DigestInit.onDefault ctx devName algId idBytes lang params.id
  else DigestInit.onOther ctx provName devName lang params.id

end SkfService
