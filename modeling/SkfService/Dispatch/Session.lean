import SkfService.Domain.Common

/-! The dispatcher's branches that work on the default provider and on the session's handles. -/

set_option autoImplicit false

namespace SkfService

open Text Interaction Handler

def loadLibFailed (code : Int32) (reason : String) (lang : Language) (id : Option Json) :
    RpcResponse :=
  .err code (lang.pick ("加载库失败: " ++ reason) ("Load Lib Failed: " ++ reason)) id

def providerLoadFailed (e : ProviderError) (lang : Language) (id : Option Json) : RpcResponse :=
  loadLibFailed (-5) e.display lang id

/-- The reply of the branches that only tell a native code from everything else. -/
def nativeOr (e : ProviderError) (message : ULONG → String) (lang : Language) (id : Option Json) :
    RpcResponse :=
  match e with
  | .Native code _ => .err (codeAsI32 code) (message code) id
  | e => providerLoadFailed e lang id

@[simp] theorem loadLibFailed_id (code : Int32) (reason : String) (lang : Language)
    (id : Option Json) :
    (loadLibFailed code reason lang id).id = id := rfl

@[simp] theorem providerLoadFailed_id (e : ProviderError) (lang : Language) (id : Option Json) :
    (providerLoadFailed e lang id).id = id := rfl

@[simp] theorem nativeOr_id (e : ProviderError) (message : ULONG → String) (lang : Language)
    (id : Option Json) : (nativeOr e message lang id).id = id := by
  unfold nativeOr
  split <;> rfl

def GetProtocolVersion.respond (ctx : SkfContext) (params : Params) : RpcResponse :=
  .ok (.ofFields [("min", .ofU32 1), ("current", .ofU32 1),
    ("service", .string ctx.platform.packageVersion)]) params.id

def languageOf (ctx : SkfContext) (code : String) : Language :=
  match ctx.platform.toUppercase code with
  | "CN" | "ZH" => .CN
  | _ => .EN

/-- Params `[code]`: the reply and the session's language from now on. -/
def SetLanguage.respond (ctx : SkfContext) (params : Params) (lang : Language) :
    RpcResponse × Language :=
  match params.str 0 with
  | some code => (.ok (.string "OK") params.id, languageOf ctx code)
  | none => (.err (-2) "Missing Language Code" params.id, lang)

/-- The configured aliases with the default one first. -/
def orderedProviders (config : SkfConfig) : List String :=
  let providers := config.libs.map Prod.fst
  if config.default ∈ providers then config.default :: providers.erase config.default else providers

/-- Params `[vpid?]`. -/
def EnumProvider.respond (ctx : SkfContext) (params : Params) (lang : Language) : RpcResponse :=
  let vpid := (params.str 0).getD ""
  if vpid ≠ "" then
    match ctx.config.vendor.lookup vpid with
    | some provider => .ok (.string provider) params.id
    | none => .err (-4) (lang.pick ("未知 VID:PID: " ++ vpid) ("Unknown VPID: " ++ vpid)) params.id
  else .ok (.strings (orderedProviders ctx.config)) params.id

/-- Params `[device]`, on the default alias. -/
def ConnectDev.handle (ctx : SkfContext) (params : Params) (lang : Language) :
    Handler RpcResponse := do
  let name ← expect (params.str 0) (.err (-2) "Missing param" params.id)
  match ← settled (← provider (.openDevice ctx.provider name)) with
  | .ok raw =>
    let handle ← session (.issueDevice ⟨ctx.provider, name, raw⟩)
    return .ok (.string handle) params.id
  | .error e => return nativeOr e (fun _ => lang.pick "连接设备失败" "ConnectDev failed") lang params.id

def invalidHandle (id : Option Json) : RpcResponse := .err (-11) "Invalid or expired handle" id

def invalidHashHandle (id : Option Json) : RpcResponse :=
  .err (-11) "Invalid or expired hash handle" id

/-- Params `[handle]`. -/
def DisConnectDev.handle (params : Params) : Handler RpcResponse := do
  let handle ← expect (params.str 0) (invalidHandle params.id)
  match ← session (.removeDevice handle) with
  | .ok guard =>
    provider (.close (.device guard))
    return .ok (.bool true) params.id
  | .error _ => return invalidHandle params.id

/-- Params `[handle, length]`. -/
def GenerateRandom.handle (params : Params) (lang : Language) : Handler RpcResponse := do
  let handle ← expect (params.str 0) (.err (-2) "Bad params" params.id)
  let len ← expect (params.u64 1) (.err (-2) "Bad params" params.id)
  match ← session (.device handle) with
  | .error _ => return invalidHandle params.id
  | .ok guard =>
    match ← settled (← provider (.random guard len.toNat)) with
    | .ok bytes => return .ok (.string (Base64.encode bytes)) params.id
    | .error e => return nativeOr e (fun _ => lang.pick "生成随机数失败" "GenRandom failed") lang params.id

/-- The default alias's part of `DigestInit`. The digest gets a handle that is answered; its device
gets the next one, which is not. -/
def DigestInit.onDefault (ctx : SkfContext) (devName : String) (algId : ULONG)
    (idBytes : List UInt8) (lang : Language) (id : Option Json) : Handler RpcResponse := do
  match ← settled (← provider (.openDevice ctx.provider devName)) with
  | .error e => return nativeOr e (failedAs "ConnectDev") lang id
  | .ok raw =>
    let device : Device := ⟨ctx.provider, devName, raw⟩
    match ← provider (.beginDigest device algId idBytes) with
    | some (.ok hash) =>
      let handle ← session (.issueDigest ⟨device, hash⟩)
      let _deviceHandle ← session (.issueDevice device)
      return .ok (.ofFields [("handle", .string handle)]) id
    | some (.error e) =>
      provider (.close (.device device))
      return nativeOr e (failedIn lang "DigestInit失败" "DigestInit") lang id
    | none =>
      provider (.close (.device device))
      panic .callUnwound

/-- Params `[handle, dataBase64]`. -/
def DigestUpdate.handle (ctx : SkfContext) (params : Params) (lang : Language) :
    Handler RpcResponse := do
  let handle ← expect (params.str 0) (.err (-2) "Missing handle param" params.id)
  let dataB64 ← expect (params.str 1) (.err (-2) "Missing dataBase64 param" params.id)
  let dataBytes ← orReply ((decodeBase64 ctx.platform.base64Error dataB64).mapError fun reason =>
    .err (-2) ("Invalid base64 data: " ++ reason) params.id)
  match ← session (.digest handle) with
  | .error _ => return invalidHashHandle params.id
  | .ok digest =>
    match ← settled (← provider (.update digest dataBytes)) with
    | .ok () => return .ok (.bool true) params.id
    | .error e => return nativeOr e (failedIn lang "DigestUpdate失败" "DigestUpdate") lang params.id

/-- Params `[handle]`. -/
def DigestFinal.handle (params : Params) (lang : Language) : Handler RpcResponse := do
  let handle ← expect (params.str 0) (.err (-2) "Missing handle param" params.id)
  match ← session (.removeDigest handle) with
  | .error _ => return invalidHashHandle params.id
  | .ok digest =>
    let finalized : Handler RpcResponse := do
      match ← settled (← provider (.finalize digest)) with
      | .ok hash => return .ok (.string (Base64.encode hash)) params.id
      | .error e => return nativeOr e (failedIn lang "DigestFinal失败" "DigestFinal") lang params.id
    finalized.ensuring (provider (.close (.digest digest)))

/-- Params `[handle]`. -/
def CloseHash.handle (params : Params) : Handler RpcResponse := do
  let handle ← expect (params.str 0) (.err (-2) "Missing handle param" params.id)
  match ← session (.removeDigest handle) with
  | .ok digest =>
    provider (.close (.digest digest))
    return .ok (.bool true) params.id
  | .error _ => return invalidHashHandle params.id

def CancelWaitForDevEvent.handle (ctx : SkfContext) (params : Params) (lang : Language) :
    Handler RpcResponse := do
  match ← settled (← provider (.cancelWaitForEvent ctx.provider)) with
  | .ok () => return .ok (.bool true) params.id
  | .error (.Native code _) =>
    return .err (codeAsI32 code) (failedIn lang "取消等待失败" "CancelWaitForDevEvent" code) params.id
  | .error e => return loadLibFailed (-1) e.display lang params.id

end SkfService
