import SkfService.Domain.Container

/-! Key-pair generation. The alias is required and not folded into the default. -/

set_option autoImplicit false

namespace SkfService

open Text Interaction Handler

/-- What both handlers do: `number` is the fifth parameter, or the handler's own default. -/
def generateKeyPair (ctx : SkfContext) (params : Params) (lang : Language) (fallback : UInt64)
    (generate : Container → ULONG → Handler RpcResponse) : Handler RpcResponse := do
  let providerName ← orReply (params.requiredStr 0 "Missing providerName param")
  let (devName, appName, contName) ← containerNames params
  let number := (params.optionalU64 4 fallback).toUInt32
  let library ← resolveOr ctx providerName (loadFailedLocalized · lang params.id)
  withGrantedContainer library providerName devName appName contName params.id fun container =>
    generate container number

def publicKeyJson (structBytes : List UInt8) (bitLen : UInt32) : Json :=
  .ofFields [("publicKeyBase64", .string (Base64.encode structBytes)), ("bitLen", .ofU32 bitLen)]

/-- Params `[provider, device, app, container, algId]`. -/
def GenECCKeyPair.handle (ctx : SkfContext) (params : Params) (lang : Language) :
    Handler RpcResponse :=
  generateKeyPair ctx params lang SGD_SM2_1.toUInt64 fun container algId => do
    let outcome ← settled (← provider (.genEccKeyPair container algId))
    return concluded outcome (fun key => publicKeyJson (eccBlob key).structBytes key.bitLen)
      (failedIn lang "生成ECC密钥对失败" "GenECCKeyPair") params.id

/-- Params `[provider, device, app, container, bitsLen]`. -/
def GenRSAKeyPair.handle (ctx : SkfContext) (params : Params) (lang : Language) :
    Handler RpcResponse :=
  generateKeyPair ctx params lang 2048 fun container bitsLen => do
    let outcome ← settled (← provider (.genRsaKeyPair container bitsLen))
    return concluded outcome (fun key => publicKeyJson (rsaBlob key).structBytes key.bitLen)
      (failedIn lang "生成RSA密钥对失败" "GenRSAKeyPair") params.id

end SkfService
