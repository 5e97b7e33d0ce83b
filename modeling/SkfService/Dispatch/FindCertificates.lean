import SkfService.Dispatch.Direct

/-! The certificate search over every provider, device, application and container. -/

set_option autoImplicit false

namespace SkfService.FindCertificates

open Text Interaction Handler

structure Wanted where
  sign : Bool
  enc : Bool

def wanted (filter : String) : Wanted :=
  ⟨filter = "" || eqIgnoreAsciiCase filter "Sign", filter = "" || eqIgnoreAsciiCase filter "Enc"⟩

/-- Asks for the size of a name list and fetches it; any failure counts as no names. -/
def listed (query : Option ULONG → Handler Filled) : Handler (List String) := do
  let sized ← query none
  if sized.ret = SAR_OK ∧ 1 < sized.size then
    let filled ← query (some sized.size)
    if filled.ret = SAR_OK then return namesOf filled else return []
  else return []

def processCert (ctx : SkfContext) (keyStem : String) (container : Container) (isSign : Bool) :
    Handler (List Json) := do
  let sized ← vendor (.exportCertificate container isSign none)
  if sized.ret = SAR_OK ∧ 0 < sized.size then
    let filled ← vendor (.exportCertificate container isSign (some sized.size))
    if filled.ret = SAR_OK then
      let bytes := filled.memory.take sized.size.toNat
      match ctx.platform.parseCertificate bytes with
      | some (serial, subject) =>
        return [.ofFields [("key", .string (keyStem ++ "/" ++ serial)), ("value", .string subject),
          ("type", .string (if isSign then "Sign" else "Enc")),
          ("cert", .string (Base64.encode bytes))]]
      | none => return []
    else return []
  else return []

def inContainer (ctx : SkfContext) (want : Wanted) (keyStem : String) (application : Application)
    (contName : String) : Handler (List Json) := do
  let cCont ← cString contName
  let (ret, raw) ← vendor (.openContainer application cCont)
  if ret = SAR_OK then
    let container : Container := ⟨application, contName, raw⟩
    let process := processCert ctx (keyStem ++ "/" ++ contName) container
    let sign ← if want.sign then process true else .done []
    let enc ← if want.enc then process false else .done []
    closeContainer container
    return sign ++ enc
  else return []

def inApplication (ctx : SkfContext) (want : Wanted) (keyStem : String) (device : Device)
    (appName : String) : Handler (List Json) := do
  let cApp ← cString appName
  let (ret, raw) ← vendor (.openApplication device cApp)
  if ret = SAR_OK then
    let application : Application := ⟨device, appName, raw⟩
    let contNames ← listed fun buffer => vendor (.enumContainer application buffer)
    let found ← Program.collect (inContainer ctx want (keyStem ++ "/" ++ appName) application)
      contNames
    closeApplication application
    return found
  else return []

def inDevice (ctx : SkfContext) (want : Wanted) (api : Library) (provName devName : String) :
    Handler (List Json) := do
  let cDev ← cString devName
  let (ret, raw) ← vendor (.connectDev api cDev)
  if ret = SAR_OK then
    let device : Device := ⟨api, devName, raw⟩
    let appNames ← listed fun buffer => vendor (.enumApplication device buffer)
    let found ← Program.collect (inApplication ctx want (provName ++ "/" ++ devName) device)
      appNames
    disConnectDev device
    return found
  else return []

def inProvider (ctx : SkfContext) (want : Wanted) (provName : String) : Handler (List Json) := do
  match ← ctx.getApi provName with
  | .error _ => return []
  | .ok api =>
    let devNames ← listed fun buffer => vendor (.enumDev api true buffer)
    Program.collect (inDevice ctx want api provName) devNames

/-- Params `[filter?]`. -/
def handle (ctx : SkfContext) (params : Params) : Handler RpcResponse := do
  let found ← Program.collect (inProvider ctx (wanted (params.optionalStr 0 "")))
    (ctx.config.libs.map Prod.fst)
  return .ok (.array found) params.id

end SkfService.FindCertificates
