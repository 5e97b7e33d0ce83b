import SkfService.Dispatch.Context
import SkfService.Crypto.Der

/-! What the guard-based handlers share: replies for failed provider calls, and opening a resource
for the extent of a body.

A resource is a guard in the source, dropped where its scope ends; `withDevice`, `withApplication`,
`withContainer` and `withDigest` close it on every way out of the body, also when the body unwinds. -/

set_option autoImplicit false

namespace SkfService

open Text Interaction Handler

def loadFailed (message : String) (id : Option Json) : RpcResponse :=
  .err (-5) ("Load Lib Failed: " ++ message) id

def loadFailedLocalized (message : String) (lang : Language) (id : Option Json) : RpcResponse :=
  .err (-1) (lang.pick ("加载库失败: " ++ message) ("Load Lib Failed: " ++ message)) id

/-- The reply to a failed provider call: the vendor's code with `message`, or a load failure. -/
def nativeFailure (e : ProviderError) (message : ULONG → String) (id : Option Json) : RpcResponse :=
  match nativeCode e with
  | some code => .err (codeAsI32 code) (message code) id
  | none => loadFailed e.display id

def failedAs (label : String) (code : ULONG) : String := label ++ " failed: 0x" ++ hex8 code

/-- The segments of `provider/device/app/container[/serial]`, when there are at least `min`. -/
def splitCertKey (certKey : String) (min : Nat) : Option (List String) :=
  let parts := splitn 5 '/' certKey
  if parts.length < min then none else some parts

def noteDeviceUnavailable (provider device : String) : Handler Unit := do
  let _removed ← session (.invalidateDevice provider device)
  return ()

def resolveOr (ctx : SkfContext) (name : String) (failed : String → RpcResponse) :
    Handler Library := do
  match ← ctx.resolve name with
  | .ok library => return library
  | .error message => reply (failed message)

/-- Opens a device; one that does not open loses its grants. -/
def openDevice (library : Library) (provName devName : String) (id : Option Json) :
    Handler Device := do
  match ← settled (← provider (.openDevice library devName)) with
  | .ok raw => return ⟨library, devName, raw⟩
  | .error e =>
    noteDeviceUnavailable provName devName
    reply (nativeFailure e (failedAs "ConnectDev") id)

def withDevice {A : Type} (library : Library) (provName devName : String) (id : Option Json)
    (body : Device → Handler A) : Handler A := do
  let device ← openDevice library provName devName id
  (body device).ensuring (provider (.close (.device device)))

def openApplication (device : Device) (appName : String)
    (failed : ProviderError → Handler Application) :
    Handler Application := do
  match ← settled (← provider (.openApplication device appName)) with
  | .ok raw => return ⟨device, appName, raw⟩
  | .error e => failed e

/-- An application that does not open also counts as a lost device. -/
def applicationLost (provName devName : String) (message : ULONG → String) (id : Option Json)
    (e : ProviderError) : Handler Application := do
  noteDeviceUnavailable provName devName
  reply (nativeFailure e message id)

def withApplication {A : Type} (device : Device) (appName : String)
    (failed : ProviderError → Handler Application) (body : Application → Handler A) : Handler A :=
  do
  let application ← openApplication device appName failed
  (body application).ensuring (provider (.close (.application application)))

def withContainer {A : Type} (application : Application) (contName : String) (id : Option Json)
    (body : Container → Handler A) : Handler A := do
  match ← settled (← provider (.openContainer application contName)) with
  | .ok raw =>
    let container : Container := ⟨application, contName, raw⟩
    (body container).ensuring (provider (.close (.container container)))
  | .error e => reply (nativeFailure e (failedAs "OpenContainer") id)

def requireAuthorized (provName devName appName : String) (rejection : RpcResponse) :
    Handler Unit := do
  match ← session (.authorize ⟨provName, devName, appName⟩) with
  | (_, .ok ()) => return ()
  | (_, .error _) => reply rejection

def notLoggedIn (id : Option Json) : RpcResponse :=
  .err (-10) "User not logged in. Call CheckPIN first." id

/-- The device and the application opened, as eleven handlers do it. -/
def withDeviceApplication {A : Type} (library : Library) (provName devName appName : String)
    (id : Option Json) (body : Application → Handler A) : Handler A :=
  withDevice library provName devName id fun device =>
    withApplication device appName
      (applicationLost provName devName (failedAs "OpenApplication") id) body

def withAuthorized {A : Type} (library : Library) (provName devName appName : String)
    (id : Option Json) (body : Application → Handler A) : Handler A :=
  withDeviceApplication library provName devName appName id fun application => do
    requireAuthorized provName devName appName (notLoggedIn id)
    body application

def withGrantedContainer {A : Type} (library : Library) (provName devName appName contName : String)
    (id : Option Json) (body : Container → Handler A) : Handler A :=
  withAuthorized library provName devName appName id fun application =>
    withContainer application contName id body

def concluded {A : Type} (outcome : Except ProviderError A) (result : A → Json)
    (message : ULONG → String) (id : Option Json) : RpcResponse :=
  match outcome with
  | .ok value => .ok (result value) id
  | .error e => nativeFailure e message id

def failedIn (lang : Language) (cn en : String) (code : ULONG) : String :=
  lang.pick (cn ++ ": 0x" ++ hex8 code) (en ++ " failed: 0x" ++ hex8 code)

@[simp] theorem loadFailed_id (message : String) (id : Option Json) :
    (loadFailed message id).id = id := rfl

@[simp] theorem loadFailedLocalized_id (message : String) (lang : Language) (id : Option Json) :
    (loadFailedLocalized message lang id).id = id := rfl

@[simp] theorem nativeFailure_id (e : ProviderError) (message : ULONG → String) (id : Option Json) :
    (nativeFailure e message id).id = id := by
  unfold nativeFailure
  split <;> rfl

@[simp] theorem notLoggedIn_id (id : Option Json) : (notLoggedIn id).id = id := rfl

@[simp] theorem concluded_id {A : Type} (outcome : Except ProviderError A) (result : A → Json)
    (message : ULONG → String) (id : Option Json) :
    (concluded outcome result message id).id = id := by
  unfold concluded
  split
  · rfl
  · exact nativeFailure_id _ _ _

end SkfService
