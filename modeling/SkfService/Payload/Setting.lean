import SkfService.Connection.Exchange
import SkfService.Interaction.Asks
import SkfService.Provider.Buffers
import SkfService.Skf.Rules

/-! What a request can run into: the session's own state, and the replies the process and a library
can really give. -/

set_option autoImplicit false

namespace SkfService

open Text Interaction Program Handler

def NulFree (name : String) : Prop := Char.ofNat 0 ∉ name.toList

instance (name : String) : Decidable (NulFree name) :=
  inferInstanceAs (Decidable (Char.ofNat 0 ∉ name.toList))

def SkfContext.Configured (ctx : SkfContext) (name : String) : Prop :=
  (ctx.config.rawPath name ctx.platform.os).isSome

def SkfContext.Resolves (ctx : SkfContext) (name : String) (library : Library) : Prop :=
  name = ctx.config.default ∧ library = ctx.provider ∨
    name ≠ ctx.config.default ∧ ctx.Configured name ∧ ∃ gate, library = ⟨name, some gate⟩

/-- Only a configured library is ever in the cache, and a provider opens nothing by a name that
cannot be a C string. -/
def Plausible (ctx : SkfContext) : (op : Op) → op.Reply → Prop
  | .host (.readCache name), cached => cached = true → ctx.Configured name
  | .provider (.openDevice _ name), opened => opened.any Except.isOk → NulFree name
  | .provider (.openApplication _ name), opened => opened.any Except.isOk → NulFree name
  | .provider (.openContainer _ name), opened => opened.any Except.isOk → NulFree name
  | _, _ => True

def setting (ctx : SkfContext) (good : Op → Prop) : Monitor Skf SessionState where
  allowed _ op := good op
  possible state op reply :=
    (tracked ctx.platform.lastInstant).possible state op reply ∧ Plausible ctx op reply
  advance := (tracked ctx.platform.lastInstant).advance

/-- The session holds a grant for the application, and a check can still come before its deadline. -/
def SessionState.Granted (state : SessionState) (key : AuthKey) : Prop :=
  ∃ held, state.auth.lookup key = some held ∧ 0 < held.expiresAt

def Indifferent (good : Op → Prop) : Prop := ∀ op : Op, op.payload = [] → good op

/-- In a session state, whatever plausibly comes back, a program asks only for what is good and
returns as `ret` says. -/
abbrev Hands {A : Type} (ctx : SkfContext) (good : Op → Prop) (p : Handler A) (s : SessionState)
    (ret : A → SessionState → Prop) : Prop :=
  p.Meets (setting ctx good) ret (fun _ _ => True) s

section rules

variable {A B : Type} {ctx : SkfContext} {good : Op → Prop} {s : SessionState}
  {ret : A → SessionState → Prop}

@[simp] theorem hands_done (value : A) : Hands ctx good (.done value) s ret ↔ ret value s := Iff.rfl

@[simp] theorem hands_reply (response : RpcResponse) :
    Hands ctx good (Handler.reply response) s ret ↔ True :=
  Iff.rfl

@[simp] theorem hands_panic (why : Panic) : Hands ctx good (Handler.panic why) s ret ↔ True :=
  Iff.rfl

@[simp] theorem hands_pure (value : A) : Hands ctx good (pure value) s ret ↔ ret value s := Iff.rfl

theorem hands_ite (c : Prop) [Decidable c] (p q : Handler A) :
    Hands ctx good (if c then p else q) s ret ↔
      if c then Hands ctx good p s ret else Hands ctx good q s ret := by
  split <;> rfl

theorem hands_bind (p : Handler B) (k : B → Handler A) :
    Hands ctx good (p >>= k) s ret ↔ Hands ctx good p s fun value t =>
      Hands ctx good (k value) t ret :=
  meets_bind p k

theorem hands_orReply (x : Except RpcResponse A) :
    Hands ctx good (orReply x) s ret ↔ ∀ value, x = .ok value → ret value s := by
  cases x with
  | ok value => simp [orReply]
  | error rejection => simp [orReply, Handler.reply]

theorem hands_expect (x : Option A) (rejection : RpcResponse) :
    Hands ctx good (expect x rejection) s ret ↔ ∀ value, x = some value → ret value s := by
  cases x with
  | some value => simp [expect]
  | none => simp [expect, Handler.reply]

theorem hands_unwrap (x : Option A) (why : Panic) :
    Hands ctx good (unwrap x why) s ret ↔ ∀ value, x = some value → ret value s := by
  cases x with
  | some value => simp [unwrap]
  | none => simp [unwrap, Handler.panic]

theorem hands_settled {ret : Except ProviderError A → SessionState → Prop} (x : Attempt A) :
    Hands ctx good (settled x) s ret ↔ ∀ result, x = some result → ret result s := by
  cases x with
  | some result => simp [settled]
  | none => simp [settled, Handler.panic]

theorem hands_requiredStr {ret : String → SessionState → Prop} (params : Params) (index : Nat)
    (message : String) : Hands ctx good (orReply (params.requiredStr index message)) s ret ↔
      ∀ value, params.str index = some value → ret value s := by
  rw [hands_orReply]
  unfold Params.requiredStr
  cases params.str index <;> simp

theorem hands_decode {ret : List UInt8 → SessionState → Prop} (params : Params)
    (errorText : DecodeErrorText) (encoded message : String) :
    Hands ctx good (orReply (params.decode errorText encoded message)) s ret ↔
        ∀ bytes, Params.Decodes encoded bytes → ret bytes s := by
  simp only [hands_orReply, Params.decode_ok_iff]

theorem hands_checkPayloadLen {ret : Unit → SessionState → Prop} (params : Params)
    (encoded : String) :
    Hands ctx good (orReply (params.checkPayloadLen encoded)) s ret ↔
      ((utf8 encoded).length ≤ MAX_ENCODED_BYTES → ret () s) := by
  rw [hands_orReply]
  unfold Params.checkPayloadLen
  by_cases large : (utf8 encoded).length > MAX_ENCODED_BYTES
  · simp [large, Nat.not_le.mpr large]
  · simp only [large, if_false, Nat.le_of_not_lt large, forall_const]
    exact ⟨fun goes => goes (), fun held _ => held⟩

theorem hands_mapError {ret : A → SessionState → Prop} (x : Except String A)
    (rejection : String → RpcResponse) : Hands ctx good (orReply (x.mapError rejection)) s ret ↔
      ∀ value, x = .ok value → ret value s := by
  rw [hands_orReply]
  cases x <;> simp [Except.mapError]

theorem decodeBase64_ok_iff {errorText : DecodeErrorText} {encoded : String} {bytes : List UInt8} :
    decodeBase64 errorText encoded = .ok bytes ↔ Base64.decode encoded = some bytes := by
  unfold decodeBase64
  cases Base64.decode encoded <;> simp

theorem hands_decodeBase64 {ret : List UInt8 → SessionState → Prop} (errorText : DecodeErrorText)
    (encoded : String) (rejection : String → RpcResponse) :
    Hands ctx good (orReply ((decodeBase64 errorText encoded).mapError rejection)) s ret ↔
      ∀ bytes, Base64.decode encoded = some bytes → ret bytes s := by
  simp only [hands_mapError, decodeBase64_ok_iff]

theorem hands_provider (op : ProviderOp) {ret : op.Reply → SessionState → Prop} :
    Hands ctx good (provider op) s ret ↔
      good (.provider op) ∧ ∀ reply, Plausible ctx (.provider op) reply → ret reply s := by
  refine and_congr_right fun _ => forall_congr' fun reply => ?_
  exact ⟨fun goes real => goes ⟨trivial, real⟩, fun goes possible => goes possible.2⟩

/-- The last call of a handler, whose reply is answered whatever it is. -/
theorem hands_provider_last (op : ProviderOp) :
    Hands ctx good (provider op) s (fun _ _ => True) ↔ good (.provider op) := by
  rw [hands_provider]
  exact and_iff_left fun _ _ => trivial

theorem hands_vendor (op : VendorOp) {ret : op.Reply → SessionState → Prop} :
    Hands ctx good (vendor op) s ret ↔ good (.vendor op) ∧ ∀ reply, ret reply s := by
  refine and_congr_right fun _ => forall_congr' fun reply => ?_
  exact ⟨fun goes => goes ⟨trivial, trivial⟩, fun goes _ => goes⟩

theorem hands_vendor_last (op : VendorOp) :
    Hands ctx good (vendor op) s (fun _ _ => True) ↔ good (.vendor op) := by
  rw [hands_vendor]
  exact and_iff_left fun _ => trivial

theorem hands_host (op : HostOp) {ret : op.Reply → SessionState → Prop} :
    Hands ctx good (host op) s ret ↔
      good (.host op) ∧ ∀ reply, Plausible ctx (.host op) reply → ret reply s := by
  refine and_congr_right fun _ => forall_congr' fun reply => ?_
  exact ⟨fun goes real => goes ⟨trivial, real⟩, fun goes possible => goes possible.2⟩

theorem hands_session (op : SessionOp) {ret : op.Reply → SessionState → Prop} :
    Hands ctx good (session op) s ret ↔ good (.session op) ∧
      ∀ reply, (op.perform ctx.platform.lastInstant (op.clock reply) s).2 = reply →
        ret reply (op.perform ctx.platform.lastInstant (op.clock reply) s).1 := by
  refine and_congr_right fun _ => forall_congr' fun reply => ?_
  exact ⟨fun goes same => goes ⟨same, trivial⟩, fun goes possible => goes possible.1⟩

theorem hands_cString {ret : CString → SessionState → Prop} (name : String) :
    Hands ctx good (cString name) s ret ↔ ∀ noNul : NulFree name, ret ⟨name, noNul⟩ s := by
  rw [cString, hands_unwrap, CString.new]
  by_cases noNul : Char.ofNat 0 ∉ name.toList
  · rw [dif_pos noNul]
    simp only [Option.some.injEq, forall_eq', NulFree]
    exact ⟨fun goes _ => goes, fun goes => goes noNul⟩
  · rw [dif_neg noNul]
    constructor
    · intro _ free
      exact absurd free noNul
    · intro _ made found
      cases found

end rules

section steps

variable {A : Type} {ctx : SkfContext} {good : Op → Prop} {s : SessionState}
  (indifferent : Indifferent good)

include indifferent

/-- A resource may always be closed, so only the body of a guard's scope matters. -/
theorem hands_closing {ret : A → SessionState → Prop} (resource : Resource) (body : Handler A) :
    Hands ctx good (body.ensuring (provider (.close resource))) s ret ↔
      Hands ctx good body s ret := by
  have closes (after : SessionState → Prop) (t : SessionState) :
      Hands ctx good (provider (.close resource)) t (fun _ => after) ↔ after t := by
    rw [hands_provider]
    exact ⟨fun closed => closed.2 () trivial, fun held => ⟨indifferent _ rfl, fun _ _ => held⟩⟩
  rw [Hands, meets_ensuring]
  constructor
  · intro met
    exact met.mono (fun value t closed => (closes (ret value) t).mp closed) fun _ _ _ => trivial
  · intro met
    exact met.mono (fun value t held => (closes (ret value) t).mpr held)
      fun _ t _ => (closes (fun _ => True) t).mpr trivial

theorem hands_getApi {ret : Except String Library → SessionState → Prop} (name : String)
    (fails : ∀ reason, ret (.error reason) s) :
    Hands ctx good (ctx.getApi name) s ret ↔ (ctx.Configured name → ret (.ok ⟨name, none⟩) s) := by
  rw [SkfContext.getApi, hands_bind, hands_host]
  constructor
  · intro met configured
    exact met.2 true fun _ => configured
  · refine fun goes => ⟨indifferent _ rfl, fun cached real => ?_⟩
    cases cached with
    | true => exact goes (real rfl)
    | false =>
      dsimp only
      cases raw : ctx.config.rawPath name ctx.platform.os with
      | none => exact fails _
      | some path =>
        have configured : ctx.Configured name := by
          rw [SkfContext.Configured, raw, Option.isSome_some]
        dsimp only
        rw [hands_bind, hands_host]
        refine ⟨indifferent _ rfl, fun loaded _ => ?_⟩
        cases loaded with
        | error reason => exact fails _
        | ok done =>
          rw [hands_bind, hands_host]
          exact ⟨indifferent _ rfl, fun _ _ => goes configured⟩

theorem hands_apiOr {ret : Library → SessionState → Prop} (name : String)
    (failed : String → RpcResponse) :
    Hands ctx good (apiOr ctx name failed) s ret ↔ (ctx.Configured name → ret ⟨name, none⟩ s) := by
  rw [apiOr, hands_bind, hands_getApi indifferent]
  · rfl
  · exact fun _ => trivial

theorem hands_loadedApi {ret : Library → SessionState → Prop} (name : String) (lang : Language)
    (id : Option Json) :
    Hands ctx good (loadedApi ctx name lang id) s ret ↔
      (ctx.Configured name → ret ⟨name, none⟩ s) := by
  rw [loadedApi, hands_bind, hands_orReply, SkfContext.getLibPath, resolveLibPath,
    SkfContext.Configured]
  cases raw : ctx.config.rawPath name ctx.platform.os with
  | none => simp [Except.mapError]
  | some path =>
    simp only [Except.mapError, Except.ok.injEq, forall_eq', Option.isSome_some, forall_const]
    rw [hands_bind, hands_host]
    constructor
    · intro met
      exact met.2 (.ok ()) trivial
    · refine fun goes => ⟨indifferent _ rfl, fun loaded _ => ?_⟩
      cases loaded with
      | ok done => exact goes
      | error reason => trivial

theorem hands_noteDeviceUnavailable (provName devName : String) (response : RpcResponse)
    {ret : A → SessionState → Prop} :
    Hands ctx good (noteDeviceUnavailable provName devName >>= fun _ =>
      (reply response : Handler A)) s ret := by
  rw [noteDeviceUnavailable, hands_bind, hands_bind, hands_session]
  exact ⟨indifferent _ rfl, fun _ _ => trivial⟩

theorem hands_connectDev {ret : Device → SessionState → Prop} (api : Library)
    (provName devName : String) (id : Option Json) :
    Hands ctx good (connectDev api provName devName id) s ret ↔
        (NulFree devName → ∀ raw, ret ⟨api, devName, raw⟩ s) := by
  rw [connectDev, hands_bind, hands_cString]
  refine forall_congr' fun noNul => ?_
  rw [hands_bind, hands_vendor]
  constructor
  · intro met raw
    exact met.2 (SAR_OK, raw)
  · refine fun goes => ⟨indifferent _ rfl, fun answer => ?_⟩
    apply meets_ite
    · intro _
      exact goes answer.2
    · intro _
      exact hands_noteDeviceUnavailable indifferent _ _ _

theorem hands_disConnectDev {ret : Unit → SessionState → Prop} (device : Device) :
    Hands ctx good (disConnectDev device) s ret ↔ ret () s := by
  rw [disConnectDev, hands_bind, hands_vendor]
  exact ⟨fun met => met.2 0, fun held => ⟨indifferent _ rfl, fun _ => held⟩⟩

theorem hands_withConnected {op : VendorOp} {ret : op.Reply → SessionState → Prop}
    (device : Device) :
    Hands ctx good (withConnected device (vendor op)) s ret ↔
      good (.vendor op) ∧ ∀ reply, ret reply s := by
  simp only [withConnected, hands_bind, hands_vendor, hands_disConnectDev indifferent, pure_eq_done,
    hands_done]

theorem hands_openApp {ret : Application → SessionState → Prop} (device : Device)
    (provName appName : String) (id : Option Json) :
    Hands ctx good (openApp device provName appName id) s ret ↔
      (NulFree appName → ∀ raw, ret ⟨device, appName, raw⟩ s) := by
  rw [openApp, hands_bind, hands_cString]
  refine forall_congr' fun noNul => ?_
  rw [hands_bind, hands_vendor]
  constructor
  · intro met raw
    exact met.2 (SAR_OK, raw)
  · refine fun goes => ⟨indifferent _ rfl, fun answer => ?_⟩
    apply meets_ite
    · intro _
      exact goes answer.2
    · intro _
      rw [← Hands, hands_bind, hands_disConnectDev indifferent]
      exact hands_noteDeviceUnavailable indifferent _ _ _

theorem hands_closeApplication {ret : Unit → SessionState → Prop} (application : Application) :
    Hands ctx good (closeApplication application) s ret ↔ ret () s := by
  rw [closeApplication, hands_bind, hands_vendor]
  exact ⟨fun met => met.2 0, fun held => ⟨indifferent _ rfl, fun _ => held⟩⟩

theorem hands_closeContainer {ret : Unit → SessionState → Prop} (container : Container) :
    Hands ctx good (closeContainer container) s ret ↔ ret () s := by
  rw [closeContainer, hands_bind, hands_vendor]
  exact ⟨fun met => met.2 0, fun held => ⟨indifferent _ rfl, fun _ => held⟩⟩

/-- A check that succeeds leaves the session as it was, and one succeeds where a grant is held. -/
theorem hands_authorize {ret : A → SessionState → Prop} (key : AuthKey)
    (k : Instant × Except AuthRejection Unit → Handler A) (granted : Handler A)
    (accepts : ∀ now, k (now, .ok ()) = granted)
    (refuses : ∀ now reason t, Hands ctx good (k (now, .error reason)) t ret) :
    Hands ctx good (session (.authorize key) >>= k) s ret ↔
      (s.Granted key → Hands ctx good granted s ret) := by
  rw [hands_bind, hands_session]
  constructor
  · rintro ⟨-, met⟩ ⟨held, found, ahead⟩
    have checked : s.auth.check 0 key = (s.auth, .ok ()) := by
      rw [AuthTable.lookup] at found
      simp [AuthTable.check, found, Nat.not_le.mpr ahead]
    have passed := met (0, .ok ()) (by simp only [SessionOp.perform, SessionOp.clock, checked])
    simpa only [SessionOp.perform, SessionOp.clock, checked, accepts] using passed
  · refine fun goes => ⟨indifferent _ rfl, fun answer told => ?_⟩
    obtain ⟨now, outcome⟩ := answer
    cases outcome with
    | error reason => exact refuses now reason _
    | ok done =>
      have passed : (s.auth.check now key).2 = .ok () := congrArg Prod.snd told
      obtain ⟨held, found, ahead⟩ := (AuthTable.check_ok_iff _ _ _).mp passed
      have unchanged : (s.auth.check now key).1 = s.auth := by
        rw [AuthTable.lookup] at found
        simp [AuthTable.check, found, Nat.not_le.mpr ahead]
      simp only [SessionOp.perform, SessionOp.clock, unchanged]
      rw [accepts now]
      exact goes ⟨held, found, Nat.lt_of_le_of_lt (Nat.zero_le _) ahead⟩

theorem hands_requireAuthorized {ret : Unit → SessionState → Prop}
    (provName devName appName : String) (rejection : RpcResponse) :
    Hands ctx good (requireAuthorized provName devName appName rejection) s ret ↔
      (s.Granted ⟨provName, devName, appName⟩ → ret () s) :=
  hands_authorize indifferent _ _ (.done ()) (fun _ => rfl) fun _ _ _ => trivial

theorem hands_resolveOr {ret : Library → SessionState → Prop} (name : String)
    (failed : String → RpcResponse) : Hands ctx good (resolveOr ctx name failed) s ret ↔
      ∀ library, ctx.Resolves name library → ret library s := by
  rw [resolveOr, hands_bind, SkfContext.resolve]
  by_cases default : name = ctx.config.default
  · rw [if_pos default]
    constructor
    · intro met library resolves
      rcases resolves with ⟨-, rfl⟩ | ⟨differs, -⟩
      · exact met
      · exact absurd default differs
    · intro goes
      exact goes _ (.inl ⟨default, rfl⟩)
  · rw [if_neg default, hands_bind, hands_getApi indifferent]
    · rw [hands_bind, hands_host]
      constructor
      · intro met library resolves
        rcases resolves with ⟨same, -⟩ | ⟨-, configured, gate, rfl⟩
        · exact absurd same default
        · exact (met configured).2 gate trivial
      · intro goes configured
        exact ⟨indifferent _ rfl, fun gate _ => goes _ (.inr ⟨default, configured, gate, rfl⟩)⟩
    · exact fun _ => trivial

theorem hands_withContainer {ret : A → SessionState → Prop} (application : Application)
    (contName : String) (id : Option Json) (body : Container → Handler A) :
    Hands ctx good (withContainer application contName id body) s ret ↔
      (NulFree contName → ∀ raw, Hands ctx good (body ⟨application, contName, raw⟩) s ret) := by
  rw [withContainer, hands_bind, hands_provider]
  constructor
  · intro met noNul raw
    have opened := met.2 (some (.ok raw)) fun _ => noNul
    exact (hands_closing indifferent _ _).mp opened
  · refine fun goes => ⟨indifferent _ rfl, fun opened real => ?_⟩
    rw [hands_bind, hands_settled]
    rintro result rfl
    cases result with
    | error e => trivial
    | ok raw => exact (hands_closing indifferent _ _).mpr (goes (real rfl) raw)

theorem hands_withApplication {ret : A → SessionState → Prop} (device : Device) (appName : String)
    (failed : ProviderError → Handler Application) (body : Application → Handler A)
    (fails : ∀ e t ret, Hands ctx good (failed e) t ret) :
    Hands ctx good (withApplication device appName failed body) s ret ↔
      (NulFree appName → ∀ raw, Hands ctx good (body ⟨device, appName, raw⟩) s ret) := by
  rw [withApplication, openApplication, hands_bind, hands_bind, hands_provider]
  constructor
  · intro met noNul raw
    have opened := met.2 (some (.ok raw)) fun _ => noNul
    exact (hands_closing indifferent _ _).mp opened
  · refine fun goes => ⟨indifferent _ rfl, fun opened real => ?_⟩
    rw [hands_bind, hands_settled]
    rintro result rfl
    cases result with
    | error e => exact fails e _ _
    | ok raw => exact (hands_closing indifferent _ _).mpr (goes (real rfl) raw)

theorem hands_withDevice {ret : A → SessionState → Prop} (library : Library)
    (provName devName : String) (id : Option Json) (body : Device → Handler A) :
    Hands ctx good (withDevice library provName devName id body) s ret ↔
      (NulFree devName → ∀ raw, Hands ctx good (body ⟨library, devName, raw⟩) s ret) := by
  rw [withDevice, openDevice, hands_bind, hands_bind, hands_provider]
  constructor
  · intro met noNul raw
    have opened := met.2 (some (.ok raw)) fun _ => noNul
    exact (hands_closing indifferent _ _).mp opened
  · refine fun goes => ⟨indifferent _ rfl, fun opened real => ?_⟩
    rw [hands_bind, hands_settled]
    rintro result rfl
    cases result with
    | error e => exact hands_noteDeviceUnavailable indifferent _ _ _
    | ok raw => exact (hands_closing indifferent _ _).mpr (goes (real rfl) raw)

structure Opens (s : SessionState) (provName devName appName contName : String) : Prop where
  device : NulFree devName
  application : NulFree appName
  granted : s.Granted ⟨provName, devName, appName⟩
  container : NulFree contName

theorem hands_withGrantedContainer {ret : A → SessionState → Prop} (library : Library)
    (provName devName appName contName : String) (id : Option Json) (body : Container → Handler A) :
    Hands ctx good (withGrantedContainer library provName devName appName contName id body) s ret ↔
      (Opens s provName devName appName contName → ∀ device application container,
        Hands ctx good (body ⟨⟨⟨library, devName, device⟩, appName, application⟩, contName,
          container⟩) s ret) := by
  have lost (e : ProviderError) (t : SessionState) (ret : Application → SessionState → Prop) :
      Hands ctx good (applicationLost provName devName (failedAs "OpenApplication") id e) t ret :=
    hands_noteDeviceUnavailable indifferent _ _ _
  simp only [withGrantedContainer, withAuthorized, withDeviceApplication,
    hands_withDevice indifferent, hands_withApplication indifferent _ _ _ _ lost, hands_bind,
    hands_requireAuthorized indifferent, hands_withContainer indifferent]
  constructor
  · intro met opens device application container
    exact met opens.device device opens.application application opens.granted
      opens.container container
  · intro met device raw application raw' granted container raw''
    exact met ⟨device, application, granted, container⟩ raw raw' raw''

end steps

end SkfService
