import SkfService.Payload.Setting

/-! What the direct branches unwind on: names that cannot be C strings, and libraries that do not
load. -/

set_option autoImplicit false

namespace SkfService

open Text Interaction Program Handler

/-- The replies of the process: only a configured library is ever in the cache, and `loads` are the
library files that can be loaded. -/
def LoadsAs (ctx : SkfContext) (loads : String → Bool) : (op : Op) → op.Reply → Prop
  | .host (.readCache name), cached => cached = true → ctx.Configured name
  | .host (.loadLibrary path), loaded => loaded.isOk = loads path
  | _, _ => True

def loading (ctx : SkfContext) (loads : String → Bool) : Monitor Skf Unit where
  allowed _ _ := True
  possible _ op reply := LoadsAs ctx loads op reply
  advance _ _ _ := ()

/-- Whatever comes back, the program ends without a panic of its own, and returns as `ret` says. -/
abbrev Survives (ctx : SkfContext) (loads : String → Bool) {A : Type} (p : Handler A)
    (ret : A → Prop) : Prop :=
  p.Meets (loading ctx loads) (fun value _ => ret value) (fun exit _ => Settles exit) ()

section rules

variable {A B : Type} {ctx : SkfContext} {loads : String → Bool} {ret : A → Prop}

@[simp] theorem survives_done (value : A) : Survives ctx loads (.done value) ret ↔ ret value :=
  Iff.rfl

@[simp] theorem survives_pure (value : A) : Survives ctx loads (pure value) ret ↔ ret value :=
  Iff.rfl

@[simp] theorem survives_reply (response : RpcResponse) :
    Survives ctx loads (Handler.reply response : Handler A) ret ↔ True :=
  iff_true_intro (settles_reply response)

theorem survives_bind (p : Handler B) (k : B → Handler A) :
    Survives ctx loads (p >>= k) ret ↔ Survives ctx loads p fun value =>
      Survives ctx loads (k value) ret :=
  meets_bind p k

theorem survives_ite (c : Prop) [Decidable c] (p q : Handler A) :
    Survives ctx loads (if c then p else q) ret ↔
      if c then Survives ctx loads p ret else Survives ctx loads q ret := by
  split <;> rfl

theorem survives_orReply (x : Except RpcResponse A) :
    Survives ctx loads (orReply x) ret ↔ ∀ value, x = .ok value → ret value := by
  cases x with
  | ok value => simp [orReply]
  | error rejection => simp [orReply]

theorem survives_expect (x : Option A) (rejection : RpcResponse) :
    Survives ctx loads (expect x rejection) ret ↔ ∀ value, x = some value → ret value := by
  cases x with
  | some value => simp [expect]
  | none => simp [expect]

/-- A result is taken as it comes, and a call that unwound is no panic of the branch's own. -/
theorem survives_settled {ret : Except ProviderError A → Prop} (x : Attempt A) :
    Survives ctx loads (settled x) ret ↔ ∀ result, x = some result → ret result := by
  cases x with
  | some result => simp [settled]
  | none => exact iff_of_true settles_unwound fun _ impossible => by cases impossible

theorem survives_requiredStr {ret : String → Prop} (params : Params) (index : Nat)
    (message : String) :
    Survives ctx loads (orReply (params.requiredStr index message)) ret ↔
      ∀ value, params.str index = some value → ret value := by
  rw [survives_orReply]
  unfold Params.requiredStr
  cases params.str index <;> simp

theorem survives_decodeBase64 {ret : List UInt8 → Prop} (errorText : DecodeErrorText)
    (encoded : String) (rejection : String → RpcResponse) :
    Survives ctx loads (orReply ((decodeBase64 errorText encoded).mapError rejection)) ret ↔
      ∀ bytes, Base64.decode encoded = some bytes → ret bytes := by
  rw [survives_orReply]
  simp only [← @decodeBase64_ok_iff errorText]
  cases decodeBase64 errorText encoded <;> simp [Except.mapError]

theorem survives_ask (op : Op) {ret : op.Reply → Prop} :
    Survives ctx loads (Program.ask (I := Skf) op) ret ↔
      ∀ reply, LoadsAs ctx loads op reply → ret reply :=
  and_iff_right trivial

theorem survives_vendor (op : VendorOp) {ret : op.Reply → Prop} :
    Survives ctx loads (vendor op) ret ↔ ∀ reply, ret reply :=
  (survives_ask (.vendor op)).trans (forall_congr' fun _ => true_imp_iff)

theorem survives_session (op : SessionOp) {ret : op.Reply → Prop} :
    Survives ctx loads (session op) ret ↔ ∀ reply, ret reply :=
  (survives_ask (.session op)).trans (forall_congr' fun _ => true_imp_iff)

theorem survives_provider (op : ProviderOp) {ret : op.Reply → Prop} :
    Survives ctx loads (provider op) ret ↔ ∀ reply, ret reply :=
  (survives_ask (.provider op)).trans (forall_congr' fun _ => true_imp_iff)

theorem survives_host (op : HostOp) {ret : op.Reply → Prop} :
    Survives ctx loads (host op) ret ↔ ∀ reply, LoadsAs ctx loads (.host op) reply → ret reply :=
  survives_ask (.host op)

theorem survives_cString {ret : CString → Prop} (name : String) :
    Survives ctx loads (cString name) ret ↔ ∃ noNul : NulFree name, ret ⟨name, noNul⟩ := by
  rw [cString, CString.new]
  by_cases noNul : Char.ofNat 0 ∉ name.toList
  · rw [dif_pos noNul]
    constructor
    · intro held
      exact ⟨noNul, held⟩
    · rintro ⟨_, held⟩
      exact held
  · rw [dif_neg noNul]
    constructor
    · intro left
      cases (settles_panic_iff _).mp left
    · rintro ⟨free, _⟩
      exact absurd free noNul

theorem survives_getApi {ret : Except String Library → Prop} (name : String)
    (fails : ∀ reason, ret (.error reason)) :
    Survives ctx loads (ctx.getApi name) ret ↔ (ctx.Configured name → ret (.ok ⟨name, none⟩)) := by
  rw [SkfContext.getApi, survives_bind, survives_host]
  constructor
  · intro met configured
    exact met true fun _ => configured
  · intro goes cached real
    cases cached with
    | true => exact goes (real rfl)
    | false =>
      dsimp only
      cases raw : ctx.config.rawPath name ctx.platform.os with
      | none => exact fails _
      | some path =>
        have configured : ctx.Configured name := by
          rw [SkfContext.Configured, raw, Option.isSome_some]
        dsimp only
        rw [survives_bind, survives_host]
        intro loaded _
        cases loaded with
        | error reason => exact fails _
        | ok done =>
          rw [survives_bind, survives_host]
          intro written _
          exact goes configured

theorem configured_iff {name : String} :
    ctx.Configured name ↔ ∃ path, ctx.getLibPath name = .ok path := by
  rw [SkfContext.Configured, SkfContext.getLibPath, resolveLibPath]
  cases ctx.config.rawPath name ctx.platform.os <;> simp

theorem survives_apiOr {ret : Library → Prop} (name : String) (failed : String → RpcResponse) :
    Survives ctx loads (apiOr ctx name failed) ret ↔
      ∀ path, ctx.getLibPath name = .ok path → ret ⟨name, none⟩ := by
  have got : Survives ctx loads (apiOr ctx name failed) ret ↔
      (ctx.Configured name → ret ⟨name, none⟩) := by
    rw [apiOr, survives_bind, survives_getApi]
    · rfl
    · intro reason
      exact settles_reply _
  rw [got, configured_iff, forall_exists_index]

theorem survives_loadedApi {ret : Library → Prop} (name : String) (lang : Language)
    (id : Option Json) :
    Survives ctx loads (loadedApi ctx name lang id) ret ↔
      ∀ path, ctx.getLibPath name = .ok path → loads path = true ∧ ret ⟨name, none⟩ := by
  rw [loadedApi, survives_bind, survives_orReply]
  cases found : ctx.getLibPath name with
  | error reason => simp [Except.mapError]
  | ok path =>
    simp only [Except.mapError, Except.ok.injEq, forall_eq']
    rw [survives_bind, survives_host]
    constructor
    · intro met
      cases loadable : loads path with
      | true => exact ⟨rfl, met (.ok ()) loadable.symm⟩
      | false =>
        have left : Settles (.panic .libraryNotLoaded) := met (.error "") loadable.symm
        cases (settles_panic_iff _).mp left
    · rintro ⟨loadable, held⟩ loaded real
      cases loaded with
      | ok done => exact held
      | error reason =>
        have failed : false = loads path := real
        rw [loadable] at failed
        cases failed

theorem survives_lost {ret : A → Prop} (provName devName : String) (response : RpcResponse) :
    Survives ctx loads (noteDeviceUnavailable provName devName >>= fun _ =>
      (reply response : Handler A)) ret := by
  rw [noteDeviceUnavailable, survives_bind, survives_bind, survives_session]
  intro removed
  exact settles_reply _

theorem survives_connectDev {ret : Device → Prop} (api : Library) (provName devName : String)
    (id : Option Json) :
    Survives ctx loads (connectDev api provName devName id) ret ↔
      NulFree devName ∧ ∀ raw, ret ⟨api, devName, raw⟩ := by
  rw [connectDev, survives_bind, survives_cString]
  refine Iff.trans ?_ exists_prop
  refine exists_congr fun noNul => ?_
  rw [survives_bind, survives_vendor]
  constructor
  · intro met raw
    exact met (SAR_OK, raw)
  · intro goes answer
    apply meets_ite
    · intro _
      exact goes answer.2
    · intro _
      exact survives_lost _ _ _

theorem survives_disConnectDev {ret : Unit → Prop} (device : Device) :
    Survives ctx loads (disConnectDev device) ret ↔ ret () := by
  rw [disConnectDev, survives_bind, survives_vendor]
  exact ⟨fun met => met 0, fun held _ => held⟩

theorem survives_withConnected {op : VendorOp} {ret : op.Reply → Prop} (device : Device) :
    Survives ctx loads (withConnected device (vendor op)) ret ↔ ∀ reply, ret reply := by
  simp only [withConnected, survives_bind, survives_vendor, survives_disConnectDev, survives_pure]

theorem survives_openApp {ret : Application → Prop} (device : Device) (provName appName : String)
    (id : Option Json) :
    Survives ctx loads (openApp device provName appName id) ret ↔
      NulFree appName ∧ ∀ raw, ret ⟨device, appName, raw⟩ := by
  rw [openApp, survives_bind, survives_cString]
  refine Iff.trans ?_ exists_prop
  refine exists_congr fun noNul => ?_
  rw [survives_bind, survives_vendor]
  constructor
  · intro met raw
    exact met (SAR_OK, raw)
  · intro goes answer
    apply meets_ite
    · intro _
      exact goes answer.2
    · intro _
      rw [← Survives, survives_bind, survives_disConnectDev]
      exact survives_lost _ _ _

theorem survives_closeApplication {ret : Unit → Prop} (application : Application) :
    Survives ctx loads (closeApplication application) ret ↔ ret () := by
  rw [closeApplication, survives_bind, survives_vendor]
  exact ⟨fun met => met 0, fun held _ => held⟩

theorem survives_closeContainer {ret : Unit → Prop} (container : Container) :
    Survives ctx loads (closeContainer container) ret ↔ ret () := by
  rw [closeContainer, survives_bind, survives_vendor]
  exact ⟨fun met => met 0, fun held _ => held⟩

theorem Survives.bind {p : Handler B} {k : B → Handler A}
    (first : Survives ctx loads p fun _ => True)
    (later : ∀ value, Survives ctx loads (k value) ret) : Survives ctx loads (p >>= k) ret := by
  rw [survives_bind]
  exact first.mono (fun value _ _ => later value) fun _ _ left => left

theorem Survives.provided {op : ProviderOp} {x : op.Reply → Attempt B}
    {k : op.Reply → Except ProviderError B → Handler A}
    (goes : ∀ reply result, Survives ctx loads (k reply result) ret) :
    Survives ctx loads (provider op >>= fun reply => settled (x reply) >>= k reply) ret := by
  rw [survives_bind, survives_provider]
  intro reply
  rw [survives_bind, survives_settled]
  exact fun result _ => goes reply result

theorem Survives.ite {c : Prop} [Decidable c] {p q : Handler A} (yes : Survives ctx loads p ret)
    (no : Survives ctx loads q ret) : Survives ctx loads (if c then p else q) ret := by
  split
  · exact yes
  · exact no

theorem survives_enumerated {query : Option ULONG → Handler Filled} {release : Handler Unit}
    (sizeFailed listFailed : String) (id : Option Json)
    (queried : ∀ buffer, Survives ctx loads (query buffer) fun _ => True)
    (released : Survives ctx loads release fun _ => True) :
    Survives ctx loads (enumerated query release sizeFailed listFailed id) fun _ => True := by
  apply (queried none).bind
  intro sized
  apply Survives.ite
  · exact released.bind fun _ => Survives.ite trivial trivial
  · apply (queried _).bind
    intro filled
    exact released.bind fun _ => Survives.ite trivial trivial

end rules

end SkfService
