import SkfService.Dispatch.HandleRequest
import SkfService.Panics.Setting
import SkfService.Streams.Requests
import SkfService.Text.Split

/-! When a direct branch unwinds: what it takes from a request, as a list of names and a library. -/

set_option autoImplicit false

namespace SkfService

open Text Interaction Program Handler

/-- What a direct branch takes from a request that it does not reject: the alias of its library,
whether the library is loaded for this request, and the names that become C strings. -/
structure Naming where
  library : String
  loaded : Bool
  names : List String

/-- The branches that call a symbol table themselves. Where the default alias goes through the
provider, there is nothing to take. -/
def Method.naming (ctx : SkfContext) (params : Params) : Method → Option Naming
  | .EnumApplication => do
    let devName ← params.str 1
    some ⟨params.optionalStr 0 ctx.config.default, false, [devName]⟩
  | .EnumContainer => do
    let devName ← params.str 1
    let appName ← params.str 2
    some ⟨params.optionalStr 0 ctx.config.default, false, [devName, appName]⟩
  | .ImportKeyPair => do
    let devName ← params.str 1
    let appName ← params.str 2
    let contName ← params.str 3
    let _alg ← params.str 4
    let encKeyPair ← params.str 5
    let _sm4AlgId ← SUPPORTED_SM4 (params.str 7)
    let _bytes ← Base64.decode encKeyPair
    some ⟨defaulted ctx params, false, [devName, appName, contName]⟩
  | .Digest => do
    let provName ← params.str 0
    let devName ← params.str 1
    let data ← params.str 2
    let _algId ← digestAlgorithm (ctx.platform.toUppercase (params.optionalStr 3 "SM3"))
    let _bytes ← Base64.decode data
    some ⟨provName, false, [devName]⟩
  | .GetDevInfo => do
    let devName ← params.str 1
    some ⟨defaulted ctx params, false, [devName]⟩
  | .GetDevState => do
    let devName ← params.str 1
    if defaulted ctx params = ctx.config.default then none
    else some ⟨defaulted ctx params, false, [devName]⟩
  | .SetLabel => do
    let devName ← params.str 1
    let label ← params.str 2
    some ⟨defaulted ctx params, false, [devName, label]⟩
  | .ECCVerify => do
    let devName ← params.str 1
    let pubKeyB64 ← params.str 2
    let dataB64 ← params.str 3
    let sigB64 ← params.str 4
    let key ← Base64.decode pubKeyB64
    let _data ← Base64.decode dataB64
    let signature ← Base64.decode sigB64
    if key.length < ECCPUBLICKEYBLOB_SIZE then none
    else if signature.length < ECCSIGNATUREBLOB_SIZE then none
    else some ⟨defaulted ctx params, false, [devName]⟩
  | .LockDev | .UnlockDev => do
    let provName ← params.str 0
    let devName ← params.str 1
    some ⟨provName, true, [devName]⟩
  | .Transmit => do
    let provName ← params.str 0
    let devName ← params.str 1
    let command ← params.str 2
    let _bytes ← Base64.decode command
    some ⟨provName, true, [devName]⟩
  | .RSAVerify => do
    let provName ← params.str 0
    let devName ← params.str 1
    let pubKeyB64 ← params.str 2
    let dataB64 ← params.str 3
    let sigB64 ← params.str 4
    let key ← Base64.decode pubKeyB64
    if key.length < RSAPUBLICKEYBLOB_SIZE then none
    else
      let _data ← Base64.decode dataB64
      let _signature ← Base64.decode sigB64
      some ⟨provName, true, [devName]⟩
  | .DigestInit => do
    let provName ← params.str 0
    let devName ← params.str 1
    if provName = ctx.config.default then none else some ⟨provName, false, [devName]⟩
  | _ => none

/-- Where the library is configured, it loads if it has to, and no name has a NUL in it. -/
def Naming.Sound (ctx : SkfContext) (loads : String → Bool) (naming : Naming) : Prop :=
  ∀ path, ctx.getLibPath naming.library = .ok path →
    (naming.loaded = true → loads path = true) ∧ ∀ name ∈ naming.names, NulFree name

def Method.direct : Method → Bool
  | .EnumDevice | .EnumApplication | .EnumContainer | .WaitForDevEvent | .ImportKeyPair
  | .FindCertificates | .Digest | .GetDevInfo | .GetDevState | .SetLabel | .ECCVerify | .LockDev
  | .UnlockDev | .Transmit | .RSAVerify | .DigestInit => true
  | _ => false

section branches

variable {ctx : SkfContext} {loads : String → Bool} {params : Params} {lang : Language}

theorem forall_bind_some {A B : Type} {x : Option A} {f : A → Option B} {P : B → Prop} :
    (∀ b, x >>= f = some b → P b) ↔ ∀ a, x = some a → ∀ b, f a = some b → P b := by
  cases x with
  | none => simp
  | some a => simp

theorem forall_unless {A : Type} {c : Prop} [Decidable c] {x : Option A} {P : A → Prop} :
    (∀ a, (if c then none else x) = some a → P a) ↔ if c then True else ∀ a, x = some a → P a := by
  split <;> simp

theorem ignored_disConnectDev (device : Device) :
    Survives ctx loads (disConnectDev device) fun _ => True :=
  (survives_disConnectDev device).mpr trivial

theorem ignored_closeApplication (application : Application) :
    Survives ctx loads (closeApplication application) fun _ => True :=
  (survives_closeApplication application).mpr trivial

theorem ignored_vendor (op : VendorOp) : Survives ctx loads (vendor op) fun _ => True :=
  (survives_vendor op).mpr fun _ => trivial

/-- The last call of a branch, whose reply is answered whatever it is. -/
theorem survives_withConnected_last (device : Device) (op : VendorOp) :
    Survives ctx loads (withConnected device (vendor op)) (fun _ => True) ↔ True := by
  rw [survives_withConnected]
  exact iff_true_intro fun _ => trivial

theorem survives_enumApplication :
    Survives ctx loads (EnumApplication.handle ctx params lang) (fun _ => True) ↔
      ∀ naming, Method.EnumApplication.naming ctx params = some naming →
        naming.Sound ctx loads := by
  have listed (device : Device) (sizeFailed listFailed : String) := @survives_enumerated ctx loads
    (fun buffer => vendor (.enumApplication device buffer))
      (disConnectDev device) sizeFailed listFailed params.id
    (fun buffer => ignored_vendor _) (ignored_disConnectDev device)
  unfold Method.naming
  simp only [EnumApplication.handle, survives_bind, survives_requiredStr, survives_apiOr,
    survives_connectDev, listed, forall_bind_some, Option.some.injEq, forall_eq', Naming.Sound,
    List.mem_singleton, forall_eq, implies_true, and_true, Bool.false_eq_true, false_implies,
    true_and]

theorem survives_enumContainer :
    Survives ctx loads (EnumContainer.handle ctx params lang) (fun _ => True) ↔
      ∀ naming, Method.EnumContainer.naming ctx params = some naming → naming.Sound ctx loads := by
  have listed (application : Application) (device : Device) (sizeFailed listFailed : String) :=
    @survives_enumerated ctx loads (fun buffer => vendor (.enumContainer application buffer))
      (closeApplication application >>= fun _ => disConnectDev device) sizeFailed
        listFailed params.id
      (fun buffer => ignored_vendor _) ((ignored_closeApplication application).bind fun _ =>
        ignored_disConnectDev device)
  unfold Method.naming
  simp only [EnumContainer.handle, survives_bind, survives_requiredStr, survives_apiOr,
    survives_connectDev, survives_openApp, listed, forall_bind_some, Option.some.injEq, forall_eq',
    Naming.Sound, List.mem_cons, List.not_mem_nil, or_false, forall_eq_or_imp, forall_eq,
    implies_true, and_true, forall_const, Bool.false_eq_true, false_implies, true_and]

theorem survives_digest : Survives ctx loads (Digest.handle ctx params lang) (fun _ => True) ↔
    ∀ naming, Method.Digest.naming ctx params = some naming → naming.Sound ctx loads := by
  have started (device : Device) (algId : ULONG) (ret : ULONG × Nat → Prop) :
      Survives ctx loads (vendor (.digestInit device algId)) ret ↔ ∀ reply, ret reply :=
        survives_vendor _
  have digested (hash : Digest) (data : List UInt8) :
      Survives ctx loads (vendor (.digest hash data 64)) (fun _ : Filled => True) ↔ True :=
    iff_true_intro (ignored_vendor _)
  unfold Method.naming
  simp only [Digest.handle, decodedOr, survives_bind, survives_requiredStr, survives_expect,
    survives_decodeBase64, survives_apiOr, survives_connectDev, started, digested,
    survives_disConnectDev, survives_ite, survives_pure, ite_self, forall_bind_some,
    Option.some.injEq, forall_eq', Naming.Sound, List.mem_singleton, forall_eq, implies_true,
    and_true, Bool.false_eq_true, false_implies, true_and]

theorem survives_getDevInfo :
    Survives ctx loads (GetDevInfo.handle ctx params lang) (fun _ => True) ↔
      ∀ naming, Method.GetDevInfo.naming ctx params = some naming → naming.Sound ctx loads := by
  have called (device : Device) (ret : ULONG × DevInfo → Prop) :
      Survives ctx loads (withConnected device (vendor (.getDevInfo device))) ret ↔
        ∀ reply, ret reply :=
    survives_withConnected device
  unfold Method.naming
  simp only [GetDevInfo.handle, survives_bind, survives_requiredStr, survives_apiOr,
    survives_connectDev, called, survives_ite, survives_pure, ite_self, forall_bind_some,
    Option.some.injEq, forall_eq', Naming.Sound, List.mem_singleton, forall_eq, implies_true,
    and_true, Bool.false_eq_true, false_implies, true_and]

theorem survives_setLabel : Survives ctx loads (SetLabel.handle ctx params lang) (fun _ => True) ↔
    ∀ naming, Method.SetLabel.naming ctx params = some naming → naming.Sound ctx loads := by
  have called (device : Device) (label : CString) :
      Survives ctx loads (withConnected device (vendor (.setLabel device label)))
        (fun _ : ULONG => True) ↔ True :=
    survives_withConnected_last device _
  unfold Method.naming
  simp only [SetLabel.handle, survives_bind, survives_requiredStr, survives_apiOr,
    survives_connectDev, survives_cString, called, survives_pure, forall_bind_some,
    Option.some.injEq, forall_eq', Naming.Sound, List.mem_cons, List.not_mem_nil, or_false,
    forall_eq_or_imp, forall_eq, and_true, exists_prop, forall_const, Bool.false_eq_true,
    false_implies, true_and]

theorem survives_eccVerify : Survives ctx loads (ECCVerify.handle ctx params lang) (fun _ => True) ↔
    ∀ naming, Method.ECCVerify.naming ctx params = some naming → naming.Sound ctx loads := by
  have called (device : Device) (key data signature : List UInt8) :
      Survives ctx loads (withConnected device (vendor (.eccVerify device key data signature)))
        (fun _ : ULONG => True) ↔
        True := survives_withConnected_last device _
  unfold Method.naming
  simp only [ECCVerify.handle, decodedOr, survives_bind, survives_requiredStr,
    survives_decodeBase64, survives_apiOr, survives_connectDev, called, survives_ite,
    survives_reply, survives_pure, forall_bind_some, forall_unless, Option.some.injEq, forall_eq',
    Naming.Sound, List.mem_singleton, forall_eq, implies_true, and_true, Bool.false_eq_true,
    false_implies, true_and]

theorem survives_unlockDev : Survives ctx loads (UnlockDev.handle ctx params lang) (fun _ => True) ↔
    ∀ naming, Method.UnlockDev.naming ctx params = some naming → naming.Sound ctx loads := by
  have called (device : Device) :
      Survives ctx loads (withConnected device (vendor (.unlockDev device)))
        (fun _ : ULONG => True) ↔ True :=
    survives_withConnected_last device _
  unfold Method.naming
  simp only [UnlockDev.handle, requiredNames, survives_bind, survives_requiredStr,
    survives_loadedApi, survives_connectDev, called, survives_pure, forall_bind_some,
    Option.some.injEq, forall_eq', Naming.Sound, List.mem_singleton, forall_eq, implies_true,
    and_true, forall_const]

theorem survives_lockDev : Survives ctx loads (LockDev.handle ctx params lang) (fun _ => True) ↔
    ∀ naming, Method.LockDev.naming ctx params = some naming → naming.Sound ctx loads := by
  have called (device : Device) (timeout : ULONG) :
      Survives ctx loads (withConnected device (vendor (.lockDev device timeout)))
        (fun _ : ULONG => True) ↔ True :=
    survives_withConnected_last device _
  unfold Method.naming
  simp only [LockDev.handle, requiredNames, survives_bind, survives_requiredStr, survives_loadedApi,
    survives_connectDev, called, survives_pure, forall_bind_some, Option.some.injEq, forall_eq',
    Naming.Sound, List.mem_singleton, forall_eq, implies_true, and_true, forall_const]

theorem survives_transmit : Survives ctx loads (Transmit.handle ctx params lang) (fun _ => True) ↔
    ∀ naming, Method.Transmit.naming ctx params = some naming → naming.Sound ctx loads := by
  have called (device : Device) (command : List UInt8) :
      Survives ctx loads (withConnected device (vendor (.transmit device command 4096)))
        (fun _ : Filled => True) ↔ True :=
    survives_withConnected_last device _
  unfold Method.naming
  simp only [Transmit.handle, requiredNames, decodedOr, survives_bind, survives_requiredStr,
    survives_decodeBase64, survives_loadedApi, survives_connectDev, called, survives_ite,
    survives_pure, ite_self, forall_bind_some, Option.some.injEq, forall_eq', Naming.Sound,
    List.mem_singleton, forall_eq, implies_true, and_true, forall_const]

theorem survives_rsaVerify : Survives ctx loads (RSAVerify.handle ctx params lang) (fun _ => True) ↔
    ∀ naming, Method.RSAVerify.naming ctx params = some naming → naming.Sound ctx loads := by
  have called (device : Device) (key data signature : List UInt8) :
      Survives ctx loads (withConnected device (vendor (.rsaVerify device key data signature)))
        (fun _ : ULONG => True) ↔
        True := survives_withConnected_last device _
  unfold Method.naming
  simp only [RSAVerify.handle, requiredNames, decodedOr, survives_bind, survives_requiredStr,
    survives_decodeBase64, survives_loadedApi, survives_connectDev, called, survives_ite,
    survives_reply, survives_pure, forall_bind_some, forall_unless, Option.some.injEq, forall_eq',
    Naming.Sound, List.mem_singleton, forall_eq, implies_true, and_true, forall_const]

theorem survives_intoContainer (request : KeyPairRequest) (container : Container)
    (id : Option Json) :
    Survives ctx loads (ImportKeyPair.intoContainer ctx request container id) fun _ => True := by
  have released : Survives ctx loads (closeContainer container >>= fun _ =>
      closeApplication container.application >>= fun _ =>
        disConnectDev container.application.device) fun _ => True :=
    Survives.bind ((survives_closeContainer container).mpr trivial) fun _ =>
      (ignored_closeApplication _).bind fun _ => ignored_disConnectDev _
  unfold ImportKeyPair.intoContainer
  cases request.isEcc with
  | true =>
    apply (ignored_vendor _).bind
    intro ret
    exact released.bind fun _ => Survives.ite trivial trivial
  | false =>
    dsimp only
    cases decodeBase64 ctx.platform.base64Error request.wrapKey with
    | error reason => exact released.bind fun _ => settles_reply _
    | ok wrapKey =>
      apply (ignored_vendor _).bind
      intro ret
      exact released.bind fun _ => Survives.ite trivial trivial

/-- In an open application, the container's name is left to unwind on. -/
theorem survives_intoApplication (request : KeyPairRequest) (application : Application)
    (id : Option Json) :
    Survives ctx loads (ImportKeyPair.intoApplication ctx request application id) (fun _ => True) ↔
      NulFree request.contName := by
  have unauthorized : Survives ctx loads (ImportKeyPair.unauthorized application id) fun _ =>
    True :=
    (ignored_closeApplication _).bind fun _ => (ignored_disConnectDev _).bind fun _ =>
      (ignored_closeApplication _).bind fun _ => (ignored_disConnectDev _).bind fun _ => trivial
  rw [ImportKeyPair.intoApplication, survives_bind, survives_session]
  constructor
  · intro met
    -- A session with a grant gets as far as the name.
    have granted := met (0, .ok ())
    rw [survives_bind, survives_cString] at granted
    exact granted.1
  · intro noNul answer
    obtain ⟨now, outcome⟩ := answer
    cases outcome with
    | error reason => exact unauthorized
    | ok done =>
      rw [survives_bind, survives_cString]
      refine ⟨noNul, ?_⟩
      rw [survives_bind, survives_vendor]
      intro opened
      apply Survives.ite
      · exact survives_intoContainer request _ id
      · exact (ignored_closeApplication _).bind fun _ =>
          (ignored_disConnectDev _).bind fun _ => trivial

theorem survives_importKeyPair :
    Survives ctx loads (ImportKeyPair.handle ctx params lang) (fun _ => True) ↔
      ∀ naming, Method.ImportKeyPair.naming ctx params = some naming → naming.Sound ctx loads := by
  unfold Method.naming
  simp only [ImportKeyPair.handle, KeyPairRequest.read, survives_bind, survives_requiredStr,
    survives_expect, survives_decodeBase64, survives_pure, survives_apiOr, survives_connectDev,
    survives_openApp, survives_intoApplication, forall_bind_some, Option.some.injEq, forall_eq',
    Naming.Sound, List.mem_cons, List.not_mem_nil, or_false, forall_eq_or_imp, forall_eq,
    forall_const, Bool.false_eq_true, false_implies, true_and]

theorem survives_getDevState :
    Survives ctx loads (GetDevState.handle ctx params lang) (fun _ => True) ↔
      ∀ naming, Method.GetDevState.naming ctx params = some naming → naming.Sound ctx loads := by
  have asked (library : Library) (name : CString) (ret : ULONG × ULONG → Prop) :
      Survives ctx loads (vendor (.getDevState library name)) ret ↔ ∀ reply, ret reply :=
        survives_vendor _
  rw [GetDevState.handle, survives_bind, survives_requiredStr]
  unfold Method.naming
  simp only [forall_bind_some, forall_unless]
  refine forall₂_congr fun devName _ => ?_
  by_cases default : defaulted ctx params = ctx.config.default
  · rw [if_pos default, if_pos default]
    refine iff_true_intro (Survives.provided fun reply result => ?_)
    cases result <;> trivial
  · rw [if_neg default, if_neg default]
    simp only [survives_bind, survives_apiOr, survives_cString, asked, survives_ite, survives_pure,
      ite_self, Option.some.injEq, forall_eq', Naming.Sound, List.mem_singleton, forall_eq,
      implies_true, exists_prop, and_true, Bool.false_eq_true, false_implies, true_and]

theorem survives_digestInit :
    Survives ctx loads (DigestInit.handle ctx params lang) (fun _ => True) ↔
      ∀ naming, Method.DigestInit.naming ctx params = some naming → naming.Sound ctx loads := by
  have connected (library : Library) (name : CString) (ret : ULONG × Nat → Prop) :
      Survives ctx loads (vendor (.connectDev library name)) ret ↔ ∀ reply, ret reply :=
        survives_vendor _
  -- Under the default alias the provider checks the name, and nothing here unwinds by itself.
  have onDefault (devName : String) (algId : ULONG) (idBytes : List UInt8) :
      Survives ctx loads (DigestInit.onDefault ctx devName algId idBytes lang params.id) fun _ =>
        True := by
    apply Survives.provided
    intro opened result
    cases result with
    | error e => trivial
    | ok raw =>
      rw [survives_bind, survives_provider]
      intro begun
      rcases begun with - | (e | hash)
      · exact Survives.bind ((survives_provider _).mpr fun _ => trivial) fun _ => settles_unwound
      · exact Survives.bind ((survives_provider _).mpr fun _ => trivial) fun _ => trivial
      · exact Survives.bind ((survives_session _).mpr fun _ => trivial) fun _ =>
          Survives.bind ((survives_session _).mpr fun _ => trivial) fun _ => trivial
  unfold Method.naming
  simp only [DigestInit.handle, requiredNames, survives_bind, survives_requiredStr, survives_pure,
    survives_ite, forall_bind_some, forall_unless]
  refine forall₂_congr fun provName _ => forall₂_congr fun devName _ => ?_
  by_cases default : provName = ctx.config.default
  · rw [if_pos default, if_pos default]
    exact iff_true_intro (onDefault devName _ _)
  · rw [if_neg default, if_neg default]
    simp only [DigestInit.onOther, survives_bind, survives_apiOr, survives_cString, connected,
      survives_ite, survives_pure, survives_disConnectDev, ite_self, Option.some.injEq, forall_eq',
      Naming.Sound, List.mem_singleton, forall_eq, implies_true, exists_prop, and_true,
      Bool.false_eq_true, false_implies, true_and]

theorem survives_enumDevice :
    Survives ctx loads (EnumDevice.handle ctx params lang) fun _ => True := by
  apply Survives.ite
  · apply Survives.provided
    intro reply result
    cases result <;> trivial
  · rw [survives_bind, survives_apiOr]
    intro path _
    exact survives_enumerated _ _ _ (fun _ => ignored_vendor _) trivial

theorem survives_waitForDevEvent :
    Survives ctx loads (WaitForDevEvent.handle ctx params lang) fun _ => True := by
  apply Survives.ite
  · apply Survives.provided
    intro reply result
    cases result <;> trivial
  · rw [survives_bind, survives_apiOr]
    intro path _
    rw [survives_bind, survives_vendor]
    intro waited
    obtain ⟨filled, event⟩ := waited
    exact Survives.ite trivial trivial

/-- A name of a list ends where a NUL is, so none is part of it. -/
theorem namesOf_nulFree (filled : Filled) : ∀ name ∈ namesOf filled, NulFree name := by
  intro name member
  obtain ⟨bytes, inside, rfl⟩ := List.mem_map.mp member
  exact fromUtf8Lossy_no_nul _ (not_mem_of_splitOn _ (List.mem_of_mem_filter inside))

section search

open FindCertificates

theorem survives_collect {A B : Type} {step : A → Handler (List B)} {items : List A}
    (each : ∀ item ∈ items, Survives ctx loads (step item) fun _ => True) :
    Survives ctx loads (Program.collect step items) fun _ => True :=
  meets_collect step (fun _ => True) items trivial fun item member _ _ => each item member

theorem survives_listed {query : Option ULONG → Handler Filled}
    (queried : ∀ buffer, Survives ctx loads (query buffer) fun _ => True) :
    Survives ctx loads (listed query) fun names => ∀ name ∈ names, NulFree name := by
  have empty : ∀ name ∈ ([] : List String), NulFree name :=
    fun name impossible => by cases impossible
  apply (queried none).bind
  intro sized
  apply Survives.ite
  · apply (queried _).bind
    intro filled
    exact Survives.ite (namesOf_nulFree filled) empty
  · exact empty

theorem survives_processCert (keyStem : String) (container : Container) (isSign : Bool) :
    Survives ctx loads (processCert ctx keyStem container isSign) fun _ => True := by
  apply (ignored_vendor _).bind
  intro sized
  apply Survives.ite
  · apply (ignored_vendor _).bind
    intro filled
    apply Survives.ite
    · dsimp only
      cases ctx.platform.parseCertificate (filled.memory.take sized.size.toNat) <;> trivial
    · trivial
  · trivial

theorem survives_asked {A B : Type} {asked : Bool} {p : Handler A} {skipped : A} {k : A → Handler B}
    (step : Survives ctx loads p fun _ => True)
    (next : ∀ value, Survives ctx loads (k value) fun _ => True) :
    Survives ctx loads (if asked then p >>= k else Program.done skipped >>= k) fun _ => True :=
  Survives.ite (step.bind next) (next skipped)

theorem survives_inContainer (want : Wanted) (keyStem : String) (application : Application)
    {contName : String} (noNul : NulFree contName) :
    Survives ctx loads (inContainer ctx want keyStem application contName) fun _ => True := by
  rw [inContainer, survives_bind, survives_cString]
  refine ⟨noNul, ?_⟩
  apply (ignored_vendor _).bind
  intro opened
  apply Survives.ite
  · apply survives_asked (survives_processCert _ _ _)
    intro sign
    apply survives_asked (survives_processCert _ _ _)
    intro enc
    exact Survives.bind ((survives_closeContainer _).mpr trivial) fun _ => trivial
  · trivial

theorem survives_inApplication (want : Wanted) (keyStem : String) (device : Device)
    {appName : String} (noNul : NulFree appName) :
    Survives ctx loads (inApplication ctx want keyStem device appName) fun _ => True := by
  rw [inApplication, survives_bind, survives_cString]
  refine ⟨noNul, ?_⟩
  apply (ignored_vendor _).bind
  intro opened
  apply Survives.ite
  · rw [survives_bind]
    apply (survives_listed fun _ => ignored_vendor _).mono _ fun _ _ left => left
    intro contNames _ free
    apply (survives_collect fun name member =>
      survives_inContainer want _ _ (free name member)).bind
    intro found
    exact (ignored_closeApplication _).bind fun _ => trivial
  · trivial

theorem survives_inDevice (want : Wanted) (api : Library) (provName : String) {devName : String}
    (noNul : NulFree devName) :
    Survives ctx loads (inDevice ctx want api provName devName) fun _ => True := by
  rw [inDevice, survives_bind, survives_cString]
  refine ⟨noNul, ?_⟩
  apply (ignored_vendor _).bind
  intro connected
  apply Survives.ite
  · rw [survives_bind]
    apply (survives_listed fun _ => ignored_vendor _).mono _ fun _ _ left => left
    intro appNames _ free
    apply (survives_collect fun name member =>
      survives_inApplication want _ _ (free name member)).bind
    intro found
    exact (ignored_disConnectDev _).bind fun _ => trivial
  · trivial

theorem survives_findCertificates :
    Survives ctx loads (FindCertificates.handle ctx params) fun _ => True := by
  apply Survives.bind
  · apply survives_collect
    intro provName _
    rw [inProvider, survives_bind, survives_getApi]
    · intro configured
      dsimp only
      rw [survives_bind]
      apply (survives_listed fun _ => ignored_vendor _).mono _ fun _ _ left => left
      intro devNames _ free
      exact survives_collect fun name member => survives_inDevice _ _ _ (free name member)
    · intro reason
      trivial
  · intro found
    trivial

end search

end branches

theorem survives_branch {ctx : SkfContext} {loads : String → Bool} {params : Params}
    {lang : Language} {method : Method} (direct : method.direct = true) :
    Survives ctx loads (method.branch ctx params lang) (fun _ => True) ↔
        ∀ naming, method.naming ctx params = some naming → naming.Sound ctx loads := by
  have always {p : Handler RpcResponse} (survives : Survives ctx loads p fun _ => True) :
      Survives ctx loads p (fun _ => True) ↔ ∀ naming : Naming, none = some naming →
        naming.Sound ctx loads :=
    iff_of_true survives fun _ impossible => by cases impossible
  cases method with
  | EnumDevice => exact always survives_enumDevice
  | EnumApplication => exact survives_enumApplication
  | EnumContainer => exact survives_enumContainer
  | WaitForDevEvent => exact always survives_waitForDevEvent
  | ImportKeyPair => exact survives_importKeyPair
  | FindCertificates => exact always survives_findCertificates
  | Digest => exact survives_digest
  | GetDevInfo => exact survives_getDevInfo
  | GetDevState => exact survives_getDevState
  | SetLabel => exact survives_setLabel
  | ECCVerify => exact survives_eccVerify
  | LockDev => exact survives_lockDev
  | UnlockDev => exact survives_unlockDev
  | Transmit => exact survives_transmit
  | RSAVerify => exact survives_rsaVerify
  | DigestInit => exact survives_digestInit
  | _ => cases direct

/-- Every run that the process can answer ends with a response, a provider call that unwinds apart. -/
def Returns (ctx : SkfContext) (loads : String → Bool) (p : Handler RpcResponse) : Prop :=
  ∀ trace outcome, (loading ctx loads).Possible () trace → p.Finishes trace outcome →
    (∃ response, Yields p trace response) ∨ outcome = .error (.panic .callUnwound)

theorem returns_iff_survives {ctx : SkfContext} {loads : String → Bool} {p : Handler RpcResponse} :
    Returns ctx loads p ↔ Survives ctx loads p fun _ => True := by
  rw [Survives, meets_iff_leaves fun _ _ => trivial]
  constructor
  · intro returns trace exit possible ran why panicked
    subst panicked
    rcases returns trace _ possible ran with ⟨response, ended | early⟩ | unwound
    · cases Reaches.unique ran ended
    · cases Reaches.unique ran early
    · cases unwound
      rfl
  · intro settles trace outcome possible ran
    cases outcome with
    | ok response => exact .inl ⟨response, .inl ran⟩
    | error exit =>
      cases exit with
      | reply response => exact .inl ⟨response, .inr ran⟩
      | panic why =>
        rw [settles trace (.panic why) possible ran why rfl]
        exact .inr rfl

/-- A branch returns a response on every run just if the names it takes are free of NULs and the
library it takes loads. -/
theorem direct_branches_return_iff {ctx : SkfContext} {loads : String → Bool} {params : Params}
    {lang : Language} {method : Method} (direct : method.direct = true) :
    Returns ctx loads (method.branch ctx params lang) ↔
      ∀ naming, method.naming ctx params = some naming → naming.Sound ctx loads :=
  returns_iff_survives.trans (survives_branch direct)

namespace Unwinding

def named : Params := ⟨[.string "GM3000", .string "dev"], none⟩

def cut : Params := ⟨[.string "GM3000", .string (.ofList ['d', Char.ofNat 0])], none⟩

theorem path_found :
    (SkfContext.serving []).getLibPath "GM3000" = .ok "native/GM3000/linux/libgm3000.1.0.so" := by
  decide

end Unwinding

theorem direct_branches_return_iff_named :
    Returns (.serving []) (fun _ =>
      true) (Method.EnumApplication.branch (.serving []) Unwinding.named .EN) := by
  have direct : Method.EnumApplication.direct = true := rfl
  apply (direct_branches_return_iff direct).mpr
  intro naming taken
  cases taken
  intro path _
  refine ⟨fun impossible => absurd impossible (by decide), ?_⟩
  decide

/-- A device name with a NUL unwinds, and so does a library that does not load. -/
theorem direct_branches_unwind :
    ¬Returns (.serving []) (fun _ =>
      true) (Method.EnumApplication.branch (.serving []) Unwinding.cut .EN) ∧
      ¬Returns (.serving []) (fun _ => false)
        (Method.LockDev.branch (.serving []) Unwinding.named .EN) := by
  constructor
  · intro returns
    have sound := survives_enumApplication.mp (returns_iff_survives.mp returns) _ rfl
    have noNul := (sound _ Unwinding.path_found).2 _ (List.mem_singleton_self _)
    rw [NulFree, String.toList_ofList] at noNul
    exact noNul (.tail _ (.head _))
  · intro returns
    have sound := survives_lockDev.mp (returns_iff_survives.mp returns) _ rfl
    cases (sound _ Unwinding.path_found).1 rfl

end SkfService
