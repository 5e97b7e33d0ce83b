import SkfService.Dispatch.Unavailable
import SkfService.Dispatch.VendorBuffers

/-! The three branches that reach one vendor library in two ways: through the provider under the
default alias, and directly under any other one. -/

set_option autoImplicit false

namespace SkfService

open Text Interaction Program Handler

section environment

/-- A native call never unwinds. -/
def attempted {A : Type} : Except Empty (Except ProviderError A) → Attempt A
  | .ok result => some result

/-- The replies where both ways end in one library: a call of the provider is answered by the native
provider on it, and it loads under any alias. -/
def Answered (library : VendorLibrary) (history : List (Event Devices)) :
    (op : Op) → op.Reply → Prop
  | .provider (.enumDevices _ present), reply =>
    reply = attempted ((NativeSkfProvider.enumDevices present).against library history).1
  | .provider (.deviceState _ name), reply =>
    reply = attempted ((NativeSkfProvider.deviceState name).against library history).1
  | .provider (.waitForEvent _ bufLen), reply =>
    reply = attempted ((NativeSkfProvider.waitForEvent bufLen).against library history).1
  | .vendor (.enumDev _ present buffer), reply => reply = library history (.enumDev present buffer)
  | .vendor (.getDevState _ name), reply => reply = library history (.getDevState name)
  | .vendor (.waitForDevEvent _ capacity), reply =>
    reply = library history (.waitForDevEvent capacity)
  | .host (.loadLibrary _), reply => reply = .ok ()
  | _, _ => True

def asked (library : VendorLibrary) (history : List (Event Devices)) :
    (op : Op) → op.Reply → List (Event Devices)
  | .provider (.enumDevices _ present), _ =>
    ((NativeSkfProvider.enumDevices present).against library history).2
  | .provider (.deviceState _ name), _ =>
    ((NativeSkfProvider.deviceState name).against library history).2
  | .provider (.waitForEvent _ bufLen), _ =>
    ((NativeSkfProvider.waitForEvent bufLen).against library history).2
  | .vendor (.enumDev _ present buffer), reply => history ++ [⟨.enumDev present buffer, reply⟩]
  | .vendor (.getDevState _ name), reply => history ++ [⟨.getDevState name, reply⟩]
  | .vendor (.waitForDevEvent _ capacity), reply => history ++ [⟨.waitForDevEvent capacity, reply⟩]
  | _, _ => history

def onLibrary (library : VendorLibrary) : Monitor Skf (List (Event Devices)) where
  allowed _ _ := True
  possible := Answered library
  advance := asked library

/-- The replies where the library does not load: the provider that takes its place fails every call,
and no alias finds it in the cache or loads it. -/
def Missing : (op : Op) → op.Reply → Prop
  | .provider op, reply =>
    ∃ (self : UnavailableProvider) (platform : Platform), self.Answers platform op reply
  | .host (.readCache _), reply => reply = false
  | .host (.loadLibrary _), reply => ∃ reason, reply = .error reason
  | _, _ => True

def unloadable : Monitor Skf (List (Event Devices)) where
  allowed _ _ := True
  possible _ := Missing
  advance history _ _ := history

def deployed : Option VendorLibrary → Monitor Skf (List (Event Devices))
  | some library => onLibrary library
  | none => unloadable

/-- The result and the error code a caller sees; a panic shows neither. -/
def visible : Except Exit RpcResponse → Option (Json × Int32)
  | .ok response | .error (.reply response) => some (response.result, response.error)
  | .error (.panic _) => none

abbrev Shows (M : Monitor Skf (List (Event Devices))) (p : Handler RpcResponse)
    (history : List (Event Devices)) (seen : Option (Json × Int32)) : Prop :=
  p.Meets M (fun response _ => visible (.ok response) = seen)
    (fun exit _ => visible (.error exit) = seen) history

variable {library : VendorLibrary} {M : Monitor Skf (List (Event Devices))}
  {p : Handler RpcResponse} {history : List (Event Devices)} {seen : Option (Json × Int32)}

theorem Shows.finished {trace : List (Event Skf)} {outcome : Except Exit RpcResponse}
    (shows_ : Shows M p history seen) (ran : p.Finishes trace outcome)
    (possible : M.Possible history trace) : visible outcome = seen := by
  cases outcome with
  | ok response => exact shows_.returned ran possible
  | error exit => exact shows_.stopped ran possible

theorem onLibrary_unwatched : Unwatched (onLibrary library) history where
  allowed _ := trivial
  quiet _ _ := rfl

theorem shows_apiOr {ctx : SkfContext} {name : String} {failed : String → RpcResponse}
    {k : Library → Handler RpcResponse}
    (configured : (ctx.config.rawPath name ctx.platform.os).isSome)
    (goes : Shows (onLibrary library) (k ⟨name, none⟩) history seen) :
    Shows (onLibrary library) (apiOr ctx name failed >>= k) history seen := by
  obtain ⟨raw, path⟩ := Option.isSome_iff_exists.mp configured
  rw [Shows, meets_bind, apiOr, meets_bind]
  apply onLibrary_unwatched.bind_host
  intro cached _
  cases cached with
  | true => exact goes
  | false =>
    simp only [path]
    apply onLibrary_unwatched.bind_host
    intro loaded possible
    rw [show loaded = .ok () from possible]
    exact onLibrary_unwatched.bind_host fun _ _ => goes

/-- A library that does not load is told by the caller's own refusal. -/
theorem missing_apiOr {ctx : SkfContext} {name : String} {failed : String → RpcResponse}
    {k : Library → Handler RpcResponse}
    (told : ∀ reason, visible (.error (.reply (failed reason))) = seen) :
    Shows unloadable (apiOr ctx name failed >>= k) history seen := by
  have unwatched : Unwatched unloadable history := ⟨fun _ => trivial, fun _ _ => rfl⟩
  rw [Shows, meets_bind, apiOr, meets_bind]
  apply unwatched.bind_host
  intro cached possible
  rw [show cached = false from possible]
  cases ctx.config.rawPath name ctx.platform.os with
  | none => exact told _
  | some raw =>
    apply unwatched.bind_host
    intro loaded failed
    obtain ⟨reason, rfl⟩ := failed
    exact told _

end environment

/-- The error code a caller sees of a vendor's code. Through the provider a missing symbol is a load
failure. -/
def shownCode (viaProvider : Bool) (ret : ULONG) : Int32 :=
  if viaProvider ∧ ret = SAR_COULDNOTGETFUNCADDR then -5 else codeAsI32 ret

theorem shownCode_eq_iff (ret : ULONG) :
    shownCode true ret = shownCode false ret ↔ ret ≠ SAR_COULDNOTGETFUNCADDR := by
  unfold shownCode
  by_cases missing : ret = SAR_COULDNOTGETFUNCADDR
  · subst missing
    decide
  · simp [missing]

theorem nativeOr_error (ret : ULONG) (context : String) (message : ULONG → String) (lang : Language)
    (id : Option Json) :
    visible (.ok (nativeOr (.fromNative ret context) message lang id)) =
      some (.null, shownCode true ret) := by
  unfold ProviderError.fromNative shownCode
  split <;> simp_all [nativeOr, visible, providerLoadFailed, loadLibFailed, RpcResponse.err]

section EnumDevice

def EnumDevice.listing (library : VendorLibrary) : Except ProviderError (List String) :=
  let sized := library [] (.enumDev true none)
  if sized.ret ≠ SAR_OK then .error (.fromNative sized.ret "EnumDev")
  else if sized.size = 0 then .ok []
  else
    let filled := library [⟨.enumDev true none, sized⟩] (.enumDev true (some sized.size))
    if filled.ret ≠ SAR_OK then .error (.fromNative filled.ret "enumerate list")
    else .ok (namesOf filled)

def EnumDevice.seen (viaProvider : Bool) (library : VendorLibrary) : Option (Json × Int32) :=
  let sized := library [] (.enumDev true none)
  if sized.ret ≠ SAR_OK then some (.null, shownCode viaProvider sized.ret)
  else if sized.size = 0 then some (.strings [], 0)
  else
    let filled := library [⟨.enumDev true none, sized⟩] (.enumDev true (some sized.size))
    if filled.ret ≠ SAR_OK then some (.null, shownCode viaProvider filled.ret)
    else some (.strings (namesOf filled), 0)

variable {ctx : SkfContext} {params : Params} {lang : Language} {library : VendorLibrary}

theorem EnumDevice.against_library (consistent : library.Consistent) :
    ((NativeSkfProvider.enumDevices true).against library []).1 =
      .ok (EnumDevice.listing library) := by
  unfold NativeSkfProvider.enumDevices NativeSkfProvider.readNameList EnumDevice.listing
  have small := consistent [⟨.enumDev true none, library [] (.enumDev true none)⟩] true
    (library [] (.enumDev true none)).size
  rw [against_ask_bind, List.nil_append]
  generalize library [] (.enumDev true none) = sized at small ⊢
  by_cases failed : sized.ret = SAR_OK
  · by_cases empty : sized.size = 0
    · simp [failed, empty]
    · simp only [failed, empty, ne_eq, not_true_eq_false, if_false]
      rw [against_ask_bind, parseCstrList_eq small, against_ite]
      split <;> rfl
  · simp [failed]

theorem EnumDevice.shows_default (consistent : library.Consistent)
    (default : params.optionalStr 0 ctx.config.default = ctx.config.default) :
    Shows (onLibrary library) (EnumDevice.handle ctx params lang) []
      (EnumDevice.seen true library) := by
  unfold EnumDevice.handle
  simp only [default, if_true]
  apply bind_call
  · trivial
  · intro answer possible
    have answered :
        answer = attempted ((NativeSkfProvider.enumDevices true).against library []).1 := possible
    rw [EnumDevice.against_library consistent] at answered
    subst answered
    unfold EnumDevice.listing EnumDevice.seen
    generalize library [] (.enumDev true none) = sized
    by_cases failed : sized.ret = SAR_OK
    · by_cases empty : sized.size = 0
      · simp only [failed, empty, ne_eq, not_true_eq_false, if_false, if_true]
        exact rfl
      · simp only [failed, empty, ne_eq, not_true_eq_false, if_false]
        split
        · exact nativeOr_error _ _ _ _ _
        · exact rfl
    · simp only [failed, ne_eq, not_false_eq_true, if_true]
      exact nativeOr_error _ _ _ _ _

theorem EnumDevice.shows_other
    (other : params.optionalStr 0 ctx.config.default ≠ ctx.config.default)
    (configured :
      (ctx.config.rawPath (params.optionalStr 0 ctx.config.default) ctx.platform.os).isSome) :
    Shows (onLibrary library) (EnumDevice.handle ctx params lang) []
      (EnumDevice.seen false library) := by
  unfold EnumDevice.handle
  simp only [other, if_false]
  apply shows_apiOr configured
  unfold enumerated EnumDevice.seen
  apply bind_call
  · trivial
  · intro sized answered
    have same : sized = library [] (.enumDev true none) := answered
    rw [← same]
    by_cases failed : sized.ret = SAR_OK
    -- Nothing is fetched when the size asked for is zero.
    · by_cases empty : sized.size = 0
      · simp only [failed, empty, or_true, if_true, ne_eq, not_true_eq_false, if_false]
        exact rfl
      · simp only [failed, empty, ne_eq, not_true_eq_false, or_self, if_false]
        apply bind_call
        · trivial
        · intro filled fetched
          have list : filled = library [⟨.enumDev true none, sized⟩]
              (.enumDev true (some sized.size)) := fetched
          rw [← list]
          by_cases unfilled : filled.ret = SAR_OK
          · simp only [unfilled, if_true, not_true_eq_false, if_false]
            exact rfl
          · simp only [unfilled, if_false, not_false_eq_true, if_true]
            exact rfl
    · simp only [failed, ne_eq, not_false_eq_true, true_or, if_true, if_false]
      exact rfl

/-- The two ways show the same unless one of the calls that are made lacks its symbol. -/
theorem EnumDevice.seen_eq_iff (library : VendorLibrary) :
    EnumDevice.seen true library = EnumDevice.seen false library ↔
      (library [] (.enumDev true none)).ret ≠ SAR_COULDNOTGETFUNCADDR ∧
        ((library [] (.enumDev true none)).ret = SAR_OK →
          (library [] (.enumDev true none)).size ≠ 0 →
          (library [⟨.enumDev true none, library [] (.enumDev true none)⟩]
            (.enumDev true (some (library [] (.enumDev true none)).size))).ret ≠
              SAR_COULDNOTGETFUNCADDR) := by
  have distinct : SAR_OK ≠ SAR_COULDNOTGETFUNCADDR := by decide
  unfold EnumDevice.seen
  generalize library [] (.enumDev true none) = sized
  by_cases failed : sized.ret = SAR_OK
  · by_cases empty : sized.size = 0
    · simp [failed, empty, distinct]
    · simp only [failed, empty, ne_eq, not_true_eq_false, if_false]
      generalize library [⟨.enumDev true none, sized⟩] (.enumDev true (some sized.size)) = filled
      by_cases unfilled : filled.ret = SAR_OK
      · simp [unfilled, distinct]
      · simp [unfilled, distinct, ← shownCode_eq_iff]
  · simp [failed, ← shownCode_eq_iff]

end EnumDevice

section GetDevState

/-- Through the provider a name with an interior NUL is a load failure, and directly it is a panic. -/
def GetDevState.seen (viaProvider : Bool) (library : VendorLibrary) (params : Params) :
    Option (Json × Int32) :=
  match params.str 1 with
  | none => some (.null, -2)
  | some devName =>
    match CString.new devName with
    | none => if viaProvider then some (.null, -5) else none
    | some name =>
      let answer := library [] (.getDevState name)
      if answer.1 ≠ SAR_OK then some (.null, shownCode viaProvider answer.1)
      else some (stateJson answer.2, 0)

variable {ctx : SkfContext} {params : Params} {lang : Language} {library : VendorLibrary}
  {devName : String}

theorem GetDevState.against_unnamed (unnamed : CString.new devName = none) :
    ((NativeSkfProvider.deviceState devName).against library []).1 =
      .ok (.error (.InvalidArgument "GetDevState")) := by
  unfold NativeSkfProvider.deviceState NativeSkfProvider.cstring
  rw [unnamed]
  rfl

theorem GetDevState.against_named {name : CString} (named : CString.new devName = some name) :
    ((NativeSkfProvider.deviceState devName).against library []).1 =
      .ok (if (library [] (.getDevState name)).1 =
        SAR_OK then .ok (library [] (.getDevState name)).2
        else .error (.fromNative (library [] (.getDevState name)).1 "GetDevState")) := by
  unfold NativeSkfProvider.deviceState NativeSkfProvider.cstring
  simp only [named]
  rw [against_ask_bind, List.nil_append, against_ite]
  split <;> rfl

theorem GetDevState.shows_default (default : defaulted ctx params = ctx.config.default) :
    Shows (onLibrary library) (GetDevState.handle ctx params lang) []
      (GetDevState.seen true library params) := by
  unfold GetDevState.handle GetDevState.seen Params.requiredStr
  simp only [default, if_true]
  cases params.str 1 with
  | none => exact rfl
  | some devName =>
    dsimp only
    apply bind_call
    · trivial
    · intro answer possible
      have answered : answer =
          attempted ((NativeSkfProvider.deviceState devName).against library []).1 := possible
      cases named : CString.new devName with
      | none =>
        rw [GetDevState.against_unnamed named] at answered
        subst answered
        exact rfl
      | some name =>
        rw [GetDevState.against_named named] at answered
        subst answered
        by_cases failed : (library [] (.getDevState name)).1 = SAR_OK
        · simp only [failed, if_true, ne_eq, not_true_eq_false, if_false]
          exact rfl
        · simp only [failed, if_false, ne_eq, not_false_eq_true, if_true]
          exact nativeOr_error _ _ _ _ _

theorem GetDevState.shows_other (other : defaulted ctx params ≠ ctx.config.default)
    (configured : (ctx.config.rawPath (defaulted ctx params) ctx.platform.os).isSome) :
    Shows (onLibrary library) (GetDevState.handle ctx params lang) []
      (GetDevState.seen false library params) := by
  unfold GetDevState.handle GetDevState.seen Params.requiredStr
  simp only [other, if_false]
  cases params.str 1 with
  | none => exact rfl
  | some devName =>
    dsimp only
    apply shows_apiOr configured
    unfold cString
    -- A name with a null character unwinds here as in the description.
    cases CString.new devName with
    | none => exact rfl
    | some name =>
      apply bind_unwrap
      · intro made same
        rw [Option.some.injEq] at same
        subst same
        apply bind_call
        · trivial
        · intro answer answered
          have same : answer = library [] (.getDevState name) := answered
          subst same
          by_cases failed : (library [] (.getDevState name)).1 = SAR_OK
          · simp only [failed, if_true, ne_eq, not_true_eq_false, if_false]
            exact rfl
          · simp only [failed, if_false, ne_eq, not_false_eq_true, if_true]
            exact rfl
      · intro missing
        cases missing

theorem GetDevState.seen_eq_iff (library : VendorLibrary) (params : Params) :
    GetDevState.seen true library params = GetDevState.seen false library params ↔
      ∀ devName, params.str 1 = some devName → ∃ name, CString.new devName = some name ∧
        (library [] (.getDevState name)).1 ≠ SAR_COULDNOTGETFUNCADDR := by
  have distinct : SAR_OK ≠ SAR_COULDNOTGETFUNCADDR := by decide
  unfold GetDevState.seen
  cases params.str 1 with
  | none => simp
  | some devName =>
    simp only [Option.some.injEq, forall_eq']
    cases CString.new devName with
    | none => simp
    | some name =>
      simp only [Option.some.injEq, exists_eq_left']
      by_cases failed : (library [] (.getDevState name)).1 = SAR_OK
      · simp [failed, distinct]
      · simp [failed, ← shownCode_eq_iff]

end GetDevState

section WaitForDevEvent

def WaitForDevEvent.seen (viaProvider : Bool) (library : VendorLibrary) : Option (Json × Int32) :=
  let answer := library [] (.waitForDevEvent 256)
  if answer.1.ret ≠ SAR_OK then some (.null, shownCode viaProvider answer.1.ret)
  else
    let name :=
      trimEndMatches (Char.ofNat 0)
        (fromUtf8Lossy (answer.1.memory.take (Nat.min answer.1.size.toNat 256)))
    some (.ofFields [("deviceName", .string name), ("event", .ofU32 answer.2)], 0)

variable {ctx : SkfContext} {params : Params} {lang : Language} {library : VendorLibrary}

theorem WaitForDevEvent.against_library :
    ((NativeSkfProvider.waitForEvent 256).against library []).1 =
    .ok (if (library [] (.waitForDevEvent 256)).1.ret ≠ SAR_OK then
        .error (.fromNative (library [] (.waitForDevEvent 256)).1.ret "WaitForDevEvent")
      else .ok (trimEndMatches (Char.ofNat 0)
        (fromUtf8Lossy ((library [] (.waitForDevEvent 256)).1.memory.take
        (Nat.min (library [] (.waitForDevEvent 256)).1.size.toNat 256))),
          (library [] (.waitForDevEvent 256)).2)) := by
  have len : (if 256 = 0 then NativeSkfProvider.DEV_NAME_BUF_LEN else 256) = 256 :=
    if_neg (by decide)
  have capacity : UInt32.ofNat 256 = 256 := rfl
  unfold NativeSkfProvider.waitForEvent
  dsimp only
  rw [len, capacity, against_ask_bind, List.nil_append]
  generalize library [] (.waitForDevEvent 256) = answer
  have inside : Nat.min (Nat.min answer.1.size.toNat 256) 256 = Nat.min answer.1.size.toNat 256 :=
    Nat.min_eq_left (Nat.min_le_right _ _)
  rw [against_ite, List.take_take]
  split
  · rfl
  · rw [show min (Nat.min answer.1.size.toNat 256) 256 =
      Nat.min answer.1.size.toNat 256 from inside]
    rfl

theorem WaitForDevEvent.shows_default
    (default : params.optionalStr 0 ctx.config.default = ctx.config.default) :
    Shows (onLibrary library) (WaitForDevEvent.handle ctx params lang) []
      (WaitForDevEvent.seen true library) := by
  unfold WaitForDevEvent.handle WaitForDevEvent.seen
  simp only [default, if_true]
  apply bind_call
  · trivial
  · intro answer possible
    have answered :
        answer = attempted ((NativeSkfProvider.waitForEvent 256).against library []).1 := possible
    rw [WaitForDevEvent.against_library] at answered
    subst answered
    by_cases failed : (library [] (.waitForDevEvent 256)).1.ret = SAR_OK
    · simp only [failed, ne_eq, not_true_eq_false, if_false]
      exact rfl
    · simp only [failed, ne_eq, not_false_eq_true, if_true]
      exact nativeOr_error _ _ _ _ _

theorem WaitForDevEvent.shows_other
    (other : params.optionalStr 0 ctx.config.default ≠ ctx.config.default)
    (configured :
      (ctx.config.rawPath (params.optionalStr 0 ctx.config.default) ctx.platform.os).isSome) :
    Shows (onLibrary library) (WaitForDevEvent.handle ctx params lang) []
      (WaitForDevEvent.seen false library) := by
  unfold WaitForDevEvent.handle WaitForDevEvent.seen
  simp only [other, if_false]
  apply shows_apiOr configured
  apply bind_call
  · trivial
  · intro answer answered
    have same : answer = library [] (.waitForDevEvent 256) := answered
    subst same
    by_cases failed : (library [] (.waitForDevEvent 256)).1.ret = SAR_OK
    · simp only [failed, if_true, ne_eq, not_true_eq_false, if_false]
      exact rfl
    · simp only [failed, if_false, ne_eq, not_false_eq_true, if_true]
      exact rfl

theorem WaitForDevEvent.seen_eq_iff (library : VendorLibrary) :
    WaitForDevEvent.seen true library = WaitForDevEvent.seen false library ↔
      (library [] (.waitForDevEvent 256)).1.ret ≠ SAR_COULDNOTGETFUNCADDR := by
  have distinct : SAR_OK ≠ SAR_COULDNOTGETFUNCADDR := by decide
  unfold WaitForDevEvent.seen
  by_cases failed : (library [] (.waitForDevEvent 256)).1.ret = SAR_OK
  · simp [failed, distinct]
  · simp [failed, ← shownCode_eq_iff]

end WaitForDevEvent

inductive DeviceMethod
  | EnumDevice
  | GetDevState
  | WaitForDevEvent

namespace DeviceMethod

def handle : DeviceMethod → SkfContext → Params → Language → Handler RpcResponse
  | EnumDevice => SkfService.EnumDevice.handle
  | GetDevState => SkfService.GetDevState.handle
  | WaitForDevEvent => SkfService.WaitForDevEvent.handle

def named (method : DeviceMethod) (ctx : SkfContext) (params : Params) : String :=
  match method with
  | EnumDevice | WaitForDevEvent => params.optionalStr 0 ctx.config.default
  | GetDevState => defaulted ctx params

/-- Every call the request makes has its symbol, and the name that is passed can be passed. -/
def Served (library : VendorLibrary) (params : Params) : DeviceMethod → Prop
  | EnumDevice => (library [] (.enumDev true none)).ret ≠ SAR_COULDNOTGETFUNCADDR ∧
    ((library [] (.enumDev true none)).ret = SAR_OK → (library [] (.enumDev true none)).size ≠ 0 →
      (library [⟨.enumDev true none, library [] (.enumDev true none)⟩]
        (.enumDev true (some (library [] (.enumDev true none)).size))).ret ≠
          SAR_COULDNOTGETFUNCADDR)
  | GetDevState =>
    ∀ devName, params.str 1 = some devName → ∃ name, CString.new devName = some name ∧
    (library [] (.getDevState name)).1 ≠ SAR_COULDNOTGETFUNCADDR
  | WaitForDevEvent => (library [] (.waitForDevEvent 256)).1.ret ≠ SAR_COULDNOTGETFUNCADDR

def seen (method : DeviceMethod) (viaProvider : Bool) (library : VendorLibrary) (params : Params) :
    Option (Json × Int32) :=
  match method with
  | EnumDevice => EnumDevice.seen viaProvider library
  | GetDevState => GetDevState.seen viaProvider library params
  | WaitForDevEvent => WaitForDevEvent.seen viaProvider library

variable {library : VendorLibrary} {method : DeviceMethod} {ctx : SkfContext} {params : Params}
  {lang : Language}

theorem seen_eq_iff : method.seen true library params = method.seen false library params ↔
    method.Served library params := by
  cases method with
  | EnumDevice => exact EnumDevice.seen_eq_iff library
  | GetDevState => exact GetDevState.seen_eq_iff library params
  | WaitForDevEvent => exact WaitForDevEvent.seen_eq_iff library

theorem shows_default (consistent : library.Consistent)
    (default : method.named ctx params = ctx.config.default) :
    Shows (onLibrary library) (method.handle ctx params lang) []
      (method.seen true library params) := by
  cases method with
  | EnumDevice => exact EnumDevice.shows_default consistent default
  | GetDevState => exact GetDevState.shows_default default
  | WaitForDevEvent => exact WaitForDevEvent.shows_default default

theorem shows_other (other : method.named ctx params ≠ ctx.config.default)
    (configured : (ctx.config.rawPath (method.named ctx params) ctx.platform.os).isSome) :
    Shows (onLibrary library) (method.handle ctx params lang) []
      (method.seen false library params) := by
  cases method with
  | EnumDevice => exact EnumDevice.shows_other other configured
  | GetDevState => exact GetDevState.shows_other other configured
  | WaitForDevEvent => exact WaitForDevEvent.shows_other other configured

def seenMissing (method : DeviceMethod) (viaProvider : Bool) (params : Params) :
    Option (Json × Int32) :=
  match method with
  | EnumDevice => some (.null, -5)
  | GetDevState => some (.null, if (params.str 1).isSome then -5 else -2)
  | WaitForDevEvent => some (.null, if viaProvider then -5 else -1)

theorem missing_default (default : method.named ctx params = ctx.config.default) :
    Shows unloadable (method.handle ctx params lang) [] (method.seenMissing true params) := by
  cases method with
  | EnumDevice =>
    unfold handle SkfService.EnumDevice.handle
    simp only [show params.optionalStr 0 ctx.config.default = ctx.config.default from default,
      if_true]
    refine bind_call trivial fun answer possible => ?_
    obtain ⟨self, platform, rfl⟩ := possible
    exact rfl
  | GetDevState =>
    unfold handle SkfService.GetDevState.handle seenMissing Params.requiredStr
    simp only [show defaulted ctx params = ctx.config.default from default, if_true]
    cases params.str 1 with
    | none => exact rfl
    | some devName =>
      refine bind_call trivial fun answer possible => ?_
      obtain ⟨self, platform, rfl⟩ := possible
      exact rfl
  | WaitForDevEvent =>
    unfold handle SkfService.WaitForDevEvent.handle
    simp only [show params.optionalStr 0 ctx.config.default = ctx.config.default from default,
      if_true]
    refine bind_call trivial fun answer possible => ?_
    obtain ⟨self, platform, rfl⟩ := possible
    exact rfl

theorem missing_other (other : method.named ctx params ≠ ctx.config.default) :
    Shows unloadable (method.handle ctx params lang) [] (method.seenMissing false params) := by
  cases method with
  | EnumDevice =>
    unfold handle SkfService.EnumDevice.handle
    simp only [show params.optionalStr 0 ctx.config.default ≠ ctx.config.default from other,
      if_false]
    exact missing_apiOr fun reason => rfl
  | GetDevState =>
    unfold handle SkfService.GetDevState.handle seenMissing Params.requiredStr
    simp only [show defaulted ctx params ≠ ctx.config.default from other, if_false]
    cases params.str 1 with
    | none => exact rfl
    | some devName => exact missing_apiOr fun reason => rfl
  | WaitForDevEvent =>
    unfold handle SkfService.WaitForDevEvent.handle
    simp only [show params.optionalStr 0 ctx.config.default ≠ ctx.config.default from other,
      if_false]
    exact missing_apiOr fun reason => rfl

/-- A library that does not load is told alike but for `WaitForDevEvent`. -/
def ServedBy (method : DeviceMethod) (params : Params) : Option VendorLibrary → Prop
  | some library => method.Served library params
  | none => method ≠ WaitForDevEvent

theorem seenMissing_eq_iff :
    method.seenMissing true params = method.seenMissing false params ↔
      method.ServedBy params none := by
  cases method with
  | EnumDevice => exact iff_of_true rfl DeviceMethod.noConfusion
  | GetDevState => exact iff_of_true rfl DeviceMethod.noConfusion
  | WaitForDevEvent =>
    refine iff_of_false (fun same => ?_) fun different => different rfl
    have codes : some (-5 : Int32) = some (-1) := congrArg (Option.map Prod.snd) same
    exact absurd codes (by decide)

theorem seen_same {params' : Params} {viaProvider : Bool} (same : params'.raw 1 = params.raw 1) :
    method.seen viaProvider library params' = method.seen viaProvider library params := by
  have name : params'.str 1 = params.str 1 := by rw [Params.str, same, Params.str]
  cases method with
  | GetDevState => rw [seen, seen, GetDevState.seen, GetDevState.seen, name]
  | _ => rfl

end DeviceMethod

theorem DeviceMethod.seenMissing_same {method : DeviceMethod} {params params' : Params}
    {viaProvider : Bool} (same : params'.raw 1 = params.raw 1) :
    method.seenMissing viaProvider params' = method.seenMissing viaProvider params := by
  have name : params'.str 1 = params.str 1 := by rw [Params.str, same, Params.str]
  cases method with
  | GetDevState => rw [seenMissing, seenMissing, name]
  | _ => rfl

/-- Two requests that differ in their alias only, one of them for the default alias of its
configuration and one for another alias, are answered with one result and one error code exactly if
no call lacks its symbol and the device name has no interior NUL. Where the library does not load,
all but `WaitForDevEvent` are. -/
theorem aliases_agree_iff {library : Option VendorLibrary}
    (consistent : ∀ loaded ∈ library, loaded.Consistent) {method : DeviceMethod}
    {ctx ctx' : SkfContext} {params params' : Params} (lang : Language)
    (default : method.named ctx params = ctx.config.default)
    (other : method.named ctx' params' ≠ ctx'.config.default)
    (configured : (ctx'.config.rawPath (method.named ctx' params') ctx'.platform.os).isSome)
    (same : ∀ index, index ≠ 0 → params'.raw index = params.raw index)
    {trace trace' : List (Event Skf)} {outcome outcome' : Except Exit RpcResponse}
    (ran : (method.handle ctx params lang).Finishes trace outcome)
    (answered : (deployed library).Possible [] trace)
    (ran' : (method.handle ctx' params' lang).Finishes trace' outcome')
    (answered' : (deployed library).Possible [] trace') :
    visible outcome = visible outcome' ↔ method.ServedBy params library := by
  cases library with
  | none =>
    rw [(method.missing_default default).finished ran answered,
      (method.missing_other other).finished ran' answered',
      DeviceMethod.seenMissing_same (same 1 (by decide)), DeviceMethod.seenMissing_eq_iff]
  | some library =>
    rw [(method.shows_default (consistent library rfl) default).finished ran answered,
      (method.shows_other other configured).finished ran' answered',
      DeviceMethod.seen_same (same 1 (by decide)), DeviceMethod.seen_eq_iff]
    exact Iff.rfl

/-- A library that answers every call with a code, and lists the device `K1` where the code is
success. -/
def answering (code : ULONG) : VendorLibrary
  | _, .enumDev _ none => ⟨code, 4, []⟩
  | _, .enumDev _ (some capacity) =>
    ⟨code, if capacity < 4 then capacity else 4, [0x4B, 0x31, 0, 0]⟩
  | _, .getDevState _ => (code, 1)
  | _, .waitForDevEvent _ => (⟨code, 0, []⟩, 0)

theorem answering_consistent (code : ULONG) : (answering code).Consistent := by
  intro history present capacity
  by_cases small : capacity < 4
  · rw [answering, if_pos small]
    exact UInt32.le_refl _
  · rw [answering, if_neg small]
    exact UInt32.not_lt.mp small

def forDefault : Params := ⟨[.string "GM3000"], none⟩

def forOther : Params := ⟨[.string "3000GM"], none⟩

theorem forOther_raw (index : Nat) (later : index ≠ 0) :
    forOther.raw index = forDefault.raw index := by
  cases index with
  | zero => exact absurd rfl later
  | succ index => rfl

/-- Without its symbols the library is a load failure under the default alias, and a vendor code
under the other. -/
theorem symbols_tell_aliases_apart :
    ¬∀ (library : VendorLibrary) (method : DeviceMethod) (ctx ctx' : SkfContext)
      (params params' : Params) (lang : Language) (trace trace' : List (Event Skf))
      (outcome outcome' : Except Exit RpcResponse), library.Consistent →
      method.named ctx params = ctx.config.default →
        method.named ctx' params' ≠ ctx'.config.default →
      (ctx'.config.rawPath (method.named ctx' params') ctx'.platform.os).isSome →
      (∀ index, index ≠ 0 → params'.raw index = params.raw index) →
      (method.handle ctx params lang).Finishes trace outcome →
        (onLibrary library).Possible [] trace →
      (method.handle ctx' params' lang).Finishes trace' outcome' →
        (onLibrary library).Possible [] trace' →
        visible outcome = visible outcome' := by
  intro agree
  let ctx := SkfContext.serving []
  let lacking := answering SAR_COULDNOTGETFUNCADDR
  have same := agree lacking .EnumDevice ctx ctx forDefault forOther .EN
    [⟨.provider (.enumDevices ctx.provider true), some (.error (.SymbolUnavailable "EnumDev"))⟩]
    [⟨.host (.readCache "3000GM"), true⟩,
      ⟨.vendor (.enumDev ⟨"3000GM", none⟩ true none), ⟨SAR_COULDNOTGETFUNCADDR, 4, []⟩⟩]
    (.ok (providerLoadFailed (.SymbolUnavailable "EnumDev") .EN none))
    (.ok (.err (codeAsI32 SAR_COULDNOTGETFUNCADDR) "EnumDev failed size check" none))
    (answering_consistent _) rfl (by decide) rfl forOther_raw (.step _ (.refl _)) ⟨rfl, trivial⟩
    (.step _ (.step _ (.refl _))) ⟨trivial, rfl, trivial⟩
  have codes : some (-5 : Int32) = some (codeAsI32 SAR_COULDNOTGETFUNCADDR) :=
    congrArg (Option.map Prod.snd) same
  exact absurd codes (by decide)

theorem aliases_agree_listing :
    visible (.ok (.ok (.strings ["K1"]) none)) = visible (.ok (.ok (.strings ["K1"]) none)) := by
  let ctx := SkfContext.serving []
  have served : DeviceMethod.Served (answering SAR_OK) forDefault .EnumDevice := by
    refine ⟨by decide, fun _ _ => ?_⟩
    exact (by decide : SAR_OK ≠ SAR_COULDNOTGETFUNCADDR)
  have ran : (DeviceMethod.EnumDevice.handle ctx forDefault .EN).Finishes
      [⟨.provider (.enumDevices ctx.provider true), some (.ok ["K1"])⟩]
        (.ok (.ok (.strings ["K1"]) none)) :=
    .step _ (.refl _)
  have ran' : (DeviceMethod.EnumDevice.handle ctx forOther .EN).Finishes
      [⟨.host (.readCache "3000GM"), true⟩,
        ⟨.vendor (.enumDev ⟨"3000GM", none⟩ true none), ⟨SAR_OK, 4, []⟩⟩,
        ⟨.vendor (.enumDev ⟨"3000GM", none⟩ true (some 4)), ⟨SAR_OK, 4, [0x4B, 0x31, 0, 0]⟩⟩]
      (.ok (.ok (.strings ["K1"]) none)) :=
    .step _ (.step _ (.step _ (.refl _)))
  have consistent : ∀ loaded ∈ some (answering SAR_OK), loaded.Consistent := by
    rintro _ ⟨⟩
    exact answering_consistent SAR_OK
  exact (aliases_agree_iff consistent .EN rfl (by decide) rfl forOther_raw ran ⟨rfl, trivial⟩ ran'
    ⟨trivial, rfl, rfl, trivial⟩).mpr served

end SkfService
