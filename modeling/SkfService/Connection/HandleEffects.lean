import SkfService.Conduct.Effects
import SkfService.Connection.Conversation

/-! What a request can do with the handles of its session. -/

set_option autoImplicit false

namespace SkfService

open Interaction Program Handler

def Method.takesHandle : Method → Bool
  | .DisConnectDev | .GenerateRandom | .DigestUpdate | .DigestFinal | .CloseHash => true
  | _ => false

def Method.givesHandle : Method → Bool
  | .ConnectDev | .DigestInit => true
  | _ => false

/-- A response that reports a failure in words. -/
def RpcResponse.isErr (response : RpcResponse) : Bool := response.message.isSome

/-- `Touched params before method response after`: everything a request can have done with the
handles, and what it answered. -/
inductive Touched (params : Params) (before : HandleTable) :
    Method → RpcResponse → HandleTable → Prop
  | nothing {method : Method} {response : RpcResponse}
      (refused : method.takesHandle = true → response.error ≠ 0 ∧ response.isErr = true)
      (untold : method.givesHandle = true → response.isErr = true) :
      Touched params before method response before
  | connected (guard : Device) :
      Touched params before .ConnectDev (.ok (.string (before.issueDevice guard).2) params.id)
        (before.issueDevice guard).1
  | begun (guard : Digest) :
      Touched params before .DigestInit
        (.ok (.ofFields [("handle", .string (before.issueDigest guard).2)]) params.id)
        ((before.issueDigest guard).1.issueDevice guard.device).1
  | drawn {handle : String} {guard : Device} {response : RpcResponse}
      (named : params.str 0 = some handle)
      (held : before.device handle = .ok guard) :
      Touched params before .GenerateRandom response before
  | fed {handle : String} {guard : Digest} {response : RpcResponse}
      (named : params.str 0 = some handle)
      (held : before.digest handle = .ok guard) :
      Touched params before .DigestUpdate response before
  | disconnected {handle : String} {guard : Device} (named : params.str 0 = some handle)
      (held : (before.removeDevice handle).2 = .ok guard) :
      Touched params before .DisConnectDev (.ok (.bool true) params.id)
        (before.removeDevice handle).1
  | ended {method : Method} {handle : String} {guard : Digest} {response : RpcResponse}
      (ending : method = .DigestFinal ∨ method = .CloseHash) (named : params.str 0 = some handle)
      (held : (before.removeDigest handle).2 = .ok guard) :
      Touched params before method response (before.removeDigest handle).1

namespace HandleEffects

variable {limit : Instant} {ctx : SkfContext} {params : Params} {lang : Language}
  {state : SessionState}

def Touches (limit : Instant) (params : Params) (method : Method) (state : SessionState)
    (body : Handler RpcResponse) : Prop :=
  body.Meets (tracked limit) (fun response after =>
    Touched params state.handles method response after.handles)
    (fun exit after => ∀ response, exit = .reply response →
      Touched params state.handles method response after.handles) state

theorem bind_expect {A : Type} {method : Method} {x : Option A} {rejection : RpcResponse}
    {k : A → Handler RpcResponse}
    (goes : ∀ value, x = some value → Touches limit params method state (k value))
    (refused : Touched params state.handles method rejection state.handles) :
    Touches limit params method state (expect x rejection >>= k) := by
  refine Handler.bind_expect goes fun _ response early => ?_
  cases early
  exact refused

theorem bind_provider {method : Method} {op : ProviderOp} {k : op.Reply → Handler RpcResponse}
    (goes : ∀ reply, Touches limit params method state (k reply)) :
    Touches limit params method state (provider op >>= k) :=
  bind_call trivial fun reply _ => goes reply

theorem bind_settled {A : Type} {method : Method} {x : Attempt A}
    {k : Except ProviderError A → Handler RpcResponse}
    (goes : ∀ result, Touches limit params method state (k result)) :
    Touches limit params method state (settled x >>= k) :=
  Handler.bind_settled (fun result _ => goes result) fun _ _ early => by cases early

theorem untold {method : Method} {response : RpcResponse} (gives : method.takesHandle = false)
    (failed : response.isErr = true) : Touched params state.handles method response state.handles :=
  .nothing (fun takes => by rw [gives] at takes; cases takes) fun _ => failed

theorem refused {method : Method} {response : RpcResponse} (takes : method.givesHandle = false)
    (failed : response.error ≠ 0 ∧ response.isErr = true) :
    Touched params state.handles method response state.handles :=
  .nothing (fun _ => failed) fun gives => by rw [takes] at gives; cases gives

theorem nativeOr_isErr (e : ProviderError) (message : ULONG → String) (lang : Language)
    (id : Option Text.Json) :
    (nativeOr e message lang id).isErr = true := by
  unfold nativeOr
  split <;> rfl

theorem connectDev :
    Touches limit params .ConnectDev state (ConnectDev.handle ctx params lang) := by
  refine bind_expect (fun name _ => bind_provider fun opened => bind_settled fun opened => ?_)
    (untold rfl rfl)
  cases opened with
  | ok raw =>
    refine bind_call trivial fun handle minted => ?_
    obtain rfl : (state.handles.issueDevice ⟨ctx.provider, name, raw⟩).2 = handle := minted
    exact .connected _
  | error e => exact untold rfl (nativeOr_isErr _ _ _ _)

/-- A step that leaves the session alone; one that answers early reports a failure. -/
def Silent {A : Type} (limit : Instant) (state : SessionState) (p : Handler A) : Prop :=
  p.Meets (tracked limit) (fun _ after => after = state)
    (fun exit after =>
      after = state ∧ ∀ response, exit = .reply response → response.isErr = true) state

theorem Silent.bind {A B : Type} {p : Handler A} {k : A → Handler B} (first : Silent limit state p)
    (next : ∀ value, Silent limit state (k value)) : Silent limit state (p >>= k) := by
  rw [Silent, meets_bind]
  refine Meets.mono first (fun value after same => ?_) fun _ _ left => left
  rw [same]
  exact next value

theorem Silent.touches {A : Type} {method : Method} {p : Handler A} {k : A → Handler RpcResponse}
    (gives : method.takesHandle = false) (first : Silent limit state p)
    (goes : ∀ value, Touches limit params method state (k value)) :
    Touches limit params method state (p >>= k) := by
  rw [Touches, meets_bind]
  refine Meets.mono first (fun value after same => ?_) fun exit after left response early => ?_
  · rw [same]
    exact goes value
  · rw [left.1]
    exact untold gives (left.2 response early)

theorem silent_vendor (op : VendorOp) : Silent limit state (vendor op) := ⟨trivial, fun _ _ => rfl⟩

theorem silent_unwrap {A : Type} (x : Option A) (why : Panic) :
    Silent limit state (unwrap x why) := by
  cases x with
  | some value => rfl
  | none => exact ⟨rfl, fun _ early => by cases early⟩

theorem silent_requiredStr {index : Nat} {message : String} :
    Silent limit state (orReply (params.requiredStr index message)) := by
  unfold Params.requiredStr
  split
  · rfl
  · refine ⟨rfl, fun response early => ?_⟩
    cases early
    rfl

theorem silent_requiredNames : Silent limit state (requiredNames params) :=
  silent_requiredStr.bind fun _ => silent_requiredStr.bind fun _ => rfl

theorem silent_apiOr {name : String} {failed : String → RpcResponse}
    (errs : ∀ reason, (failed reason).isErr = true) :
    Silent limit state (apiOr ctx name failed) :=
  have unwatched : Unwatched (tracked limit) state := ⟨fun _ => trivial, fun _ _ => rfl⟩
  unwatched.meets_apiOr (fun reason =>
    ⟨rfl, fun response early => by cases early; exact errs reason⟩) rfl

theorem digestInit :
    Touches limit params .DigestInit state (DigestInit.handle ctx params lang) := by
  refine silent_requiredNames.touches rfl fun names => meets_ite (fun _ => ?_) fun _ => ?_
  · refine bind_provider fun opened => bind_settled fun opened => ?_
    cases opened with
    | error e => exact untold rfl (nativeOr_isErr _ _ _ _)
    | ok raw =>
      refine bind_provider fun begun => ?_
      cases begun with
      | none => exact bind_provider fun _ _ early => by cases early
      | some begun =>
        cases begun with
        | error e => exact bind_provider fun _ => untold rfl (nativeOr_isErr _ _ _ _)
        | ok hash =>
          refine bind_call trivial fun handle minted => bind_call trivial fun hidden stored => ?_
          obtain rfl : (state.handles.issueDigest ⟨⟨ctx.provider, names.2, raw⟩, hash⟩).2 =
              handle := minted
          exact .begun _
  · refine (silent_apiOr fun _ => rfl).touches rfl fun api =>
      (silent_unwrap _ _).touches rfl fun cDev => ?_
    refine (silent_vendor _).touches rfl fun answer =>
      meets_ite (fun _ => ?_) fun _ => untold rfl rfl
    exact Silent.touches rfl ((silent_vendor _).bind fun _ => rfl) fun _ => untold rfl rfl

theorem disConnectDev :
    Touches limit params .DisConnectDev state (DisConnectDev.handle params) := by
  refine bind_expect (fun handle named => ?_) (refused rfl ⟨by simp [invalidHandle], rfl⟩)
  refine bind_call trivial fun found removed => ?_
  cases found with
  | ok guard => exact ⟨trivial, fun _ _ => .disconnected named removed⟩
  | error reason =>
    have same : (state.handles.removeDevice handle).1 = state.handles :=
      HandleTable.remove_error removed
    change Touched params state.handles .DisConnectDev (invalidHandle params.id)
      (state.handles.removeDevice handle).1
    rw [same]
    exact refused rfl ⟨by simp [invalidHandle], rfl⟩

theorem generateRandom :
    Touches limit params .GenerateRandom state (GenerateRandom.handle params lang) := by
  refine bind_expect (fun handle named => bind_expect (fun len _ => ?_) ?_) ?_
  · refine bind_call trivial fun found looked => ?_
    cases found with
    | error reason => exact refused rfl ⟨by simp [invalidHandle], rfl⟩
    | ok guard =>
      refine bind_call trivial fun drawn _ =>
        Handler.bind_settled (fun drawn _ => ?_) fun _ _ early => by cases early
      cases drawn <;> exact .drawn named looked
  · exact refused rfl ⟨by simp, rfl⟩
  · exact refused rfl ⟨by simp, rfl⟩

theorem digestUpdate :
    Touches limit params .DigestUpdate state (DigestUpdate.handle ctx params lang) := by
  refine bind_expect (fun handle named => bind_expect (fun data _ => ?_) ?_) ?_
  · refine Handler.bind_orReply (fun bytes _ => ?_) fun rejection bad response early => ?_
    · refine bind_call trivial fun found looked => ?_
      cases found with
      | error reason => exact refused rfl ⟨by simp [invalidHashHandle], rfl⟩
      | ok guard =>
        refine bind_call trivial fun fed _ =>
          Handler.bind_settled (fun fed _ => ?_) fun _ _ early => by cases early
        cases fed <;> exact .fed named looked
    · cases early
      cases decoded : decodeBase64 ctx.platform.base64Error data with
      | ok bytes => simp [decoded, Except.mapError] at bad
      | error reason =>
        simp only [decoded, Except.mapError, Except.error.injEq] at bad
        rw [← bad]
        exact refused rfl ⟨by simp, rfl⟩
  · exact refused rfl ⟨by simp, rfl⟩
  · exact refused rfl ⟨by simp, rfl⟩

theorem ended_error {method : Method} {handle : String} {reason : HandleError}
    (takes : method.givesHandle = false)
    (missing : (state.handles.removeDigest handle).2 = .error reason) :
    Touched params state.handles method (invalidHashHandle params.id)
      (state.handles.removeDigest handle).1 := by
  have same : (state.handles.removeDigest handle).1 = state.handles :=
    HandleTable.remove_error missing
  rw [same]
  exact refused takes ⟨by simp [invalidHashHandle], rfl⟩

theorem digestFinal : Touches limit params .DigestFinal state (DigestFinal.handle params lang) := by
  refine bind_expect (fun handle named => ?_) (refused rfl ⟨by simp, rfl⟩)
  refine bind_call trivial fun found removed => ?_
  cases found with
  | error reason => exact ended_error rfl removed
  | ok guard =>
    refine (meets_ensuring _ _).mpr (bind_call trivial fun ended _ => ?_)
    refine Handler.bind_settled (fun ended _ => ?_) fun _ =>
      ⟨trivial, fun _ _ _ early => by cases early⟩
    cases ended <;> exact ⟨trivial, fun _ _ => .ended (.inl rfl) named removed⟩

theorem closeHash : Touches limit params .CloseHash state (CloseHash.handle params) := by
  refine bind_expect (fun handle named => ?_) (refused rfl ⟨by simp, rfl⟩)
  refine bind_call trivial fun found removed => ?_
  cases found with
  | error reason => exact ended_error rfl removed
  | ok guard => exact ⟨trivial, fun _ _ => .ended (.inr rfl) named removed⟩

end HandleEffects

section exchange

variable {ctx : SkfContext} {before after : Line} {text : String} {trace : List (Event Skf)}
  {response : RpcResponse} {method : Method} {params : Params}

/-- Everything an answered request can have done with the handles of its session. -/
theorem Exchange.touched (there : reached ctx text = some (method, params))
    (exchange : Exchange ctx before text trace response after) :
    Touched params before.state.handles method response after.state.handles := by
  have through (touches : HandleEffects.Touches ctx.platform.lastInstant params method before.state
      (method.branch ctx params before.lang)) :
      Touched params before.state.handles method response after.state.handles := by
    have returned := (meets_handleRequest there touches).returned exchange.1 exchange.2.1
    rwa [exchange.2.2] at returned
  have untouched (forbidden : method.permit.handles = false) (takes : method.takesHandle = false)
      (gives : method.givesHandle = false) :
      Touched params before.state.handles method response after.state.handles := by
    have kept := Conduct.follow_handles ctx.platform.lastInstant forbidden before.state
      (Conduct.allows_of_reaches there exchange.1)
    rw [exchange.2.2] at kept
    rw [kept]
    exact .nothing (fun on => by rw [takes] at on; cases on) fun on => by rw [gives] at on; cases on
  cases method with
  | ConnectDev => exact through HandleEffects.connectDev
  | DigestInit => exact through HandleEffects.digestInit
  | DisConnectDev => exact through HandleEffects.disConnectDev
  | GenerateRandom => exact through HandleEffects.generateRandom
  | DigestUpdate => exact through HandleEffects.digestUpdate
  | DigestFinal => exact through HandleEffects.digestFinal
  | CloseHash => exact through HandleEffects.closeHash
  | _ => exact untouched rfl rfl rfl

/-- A request that reaches no method is answered with an error, and leaves the session as it was. -/
theorem Exchange.unreached (nowhere : reached ctx text = none)
    (exchange : Exchange ctx before text trace response after) :
    after = before ∧ response.error ≠ 0 ∧ response.isErr = true := by
  obtain ⟨early, at_once, failed⟩ := handleRequest_unreached nowhere before.lang
  obtain ⟨ran, possible, left⟩ := exchange
  rw [Program.Finishes, at_once] at ran
  obtain ⟨rfl, ended⟩ := Program.reaches_done ran
  simp only [Program.ofOutcome, Program.done.injEq, Prod.mk.injEq] at ended
  obtain ⟨rfl, same⟩ := ended
  refine ⟨?_, failed⟩
  cases after
  cases before
  simp only at same left
  rw [same, ← left]
  rfl

end exchange

end SkfService
