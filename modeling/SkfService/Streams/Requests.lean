import SkfService.Connection.HandleEffects
import SkfService.Streams.Branches

/-! The requests of a stream: what each of them can have done by the time it answers. -/

set_option autoImplicit false

namespace SkfService

open Text Interaction Program Handler

def Yields (p : Handler RpcResponse) (trace : List (Event Skf)) (response : RpcResponse) : Prop :=
  p.Finishes trace (.ok response) ∨ p.Finishes trace (.error (.reply response))

section yields

variable {p : Handler RpcResponse} {trace : List (Event Skf)} {response answer : RpcResponse}

theorem yields_done (ran : Yields (.done answer) trace response) :
    trace = [] ∧ response = answer := by
  rcases ran with ended | early
  · cases ended
    exact ⟨rfl, rfl⟩
  · cases early

theorem yields_reply (ran : Yields (reply answer) trace response) :
    trace = [] ∧ response = answer := by
  rcases ran with ended | early
  · cases ended
  · cases early
    exact ⟨rfl, rfl⟩

theorem yields_panic {why : Panic} (ran : Yields (panic why) trace response) : False := by
  rcases ran with ended | early
  · cases ended
  · cases early

theorem yields_ask {op : Op} {k : op.Reply → Handler RpcResponse}
    (ran : Yields (Program.ask (I := Skf) op >>= k) trace response) :
    ∃ reply rest, trace = ⟨op, reply⟩ :: rest ∧ Yields (k reply) rest response := by
  rcases ran with ended | early
  · cases ended with
    | step reply rest => exact ⟨reply, _, rfl, .inl rest⟩
  · cases early with
    | step reply rest => exact ⟨reply, _, rfl, .inr rest⟩

theorem yields_session {op : SessionOp} {k : op.Reply → Handler RpcResponse}
    (ran : Yields (session op >>= k) trace response) :
    ∃ reply rest, trace = ⟨.session op, reply⟩ :: rest ∧ Yields (k reply) rest response :=
  yields_ask ran

theorem yields_provider {op : ProviderOp} {k : op.Reply → Handler RpcResponse}
    (ran : Yields (provider op >>= k) trace response) :
    ∃ reply rest, trace = ⟨.provider op, reply⟩ :: rest ∧ Yields (k reply) rest response :=
  yields_ask ran

theorem yields_expect {A : Type} {x : Option A} {rejection : RpcResponse}
    {k : A → Handler RpcResponse} (ran : Yields (expect x rejection >>= k) trace response) :
    (x = none ∧ trace = [] ∧ response = rejection) ∨ ∃ value,
      x = some value ∧ Yields (k value) trace response := by
  cases x with
  | none => exact .inl ⟨rfl, yields_reply ran⟩
  | some value => exact .inr ⟨value, rfl, ran⟩

theorem yields_settled {A : Type} {x : Attempt A} {k : Except ProviderError A → Handler RpcResponse}
    (ran : Yields (settled x >>= k) trace response) :
    ∃ result, x = some result ∧ Yields (k result) trace response := by
  cases x with
  | none => exact absurd ran yields_panic
  | some result => exact ⟨result, rfl, ran⟩

def heedless : Monitor Skf Unit where
  allowed _ _ := True
  possible _ _ _ := True
  advance _ _ _ := ()

theorem heedless_possible (trace : List (Event Skf)) : heedless.Possible () trace := by
  induction trace with
  | nil => trivial
  | cons event rest ih => exact ⟨trivial, ih⟩

theorem Yields.meets {P : RpcResponse → Prop} (ran : Yields p trace response)
    (met : p.Meets heedless (fun answer _ => P answer)
      (fun exit _ => ∀ answer, exit = .reply answer → P answer) ()) :
    P response := by
  rcases ran with ended | early
  · exact met.returned ended (heedless_possible trace)
  · exact met.stopped early (heedless_possible trace) response rfl

theorem Exchange.yields {ctx : SkfContext} {before after : Line} {text : String} {method : Method}
    {params : Params} (there : reached ctx text = some (method, params))
    (exchange : Exchange ctx before text trace response after) :
    Yields (method.branch ctx params before.lang) trace response := by
  have ran := exchange.1
  rw [handleRequest_reached there] at ran
  generalize method.branch ctx params before.lang = body at ran
  generalize method.languageAfter ctx params before.lang = later at ran
  clear exchange
  generalize after.lang = spoken at ran
  generalize before.lang = first at ran
  induction body generalizing trace with
  | done value =>
    cases ran
    exact .inl (.refl _)
  | stop exit =>
    cases exit with
    | reply early =>
      cases ran
      exact .inr (.refl _)
    | panic why => cases ran
  | call op next ih =>
    cases ran with
    | step reply rest => exact (ih reply rest).imp (.step reply) (.step reply)

end yields

def DigestUpdate.data (ctx : SkfContext) (params : Params) : Option (List UInt8) :=
  (params.str 1).bind fun dataB64 => (decodeBase64 ctx.platform.base64Error dataB64).toOption

/-- What `DigestInit` can have done: it has begun a digest and stored it with its device, or it
failed. -/
inductive DigestInit.Ran (params : Params) : List (Event Skf) → RpcResponse → Prop
  | failed {trace : List (Event Skf)} {response : RpcResponse}
      (idle : ∀ event ∈ trace, Op.hashes event.op = none)
      (refused : response.isErr = true) : Ran params trace response
  | begun {library : Library} {name : String} {raw hash : Nat} {algId : ULONG} {id : List UInt8}
      {handle hidden : String} : Ran params
      [⟨.provider (.openDevice library name), some (.ok raw)⟩,
        ⟨.provider (.beginDigest ⟨library, name, raw⟩ algId id), some (.ok hash)⟩,
        ⟨.session (.issueDigest ⟨⟨library, name, raw⟩, hash⟩), handle⟩,
        ⟨.session (.issueDevice ⟨library, name, raw⟩), hidden⟩]
      (.ok (.ofFields [("handle", .string handle)]) params.id)

inductive DigestUpdate.Ran (ctx : SkfContext) (params : Params) :
    List (Event Skf) → RpcResponse → Prop
  | malformed {response : RpcResponse} (bad : params.str 0 = none ∨
      DigestUpdate.data ctx params = none)
      (refused : response.isErr = true) : Ran ctx params [] response
  | unknown {handle : String} {data : List UInt8} {reason : HandleError}
      (named : params.str 0 = some handle)
      (given : DigestUpdate.data ctx params = some data) :
      Ran ctx params [⟨.session (.digest handle), .error reason⟩] (invalidHashHandle params.id)
  | failed {handle : String} {data : List UInt8} {digest : Digest} {e : ProviderError}
      {response : RpcResponse}
      (named : params.str 0 = some handle) (given : DigestUpdate.data ctx params = some data)
      (refused : response.isErr = true) : Ran ctx params
      [⟨.session (.digest handle), .ok digest⟩,
        ⟨.provider (.update digest data), some (.error e)⟩] response
  | fed {handle : String} {data : List UInt8} {digest : Digest} (named : params.str 0 = some handle)
      (given : DigestUpdate.data ctx params = some data) : Ran ctx params
      [⟨.session (.digest handle), .ok digest⟩, ⟨.provider (.update digest data), some (.ok ())⟩]
      (.ok (.bool true) params.id)

inductive DigestFinal.Ran (params : Params) : List (Event Skf) → RpcResponse → Prop
  | malformed {response : RpcResponse} (bad : params.str 0 = none)
      (refused : response.isErr = true) :
      Ran params [] response
  | unknown {handle : String} {reason : HandleError} (named : params.str 0 = some handle) :
      Ran params [⟨.session (.removeDigest handle), .error reason⟩] (invalidHashHandle params.id)
  | failed {handle : String} {digest : Digest} {e : ProviderError} {response : RpcResponse}
      (named : params.str 0 = some handle) (refused : response.isErr = true) : Ran params
      [⟨.session (.removeDigest handle), .ok digest⟩,
        ⟨.provider (.finalize digest), some (.error e)⟩,
        ⟨.provider (.close (.digest digest)), ()⟩] response
  | finalized {handle : String} {digest : Digest} {hash : List UInt8}
      (named : params.str 0 = some handle) :
      Ran params [⟨.session (.removeDigest handle), .ok digest⟩,
        ⟨.provider (.finalize digest), some (.ok hash)⟩,
        ⟨.provider (.close (.digest digest)), ()⟩] (.ok (.string (Base64.encode hash)) params.id)

inductive CloseHash.Ran (params : Params) : List (Event Skf) → RpcResponse → Prop
  | malformed {response : RpcResponse} (bad : params.str 0 = none)
      (refused : response.isErr = true) :
      Ran params [] response
  | unknown {handle : String} {reason : HandleError} (named : params.str 0 = some handle) :
      Ran params [⟨.session (.removeDigest handle), .error reason⟩] (invalidHashHandle params.id)
  | closed {handle : String} {digest : Digest} (named : params.str 0 = some handle) :
      Ran params [⟨.session (.removeDigest handle), .ok digest⟩,
        ⟨.provider (.close (.digest digest)), ()⟩]
        (.ok (.bool true) params.id)

section requests

variable {ctx : SkfContext} {params : Params} {lang : Language} {trace : List (Event Skf)}
  {response : RpcResponse}

theorem onOther_ran {provName devName : String} {id : Option Json}
    (ran : Yields (DigestInit.onOther ctx provName devName lang id) trace response) :
    (∀ event ∈ trace, Op.hashes event.op = none) ∧ response.isErr = true := by
  constructor
  · have confined :
      Confined (fun op => op.hashes = none) (DigestInit.onOther ctx provName devName lang id) := by
      refine (confined_apiOr _ _).bind fun api => (confined_cString _).bind fun cDev => ?_
      refine (Confined.vendor rfl).bind fun answer => Confined.ite ?_ trivial
      exact (confined_disConnectDev _).bind fun _ => trivial
    rcases ran with ended | early
    · exact confined.of_reaches ended
    · exact confined.of_reaches early
  · apply ran.meets
    have unwatched : Unwatched heedless () := ⟨fun _ => trivial, fun _ _ => rfl⟩
    unfold DigestInit.onOther
    rw [meets_bind]
    apply unwatched.meets_apiOr
    · intro reason answer early
      cases early
      rfl
    · refine bind_unwrap (fun cDev _ => ?_) fun _ _ early => by cases early
      refine bind_call trivial fun opened _ => meets_ite (fun _ => ?_) fun _ => rfl
      exact bind_call trivial fun _ _ => rfl

theorem digestInit_ran (ran : Yields (DigestInit.handle ctx params lang) trace response) :
    DigestInit.Ran params trace response := by
  unfold DigestInit.handle requiredNames at ran
  cases provider : params.requiredStr 0 "Missing providerName param" with
  | error rejection =>
    rw [provider] at ran
    obtain ⟨rfl, rfl⟩ := yields_reply ran
    refine .failed (by simp) ?_
    unfold Params.requiredStr at provider
    split at provider <;> cases provider
    rfl
  | ok provName =>
    rw [provider] at ran
    cases device : params.requiredStr 1 "Missing deviceName param" with
    | error rejection =>
      rw [device] at ran
      obtain ⟨rfl, rfl⟩ := yields_reply ran
      refine .failed (by simp) ?_
      unfold Params.requiredStr at device
      split at device <;> cases device
      rfl
    | ok devName =>
      rw [device] at ran
      dsimp only [orReply, done_bind, pure_eq_done] at ran
      split at ran
      -- Under the default alias the device is opened first and the digest on it.
      · obtain ⟨opened, rest, rfl, settles⟩ := yields_provider ran
        obtain ⟨result, rfl, begins⟩ := yields_settled settles
        cases result with
        | error e =>
          obtain ⟨rfl, rfl⟩ := yields_done begins
          exact .failed (by simp [Op.hashes]) (HandleEffects.nativeOr_isErr _ _ _ _)
        | ok raw =>
          obtain ⟨begun, rest, rfl, body⟩ := yields_provider begins
          cases begun with
          | none =>
            obtain ⟨closed, rest, rfl, unwinds⟩ := yields_provider body
            exact absurd unwinds yields_panic
          | some begun =>
            cases begun with
            | error e =>
              obtain ⟨closed, rest, rfl, final⟩ := yields_provider body
              obtain ⟨rfl, rfl⟩ := yields_done final
              exact .failed (by simp [Op.hashes]) (HandleEffects.nativeOr_isErr _ _ _ _)
            | ok hash =>
              obtain ⟨handle, rest, rfl, stores⟩ := yields_session body
              obtain ⟨hidden, rest, rfl, final⟩ := yields_session stores
              obtain ⟨rfl, rfl⟩ := yields_done final
              exact .begun
      -- Under another alias a digest is opened and dropped, and no handle is issued.
      · obtain ⟨idle, failed⟩ := onOther_ran ran
        exact .failed idle failed

theorem digestUpdate_ran (ran : Yields (DigestUpdate.handle ctx params lang) trace response) :
    DigestUpdate.Ran ctx params trace response := by
  rcases yields_expect ran with ⟨bad, rfl, rfl⟩ | ⟨handle, named, reads⟩
  · exact .malformed (.inl bad) rfl
  rcases yields_expect reads with ⟨bad, rfl, rfl⟩ | ⟨dataB64, carried, decodes⟩
  · exact .malformed (.inr (by simp [DigestUpdate.data, bad])) rfl
  cases decoded : decodeBase64 ctx.platform.base64Error dataB64 with
  | error reason =>
    rw [decoded] at decodes
    obtain ⟨rfl, rfl⟩ := yields_reply decodes
    exact .malformed (.inr (by simp [DigestUpdate.data, carried, decoded, Except.toOption])) rfl
  | ok data =>
    have given : DigestUpdate.data ctx params = some data := by
      simp [DigestUpdate.data, carried, decoded, Except.toOption]
    rw [decoded] at decodes
    obtain ⟨found, rest, rfl, body⟩ := yields_session decodes
    -- An unknown handle is answered before the provider is called.
    cases found with
    | error reason =>
      obtain ⟨rfl, rfl⟩ := yields_done body
      exact .unknown named given
    | ok digest =>
      obtain ⟨updated, rest, rfl, settles⟩ := yields_provider body
      obtain ⟨result, rfl, final⟩ := yields_settled settles
      cases result with
      | ok done =>
        obtain ⟨rfl, rfl⟩ := yields_done final
        exact .fed named given
      | error e =>
        obtain ⟨rfl, rfl⟩ := yields_done final
        exact .failed named given (HandleEffects.nativeOr_isErr _ _ _ _)

theorem digestFinal_ran (ran : Yields (DigestFinal.handle params lang) trace response) :
    DigestFinal.Ran params trace response := by
  rcases yields_expect ran with ⟨bad, rfl, rfl⟩ | ⟨handle, named, removes⟩
  · exact .malformed bad rfl
  obtain ⟨removed, rest, rfl, body⟩ := yields_session removes
  cases removed with
  | error reason =>
    obtain ⟨rfl, rfl⟩ := yields_done body
    exact .unknown named
  | ok digest =>
    obtain ⟨finalized, rest, rfl, settles⟩ := yields_provider body
    cases finalized with
    | none =>
      obtain ⟨closed, rest, rfl, unwinds⟩ := yields_provider settles
      exact absurd unwinds yields_panic
    | some result =>
      cases result with
      | ok hash =>
        obtain ⟨closed, rest, rfl, final⟩ := yields_provider settles
        obtain ⟨rfl, rfl⟩ := yields_done final
        exact .finalized named
      | error e =>
        obtain ⟨closed, rest, rfl, final⟩ := yields_provider settles
        obtain ⟨rfl, rfl⟩ := yields_done final
        exact .failed named (HandleEffects.nativeOr_isErr _ _ _ _)

theorem closeHash_ran (ran : Yields (CloseHash.handle params) trace response) :
    CloseHash.Ran params trace response := by
  rcases yields_expect ran with ⟨bad, rfl, rfl⟩ | ⟨handle, named, removes⟩
  · exact .malformed bad rfl
  obtain ⟨removed, rest, rfl, body⟩ := yields_session removes
  cases removed with
  | error reason =>
    obtain ⟨rfl, rfl⟩ := yields_done body
    exact .unknown named
  | ok digest =>
    obtain ⟨closed, rest, rfl, final⟩ := yields_provider body
    obtain ⟨rfl, rfl⟩ := yields_done final
    exact .closed named

end requests

end SkfService
