import SkfService.Dispatch.Unavailable
import SkfService.Failures.Verdicts

/-! What a response says of the vendor failures there were, and the rules for the steps of a branch. -/

set_option autoImplicit false

namespace SkfService

open Text Interaction Program Handler

namespace RpcResponse

def Succeeded (response : RpcResponse) : Prop := response.error = 0 ∧ response.message = none

def Failed (code : Int32) (response : RpcResponse) : Prop :=
  response.error = code ∧ response.result = .null ∧ response.message.isSome = true

end RpcResponse

/-- The numbers of the service's own errors. -/
def ownCodes : List Int32 := [-1, -2, -3, -4, -5, -6, -7, -10, -11, -100]

namespace RpcResponse

def Own (response : RpcResponse) : Prop :=
  response.Succeeded ∨ ∃ code ∈ ownCodes, response.Failed code

/-- A response with the code of a call that failed. A missing symbol may be told as a library that
does not load. -/
def Blames (missing : Int32) (code : ULONG) (response : RpcResponse) : Prop :=
  response.Failed (codeAsI32 code) ∨ code = SAR_COULDNOTGETFUNCADDR ∧ response.Failed missing

def Explains (missing : Int32) (response : RpcResponse) : Option ULONG → Prop
  | some code => response.Blames missing code
  | none => response.Own

end RpcResponse

open RpcResponse

section responses

variable {missing : Int32} {id : Option Json} {message : String}

theorem explains_ok (result : Json) (id : Option Json) : Explains missing (.ok result id) none :=
  .inl ⟨rfl, rfl⟩

theorem own_err {code : Int32} (own : code ∈ ownCodes) : Own (.err code message id) :=
  .inr ⟨code, own, rfl, rfl, rfl⟩

theorem explains_err {code : ULONG} :
    Explains missing (.err (codeAsI32 code) message id) (some code) :=
  .inl ⟨rfl, rfl, rfl⟩

theorem own_badRequest : Own (.err (-2) message id) := own_err (by decide)

theorem own_loadFailed (id : Option Json) : Own (loadFailed message id) := own_err (by decide)

theorem explains_nativeFailure {e : ProviderError} (source : e.FromLibrary)
    (message : ULONG → String) (id : Option Json) :
    Explains (-5) (nativeFailure e message id) e.code := by
  cases e with
  | Native code context => exact explains_err
  | SymbolUnavailable name => exact .inr ⟨rfl, rfl, rfl, rfl⟩
  | InvalidArgument context => exact own_loadFailed id
  | LibraryLoadFailed | ProviderNotConfigured | Injected => cases source

theorem explains_nativeOr {e : ProviderError} (source : e.FromLibrary) (message : ULONG → String)
    (lang : Language) (id : Option Json) : Explains (-5) (nativeOr e message lang id) e.code := by
  cases e with
  | Native code context => exact explains_err
  | SymbolUnavailable name => exact .inr ⟨rfl, rfl, rfl, rfl⟩
  | InvalidArgument context => exact own_err (by decide)
  | LibraryLoadFailed | ProviderNotConfigured | Injected => cases source

theorem explains_codeReply (ret : ULONG) (message : ULONG → String) (id : Option Json) :
    Explains missing (codeReply ret message id) (failureOf ret) := by
  unfold codeReply failureOf
  split
  · exact explains_ok _ _
  · exact explains_err

end responses

def Exit.Explains (missing : Int32) : Exit → Option ULONG → Prop
  | .reply response, s => response.Explains missing s
  | .panic _, s => s = none

/-- Whatever the library does, the program goes on after a failure only to tell it. -/
abbrev Honest (tolerates : Symbol → Bool) (missing : Int32) {A : Type}
    (ret : A → Option ULONG → Prop) (s : Option ULONG) (p : Handler A) : Prop :=
  p.Meets (verdicts tolerates).monitor ret (Exit.Explains missing) s

def Fine {A : Type} (_ : A) (s : Option ULONG) : Prop := s = none

def Counts (tolerates : Symbol → Bool) (symbol : Symbol) : Prop :=
  ∀ failure, counted tolerates symbol failure = failure

/-- The functions whose failure only the certificate search passes over. -/
def Symbol.minded : Symbol → Bool
  | GetContainerType | GenRandom | CreateContainer => false
  | symbol => !symbol.releases

def Strict (tolerates : Symbol → Bool) : Prop :=
  ∀ symbol, symbol.minded = true → Counts tolerates symbol

namespace Honest

variable {tolerates : Symbol → Bool} {missing : Int32} {A B : Type} {ret : B → Option ULONG → Prop}
  {s : Option ULONG} {params : Params} {id : Option Json}

theorem bind {p : Handler A} {k : A → Handler B} {middle : A → Option ULONG → Prop}
    (first : Honest tolerates missing middle s p)
    (goes : ∀ value after, middle value after → Honest tolerates missing ret after (k value)) :
    Honest tolerates missing ret s (p >>= k) :=
  (meets_bind p k).mpr (first.mono (fun value after held => goes value after held) fun _ _ left =>
    left)

theorem after {p : Handler A} {k : A → Handler B} (first : Honest tolerates missing Fine s p)
    (goes : ∀ value, Honest tolerates missing ret none (k value)) :
    Honest tolerates missing ret s (p >>= k) :=
  first.bind fun value _ fine => by
    cases fine
    exact goes value

theorem behind {p : Handler A} {k : A → Handler B}
    (first : Honest tolerates missing (fun _ after => after = s) s p)
    (goes : ∀ value, Honest tolerates missing ret s (k value)) :
    Honest tolerates missing ret s (p >>= k) :=
  first.bind fun value _ same => by
    cases same
    exact goes value

theorem ite {c : Prop} [Decidable c] {p q : Handler B} (yes : c → Honest tolerates missing ret s p)
    (no : ¬c → Honest tolerates missing ret s q) :
    Honest tolerates missing ret s (if c then p else q) :=
  meets_ite yes no

theorem decided {code : ULONG} {p q : Handler B} (yes : Honest tolerates missing ret none p)
    (no : Honest tolerates missing ret (some code) q) :
    Honest tolerates missing ret (failureOf code) (if code = SAR_OK then p else q) := by
  unfold failureOf
  split
  · exact yes
  · exact no

theorem orReply {x : Except RpcResponse A} (own : ∀ rejection, x = .error rejection →
    rejection.Own) :
    Honest tolerates missing Fine none (Handler.orReply x) := by
  cases x with
  | ok value => exact rfl
  | error rejection => exact own rejection rfl

theorem mapError {x : Except String A} {rejection : String → RpcResponse}
    (own : ∀ reason, (rejection reason).Own) :
    Honest tolerates missing Fine none (Handler.orReply (x.mapError rejection)) := by
  cases x with
  | ok value => exact rfl
  | error reason => exact own reason

theorem requiredStr (index : Nat) (message : String) :
    Honest tolerates missing Fine none (Handler.orReply (params.requiredStr index message)) := by
  unfold Params.requiredStr
  cases params.str index with
  | some value => exact rfl
  | none => exact own_badRequest

theorem checkPayloadLen (encoded : String) :
    Honest tolerates missing Fine none (Handler.orReply (params.checkPayloadLen encoded)) := by
  unfold Params.checkPayloadLen
  split
  · exact own_badRequest
  · exact rfl

/-- A parameter that does not decode is the client's fault. -/
theorem own_decode {errorText : DecodeErrorText} {encoded message : String}
    {rejection : RpcResponse}
    (rejected : params.decode errorText encoded message = .error rejection) : rejection.Own := by
  unfold Params.decode Params.checkPayloadLen at rejected
  by_cases large : (utf8 encoded).length > MAX_ENCODED_BYTES
  · rw [if_pos large] at rejected
    cases rejected
    exact own_badRequest
  · rw [if_neg large] at rejected
    cases decoded : decodeBase64 errorText encoded with
    | ok bytes => simp [decoded, Bind.bind, Except.bind] at rejected
    | error reason =>
      simp only [decoded, Bind.bind, Except.bind, Except.error.injEq] at rejected
      rw [← rejected]
      exact own_badRequest

theorem decode (errorText : DecodeErrorText) (encoded message : String) :
    Honest tolerates missing Fine none
      (Handler.orReply (params.decode errorText encoded message)) :=
  orReply fun _ rejected => own_decode rejected

theorem expect (x : Option A) {rejection : RpcResponse} (own : rejection.Own) :
    Honest tolerates missing Fine none (Handler.expect x rejection) := by
  cases x with
  | some value => exact rfl
  | none => exact own

theorem unwrap (x : Option A) (why : Panic) :
    Honest tolerates missing Fine none (Handler.unwrap x why) := by
  cases x <;> exact rfl

theorem session (op : SessionOp) : Honest tolerates missing Fine none (Handler.session op) :=
  ⟨.inl rfl, fun _ _ => rfl⟩

theorem host (op : HostOp) : Honest tolerates missing Fine none (Handler.host op) :=
  ⟨.inl rfl, fun _ _ => rfl⟩

theorem unwatched : Unwatched (verdicts tolerates).monitor none :=
  ⟨fun _ => .inl rfl, fun _ _ => rfl⟩

theorem asked {op : ProviderOp} {attempt : op.Reply → Attempt A}
    {k : Except ProviderError A → Handler B} (counts : Counts tolerates op.symbol)
    (source : ∀ reply, op.FromLibrary reply → Attempt.FromLibrary (attempt reply))
    (same : ∀ reply, op.failure reply = Attempt.failure (attempt reply))
    (goes : ∀ value, Honest tolerates missing ret none (k (.ok value)))
    (fails : ∀ e : ProviderError, e.FromLibrary →
      Honest tolerates missing ret e.code (k (.error e))) :
    Honest tolerates missing ret none (Handler.provider op >>= fun reply =>
      Handler.settled (attempt reply) >>= k) := by
  refine ⟨.inl rfl, fun reply fair => ?_⟩
  -- What the monitor has seen is what the branch is about to be told.
  have told : (verdicts tolerates).monitor.advance none (.provider op) reply =
      Attempt.failure (attempt reply) :=
    (counts _).trans (same reply)
  have from_library := source reply fair
  rw [told]
  change Honest tolerates missing ret (Attempt.failure (attempt reply))
    (Handler.settled (attempt reply) >>= k)
  generalize attempt reply = outcome at from_library
  rcases outcome with - | e | value
  · exact rfl
  · exact fails e from_library
  · exact goes value

/-- A call whose failure is tolerated. -/
theorem tolerated {op : ProviderOp} {attempt : op.Reply → Attempt A}
    {k : Except ProviderError A → Handler B} (tolerable : tolerates op.symbol = true)
    (goes : ∀ outcome, Honest tolerates missing ret none (k outcome)) :
    Honest tolerates missing ret none (Handler.provider op >>= fun reply =>
      Handler.settled (attempt reply) >>= k) := by
  refine ⟨.inl rfl, fun reply _ => ?_⟩
  have kept : (verdicts tolerates).monitor.advance none (.provider op) reply = none := by
    -- The monitor has not taken note of a call that is excused.
    have excused : (op.symbol.releases || tolerates op.symbol) = true := by
      rw [tolerable, Bool.or_true]
    exact if_pos excused
  rw [kept]
  change Honest tolerates missing ret none (Handler.settled (attempt reply) >>= k)
  cases attempt reply with
  | none => exact rfl
  | some outcome => exact goes outcome

theorem close (resource : Resource) :
    Honest tolerates missing (fun _ after => after = s) s (Handler.provider (.close resource)) := by
  exact ⟨.inr resource.release_releases, fun _ _ => or_unfailing (counted_none _ _)⟩

theorem ensuring {body : Handler B} {resource : Resource}
    (inside : Honest tolerates missing ret s body) :
    Honest tolerates missing ret s (body.ensuring (Handler.provider (.close resource))) := by
  -- Both ways out of the body pass through the call that gives the handle back.
  refine (meets_ensuring body _).mpr
    (inside.mono (fun value after held => ?_) fun exit after left => ?_)
  · refine (close resource).mono (fun _ _ same => ?_) fun _ _ left => left
    cases same
    exact held
  · refine (close resource).mono (fun _ _ same => ?_) fun _ _ left => left
    cases same
    exact left

theorem vendor {op : VendorOp} (counts : Counts tolerates op.symbol) :
    Honest tolerates missing (fun reply after => after = failureOf (op.code reply)) none
      (Handler.vendor op) :=
  ⟨.inl rfl, fun _ _ => counts _⟩

theorem released {op : VendorOp} (releases : op.symbol.releases = true) :
    Honest tolerates missing (fun _ after => after = s) s (Handler.vendor op) := by
  exact ⟨.inr releases, fun _ _ => or_unfailing (counted_releases releases _)⟩

theorem noteDeviceUnavailable {provName devName : String} :
    Honest tolerates missing (fun _ after => after = s) s
      (noteDeviceUnavailable provName devName) :=
  ⟨.inr rfl, fun _ _ => Option.or_none⟩

end Honest
end SkfService
