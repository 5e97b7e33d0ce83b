import SkfService.Connection.Authorization
import SkfService.Session.Lifetime

/-! The deadline of a grant, from the environment through the session to the addition that computes
it. -/

set_option autoImplicit false

namespace SkfService

open Text Interaction Program Handler

/-- How far a `CheckPIN` has come. -/
inductive Login
  | before
  | verified
  | granted (key : AuthKey) (now : Instant) (recorded : Bool)

namespace Login

def advance (login : Login) : (op : Op) → op.Reply → Login
  | .provider (.verifyPin _ _), some (.ok outcome) => if outcome.success then .verified else login
  | .session (.grant key), (now, recorded) => .granted key now recorded
  | _, _ => login

end Login

def loggingIn (limit : Instant) : Monitor Skf (SessionState × Login) where
  allowed _ _ := True
  possible s := (tracked limit).possible s.1
  advance s op reply := ((tracked limit).advance s.1 op reply, s.2.advance op reply)

/-- The verified PIN was recorded under a deadline the clock can hold. -/
def Recorded (limit : Instant) (ttl : Duration) (s : SessionState × Login) (key : AuthKey)
    (now : Instant) : Prop :=
  s.2 = .granted key now true ∧ now + ttl ≤ limit ∧ s.1.auth.lookup key = some ⟨now + ttl⟩

/-- It was not recorded, because no reading of the clock is as late as its deadline. -/
def Overflowed (limit : Instant) (ttl : Duration) (s : SessionState × Login) : Prop :=
  ∃ key now, s.2 = .granted key now false ∧ limit < now + ttl

def Replied (limit : Instant) (ttl : Duration) (id : Option Json) (response : RpcResponse)
    (s : SessionState × Login) :
    Prop :=
  s.2 = .before ∨ ∃ key now, Recorded limit ttl s key now ∧ response = .ok (.bool true) id

def Left (limit : Instant) (ttl : Duration) : Exit → SessionState × Login → Prop
  | .reply _, s => s.2 = .before
  | .panic _, s => s.2 = .before ∨ Overflowed limit ttl s

section rules

variable {limit : Instant} {ttl : Duration} {ctx : SkfContext} {params : Params} {lang : Language}
  {state : SessionState}

def Op.aside : Op → Bool
  | .provider (.verifyPin _ _) | .session _ => false
  | _ => true

theorem advance_aside (s : SessionState × Login) {op : Op} (aside : op.aside = true)
    (reply : op.Reply) :
    (loggingIn limit).advance s op reply = s := by
  cases op with
  | session op => cases aside
  | provider op =>
    cases op with
    | verifyPin => cases aside
    | _ => rfl
  | vendor | host => rfl

theorem bind_aside {B : Type} {ret : B → SessionState × Login → Prop}
    {exits : Exit → SessionState × Login → Prop} {s : SessionState × Login} {op : Op}
    (aside : op.aside = true) {k : op.Reply → Handler B}
    (goes : ∀ reply, (k reply).Meets (loggingIn limit) ret exits s) :
    (Program.ask (I := Skf) op >>= k).Meets (loggingIn limit) ret exits s := by
  apply bind_call
  · trivial
  · intro reply _
    rw [advance_aside s aside reply]
    exact goes reply

theorem ensuring_close {B : Type} {ret : B → SessionState × Login → Prop}
    {exits : Exit → SessionState × Login → Prop} {s : SessionState × Login} {body : Handler B}
    {resource : Resource} (inside : body.Meets (loggingIn limit) ret exits s) :
    (body.ensuring (provider (.close resource))).Meets (loggingIn limit) ret exits s := by
  rw [meets_ensuring]
  apply inside.mono
  · intro value t held
    exact ⟨trivial, fun _ _ => held⟩
  · intro exit t left
    exact ⟨trivial, fun _ _ => left⟩

theorem bind_lost {B : Type} {ret : B → SessionState × Login → Prop} {provName devName : String}
    {response : RpcResponse} (state : SessionState) :
    (noteDeviceUnavailable provName devName >>= fun _ => (reply response : Handler B)).Meets
      (loggingIn limit) ret
      (Left limit ttl) (state, .before) :=
  ⟨trivial, fun _ _ => rfl⟩

/-- The addition of the deadline decides what is recorded and answered. -/
theorem meets_grant (lives : state.auth.ttl = ttl) (key : AuthKey) (id : Option Json)
    {k : Instant × Bool → Handler RpcResponse}
    (records : ∀ now, k (now, true) = .done (.ok (.bool true) id))
    (overflows : ∀ now, k (now, false) = panic .deadlineOverflow) :
    (session (.grant key) >>= k).Meets (loggingIn limit) (Replied limit ttl id) (Left limit ttl)
      (state, .verified) := by
  apply bind_call
  · trivial
  · rintro ⟨now, recorded⟩ possible
    simp only [loggingIn, tracked, SessionOp.perform, SessionOp.clock] at possible ⊢
    -- The grant fails for one reason: the deadline passes the last instant.
    cases granted : state.auth.grant limit now key with
    | some after =>
      simp only [granted, Prod.mk.injEq, true_and] at possible
      subst possible
      rw [records]
      have bound : now + ttl ≤ limit := by
        unfold AuthTable.grant at granted
        split at granted
        · next fits => rwa [lives] at fits
        · cases granted
      refine .inr ⟨key, now, ⟨rfl, bound, ?_⟩, rfl⟩
      rw [← lives]
      exact (AuthTable.lookup_grant granted key).trans (if_pos rfl)
    | none =>
      simp only [granted, Prod.mk.injEq, true_and] at possible
      subst possible
      rw [overflows]
      refine .inr ⟨key, now, rfl, ?_⟩
      unfold AuthTable.grant at granted
      split at granted
      · cases granted
      · next late => rwa [lives, Nat.not_le] at late

theorem meets_loginDevice {ret : RpcResponse → SessionState × Login → Prop} {library : Library}
    {provName devName : String} {id : Option Json} {body : Device → Handler RpcResponse}
    (inside : ∀ device,
      (body device).Meets (loggingIn limit) ret (Left limit ttl) (state, .before)) :
    (withDevice library provName devName id body).Meets (loggingIn limit) ret (Left limit ttl)
      (state, .before) := by
  unfold withDevice openDevice
  rw [meets_bind]
  apply bind_aside rfl
  intro reply
  apply bind_settled
  · intro result _
    cases result with
    | ok raw => exact ensuring_close (inside _)
    | error e => exact bind_lost state
  · intro _
    exact .inl rfl

theorem meets_loginApplication {ret : RpcResponse → SessionState × Login → Prop} {device : Device}
    {provName devName appName : String} {message : ULONG → String} {id : Option Json}
    {body : Application → Handler RpcResponse}
    (inside : ∀ application,
      (body application).Meets (loggingIn limit) ret (Left limit ttl) (state, .before)) :
    (withApplication device appName (applicationLost provName devName message id) body).Meets
      (loggingIn limit) ret
      (Left limit ttl) (state, .before) := by
  unfold withApplication openApplication applicationLost
  rw [meets_bind]
  apply bind_aside rfl
  intro reply
  apply bind_settled
  · intro result _
    cases result with
    | ok raw => exact ensuring_close (inside _)
    | error e => exact bind_lost state
  · intro _
    exact .inl rfl

theorem bind_loginResolve {ret : RpcResponse → SessionState × Login → Prop} {name : String}
    {failed : String → RpcResponse} {k : Library → Handler RpcResponse}
    (goes : ∀ library, (k library).Meets (loggingIn limit) ret (Left limit ttl) (state, .before)) :
    (resolveOr ctx name failed >>= k).Meets (loggingIn limit) ret (Left limit ttl)
      (state, .before) := by
  have outside : Unwatched (loggingIn limit) (state, .before) := ⟨fun _ => trivial, fun _ _ => rfl⟩
  rw [meets_bind]
  apply outside.meets_resolveOr
  · intro reason
    rfl
  · intro _
    exact goes _
  · intro _ gate _
    exact goes _

/-- A `CheckPIN` on a session with this lifetime: before the PIN is verified it may end in any way,
and then the deadline decides. -/
theorem meets_checkPIN (lives : state.auth.ttl = ttl) :
    (CheckPIN.handle ctx params lang).Meets (loggingIn limit) (Replied limit ttl params.id)
      (Left limit ttl)
      (state, .before) := by
  unfold CheckPIN.handle
  apply bind_orReply
  · intro certKey _
    apply bind_orReply
    · intro pinStr _
      apply bind_expect
      · intro parts _
        apply bind_loginResolve
        intro library
        apply meets_loginDevice
        intro device
        apply meets_loginApplication
        intro application
        apply bind_call
        · trivial
        · intro attempt _
          cases attempt with
          | none => exact .inl rfl
          | some result =>
            cases result with
            | error e => exact .inl rfl
            | ok outcome =>
              obtain ⟨success, retries, code⟩ := outcome
              -- Only a PIN that the device accepts is recorded.
              cases success with
              | false => exact .inl rfl
              | true => exact meets_grant lives _ params.id (fun _ => rfl) (fun _ => rfl)
      · intro _
        rfl
    · intro _ _
      rfl
  · intro _ _
    rfl

end rules

section follow

variable {limit : Instant} {s : SessionState × Login} {trace : List (Event Skf)}

theorem follow_session (trace : List (Event Skf)) :
    ((loggingIn limit).follow s trace).1 = (tracked limit).follow s.1 trace := by
  induction trace generalizing s with
  | nil => rfl
  | cons event rest ih => exact ih

theorem possible_session (trace : List (Event Skf)) :
    (loggingIn limit).Possible s trace ↔ (tracked limit).Possible s.1 trace := by
  induction trace generalizing s with
  | nil => exact Iff.rfl
  | cons event rest ih =>
    rw [Monitor.Possible, Monitor.Possible, ih]
    exact Iff.rfl

theorem Login.advance_ne {login : Login} (begun : login ≠ .before) (op : Op) (reply : op.Reply) :
    login.advance op reply ≠ .before := by
  unfold advance
  split
  · split
    · intro impossible
      cases impossible
    · exact begun
  · intro impossible
    cases impossible
  · exact begun

theorem follow_begun (begun : s.2 ≠ .before) (trace : List (Event Skf)) :
    ((loggingIn limit).follow s trace).2 ≠ .before := by
  induction trace generalizing s with
  | nil => exact begun
  | cons event rest ih => exact ih (Login.advance_ne begun event.op event.reply)

theorem follow_verified {event : Event Skf} {application : Application}
    (verifies : Conduct.Verifies event application) (member : event ∈ trace) :
    ((loggingIn limit).follow s trace).2 ≠ .before := by
  obtain ⟨front, back, rfl⟩ := List.append_of_mem member
  obtain ⟨pin, ⟨success, retries, code⟩, rfl, verified⟩ := verifies
  have held : success = true := verified
  subst held
  rw [Monitor.follow_append, Monitor.follow]
  apply follow_begun
  change Login.verified ≠ .before
  intro impossible
  cases impossible

theorem Login.advance_granted {login : Login} {op : Op} {reply : op.Reply} {key : AuthKey}
    {now : Instant} {recorded : Bool} (granted : login.advance op reply =
      .granted key now recorded) :
    login = .granted key now recorded ∨ (⟨op, reply⟩ : Event Skf) =
      ⟨.session (.grant key), (now, recorded)⟩ := by
  unfold advance at granted
  split at granted
  · split at granted
    · cases granted
    · exact .inl granted
  · cases granted
    exact .inr rfl
  · exact .inl granted

theorem follow_granted {key : AuthKey} {now : Instant} {recorded : Bool}
    (granted : ((loggingIn limit).follow s trace).2 = .granted key now recorded) :
    s.2 = .granted key now recorded ∨ (⟨.session (.grant key), (now, recorded)⟩ : Event Skf) ∈
      trace := by
  induction trace generalizing s with
  | nil => exact .inl granted
  | cons event rest ih =>
    rcases ih granted with earlier | later
    · rcases Login.advance_granted earlier with before | here
      · exact .inl before
      · exact .inr (here ▸ List.mem_cons_self)
    · exact .inr (List.mem_cons_of_mem _ later)

theorem granted_of_follow {state : SessionState} {key : AuthKey} {now : Instant} {recorded : Bool}
    (granted : ((loggingIn limit).follow (state, .before) trace).2 = .granted key now recorded) :
    (⟨.session (.grant key), (now, recorded)⟩ : Event Skf) ∈ trace := by
  rcases follow_granted granted with impossible | member
  · cases impossible
  · exact member

end follow

/-- A `CheckPIN` that verifies the PIN asks for a grant; it is recorded and answered with success
exactly if the clock can hold its deadline, which is the lifetime from the environment after the
present. -/
theorem verified_pin_granted_iff {ctx : SkfContext} {params : Params} {lang : Language}
    {turns : List Turn} {line : Line} {trace : List (Event Skf)} {outcome : Except Exit RpcResponse}
    {event : Event Skf} {application : Application}
    (conversation : Conversation ctx (ttlFromEnv ctx.platform.env)
      (.new (ttlFromEnv ctx.platform.env)) turns line)
    (ran : (CheckPIN.handle ctx params lang).Finishes trace outcome)
    (possible : (tracked ctx.platform.lastInstant).Possible line.state trace)
    (member : event ∈ trace) (verifies : Conduct.Verifies event application) :
    ∃ key now, (∃ recorded, ⟨.session (.grant key), (now, recorded)⟩ ∈ trace) ∧
      ((outcome = .ok (.ok (.bool true) params.id) ∧
        ((tracked ctx.platform.lastInstant).follow line.state trace).auth.lookup
          key = some ⟨now + ttlFromEnv ctx.platform.env⟩) ↔
        now + ttlFromEnv ctx.platform.env ≤ ctx.platform.lastInstant) := by
  have lives : line.state.auth.ttl = ttlFromEnv ctx.platform.env := ttl_conversation conversation
  have begun : ((loggingIn ctx.platform.lastInstant).follow (line.state, .before) trace).2 ≠
      .before :=
    follow_verified verifies member
  have chances := (@possible_session _ (line.state, .before) trace).mpr possible
  -- An answer comes with the grant; the panic comes from a deadline beyond the last instant.
  cases outcome with
  | ok response =>
    rcases (meets_checkPIN lives).returned ran chances with early |
      ⟨key, now, ⟨granted, fits, held⟩, answered⟩
    · exact absurd early begun
    · rw [follow_session] at held
      exact ⟨key, now, ⟨true, granted_of_follow granted⟩, iff_of_true ⟨by rw [answered], held⟩ fits⟩
  | error exit =>
    have left := (meets_checkPIN lives).stopped ran chances
    cases exit with
    | reply response => exact absurd left begun
    | panic why =>
      rcases left with early | ⟨key, now, granted, late⟩
      · exact absurd early begun
      · refine ⟨key, now, ⟨false, granted_of_follow granted⟩, iff_of_false ?_ (Nat.not_le.mpr late)⟩
        rintro ⟨impossible, -⟩
        cases impossible

namespace LongestLifetime

/-! The largest number the parser takes, on a Linux clock of 63-bit seconds. -/

def context : SkfContext :=
  { signContext with
    platform := { signContext.platform with
      env := fun name => if name = TTL_ENV_VAR then some "18446744073709551615" else none
      lastInstant := 9223372036854775807999999999 } }

theorem ttl_eq : ttlFromEnv context.platform.env = 18446744073709551615000000000 := by
  have read : context.platform.env TTL_ENV_VAR = some "18446744073709551615" := by
    change (if TTL_ENV_VAR = TTL_ENV_VAR then some "18446744073709551615" else none) = _
    rw [if_pos rfl]
  have parsed : parseU64 (trim "18446744073709551615") = some 18446744073709551615 := by decide
  unfold ttlFromEnv
  rw [read, Option.bind_some, parsed]
  rfl

def trace : List (Event Skf) :=
  [⟨.provider (.openDevice ⟨"GM3000", some 0⟩ "K1"), some (.ok 7)⟩,
    ⟨.provider (.openApplication signApplication.device "A"), some (.ok 8)⟩,
    ⟨.provider (.verifyPin signApplication "1234"), some (.ok ⟨true, 0, SAR_OK⟩)⟩,
    ⟨.session (.grant ⟨"GM3000", "K1", "A"⟩), (5, false)⟩,
    ⟨.provider (.close (.application signApplication)), ()⟩,
    ⟨.provider (.close (.device signApplication.device)), ()⟩]

theorem ran :
    (CheckPIN.handle context ⟨[.string "GM3000/K1/A", .string "1234"], some (.number (.unsigned 1))⟩
      .EN).Finishes
      trace (.error (.panic .deadlineOverflow)) :=
  .step _ (.step _ (.step _ (.step _ (.step _ (.step _ (.refl _))))))

theorem possible :
    (tracked context.platform.lastInstant).Possible
      (.new (ttlFromEnv context.platform.env)) trace := by
  rw [ttl_eq]
  exact ⟨trivial, trivial, trivial, rfl, trivial, trivial, trivial⟩

end LongestLifetime

theorem longest_lifetime_overflows :
    ¬∀ (ctx : SkfContext) (params : Params) (lang : Language) (turns : List Turn) (line : Line)
      (trace : List (Event Skf)) (outcome : Except Exit RpcResponse) (event : Event Skf)
      (application : Application),
      Conversation ctx (ttlFromEnv ctx.platform.env)
        (.new (ttlFromEnv ctx.platform.env)) turns line →
      (CheckPIN.handle ctx params lang).Finishes trace outcome →
      (tracked ctx.platform.lastInstant).Possible line.state trace →
      event ∈ trace → Conduct.Verifies event application →
        outcome = .ok (.ok (.bool true) params.id) := by
  intro answers
  have answered :=
    answers LongestLifetime.context _ .EN [] (.new _) LongestLifetime.trace _ _
      signApplication .start
    LongestLifetime.ran LongestLifetime.possible
    (List.mem_cons_of_mem _ (List.mem_cons_of_mem _ List.mem_cons_self)) ⟨"1234", _, rfl, rfl⟩
  cases answered

theorem verified_pin_granted_longest : ∃ key now,
    (∃ recorded, (⟨.session (.grant key), (now, recorded)⟩ : Event Skf) ∈ LongestLifetime.trace) ∧
    ¬now + ttlFromEnv LongestLifetime.context.platform.env ≤
      LongestLifetime.context.platform.lastInstant := by
  obtain ⟨key, now, member, exact_⟩ :=
    verified_pin_granted_iff .start LongestLifetime.ran LongestLifetime.possible
    (List.mem_cons_of_mem _ (List.mem_cons_of_mem _ List.mem_cons_self)) ⟨"1234", _, rfl, rfl⟩
  refine ⟨key, now, member, fun fits => ?_⟩
  have answered := (exact_.mpr fits).1
  cases answered

end SkfService
