import SkfService.Conduct.Dispatch
import SkfService.Connection.Exchange

/-! What the conduct of a request says about the session it runs on. -/

set_option autoImplicit false

namespace SkfService

open Interaction

def Op.failedConnect : (op : Op) → op.Reply → Option (String × String)
  | .provider (.openDevice library name), some (.error _) => some (library.providerAlias, name)
  | .vendor (.connectDev library name), (ret, _) =>
    if ret = SAR_OK then none else some (library.providerAlias, name.text)
  | _, _ => none

def LosesDevice (trace : List (Event Skf)) (provider device : String) : Prop :=
  ∃ event ∈ trace, Op.failedConnect event.op event.reply = some (provider, device)

namespace Conduct

variable {permit : Permit} {limit : Instant} {s : Conduct} {trace : List (Event Skf)}

theorem follow_handles (limit : Instant) (forbidden : permit.handles = false) (state : SessionState)
    (allowed : (conduct permit).Allows s trace) :
    ((tracked limit).follow state trace).handles = state.handles := by
  induction trace generalizing s state with
  | nil => rfl
  | cons event rest ih =>
    obtain ⟨op, reply⟩ := event
    refine (ih _ allowed.2).trans ?_
    cases op with
    | session op =>
      refine SessionOp.perform_handles _ _ _ _ ?_
      have permitted : s.allowsSession permit op := allowed.1
      cases op with
      | authorize | grant | invalidateDevice => rfl
      | _ => simp [allowsSession, forbidden] at permitted
    | _ => rfl

/-- A forgetful method that records no grant leaves the authorization table as it was. -/
theorem follow_forgetful (forgetful : permit.forgetful = true) (grantless : permit.grants = false)
    (state : SessionState) (allowed : (conduct permit).Allows s trace) :
    ((tracked limit).follow state trace).auth = state.auth := by
  induction trace generalizing s state with
  | nil => rfl
  | cons event rest ih =>
    obtain ⟨op, reply⟩ := event
    refine (ih _ allowed.2).trans ?_
    cases op with
    | session op =>
      refine SessionOp.perform_auth _ _ _ _ ?_
      have permitted : s.allowsSession permit op := allowed.1
      cases op with
      | authorize | invalidateDevice => simp [allowsSession, forgetful] at permitted
      | grant => simp [allowsSession, grantless] at permitted
      | _ => rfl
    | _ => rfl

/-- What a request that is not forgetful has done to the authorization table. -/
def Kept (before : AuthTable) (s : Conduct) (auth : AuthTable) : Prop :=
  match s.contact with
  | .untouched | .lost _ _ => auth = before
  | .revoked provider device => auth = (before.invalidateDevice provider device).1
  | .connected | .refused => True

theorem kept_afterConnect (careful : permit.forgetful = false) {before auth : AuthTable}
    (same : auth = before) (connected : Bool) (provider device : String) :
    Kept before (s.afterConnect permit connected provider device) auth := by
  cases connected with
  | true => trivial
  | false => simpa [afterConnect, careful, Kept] using same

theorem kept_step (careful : permit.forgetful = false) {before : AuthTable} {state : SessionState}
    {op : Op} (reply : op.Reply) (kept : Kept before s state.auth) (allowed : s.allows permit op) :
    Kept before (s.advance permit op reply) ((tracked limit).advance state op reply).auth := by
  cases op with
  | host op => exact kept
  | vendor op =>
    cases op with
    | connectDev library name =>
      -- A careful branch connects once, so that this is its first contact with the device.
      have untouched : s.contact = .untouched := by
        simpa [allows, MayConnect, careful] using allowed
      simp only [Kept, untouched] at kept
      exact kept_afterConnect careful kept _ _ _
    | _ => exact kept
  | provider op =>
    cases op with
    | openDevice library name =>
      have untouched : s.contact = .untouched := by
        simpa [allows, MayConnect, careful] using allowed
      have same : state.auth = before := by simpa [Kept, untouched] using kept
      cases reply with
      | none => exact kept
      | some result => exact kept_afterConnect careful same _ _ _
    | verifyPin application pin =>
      cases reply with
      | none => exact kept
      | some result =>
        cases result with
        | error e => exact kept
        | ok outcome =>
          simp only [advance]
          split <;> exact kept
    | _ => exact kept
  | session op =>
    have permitted : s.allowsSession permit op := allowed
    cases op with
    | authorize key =>
      have connected : s.contact = .connected := permitted.2
      obtain ⟨now, verdict⟩ := reply
      cases verdict with
      | ok live => simp [Kept, advance, connected]
      | error reason => simp [Kept, advance]
    | grant key =>
      have connected : s.contact = .connected := permitted.2.1
      simp [Kept, advance, connected]
    | invalidateDevice provider device =>
      -- Grants are dropped after the device was reached, or because it was lost.
      rcases permitted.2 with connected | lost
      · simp [Kept, advance, connected]
      · simp only [Kept, lost] at kept
        simp [Kept, advance, lost, tracked, SessionOp.perform, kept]
    | issueDevice | device | removeDevice | issueDigest | digest | removeDigest => exact kept

theorem kept_follow (limit : Instant) (careful : permit.forgetful = false) {before : AuthTable}
    (state : SessionState)
    (kept : Kept before s state.auth) (allowed : (conduct permit).Allows s trace) :
    Kept before ((conduct permit).follow s trace) ((tracked limit).follow state trace).auth := by
  induction trace generalizing s state with
  | nil => exact kept
  | cons event rest ih => exact ih _ (kept_step careful event.reply kept allowed.1) allowed.2

/-- The device is gone, whether the session was told or not. -/
def Gone (s : Conduct) (provider device : String) : Prop :=
  s.contact = .lost provider device ∨ s.contact = .revoked provider device

theorem gone_step {provider device : String} (careful : permit.forgetful = false) {op : Op}
    (reply : op.Reply) (gone : s.Gone provider device) (allowed : s.allows permit op) :
    (s.advance permit op reply).Gone provider device := by
  -- Once the device is lost or its grants dropped, the first contact is over.
  have touched : s.contact ≠ .untouched ∧ s.contact ≠ .connected := by
    rcases gone with lost | revoked
    · simp [lost]
    · simp [revoked]
  cases op with
  | host op => exact gone
  | vendor op =>
    cases op with
    | connectDev library name => simp [allows, MayConnect, careful, touched.1] at allowed
    | _ => exact gone
  | provider op =>
    cases op with
    | openDevice library name => simp [allows, MayConnect, careful, touched.1] at allowed
    | verifyPin application pin =>
      cases reply with
      | none => exact gone
      | some result =>
        cases result with
        | error e => exact gone
        | ok outcome =>
          simp only [advance]
          split <;> exact gone
    | _ => exact gone
  | session op =>
    have permitted : s.allowsSession permit op := allowed
    cases op with
    | authorize key => exact absurd permitted.2 touched.2
    | grant key => exact absurd permitted.2.1 touched.2
    | invalidateDevice =>
      rcases gone with lost | revoked
      · simp [Gone, advance, lost]
      · simp [Gone, advance, revoked]
    | issueDevice | device | removeDevice | issueDigest | digest | removeDigest => exact gone

theorem gone_stays {provider device : String} (careful : permit.forgetful = false)
    (gone : s.Gone provider device) (allowed : (conduct permit).Allows s trace) :
    ((conduct permit).follow s trace).Gone provider device := by
  induction trace generalizing s with
  | nil => exact gone
  | cons event rest ih => exact ih (gone_step careful event.reply gone allowed.1) allowed.2

theorem lost_of_failedConnect {provider device : String} (careful : permit.forgetful = false)
    {op : Op} {reply : op.Reply} (failed : Op.failedConnect op reply = some (provider, device)) :
    (s.advance permit op reply).contact = .lost provider device := by
  unfold Op.failedConnect at failed
  split at failed
  · cases failed
    simp [advance, afterConnect, careful, Except.isOk, Except.toBool]
  · split at failed
    · cases failed
    · next refused =>
      cases failed
      simp [advance, afterConnect, careful, refused]
  · cases failed

/-- A connect that failed is never forgotten by a careful request. -/
theorem gone_follow {provider device : String} (careful : permit.forgetful = false)
    (allowed : (conduct permit).Allows s trace) (loses : LosesDevice trace provider device) :
    ((conduct permit).follow s trace).Gone provider device := by
  induction trace generalizing s with
  | nil =>
    obtain ⟨event, member, -⟩ := loses
    cases member
  | cons event rest ih =>
    obtain ⟨failed, member, here⟩ := loses
    rcases List.mem_cons.mp member with rfl | later
    · have gone : ((conduct permit).advance s failed.op failed.reply).Gone provider device :=
        .inl (lost_of_failedConnect careful here)
      rw [Monitor.follow]
      exact gone_stays careful gone allowed.2
    · exact ih allowed.2 ⟨failed, later, here⟩

/-- A grant counts as live only because the session said so. -/
theorem authorized_advance {op : Op} {reply : op.Reply} {key : AuthKey}
    (live : key ∈ (s.advance permit op reply).authorized) :
    key ∈ s.authorized ∨
      ∃ now, (⟨op, reply⟩ : Event Skf) = ⟨.session (.authorize key), (now, .ok ())⟩ := by
  have connect (connected : Bool) (provider device : String) :
      (s.afterConnect permit connected provider device).authorized = s.authorized := by
    unfold afterConnect
    split
    · rfl
    · split <;> rfl
  unfold advance at live
  split at live
  · rw [connect] at live
    exact .inl live
  · rw [connect] at live
    exact .inl live
  · split at live <;> exact .inl live
  · rcases List.mem_cons.mp live with rfl | before
    · exact .inr ⟨_, rfl⟩
    · exact .inl before
  · exact .inl live
  · split at live <;> exact .inl live
  · exact .inl live

theorem authorized_follow {key : AuthKey}
    (live : key ∈ ((conduct permit).follow s trace).authorized) :
    key ∈ s.authorized ∨ ∃ now,
      (⟨.session (.authorize key), (now, .ok ())⟩ : Event Skf) ∈ trace := by
  induction trace generalizing s with
  | nil => exact .inl live
  | cons event rest ih =>
    rcases ih live with before | ⟨now, member⟩
    · rcases authorized_advance before with there | ⟨now, same⟩
      · exact .inl there
      · exact .inr ⟨now, by simp [← same]⟩
    · exact .inr ⟨now, List.mem_cons_of_mem _ member⟩

def Verifies (event : Event Skf) (application : Application) : Prop :=
  ∃ pin outcome,
    event = ⟨.provider (.verifyPin application pin), some (.ok outcome)⟩ ∧ outcome.success = true

theorem verified_advance {op : Op} {reply : op.Reply} {key : AuthKey}
    (verified : key ∈ (s.advance permit op reply).verified) :
    key ∈ s.verified ∨ ∃ application, Verifies ⟨op, reply⟩ application ∧ application.key = key := by
  have connect (connected : Bool) (provider device : String) :
      (s.afterConnect permit connected provider device).verified = s.verified := by
    unfold afterConnect
    split
    · rfl
    · split <;> rfl
  unfold advance at verified
  split at verified
  · rw [connect] at verified
    exact .inl verified
  · rw [connect] at verified
    exact .inl verified
  · split at verified
    · next success =>
      rcases List.mem_cons.mp verified with same | before
      · exact .inr ⟨_, ⟨_, _, rfl, success⟩, same.symm⟩
      · exact .inl before
    · exact .inl verified
  · exact .inl verified
  · exact .inl verified
  · split at verified <;> exact .inl verified
  · exact .inl verified

theorem verified_follow {key : AuthKey}
    (verified : key ∈ ((conduct permit).follow s trace).verified) :
    key ∈ s.verified ∨ ∃ event ∈ trace, ∃ application,
      Verifies event application ∧ application.key = key := by
  induction trace generalizing s with
  | nil => exact .inl verified
  | cons event rest ih =>
    rcases ih verified with before | ⟨found, member, verifies⟩
    · rcases verified_advance before with there | ⟨application, verifies⟩
      · exact .inl there
      · exact .inr ⟨event, by simp, application, verifies⟩
    · exact .inr ⟨found, List.mem_cons_of_mem _ member, verifies⟩

/-- A grant is recorded by a method that may, for an application whose PIN was verified before. -/
theorem verified_before {front back : List (Event Skf)} {key : AuthKey} {reply : Instant × Bool}
    (allowed : (conduct permit).Allows start (front ++ ⟨.session (.grant key), reply⟩ :: back)) :
    permit.grants = true ∧ ∃ event ∈ front, ∃ application,
      Verifies event application ∧ application.key = key := by
  have permitted : ((conduct permit).follow start front).allowsSession permit (.grant key) :=
    ((Monitor.allows_append _ _ _ _).mp allowed).2.1
  refine ⟨permitted.1, (verified_follow permitted.2.2).resolve_left ?_⟩
  simp [start]

theorem covers_of_allows {op : Op} (isProtected : permit.unprotected = false)
    (allowed : s.allows permit op) :
    s.Covers op := by
  cases op with
  | session op => exact fun _ none => by cases none
  | host op => exact fun _ none => by cases none
  | provider op =>
    cases op with
    | openDevice => exact fun _ none => by cases none
    | _ => exact allowed.2 isProtected
  | vendor op =>
    cases op with
    | connectDev => exact fun _ none => by cases none
    | _ => exact allowed.2 isProtected

/-- In a protected request, whatever is worked on is covered by a grant that was found live before. -/
theorem authorized_before {front back : List (Event Skf)} {event : Event Skf} {subject : Subject}
    (isProtected : permit.unprotected = false)
    (allowed : (conduct permit).Allows start (front ++ event :: back))
    (about : event.op.beyond = some subject) :
    ∃ key now, subject.CoveredBy key ∧
      (⟨.session (.authorize key), (now, .ok ())⟩ : Event Skf) ∈ front := by
  have here := ((Monitor.allows_append _ _ _ _).mp allowed).2.1
  obtain ⟨key, live, covered⟩ := covers_of_allows isProtected here subject about
  rcases authorized_follow live with initially | ⟨now, member⟩
  · cases initially
  · exact ⟨key, now, covered, member⟩

theorem meets_request {ctx : SkfContext} {text : String} {method : Method} {params : Params}
    (there : reached ctx text = some (method, params)) (lang : Language) :
    (handleRequest ctx text lang).Meets (conduct method.permit)
      (fun result => Answers params.id result.1)
      (fun _ _ => True) start := by
  refine meets_handleRequest there
    ((branch_conforms ctx params lang method).mono (fun _ _ met => met) ?_)
  intro exit t left response early
  rw [early] at left
  exact left

theorem possible_conduct (s : Conduct) (trace : List (Event Skf)) :
    (conduct permit).Possible s trace := by
  induction trace generalizing s with
  | nil => trivial
  | cons event rest ih => exact ⟨trivial, ih _⟩

theorem allows_of_reaches {ctx : SkfContext} {text : String} {method : Method} {params : Params}
    {lang : Language} {q : Program Skf Panic (RpcResponse × Language)}
    (there : reached ctx text = some (method, params))
    (ran : Program.Reaches (handleRequest ctx text lang) trace q) :
    (conduct method.permit).Allows start trace :=
  ((meets_request there lang).reaches ran (possible_conduct _ _)).1

theorem answers_of_exchange {ctx : SkfContext} {before after : Line} {text : String}
    {method : Method} {params : Params} {response : RpcResponse}
    (there : reached ctx text = some (method, params))
    (exchange : Exchange ctx before text trace response after) :
    Answers params.id response ((conduct method.permit).follow start trace) :=
  (meets_request there before.lang).returned exchange.1 (possible_conduct _ _)

end Conduct
end SkfService
