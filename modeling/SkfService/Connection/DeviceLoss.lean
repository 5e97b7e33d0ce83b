import SkfService.Conduct.Effects
import SkfService.Connection.Conversation

/-! What a failed connect does to the grants of a session, and to the requests that follow. -/

set_option autoImplicit false

namespace SkfService

open Interaction

namespace AuthTable

def Ungranted (table : AuthTable) (provider device : String) : Prop :=
  ∀ application, table.lookup ⟨provider, device, application⟩ = none

def RevokedFor (before after : AuthTable) (provider device : String) : Prop :=
  after.Ungranted provider device ∧
    ∀ key, ¬(key.provider = provider ∧ key.device = device) → after.lookup key = before.lookup key

theorem invalidateDevice_revokedFor (table : AuthTable) (provider device : String) :
    table.RevokedFor (table.invalidateDevice provider device).1 provider device := by
  refine ⟨fun application => ?_, fun key elsewhere => ?_⟩
  · rw [lookup_invalidateDevice]
    simp
  · rw [lookup_invalidateDevice, if_neg elsewhere]

theorem revokedFor_self {table : AuthTable} {provider device : String} :
    table.RevokedFor table provider device ↔ table.Ungranted provider device :=
  ⟨And.left, fun ungranted => ⟨ungranted, fun _ _ => rfl⟩⟩

end AuthTable

def GrantsFor (trace : List (Event Skf)) (provider device : String) : Prop :=
  ∃ application now,
    (⟨.session (.grant ⟨provider, device, application⟩), (now, true)⟩ : Event Skf) ∈ trace

section ungranted

variable {limit : Instant} {provider device : String} {state : SessionState}
  {trace : List (Event Skf)}

/-- Without a new grant, the device stays without one. -/
theorem ungranted_advance {event : Event Skf} (ungranted : state.auth.Ungranted provider device)
    (possible : (tracked limit).possible state event.op event.reply)
    (grantless : ∀ application now,
      event ≠ ⟨.session (.grant ⟨provider, device, application⟩), (now, true)⟩) :
    ((tracked limit).advance state event.op event.reply).auth.Ungranted provider device := by
  obtain ⟨op, reply⟩ := event
  intro application
  cases op with
  | session op =>
    cases op with
    | authorize key =>
      rcases AuthTable.lookup_check state.auth (SessionOp.clock (.authorize key) reply) key
        ⟨provider, device, application⟩ with kept | ⟨-, gone⟩
      · exact kept.trans (ungranted application)
      · exact gone
    -- Only a grant for the device could end it, and there is none.
    | grant key =>
      obtain ⟨now, recorded⟩ := reply
      simp only [tracked, SessionOp.perform, SessionOp.clock] at possible ⊢
      cases granted : state.auth.grant limit now key with
      | none => exact ungranted application
      | some after =>
        simp only [granted, Prod.mk.injEq, true_and] at possible
        subst possible
        have lookup := AuthTable.lookup_grant granted ⟨provider, device, application⟩
        split at lookup
        · next same =>
          subst same
          exact absurd rfl (grantless application now)
        · exact lookup.trans (ungranted application)
    | invalidateDevice other name =>
      have lookup :=
        AuthTable.lookup_invalidateDevice state.auth other name ⟨provider, device, application⟩
      split at lookup
      · exact lookup
      · exact lookup.trans (ungranted application)
    | issueDevice | device | removeDevice | issueDigest | digest | removeDigest =>
      exact ungranted application
  | _ => exact ungranted application

theorem ungranted_follow (ungranted : state.auth.Ungranted provider device)
    (possible : (tracked limit).Possible state trace)
    (grantless : ¬GrantsFor trace provider device) :
    ((tracked limit).follow state trace).auth.Ungranted provider device := by
  induction trace generalizing state with
  | nil => exact ungranted
  | cons event rest ih =>
    refine ih (ungranted_advance ungranted possible.1 fun application now same => ?_) possible.2 ?_
    · exact grantless ⟨application, now, by simp [same]⟩
    · rintro ⟨application, now, member⟩
      exact grantless ⟨application, now, List.mem_cons_of_mem _ member⟩

/-- Every check of the device's grants is answered "not authorized". -/
theorem refused_of_ungranted (ungranted : state.auth.Ungranted provider device)
    (possible : (tracked limit).Possible state trace) (grantless : ¬GrantsFor trace provider device)
    {application : String} {now : Instant} {verdict : Except AuthRejection Unit}
    (checked : (⟨.session (.authorize ⟨provider, device, application⟩), (now, verdict)⟩ :
      Event Skf) ∈ trace) :
    verdict = .error .NotAuthorized := by
  induction trace generalizing state with
  | nil => cases checked
  | cons event rest ih =>
    rcases List.mem_cons.mp checked with rfl | later
    · have replied := possible.1
      simp only [tracked, SessionOp.perform, SessionOp.clock,
        AuthTable.check_missing (ungranted application) now, Prod.mk.injEq, true_and] at replied
      exact replied.symm
    · refine ih (ungranted_advance ungranted possible.1 fun application now same => ?_)
        possible.2 ?_ later
      · exact grantless ⟨application, now, by simp [same]⟩
      · rintro ⟨application, now, member⟩
        exact grantless ⟨application, now, List.mem_cons_of_mem _ member⟩

end ungranted

namespace Conduct

variable {permit : Permit} {s : Conduct} {trace : List (Event Skf)}

theorem refused_step {op : Op} (reply : op.Reply) (refused : s.contact = .refused)
    (allowed : s.allows permit op) :
    (s.advance permit op reply).contact = .refused := by
  cases op with
  | host op => exact refused
  | vendor op =>
    cases op with
    | connectDev library name => simp [allows, MayConnect, refused] at allowed
    | _ => exact refused
  | provider op =>
    cases op with
    | openDevice library name => simp [allows, MayConnect, refused] at allowed
    | verifyPin application pin => simp [allows, Settled, refused, Op.closing] at allowed
    | _ => exact refused
  | session op =>
    have permitted : s.allowsSession permit op := allowed
    cases op with
    | authorize | grant | invalidateDevice => simp [allowsSession, refused] at permitted
    | issueDevice | device | removeDevice | issueDigest | digest | removeDigest => exact refused

theorem refused_stays (refused : s.contact = .refused) (allowed : (conduct permit).Allows s trace) :
    ((conduct permit).follow s trace).contact = .refused := by
  induction trace generalizing s with
  | nil => exact refused
  | cons event rest ih => exact ih (refused_step event.reply refused allowed.1) allowed.2

theorem refused_follow {key : AuthKey} {now : Instant} {reason : AuthRejection}
    (allowed : (conduct permit).Allows s trace)
    (checked : (⟨.session (.authorize key), (now, .error reason)⟩ : Event Skf) ∈ trace) :
    ((conduct permit).follow s trace).contact = .refused := by
  induction trace generalizing s with
  | nil => cases checked
  | cons event rest ih =>
    rcases List.mem_cons.mp checked with rfl | later
    · rw [Monitor.follow]
      exact refused_stays rfl allowed.2
    · exact ih allowed.2 later

end Conduct

section loss

variable {ctx : SkfContext} {ttl : Duration} {before after : Line} {text provider device : String}
  {trace : List (Event Skf)} {response : RpcResponse} {method : Method} {params : Params}

/-- A turn in which the device is not to be used: every check of a grant for it fails and is
answered so, and no protected request gets beyond the check. -/
structure Turn.RefusedFor (ctx : SkfContext) (turn : Turn) (provider device : String) : Prop where
  checks : ∀ application now verdict,
    (⟨.session (.authorize ⟨provider, device, application⟩), (now, verdict)⟩ : Event Skf) ∈
      turn.trace →
      verdict = .error .NotAuthorized ∧
        ∀ text trace response, turn = .answered text trace response → response.error = -10
  works : ∀ method params, reached ctx turn.text = some (method, params) →
    method.permit.unprotected = false →
    ∀ event ∈ turn.trace, ∀ subject, event.op.beyond = some subject →
      ¬(subject.provider = provider ∧ subject.device = device)

/-- Until a grant for the device is recorded again, every turn that follows is refused it. -/
def StaysRefused (ctx : SkfContext) (ttl : Duration) (line : Line) (provider device : String) :
    Prop :=
  ∀ turns last, Conversation ctx ttl line turns last →
    (∀ turn ∈ turns, ¬GrantsFor turn.trace provider device) →
    ∀ turn ∈ turns, turn.RefusedFor ctx provider device

theorem refusedFor_of_ungranted {turn : Turn}
    (ungranted : before.state.auth.Ungranted provider device)
    (step : TurnStep ctx ttl before turn after)
    (grantless : ¬GrantsFor turn.trace provider device) :
    turn.RefusedFor ctx provider device := by
  obtain ⟨⟨q, ran⟩, possible⟩ := step.ran
  refine ⟨fun application now verdict checked => ?_, ?_⟩
  · have refused := refused_of_ungranted ungranted possible grantless checked
    refine ⟨refused, ?_⟩
    rintro text trace response rfl
    cases step with
    | answered exchange =>
      cases there : reached ctx text with
      | none =>
        obtain ⟨early, at_once, -⟩ := handleRequest_unreached there before.lang
        rw [Turn.text, at_once] at ran
        rw [(Program.reaches_done ran).1] at checked
        cases checked
      | some found =>
        have allowed := @Conduct.allows_of_reaches _ _ _ found.1 found.2 _ _ there ran
        rw [refused] at checked
        -- A refusal is the last thing a branch is told before it answers with its code.
        have final := Conduct.refused_follow allowed checked
        rcases (Conduct.answers_of_exchange there exchange).2 with settled | ⟨-, coded⟩
        · exact absurd final settled.2
        · exact coded
  · intro method params there isProtected event member subject about ⟨sameProvider, sameDevice⟩
    obtain ⟨front, back, cut⟩ := List.append_of_mem member
    have allowed := Conduct.allows_of_reaches there ran
    rw [cut] at allowed
    obtain ⟨key, now, covered, checked⟩ := Conduct.authorized_before isProtected allowed about
    obtain ⟨keyProvider, keyDevice, application⟩ := key
    obtain rfl : keyProvider = provider := covered.1.symm.trans sameProvider
    obtain rfl : keyDevice = device := covered.2.1.symm.trans sameDevice
    have inTrace := List.mem_append_left (event :: back) checked
    rw [← cut] at inTrace
    cases refused_of_ungranted ungranted possible grantless inTrace

theorem ungranted_step {turn : Turn} (ungranted : before.state.auth.Ungranted provider device)
    (step : TurnStep ctx ttl before turn after)
    (grantless : ¬GrantsFor turn.trace provider device) :
    after.state.auth.Ungranted provider device := by
  cases step with
  | answered exchange =>
    rw [← exchange.2.2]
    exact ungranted_follow ungranted exchange.2.1 grantless
  | timedOut | failed => exact fun _ => rfl

theorem staysRefused_of_ungranted (ungranted : after.state.auth.Ungranted provider device) :
    StaysRefused ctx ttl after provider device := by
  intro turns last conversation grantless
  have both : last.state.auth.Ungranted provider device ∧ ∀ turn ∈ turns,
      turn.RefusedFor ctx provider device := by
    induction conversation with
    | start => exact ⟨ungranted, by simp⟩
    | @next turns turn line after earlier step ih =>
      obtain ⟨still, refused⟩ :=
        ih fun turn member => grantless turn (List.mem_append_left _ member)
      have lastGrantless : ¬GrantsFor turn.trace provider device := grantless turn (by simp)
      refine ⟨ungranted_step still step lastGrantless, fun other member => ?_⟩
      rcases List.mem_append.mp member with earlier | final
      · exact refused other earlier
      · rw [List.mem_singleton.mp final]
        exact refusedFor_of_ungranted still step lastGrantless
  exact both.2

/-- A careful request revokes what it was granted for the device it lost, and nothing else. -/
theorem revokedFor_of_careful (there : reached ctx text = some (method, params))
    (careful : method.permit.forgetful = false)
    (exchange : Exchange ctx before text trace response after)
    (loses : LosesDevice trace provider device) :
    before.state.auth.RevokedFor after.state.auth provider device := by
  have allowed := Conduct.allows_of_reaches there exchange.1
  have kept := Conduct.kept_follow ctx.platform.lastInstant careful before.state
    (s := Conduct.start) rfl allowed
  rw [exchange.2.2] at kept
  rcases Conduct.gone_follow careful allowed loses with lost | revoked
  · rcases (Conduct.answers_of_exchange there exchange).2 with settled | ⟨refused, -⟩
    · exact absurd lost (settled.1 provider device)
    · rw [lost] at refused
      cases refused
  · simp only [Conduct.Kept, revoked] at kept
    rw [kept]
    exact AuthTable.invalidateDevice_revokedFor _ _ _

theorem forgetful_iff (method : Method) :
    method.permit.forgetful = true ↔ method ∈ [.ConnectDev, .DigestInit, .FindCertificates] := by
  cases method <;> decide

/-- A failed connect revokes the device's grants unless the method is one of three that forget to
say so, and then exactly when there was nothing to revoke. -/
theorem lost_device_revoked_iff (there : reached ctx text = some (method, params))
    (exchange : Exchange ctx before text trace response after)
    (loses : LosesDevice trace provider device) :
    (before.state.auth.RevokedFor after.state.auth provider device ∧
        StaysRefused ctx ttl after provider device) ↔
      (method ∉ [.ConnectDev, .DigestInit, .FindCertificates] ∨
        before.state.auth.Ungranted provider device) := by
  rw [← forgetful_iff, Bool.not_eq_true]
  cases forgetful : method.permit.forgetful with
  | false =>
    have revoked := revokedFor_of_careful there forgetful exchange loses
    exact ⟨fun _ => .inl rfl, fun _ => ⟨revoked, staysRefused_of_ungranted revoked.1⟩⟩
  | true =>
    have allowed := Conduct.allows_of_reaches there exchange.1
    have grantless : method.permit.grants = false := by
      cases method with
      | ConnectDev | DigestInit | FindCertificates => rfl
      | _ => cases forgetful
    have same : after.state.auth = before.state.auth := by
      rw [← exchange.2.2]
      exact Conduct.follow_forgetful forgetful grantless before.state allowed
    rw [same, AuthTable.revokedFor_self]
    refine ⟨fun both => .inr both.1, fun either => ?_⟩
    have ungranted := either.resolve_left (by decide)
    exact ⟨ungranted, staysRefused_of_ungranted (by rwa [same])⟩

end loss

section stale

def checkPinText : String :=
  "\x7b\"method\":\"CheckPIN\",\"params\":[\"GM3000/K1/A\",\"1234\"],\"id\":1\x7d"

def connectText : String := "\x7b\"method\":\"ConnectDev\",\"params\":[\"K1\"],\"id\":2\x7d"

def staleContext : SkfContext :=
  .serving [(checkPinText,
    ⟨"CheckPIN", [.string "GM3000/K1/A", .string "1234"], some (.number (.unsigned 1)), none⟩),
    (connectText, ⟨"ConnectDev", [.string "K1"], some (.number (.unsigned 2)), none⟩)]

def verifiedTrace : List (Event Skf) :=
  let device : Device := ⟨⟨"GM3000", some 0⟩, "K1", 7⟩
  let application : Application := ⟨device, "A", 8⟩
  [⟨.provider (.openDevice ⟨"GM3000", some 0⟩ "K1"), some (.ok 7)⟩,
    ⟨.provider (.openApplication device "A"), some (.ok 8)⟩,
    ⟨.provider (.verifyPin application "1234"), some (.ok ⟨true, 0, SAR_OK⟩)⟩,
    ⟨.session (.grant ⟨"GM3000", "K1", "A"⟩), (5, true)⟩,
    ⟨.provider (.close (.application application)), ()⟩,
    ⟨.provider (.close (.device device)), ()⟩]

def removedTrace : List (Event Skf) :=
  [⟨.provider (.openDevice ⟨"GM3000", some 0⟩ "K1"),
    some (.error (.Native 0x0A000023 "ConnectDev"))⟩]

def verifiedLine : Line := ⟨(tracked (2 ^ 63)).follow (.new 100) verifiedTrace, .EN⟩

theorem verified : Conversation staleContext 100 (.new 100)
    [.answered checkPinText verifiedTrace (.ok (.bool true) (some (.number (.unsigned 1))))]
      verifiedLine :=
  .next .start (.answered ⟨.step _ (.step _ (.step _ (.step _ (.step _ (.step _ (.refl _)))))),
    ⟨trivial, trivial, trivial, rfl, trivial, trivial, trivial⟩, rfl⟩)

theorem removed : Exchange staleContext verifiedLine connectText removedTrace
    (.err (codeAsI32 0x0A000023) "ConnectDev failed" (some (.number (.unsigned 2)))) verifiedLine :=
  ⟨.step _ (.refl _), ⟨trivial, trivial⟩, rfl⟩

theorem removed_loses : LosesDevice removedTrace "GM3000" "K1" :=
  ⟨_, List.mem_singleton.mpr rfl, rfl⟩

/-- `ConnectDev` notices that the device is gone and keeps the grant that was recorded for it. -/
theorem connectDev_keeps_grant :
    Conversation staleContext 100 (.new 100)
        [.answered checkPinText verifiedTrace (.ok (.bool true) (some (.number (.unsigned 1))))]
          verifiedLine ∧
      Exchange staleContext verifiedLine connectText removedTrace
        (.err (codeAsI32 0x0A000023) "ConnectDev failed" (some (.number (.unsigned 2))))
          verifiedLine ∧
      LosesDevice removedTrace "GM3000" "K1" ∧
      ¬verifiedLine.state.auth.RevokedFor verifiedLine.state.auth "GM3000" "K1" := by
  refine ⟨verified, removed, removed_loses, fun revoked => ?_⟩
  have granted : verifiedLine.state.auth.lookup ⟨"GM3000", "K1", "A"⟩ = some ⟨105⟩ := rfl
  rw [revoked.1 "A"] at granted
  cases granted

theorem lost_device_revoked_iff_connectDev :
    (verifiedLine.state.auth.RevokedFor verifiedLine.state.auth "GM3000" "K1" ∧
        StaysRefused staleContext 100 verifiedLine "GM3000" "K1") ↔
      (Method.ConnectDev ∉ [Method.ConnectDev, Method.DigestInit, Method.FindCertificates] ∨
        verifiedLine.state.auth.Ungranted "GM3000" "K1") :=
  @lost_device_revoked_iff staleContext _ _ _ _ _ _ _ _ .ConnectDev
    ⟨[.string "K1"], some (.number (.unsigned 2))⟩ rfl removed removed_loses

end stale

end SkfService
