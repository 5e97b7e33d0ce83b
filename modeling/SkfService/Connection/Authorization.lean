import SkfService.Connection.Service
import SkfService.Custody.Release

/-! Where the authority behind a protected request comes from.

A live grant was recorded by a `CheckPIN` that verified the PIN of that very application and was
answered. The session kept it from there to the request that relies on it: no request in between
reset the session or found the device gone. -/

set_option autoImplicit false

namespace SkfService

open Interaction

def Spares (trace : List (Event Skf)) (key : AuthKey) : Prop :=
  ∀ event ∈ trace, event.op ≠ .session (.invalidateDevice key.provider key.device)

theorem spares_cons {event : Event Skf} {trace : List (Event Skf)} {key : AuthKey} :
    Spares (event :: trace) key ↔
      event.op ≠ .session (.invalidateDevice key.provider key.device) ∧ Spares trace key := by
  simp [Spares]

section session

variable {limit : Instant} {state : SessionState} {key : AuthKey} {held : Grant}
  {trace : List (Event Skf)}

/-- A grant that is held after an interaction was recorded by it or held before. -/
theorem held_advance {event : Event Skf}
    (possible : (tracked limit).possible state event.op event.reply)
    (live : ((tracked limit).advance state event.op event.reply).auth.lookup key = some held) :
    (∃ now, event = ⟨.session (.grant key), (now, true)⟩ ∧ held.expiresAt = now + state.auth.ttl) ∨
      (state.auth.lookup key = some held ∧
        event.op ≠ .session (.invalidateDevice key.provider key.device)) := by
  obtain ⟨op, reply⟩ := event
  cases op with
  | session op =>
    cases op with
    | authorize other =>
      refine .inr ⟨?_, fun same => by cases same⟩
      rcases AuthTable.lookup_check state.auth
        (SessionOp.clock (.authorize other) reply) other key with kept | ⟨-, gone⟩
      · exact kept.symm.trans live
      · cases gone.symm.trans live
    -- A grant is the only operation that gives a key a deadline.
    | grant other =>
      obtain ⟨now, recorded⟩ := reply
      simp only [tracked, SessionOp.perform, SessionOp.clock] at possible live
      cases granted : state.auth.grant limit now other with
      | none =>
        rw [granted] at live
        exact .inr ⟨live, fun same => by cases same⟩
      | some after =>
        simp only [granted, Prod.mk.injEq, true_and] at possible live
        subst possible
        have lookup := AuthTable.lookup_grant granted key
        split at lookup
        · next same =>
          subst same
          cases lookup.symm.trans live
          exact .inl ⟨now, rfl, rfl⟩
        · exact .inr ⟨lookup.symm.trans live, fun same => by cases same⟩
    | invalidateDevice provider name =>
      have lookup := AuthTable.lookup_invalidateDevice state.auth provider name key
      split at lookup
      · cases lookup.symm.trans live
      · next elsewhere =>
        refine .inr ⟨lookup.symm.trans live, fun same => elsewhere ?_⟩
        cases same
        exact ⟨rfl, rfl⟩
    | issueDevice | device | removeDevice | issueDigest | digest | removeDigest =>
      exact .inr ⟨live, fun same => by cases same⟩
  | provider op => exact .inr ⟨live, fun same => by cases same⟩
  | vendor op => exact .inr ⟨live, fun same => by cases same⟩
  | host op => exact .inr ⟨live, fun same => by cases same⟩

theorem ttl_advance (event : Event Skf) :
    ((tracked limit).advance state event.op event.reply).auth.ttl = state.auth.ttl := by
  obtain ⟨op, reply⟩ := event
  cases op with
  | session op => exact SessionOp.perform_ttl _ _ _ _
  | _ => rfl

theorem ttl_follow : ((tracked limit).follow state trace).auth.ttl = state.auth.ttl := by
  induction trace generalizing state with
  | nil => rfl
  | cons event rest ih => exact ih.trans (ttl_advance event)

def Grants (trace : List (Event Skf)) (key : AuthKey) (granted : Instant) : Prop :=
  ∃ front back, trace = front ++ ⟨.session (.grant key), (granted, true)⟩ :: back ∧ Spares back key

theorem held_follow (possible : (tracked limit).Possible state trace)
    (live : ((tracked limit).follow state trace).auth.lookup key = some held) :
    (∃ granted, Grants trace key granted ∧ held.expiresAt = granted + state.auth.ttl) ∨
      (state.auth.lookup key = some held ∧ Spares trace key) := by
  induction trace generalizing state with
  | nil => exact .inr ⟨live, by simp [Spares]⟩
  | cons event rest ih =>
    rcases ih possible.2 live with ⟨granted, ⟨front, back, spelled, spared⟩, deadline⟩ |
      ⟨before, spared⟩
    · rw [ttl_advance] at deadline
      exact .inl ⟨granted, ⟨event :: front, back, by rw [spelled, List.cons_append], spared⟩,
        deadline⟩
    · rcases held_advance possible.1 before with ⟨granted, rfl, deadline⟩ | ⟨earlier, kept⟩
      · exact .inl ⟨granted, ⟨[], rest, rfl, spared⟩, deadline⟩
      · exact .inr ⟨earlier, spares_cons.mpr ⟨kept, spared⟩⟩

/-- A check succeeds on a grant whose deadline lies ahead. -/
theorem live_of_check {front back : List (Event Skf)} {now : Instant}
    (possible : (tracked limit).Possible state
      (front ++ ⟨.session (.authorize key), (now, .ok ())⟩ :: back)) :
    ∃ held,
      ((tracked limit).follow state front).auth.lookup key = some held ∧ now < held.expiresAt := by
  have replied := ((Monitor.possible_append _ _ _ _).mp possible).2.1
  simp only [tracked, SessionOp.perform, SessionOp.clock, Prod.mk.injEq, true_and] at replied
  exact (AuthTable.check_ok_iff _ _ _).mp replied

end session

section conversation

variable {ctx : SkfContext} {ttl : Duration} {turns : List Turn} {line : Line} {key : AuthKey}
  {held : Grant}

/-- The turns recorded a grant and kept it to their end. -/
def HeldSince (turns : List Turn) (key : AuthKey) (granted : Instant) (m : Nat) : Prop :=
  (∃ text trace response,
    turns[m]? = some (.answered text trace response) ∧ Grants trace key granted) ∧
    ∀ k turn, m < k → turns[k]? = some turn → turn.resets = false ∧ Spares turn.trace key

theorem HeldSince.more {turn : Turn} {granted : Instant} {m : Nat}
    (since : HeldSince turns key granted m) (answered : turn.resets = false)
    (spared : Spares turn.trace key) :
    HeldSince (turns ++ [turn]) key granted m := by
  obtain ⟨⟨text, trace, response, found, grants⟩, after⟩ := since
  have bound := (List.getElem?_eq_some_iff.mp found).1
  refine ⟨⟨text, trace, response, ?_, grants⟩, fun k other later there => ?_⟩
  · rw [List.getElem?_append_left bound]
    exact found
  · by_cases inside : k < turns.length
    · rw [List.getElem?_append_left inside] at there
      exact after k other later there
    · rw [List.getElem?_append_right (Nat.not_lt.mp inside)] at there
      have last := List.mem_of_getElem? there
      rw [List.mem_singleton.mp last]
      exact ⟨answered, spared⟩

theorem ttl_conversation (conversation : Conversation ctx ttl (.new ttl) turns line) :
    line.state.auth.ttl = ttl := by
  induction conversation with
  | start => rfl
  | next earlier step ih =>
    cases step with
    | answered exchange =>
      rw [← exchange.2.2, ttl_follow]
      exact ih
    | timedOut | failed => rfl

/-- Every grant a session holds was recorded on the connection, and kept since. -/
theorem held_conversation (conversation : Conversation ctx ttl (.new ttl) turns line)
    (live : line.state.auth.lookup key = some held) :
    ∃ granted m, HeldSince turns key granted m ∧ held.expiresAt = granted + ttl := by
  induction conversation generalizing held with
  | start => cases live
  | @next turns turn before after earlier step ih =>
    cases step with
    | @answered text trace response _ exchange =>
      rw [← exchange.2.2] at live
      rcases held_follow exchange.2.1 live with ⟨granted, grants, deadline⟩ | ⟨there, spared⟩
      · rw [ttl_conversation earlier] at deadline
        refine ⟨granted, turns.length,
          ⟨⟨text, trace, response, by simp, grants⟩, fun k turn later there => ?_⟩, deadline⟩
        have bound := (List.getElem?_eq_some_iff.mp there).1
        rw [List.length_append, List.length_singleton] at bound
        omega
      · obtain ⟨granted, m, since, deadline⟩ := ih there
        exact ⟨granted, m, since.more rfl spared, deadline⟩
    | timedOut | failed => cases live

theorem exchange_of_turn {m : Nat} {text : String} {trace : List (Event Skf)}
    {response : RpcResponse} (conversation : Conversation ctx ttl (.new ttl) turns line)
    (found : turns[m]? = some (.answered text trace response)) :
    ∃ before after, Exchange ctx before text trace response after := by
  obtain ⟨bound, at_m⟩ := List.getElem?_eq_some_iff.mp found
  rw [← List.take_append_drop m turns, List.drop_eq_getElem_cons bound, at_m,
    List.append_cons] at conversation
  obtain ⟨after, front, -⟩ := conversation.split
  obtain ⟨before, -, step⟩ := front.last_step
  cases step with
  | answered exchange => exact ⟨before, after, exchange⟩

end conversation

section verification

variable {ctx : SkfContext} {before after : Line} {text : String} {trace : List (Event Skf)}
  {response : RpcResponse} {key : AuthKey}

def VerifiesPin (trace : List (Event Skf)) (key : AuthKey) : Prop :=
  ∃ front event back application,
    trace = front ++ event :: back ∧ Conduct.Verifies event application ∧
    application.key = key ∧ Resource.application application ∈ Custody.inventory.opened front

theorem clean_of_guarded {method : Method} {params : Params} (guarded : method.isGuarded = true)
    (there : reached ctx text = some (method, params))
    (exchange : Exchange ctx before text trace response after) :
    Custody.inventory.Clean trace := by
  have keeps : Custody.Keeps [] (method.branch ctx params before.lang) :=
    Custody.keeps_branch guarded
  have met := @meets_handleRequest _ (Custody.inventory.audit Custody.unflagged)
    (fun _ s => s = .clear []) (.clear []) ctx text method params before.lang there
    (keeps.mono (fun _ _ same => same) fun _ _ same _ _ => same)
  have ends := met.returned exchange.1 (Custody.possible_audit _ _)
  rw [Custody.inventory.clean_iff_audit Custody.unflagged, ends]
  exact ⟨rfl, rfl⟩

/-- A grant is recorded by a `CheckPIN` that verified the PIN of the application. -/
theorem checkPIN_of_grant {front back : List (Event Skf)} {reply : Instant × Bool}
    (exchange : Exchange ctx before text (front ++ ⟨.session (.grant key), reply⟩ :: back)
      response after) :
    (∃ params, reached ctx text = some (.CheckPIN, params)) ∧ VerifiesPin front key := by
  cases there : reached ctx text with
  | none =>
    obtain ⟨early, at_once, -⟩ := handleRequest_unreached there before.lang
    have ran := exchange.1
    rw [at_once] at ran
    have empty := (Program.reaches_done ran).1
    simp at empty
  | some found =>
    obtain ⟨method, params⟩ := found
    have allowed := Conduct.allows_of_reaches there exchange.1
    obtain ⟨grants, event, member, application, verifies, same⟩ := Conduct.verified_before allowed
    obtain rfl : method = .CheckPIN := by
      cases method <;> first | rfl | cases grants
    obtain ⟨earlier, between, rfl⟩ := List.append_of_mem member
    refine ⟨⟨params, rfl⟩, earlier, event, between, application, rfl, verifies, same, ?_⟩
    have clean := (clean_of_guarded rfl there exchange).1
    rw [List.append_assoc, List.cons_append] at clean
    refine Custody.inventory.opened_of_uses clean ?_
    obtain ⟨pin, outcome, rfl, -⟩ := verifies
    simp [Custody.inventory, Custody.uses, Custody.providerUses]

end verification

/-- Request `m` verified a PIN and recorded the grant that request `n` relies on; `before` is what
request `n` did before it checked. -/
structure BackedBy (ctx : SkfContext) (ttl : Duration) (t : Transcript) (n m : Nat)
    (before : List (Event Skf)) (key : AuthKey) (granted checked : Instant) : Prop where
  earlier : m < n
  verified : ∃ text params front back response,
    t.ended[m]? =
      some (.answered text (front ++ ⟨.session (.grant key), (granted, true)⟩ :: back) response) ∧
      reached ctx text = some (.CheckPIN, params) ∧ VerifiesPin front key ∧ Spares back key
  recent : granted ≤ checked ∧ checked < granted + ttl
  unbroken : ∀ k turn, m ≤ k → k < n → t.ended[k]? = some turn → turn.resets = false
  spared : (∀ k turn, m < k → k < n → t.ended[k]? = some turn → Spares turn.trace key) ∧
    Spares before key

section soundness

variable {ctx : SkfContext} {ttl : Duration}

def protectedMethods : List Method :=
  [.SignData, .RSASignData, .EncryptData, .DecryptData, .CreateContainer, .ImportCertificate,
    .CreatePKCS10,
    .GenECCKeyPair, .GenRSAKeyPair, .ImportKeyPair]

theorem unprotected_of_mem {method : Method} (member : method ∈ protectedMethods) :
    method.permit.unprotected = false ∧ method.permit.grants = false := by
  cases method <;> first | exact ⟨rfl, rfl⟩ | simp [protectedMethods] at member

theorem backedBy_of_reached {log : List Entry} {conn : JsonRpcSession}
    (run : JsonRpcSession.Reached ctx ttl log conn) (chronological : Chronological log) {n : Nat}
    {text : String} {method : Method} {params : Params} {before back : List (Event Skf)}
    {key : AuthKey} {checked : Instant} (there : reached ctx text = some (method, params))
    (isProtected : method ∈ protectedMethods)
    (found : (transcript log).request n = some
      (text, before ++ ⟨.session (.authorize key), (checked, .ok ())⟩ :: back)) :
    ∃ m granted, BackedBy ctx ttl (transcript log) n m before key granted checked := by
  obtain ⟨line, conversation, ⟨q, ran⟩, possible⟩ := request_of_reached run found
  obtain ⟨held, live, ahead⟩ := live_of_check possible
  have allowed := Conduct.allows_of_reaches there ran
  rcases held_follow ((Monitor.possible_append _ _ _ _).mp possible).1 live with
    ⟨granted, ⟨front, rest, rfl, -⟩, -⟩ | ⟨there, spared⟩
  · rw [List.append_assoc, List.cons_append] at allowed
    have grants := (Conduct.verified_before allowed).1
    rw [(unprotected_of_mem isProtected).2] at grants
    -- A protected method grants nothing itself, so that its grant is older than the request.
    cases grants
  · obtain ⟨granted, m, ⟨⟨text', trace', response, turn, grants⟩, since⟩, deadline⟩ :=
      held_conversation conversation there
    obtain ⟨earlier, stands⟩ :
        m < n ∧ (transcript log).ended[m]? = some (.answered text' trace' response) := by
      rw [List.getElem?_take] at turn
      split at turn
      · next less => exact ⟨less, turn⟩
      · cases turn
    have taken {k : Nat} {turn : Turn} (less : k < n)
        (stood : (transcript log).ended[k]? = some turn) :
        ((transcript log).ended.take n)[k]? = some turn := by
      rw [List.getElem?_take_of_lt less]
      exact stood
    obtain ⟨front, rest, rfl, kept⟩ := grants
    obtain ⟨_, _, exchange⟩ := exchange_of_turn conversation turn
    obtain ⟨⟨params', checkPIN⟩, verifies⟩ := checkPIN_of_grant exchange
    refine ⟨m, granted, earlier,
      ⟨text', params', front, rest, response, stands, checkPIN, verifies, kept⟩, ⟨?_, ?_⟩,
      fun k turn from_m less stood => ?_, fun k turn after less stood =>
        (since k turn after (taken less stood)).2, spared⟩
    · exact (timed_reached run chronological).ordered m n _ _ _ _ _ earlier stands found granted
        (by simp [readings, Op.reading]) checked (by simp [readings, Op.reading])
    · exact deadline ▸ ahead
    -- The granting request was answered; those behind it are spared by the conversation.
    · rcases Nat.lt_or_eq_of_le from_m with after | rfl
      · exact (since k turn after (taken less stood)).1
      · rw [stands] at stood
        cases stood
        rfl

/-- Whatever a protected request works on is covered by a grant it checked, and behind that grant
stands an earlier `CheckPIN` of the same connection. -/
theorem protected_request_backed {log : List Record} {service : Service}
    (run : Run (Service.Step ctx ttl) (.new ttl) log service)
    (monotone : log.Pairwise fun a b => a.entry.now ≤ b.entry.now) (c n : Nat) {text : String}
    {method : Method} {params : Params} (there : reached ctx text = some (method, params))
    (isProtected : method ∈ protectedMethods) {front back : List (Event Skf)} {event : Event Skf}
    {subject : Subject}
    (found : (transcript (project c log)).request n = some (text, front ++ event :: back))
    (about : event.op.beyond = some subject) :
    ∃ key checked before between m granted, subject.CoveredBy key ∧
      front = before ++ ⟨.session (.authorize key), (checked, .ok ())⟩ :: between ∧
        BackedBy ctx ttl (transcript (project c log)) n m before key granted checked := by
  have reached := reached_project run c
  have chronological : Chronological (project c log) := by
    rw [Chronological, project, List.pairwise_map]
    exact monotone.filter _
  obtain ⟨line, -, ⟨q, ran⟩, -⟩ := request_of_reached reached found
  have allowed := Conduct.allows_of_reaches there ran
  obtain ⟨key, checked, covered, member⟩ :=
    Conduct.authorized_before (unprotected_of_mem isProtected).1 allowed about
  obtain ⟨before, between, rfl⟩ := List.append_of_mem member
  rw [List.append_assoc, List.cons_append] at found
  obtain ⟨m, granted, backed⟩ := backedBy_of_reached reached chronological there isProtected found
  exact ⟨key, checked, before, between, m, granted, covered, rfl, backed⟩

end soundness

section overtaken

def Happening.resets : Happening → Bool
  | .expired | .failed _ => true
  | _ => false

def Happening.isGrant : Happening → Bool
  | .performed _ ⟨.session (.grant _), _⟩ => true
  | _ => false

def Happening.isCheck : Happening → Bool
  | .performed _ ⟨.session (.authorize _), _⟩ => true
  | _ => false

/-- From the recording of some grant for `key` up to the check at `checked`, the log shows no reset. -/
def UnbrokenToCheck (log : List Entry) (key : AuthKey) (checked : Instant) : Prop :=
  ∃ i j m n granted start finish, i < j ∧
    log[i]? = some ⟨start, .performed m ⟨.session (.grant key), (granted, true)⟩⟩ ∧
    log[j]? = some ⟨finish, .performed n ⟨.session (.authorize key), (checked, .ok ())⟩⟩ ∧
    ∀ (k : Nat) (entry : Entry), i < k → k < j → log[k]? = some entry →
      entry.happening.resets = false

def pinText : String :=
  "\x7b\"method\":\"CheckPIN\",\"params\":[\"GM3000/K1/A\",\"1234\"],\"id\":1\x7d"

def signText : String :=
  "\x7b\"method\":\"SignData\",\"params\":[\"GM3000/K1/A/C\",\"\"],\"id\":2\x7d"

def signContext : SkfContext :=
  .serving [(pinText,
    ⟨"CheckPIN", [.string "GM3000/K1/A", .string "1234"], some (.number (.unsigned 1)), none⟩),
    (signText,
      ⟨"SignData", [.string "GM3000/K1/A/C", .string ""], some (.number (.unsigned 2)), none⟩)]

def halfHour : Duration := 1800000000000

def signApplication : Application := ⟨⟨⟨"GM3000", some 0⟩, "K1", 7⟩, "A", 8⟩

def pinTrace : List (Event Skf) :=
  [⟨.provider (.openDevice ⟨"GM3000", some 0⟩ "K1"), some (.ok 7)⟩,
    ⟨.provider (.openApplication signApplication.device "A"), some (.ok 8)⟩,
    ⟨.provider (.verifyPin signApplication "1234"), some (.ok ⟨true, 0, SAR_OK⟩)⟩,
    ⟨.session (.grant ⟨"GM3000", "K1", "A"⟩), (5, true)⟩,
    ⟨.provider (.close (.application signApplication)), ()⟩,
    ⟨.provider (.close (.device signApplication.device)), ()⟩]

/-- What `SignData` did before its request timed out. -/
def openedTrace : List (Event Skf) :=
  [⟨.provider (.openDevice ⟨"GM3000", some 0⟩ "K1"), some (.ok 7)⟩,
    ⟨.provider (.openApplication signApplication.device "A"), some (.ok 8)⟩]

def lateTrace (now : Instant) : List (Event Skf) :=
  [⟨.session (.authorize ⟨"GM3000", "K1", "A"⟩), (now, .ok ())⟩,
    ⟨.provider (.openContainer signApplication "C"), some (.ok 9)⟩]

def grantedLine : Line :=
  ⟨(tracked signContext.platform.lastInstant).follow (.new halfHour) pinTrace, .EN⟩

/-- `SignData` is taken up, stalls, times out after thirty seconds and goes on afterwards. -/
def overtakenLog : List Entry :=
  ⟨5, .received pinText⟩ :: (pinTrace.map fun event => ⟨5, .performed 0 event⟩) ++
    ⟨5, .completed (.ok (.bool true) (some (.number (.unsigned 1))))⟩ :: ⟨6, .received signText⟩ ::
      (openedTrace.map fun event => ⟨6, .performed 1 event⟩) ++
        ⟨30000000006, .expired⟩ :: ((lateTrace 30000000007).map fun event =>
          ⟨30000000007, .performed 1 event⟩)

theorem pin_ran : Program.Reaches (handleRequest signContext pinText .EN) pinTrace
    (.done (.ok (.bool true) (some (.number (.unsigned 1))), .EN)) :=
  .step _ (.step _ (.step _ (.step _ (.step _ (.step _ (.refl _))))))

theorem pin_possible : (tracked (2 ^ 63)).Possible (.new halfHour) pinTrace :=
  ⟨trivial, trivial, trivial, rfl, trivial, trivial, trivial⟩

theorem sign_opened : ∃ q, Program.Reaches (handleRequest signContext signText .EN) openedTrace q ∧
    ∃ r, Program.Reaches q (lateTrace 30000000007) r :=
  ⟨_, .step _ (.step _ (.refl _)), _, .step _ (.step _ (.refl _))⟩

theorem overtaken_pin : JsonRpcSession.Reached signContext halfHour
    (⟨5, .received pinText⟩ :: pinTrace.map fun event => ⟨5, .performed 0 event⟩)
    ⟨1, .task ⟨0, pinText, grantedLine.state,
      .done (.ok (.bool true) (some (.number (.unsigned 1))), .EN)⟩, []⟩ :=
  .cons (.receive pinText)
    (perform_all (fun task => ⟨1, .task task, []⟩) (fun _ _ _ performs => .perform performs)
    pin_ran pin_possible (by simp [pinTrace, Op.reading]))

theorem overtaken : ∃ conn, JsonRpcSession.Reached signContext halfHour overtakenLog conn := by
  obtain ⟨q, opened, r, late⟩ := sign_opened
  have sign : Run (JsonRpcSession.Step signContext halfHour) ⟨1, .session grantedLine, []⟩
      (⟨6, .received signText⟩ :: openedTrace.map fun event => ⟨6, .performed 1 event⟩)
      ⟨2, .task ⟨1, signText, grantedLine.state, q⟩, []⟩ :=
    .cons (.receive signText)
      (perform_all (fun task => ⟨2, .task task, []⟩) (fun _ _ _ performs => .perform performs)
      opened ⟨trivial, trivial, trivial⟩ (by simp [openedTrace, Op.reading]))
  have after : Run (JsonRpcSession.Step signContext halfHour)
      ⟨2, .session (.new halfHour), [⟨1, signText, grantedLine.state, q⟩]⟩
      ((lateTrace 30000000007).map fun event => ⟨30000000007, .performed 1 event⟩) _ :=
    perform_all (fun task => ⟨2, .session (.new halfHour), [task]⟩)
      (fun _ _ _ performs =>
        @JsonRpcSession.Step.late signContext halfHour 2 _ [] [] _ _ _ _ performs)
      late ⟨rfl, trivial, trivial⟩ (by simp [lateTrace, Op.reading])
  exact ⟨_, overtaken_pin.append (.cons (.complete rfl) sign) |>.append (.cons (.expire rfl) after)⟩

theorem request_overtaken : (transcript (project 0 (overtakenLog.map (⟨0, ·⟩)))).request 1 =
    some (signText,
      (openedTrace ++ [⟨.session (.authorize ⟨"GM3000", "K1", "A"⟩), (30000000007, .ok ())⟩]) ++
      ⟨.provider (.openContainer signApplication "C"), some (.ok 9)⟩ :: []) := by
  rw [project_alone]
  rfl

/-- Even so, the grant it found was recorded by the first request. -/
theorem protected_request_backed_overtaken :
    ∃ key checked before between m granted, signApplication.subject.CoveredBy key ∧
      openedTrace ++ [⟨.session (.authorize ⟨"GM3000", "K1", "A"⟩), (30000000007, .ok ())⟩] =
        before ++ ⟨.session (.authorize key), (checked, .ok ())⟩ :: between ∧
      BackedBy signContext halfHour (transcript (project 0 (overtakenLog.map (⟨0, ·⟩)))) 1 m before
        key granted
        checked := by
  obtain ⟨conn, run⟩ := overtaken
  have there : reached signContext signText =
      some (.SignData, ⟨[.string "GM3000/K1/A/C", .string ""],
    some (.number (.unsigned 2))⟩) := rfl
  exact protected_request_backed (run_alone 0 run) (by decide) 0 1 there
    (by decide) request_overtaken rfl

/-- The check comes after the timeout: by then the connection has an empty session, and the task
goes on with the old one. -/
theorem checked_after_timeout :
    (∃ service,
      Run (Service.Step signContext halfHour) (.new halfHour) (overtakenLog.map (⟨0, ·⟩)) service) ∧
      (overtakenLog.map (Record.mk 0 ·)).Pairwise (fun a b => a.entry.now ≤ b.entry.now) ∧
      (∃ params, reached signContext signText = some (.SignData, params)) ∧
      (∃ front event back, (transcript (project 0 (overtakenLog.map (⟨0, ·⟩)))).request 1 =
        some (signText, front ++ event :: back) ∧ event.op.beyond = some signApplication.subject) ∧
      ¬∃ key checked,
        signApplication.subject.CoveredBy key ∧ UnbrokenToCheck overtakenLog key checked := by
  refine ⟨?_, by decide, ⟨_, rfl⟩, ⟨_, _, _, request_overtaken, rfl⟩, ?_⟩
  · obtain ⟨conn, run⟩ := overtaken
    exact ⟨_, run_alone 0 run⟩
  · rintro ⟨key, checked, -, i, j, m, n, granted, start, finish, less, recorded, found, quiet⟩
    have grants : ∀ i < overtakenLog.length, (overtakenLog[i]?.any (·.happening.isGrant)) = true →
        i = 4 := by decide
    have checks : ∀ j < overtakenLog.length, (overtakenLog[j]?.any (·.happening.isCheck)) = true →
        j = 12 := by decide
    obtain rfl := grants i (List.getElem?_eq_some_iff.mp recorded).1 (by rw [recorded]; rfl)
    obtain rfl := checks j (List.getElem?_eq_some_iff.mp found).1 (by rw [found]; rfl)
    have reset := quiet 11 ⟨30000000006, .expired⟩ (by decide) (by decide) rfl
    cases reset

end overtaken

end SkfService
