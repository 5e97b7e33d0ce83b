import SkfService.Connection.JsonRpcSession
import SkfService.Server.ConnectionCap

/-! The dispatch tasks a server has running.

A request that times out leaves its task behind, and its client may send the next frame. -/

set_option autoImplicit false

namespace SkfService

open Interaction

variable {ctx : SkfContext} {ttl : Duration}

/-- `JsonRpcSessionFactory`. A frame is answered when its request completes, times out or fails. -/
def JsonRpcSession.factory (ctx : SkfContext) (ttl : Duration) :
    SessionFactory JsonRpcSession Entry Entry where
  create := .new ttl
  handle before text after := ∃ now, JsonRpcSession.Step ctx ttl before ⟨now, .received text⟩ after
  work before entry after := JsonRpcSession.Step ctx ttl before entry after ∧
    ∃ request event, entry.happening = .performed request event
  answered before entry after := JsonRpcSession.Step ctx ttl before entry after ∧
    ((∃ response, entry.happening = .completed response) ∨ entry.happening = .expired ∨
      ∃ why, entry.happening = .failed why)

def Task.running (task : Task) : Bool :=
  match task.rest with
  | .call _ _ => true
  | _ => false

namespace JsonRpcSession

def tasks (conn : JsonRpcSession) : List Task :=
  match conn.holder with
  | .session _ => conn.detached
  | .task task => task :: conn.detached

def running (conn : JsonRpcSession) : Nat := conn.tasks.countP Task.running

end JsonRpcSession

def Stage.running (stage : Stage JsonRpcSession Entry) : Nat :=
  (stage.session?.map JsonRpcSession.running).getD 0

namespace Server

def abandonedRunning (server : Server JsonRpcSession Entry) : Nat :=
  (server.abandoned.map JsonRpcSession.running).sum

/-- The dispatch tasks that are running, attached or detached. -/
def running (server : Server JsonRpcSession Entry) : Nat :=
  (server.clients.map fun client => client.stage.running).sum + server.abandonedRunning

/-- A client's next frame is taken up, and while connections are accepted a client's session is
dropped, only when none of the tasks it has left behind is running. -/
def Calm (server : Server JsonRpcSession Entry) : Occurrence JsonRpcSession Entry Entry → Prop
  | .client number (.frame _) =>
    ∀ client ∈ server.clients, client.number = number → client.stage.running = 0
  | .client _ (.dropped (.session session)) => server.accepting = true → session.running = 0
  | _ => True

end Server

def Happening.begun : Happening → Nat
  | .received _ => 1
  | _ => 0

theorem Task.Performs.asking {now : Instant} {task after : Task} {event : Event Skf}
    (performs : task.Performs ctx now event after) : task.running = true := by
  cases performs with
  | mk asks possible timely =>
    unfold Task.running
    rw [asks]

theorem JsonRpcSession.Step.running {before after : JsonRpcSession} {entry : Entry}
    (step : JsonRpcSession.Step ctx ttl before entry after) :
    after.running ≤ before.running + entry.happening.begun := by
  -- Only an event that asks for blocking work can add a running task, and never more than one.
  cases step with
  | receive text =>
    simp only [JsonRpcSession.running, tasks, List.countP_cons, Happening.begun]
    split <;> omega
  | perform performs =>
    simp only [JsonRpcSession.running, tasks, List.countP_cons, performs.asking, Happening.begun,
        ↓reduceIte]
    split <;> omega
  | @late n holder front back task after now event performs =>
    cases holder with
    | session line =>
      simp only [JsonRpcSession.running, tasks, List.countP_append, List.countP_cons,
        performs.asking, Happening.begun, ↓reduceIte]
      split <;> omega
    | task attached =>
      simp only [JsonRpcSession.running, tasks, List.countP_append, List.countP_cons,
        performs.asking, Happening.begun, ↓reduceIte]
      repeat' split
      all_goals omega
  | complete done =>
    simp only [JsonRpcSession.running, tasks, List.countP_cons, Happening.begun]
    omega
  | expire limited => simp [JsonRpcSession.running, tasks, Happening.begun]
  | fail unwound =>
    simp only [JsonRpcSession.running, tasks, List.countP_cons, Happening.begun]
    omega

/-- One for a client task that has a session or will get one. -/
def Stage.pending : Stage JsonRpcSession Entry → Nat
  | .ending (.session _ :: _) => 1
  | .ending _ => 0
  | _ => 1

def Incident.leaves : Incident JsonRpcSession Entry Entry → Nat
  | .dropped (.session session) => session.running
  | _ => 0

theorem running_setSession {stage : Stage JsonRpcSession Entry} {before after : JsonRpcSession}
    (owned : stage.session? = some before) (owns : Owned stage.locals)
    (fewer : after.running ≤ before.running) :
    (stage.setSession after).running ≤ stage.running ∧
      (stage.setSession after).pending = stage.pending := by
  cases stage with
  | spawned => cases owned
  | upgrading => cases owned
  | receiving session =>
    cases owned
    exact ⟨fewer, rfl⟩
  | handling session =>
    cases owned
    exact ⟨fewer, rfl⟩
  | sending session reply =>
    cases owned
    exact ⟨fewer, rfl⟩
  | ending locals =>
    cases owns with
    | permit => cases owned
    | socket => cases owned
    | session session =>
      cases owned
      exact ⟨fewer, rfl⟩

/-- A calm step of a client task leaves at most one task running, in its session or behind it. -/
theorem Stage.Step.pending {before after : Stage JsonRpcSession Entry}
    {incident : Incident JsonRpcSession Entry Entry}
    (step : Stage.Step (JsonRpcSession.factory ctx ttl) before incident after)
    (owns : Owned before.locals) (few : before.running ≤ before.pending)
    (calm : ∀ text, incident = .frame text → before.running = 0) :
    after.running ≤ after.pending ∧ after.pending + incident.leaves ≤ before.pending := by
  cases step with
  | start => exact ⟨Nat.zero_le _, Nat.le_refl _⟩
  | upgrade => exact ⟨Nat.zero_le _, Nat.le_refl _⟩
  | failUpgrade => exact ⟨Nat.le_refl _, Nat.zero_le _⟩
  | @take before after text handled =>
    obtain ⟨now, step⟩ := handled
    refine ⟨?_, Nat.le_refl _⟩
    have more := step.running
    have none : before.running = 0 := calm text rfl
    -- A calm client has no task when its frame is taken up, so that it has one afterwards.
    rw [none] at more
    exact more
  | ignore => exact ⟨few, Nat.le_refl _⟩
  | work owned worked =>
    obtain ⟨step, request, event, performed⟩ := worked
    have fewer := step.running
    rw [performed] at fewer
    obtain ⟨running, pending⟩ := running_setSession owned owns fewer
    rw [pending]
    exact ⟨Nat.le_trans running few, Nat.le_refl _⟩
  | @answer before after entry answered =>
    obtain ⟨step, ends⟩ := answered
    have fewer := step.running
    have quiet : entry.happening.begun = 0 := by
      rcases ends with ⟨response, same⟩ | same | ⟨why, same⟩ <;> rw [same] <;> rfl
    rw [quiet] at fewer
    exact ⟨Nat.le_trans fewer few, Nat.le_refl _⟩
  | send => exact ⟨few, Nat.le_refl _⟩
  | failSend => exact ⟨few, Nat.le_refl _⟩
  | close => exact ⟨few, Nat.le_refl _⟩
  | failReceive => exact ⟨few, Nat.le_refl _⟩
  | tear unended =>
    cases before with
    | spawned => exact ⟨Nat.le_refl _, Nat.zero_le _⟩
    | upgrading => exact ⟨Nat.le_refl _, Nat.zero_le _⟩
    | receiving session => exact ⟨few, Nat.le_refl _⟩
    | handling session => exact ⟨few, Nat.le_refl _⟩
    | sending session reply => exact ⟨few, Nat.le_refl _⟩
    | ending locals => exact absurd rfl (unended locals)
  | drop =>
    cases owns with
    | permit => exact ⟨Nat.zero_le _, Nat.zero_le _⟩
    | socket => exact ⟨Nat.zero_le _, Nat.zero_le _⟩
    | session session =>
      -- The tasks of a dropped session leave with it.
      refine ⟨Nat.zero_le _, ?_⟩
      simp only [Stage.pending, Incident.leaves, Nat.zero_add]
      exact few

/-- At most one task runs for each client that may still have a session, and what was left behind
takes the place of a client. -/
structure Bounded (server : Server JsonRpcSession Entry) : Prop where
  each : ∀ client ∈ server.clients, client.stage.running ≤ client.stage.pending
  total : (server.clients.map fun client => client.stage.pending).sum + server.abandonedRunning ≤
    MAX_CONNECTIONS
  idle : server.accepting = true → server.abandonedRunning = 0

theorem pending_le_one (stage : Stage JsonRpcSession Entry) : stage.pending ≤ 1 := by
  unfold Stage.pending
  split <;> omega

theorem sum_pending_le (clients : List (ClientTask JsonRpcSession Entry)) :
    (clients.map fun client => client.stage.pending).sum ≤ clients.length := by
  induction clients with
  | nil => exact Nat.le_refl _
  | cons client rest ih =>
    have one := pending_le_one client.stage
    simp only [List.map_cons, List.sum_cons, List.length_cons]
    omega

theorem sum_running_le {clients : List (ClientTask JsonRpcSession Entry)}
    (each : ∀ client ∈ clients, client.stage.running ≤ client.stage.pending) :
    (clients.map fun client => client.stage.running).sum ≤
      (clients.map fun client => client.stage.pending).sum := by
  induction clients with
  | nil => exact Nat.le_refl _
  | cons client rest ih =>
    have first := each client List.mem_cons_self
    have others := ih fun other member => each other (List.mem_cons_of_mem _ member)
    simp only [List.map_cons, List.sum_cons]
    omega

theorem Bounded.running {server : Server JsonRpcSession Entry} (bounded : Bounded server) :
    server.running ≤ MAX_CONNECTIONS := by
  have clients := sum_running_le bounded.each
  have total := bounded.total
  unfold Server.running
  omega

theorem bounded_new : Bounded .new := ⟨by simp [Server.new], Nat.zero_le _, fun _ => rfl⟩

theorem sum_remaining (number : Nat) (stage : Stage JsonRpcSession Entry) :
    ((Server.remaining number stage).map fun client => client.stage.pending).sum =
      stage.pending := by
  unfold Server.remaining
  split <;> simp [Stage.pending]

theorem abandonedRunning_after (abandoned : List JsonRpcSession)
    (incident : Incident JsonRpcSession Entry Entry) :
    ((Server.abandonedAfter abandoned incident).map JsonRpcSession.running).sum =
      incident.leaves + (abandoned.map JsonRpcSession.running).sum := by
  unfold Server.abandonedAfter Incident.leaves
  split <;> simp

theorem Bounded.client {accepting : Bool} {accepted number : Nat} {permits : Semaphore}
    {front back : List (ClientTask JsonRpcSession Entry)} {abandoned : List JsonRpcSession}
    {before after : Stage JsonRpcSession Entry} {incident : Incident JsonRpcSession Entry Entry}
    (bounded : Bounded ⟨accepting, accepted, permits, front ++ ⟨number, before⟩ :: back, abandoned⟩)
    (step : Stage.Step (JsonRpcSession.factory ctx ttl) before incident after)
    (owns : Owned before.locals)
    (calm : Server.Calm ⟨accepting, accepted, permits, front ++ ⟨number, before⟩ :: back, abandoned⟩
      (.client number incident)) :
    Bounded ⟨accepting, accepted, Server.permitsAfter permits incident,
      front ++ Server.remaining number after ++ back,
        Server.abandonedAfter abandoned incident⟩ := by
  have few : before.running ≤ before.pending := bounded.each ⟨number, before⟩ (by simp)
  have taken : ∀ text, incident = .frame text → before.running = 0 := by
    intro text same
    subst same
    exact calm ⟨number, before⟩ (by simp) rfl
  obtain ⟨fewer, less⟩ := step.pending owns few taken
  have total := bounded.total
  have left := abandonedRunning_after abandoned incident
  refine ⟨?_, ?_, ?_⟩
  · intro other member
    rcases List.mem_append.mp member with earlier | last
    · rcases List.mem_append.mp earlier with first | here
      · exact bounded.each other (List.mem_append_left _ first)
      -- A client whose task has ended is no longer among those that remain.
      · unfold Server.remaining at here
        split at here
        · cases here
        · rw [List.mem_singleton.mp here]
          exact fewer
    · exact bounded.each other (List.mem_append_right _ (List.mem_cons_of_mem _ last))
  · have same := sum_remaining number after
    simp only [Server.abandonedRunning, List.map_append, List.map_cons, List.sum_append,
      List.sum_cons] at total left ⊢
    omega
  · intro open'
    have none := bounded.idle open'
    -- While connections are accepted a calm server drops no session with tasks.
    have unleft : incident.leaves = 0 := by
      cases incident with
      | dropped owned =>
        cases owned with
        | session session => exact calm open'
        | socket => rfl
        | permit => rfl
      | _ => rfl
    simp only [Server.abandonedRunning] at none ⊢
    omega

theorem Bounded.leftWork {accepting : Bool} {accepted : Nat} {permits : Semaphore}
    {clients : List (ClientTask JsonRpcSession Entry)} {front back : List JsonRpcSession}
    {before after : JsonRpcSession}
    (bounded : Bounded ⟨accepting, accepted, permits, clients, front ++ before :: back⟩)
    (fewer : after.running ≤ before.running) :
    Bounded ⟨accepting, accepted, permits, clients, front ++ after :: back⟩ := by
  have less : ((front ++ after :: back).map JsonRpcSession.running).sum ≤
      ((front ++ before :: back).map JsonRpcSession.running).sum := by
    simp only [List.map_append, List.map_cons, List.sum_append, List.sum_cons]
    omega
  refine ⟨bounded.each, ?_, ?_⟩
  · have total := bounded.total
    simp only [Server.abandonedRunning] at total ⊢
    omega
  · intro open'
    have none := bounded.idle open'
    simp only [Server.abandonedRunning] at none ⊢
    omega

theorem Bounded.accept {server : Server JsonRpcSession Entry} (bounded : Bounded server)
    (balanced : server.permits.Balanced MAX_CONNECTIONS server.clients.length)
    (open' : server.accepting = true) :
    Bounded (server.admitClient (W := Entry)).2 := by
  unfold Server.admitClient
  cases taken : server.permits.tryAcquire with
  | none => exact ⟨bounded.each, bounded.total, bounded.idle⟩
  | some permits =>
    refine ⟨?_, ?_, bounded.idle⟩
    · intro client member
      rcases List.mem_append.mp member with earlier | last
      · exact bounded.each client earlier
      · rw [List.mem_singleton.mp last]
        exact Nat.zero_le _
    · have room := balanced.room taken
      have none := bounded.idle open'
      have sum := sum_pending_le server.clients
      have one := pending_le_one .spawned
      simp only [Server.abandonedRunning, List.map_append, List.map_cons, List.map_nil,
        List.sum_append, List.sum_cons, List.sum_nil] at none ⊢
      omega

theorem Bounded.step {server server' : Server JsonRpcSession Entry}
    {occurrence : Occurrence JsonRpcSession Entry Entry}
    {log : List (Occurrence JsonRpcSession Entry Entry)} (bounded : Bounded server)
    (accounted : Accounted log server)
    (step : Server.Step (JsonRpcSession.factory ctx ttl) server occurrence server')
    (calm : server.Calm occurrence) : Bounded server' := by
  cases step with
  | accept accepting => exact bounded.accept accounted.balanced accepting
  | stop accepting => exact ⟨bounded.each, bounded.total, fun open' => by cases open'⟩
  | @client accepting accepted number permits front back abandoned before after incident step =>
    exact bounded.client step (accounted.owns ⟨number, before⟩ (by simp)) calm
  | leftWork worked =>
    obtain ⟨step, request, event, performed⟩ := worked
    have fewer := step.running
    rw [performed] at fewer
    exact bounded.leftWork fewer

abbrev Server.ReachedCalmly (ctx : SkfContext) (ttl : Duration) :
    List (Occurrence JsonRpcSession Entry Entry) → Server JsonRpcSession Entry → Prop :=
  Run (fun before occurrence after =>
    Server.Step (JsonRpcSession.factory ctx ttl) before occurrence after ∧
      before.Calm occurrence) .new

/-- While clients take up frames and leave only with none of their tasks running, no more tasks run
than clients are allowed. -/
theorem blocking_work_bounded {log : List (Occurrence JsonRpcSession Entry Entry)}
    {server : Server JsonRpcSession Entry} (run : Server.ReachedCalmly ctx ttl log server) :
    server.running ≤ MAX_CONNECTIONS := by
  have both : Accounted log server ∧ Bounded server := by
    refine Run.invariant (fun log server => Accounted log server ∧ Bounded server) run
      ⟨accounted_new, bounded_new⟩ ?_
    intro log occurrence before after inv step
    exact ⟨inv.1.step step.1, inv.2.step inv.1 step.1 step.2⟩
  exact both.2.running

section stalled

def stalledText : String := "\x7b\"method\":\"ConnectDev\",\"params\":[\"K1\"],\"id\":1\x7d"

def stalledContext : SkfContext :=
  .serving [(stalledText, ⟨"ConnectDev", [.string "K1"], some (.number (.unsigned 1)), none⟩)]

def stalledTasks : Nat → List Task
  | 0 => []
  | n + 1 =>
    ⟨n, stalledText, .new 100, handleRequest stalledContext stalledText .EN⟩ :: stalledTasks n

def stalledServer (n : Nat) : Server JsonRpcSession Entry :=
  ⟨true, 1, ⟨63⟩, [⟨0, .receiving ⟨n, .session (.new 100), stalledTasks n⟩⟩], []⟩

section relieved

/-! One request is answered; the next one times out, and its client sends a third frame when the
token has answered. -/

def connectTask (number : Nat) (state : SessionState) : Task :=
  ⟨number, stalledText, state, handleRequest stalledContext stalledText .EN⟩

def openedEvent : Event Skf := ⟨.provider (.openDevice ⟨"GM3000", some 0⟩ "K1"), some (.ok 7)⟩

def issuedEvent : Event Skf := ⟨.session (.issueDevice ⟨⟨"GM3000", some 0⟩, "K1", 7⟩), "dev-1"⟩

/-- The token is gone: the call of the request that timed out comes back at last. -/
def lostEvent : Event Skf :=
  ⟨.provider (.openDevice ⟨"GM3000", some 0⟩ "K1"),
    some (.error (.Native 0x0A000023 "SKF_ConnectDev"))⟩

def relievedState : SessionState := (tracked (2 ^ 63)).follow (.new 100) [openedEvent, issuedEvent]

def relievedResponse : RpcResponse := .ok (.string "dev-1") (some (.number (.unsigned 1)))

def relievedLog : List (Occurrence JsonRpcSession Entry Entry) :=
  [.admitted 0, .client 0 .started, .client 0 .upgraded, .client 0 (.frame stalledText),
    .client 0 (.worked ⟨1, .performed 0 openedEvent⟩),
    .client 0 (.worked ⟨1, .performed 0 issuedEvent⟩),
    .client 0 (.answered ⟨1, .completed relievedResponse⟩), .client 0 .sent,
    .client 0 (.frame stalledText),
    .client 0 (.answered ⟨40, .expired⟩), .client 0 .sent,
    .client 0 (.worked ⟨50, .performed 1 lostEvent⟩),
    .client 0 (.frame stalledText)]

/-- The third frame is taken up; of the task left behind nothing runs any more. -/
def relievedSession : JsonRpcSession :=
  ⟨3, .task (connectTask 2 (.new 100)), [{ connectTask 1 relievedState with
    rest := .done (.err 0x0A000023 "ConnectDev failed" (some (.number (.unsigned 1))), .EN) }]⟩

theorem calm_frame {accepted : Nat} {permits : Semaphore} {stage : Stage JsonRpcSession Entry}
    {text : String} (idle : stage.running = 0) :
    (Server.mk true accepted permits [⟨0, stage⟩] []).Calm (.client 0 (.frame text)) := by
  intro client member _
  rw [List.mem_singleton.mp member]
  exact idle

theorem relieved : Server.ReachedCalmly stalledContext 100 relievedLog
    ⟨true, 1, ⟨63⟩, [⟨0, .handling relievedSession⟩], []⟩ := by
  have opened : (connectTask 0 (.new 100)).Performs stalledContext 1 openedEvent _ :=
    .mk rfl trivial (by simp [Op.reading])
  have first : HandleTable.new.mint .Device = "dev-1" := by decide
  refine .cons ⟨.accept rfl, trivial⟩
    (.cons ⟨.only .start, trivial⟩ (.cons ⟨.only .upgrade, trivial⟩ ?_))
  refine .cons ⟨.only (.take ⟨1, .receive stalledText⟩), calm_frame rfl⟩ ?_
  refine .cons ⟨.only (.work rfl ⟨.perform opened, _, _, rfl⟩), trivial⟩ ?_
  refine .cons ⟨.only (.work rfl ⟨.perform (.mk rfl first (by simp [Op.reading])), _, _, rfl⟩),
    trivial⟩ ?_
  refine .cons ⟨.only (.answer ⟨.complete rfl, .inl ⟨_, rfl⟩⟩), trivial⟩
    (.cons ⟨.only .send, trivial⟩ ?_)
  refine .cons ⟨.only (.take ⟨10, .receive stalledText⟩), calm_frame rfl⟩ ?_
  refine .cons ⟨.only (.answer ⟨.expire rfl, .inr (.inl rfl)⟩), trivial⟩
    (.cons ⟨.only .send, trivial⟩ ?_)
  have lost : (connectTask 1 relievedState).Performs stalledContext 50 lostEvent _ :=
    .mk rfl trivial (by simp [Op.reading])
  refine .cons ⟨.only (.work rfl ⟨@JsonRpcSession.Step.late _ _ _ _ [] [] _ _ _ _ lost, _, _, rfl⟩),
    trivial⟩ ?_
  exact .cons ⟨.only (.take ⟨60, .receive stalledText⟩), calm_frame rfl⟩ .start

theorem blocking_work_bounded_relieved :
    (Server.mk true 1 ⟨63⟩ [⟨0, .handling relievedSession⟩] [] :
      Server JsonRpcSession Entry).running = 1 ∧
      (Server.mk true 1 ⟨63⟩ [⟨0, .handling relievedSession⟩] [] :
        Server JsonRpcSession Entry).running ≤
        MAX_CONNECTIONS :=
  ⟨rfl, blocking_work_bounded relieved⟩

end relieved

theorem stalled_running (n : Nat) : (stalledServer n).running = n := by
  have tasks : (stalledTasks n).countP Task.running = n := by
    induction n with
    | zero => rfl
    | succ n ih =>
      have running : Task.running ⟨n, stalledText, .new 100,
          handleRequest stalledContext stalledText .EN⟩ = true := rfl
      rw [stalledTasks, List.countP_cons_of_pos running, ih]
  exact tasks

theorem stalled_reached (n : Nat) :
    ∃ log, Server.Reached (JsonRpcSession.factory stalledContext 100) log (stalledServer n) := by
  induction n with
  | zero => exact ⟨_, .cons (.accept rfl) (.cons (.only .start) (.cons (.only .upgrade) .start))⟩
  | succ n ih =>
    obtain ⟨log, run⟩ := ih
    have taken : (JsonRpcSession.factory stalledContext 100).handle
        ⟨n, .session (.new 100), stalledTasks n⟩ stalledText
        ⟨n + 1, .task ⟨n, stalledText, .new 100, handleRequest stalledContext stalledText .EN⟩,
          stalledTasks n⟩ :=
      ⟨0, .receive stalledText⟩
    have expired : (JsonRpcSession.factory stalledContext 100).answered
        ⟨n + 1, .task ⟨n, stalledText, .new 100, handleRequest stalledContext stalledText .EN⟩,
          stalledTasks n⟩
        ⟨0, .expired⟩ ⟨n + 1, .session (.new 100), stalledTasks (n + 1)⟩ :=
      ⟨.expire rfl, .inr (.inl rfl)⟩
    exact ⟨_, ((run.next (.only (.take taken))).next (.only (.answer expired))).next (.only .send)⟩

/-- One client can have more tasks running than clients are allowed. -/
theorem stalled_client_unbounded :
    ¬∀ (ctx : SkfContext) (ttl : Duration) (log : List (Occurrence JsonRpcSession Entry Entry))
      (server : Server JsonRpcSession Entry),
        Server.Reached (JsonRpcSession.factory ctx ttl) log server →
        server.running ≤ MAX_CONNECTIONS := by
  intro bounded
  obtain ⟨log, run⟩ := stalled_reached (MAX_CONNECTIONS + 1)
  have few := bounded _ _ _ _ run
  rw [stalled_running] at few
  exact absurd few (by decide)

end stalled

end SkfService
