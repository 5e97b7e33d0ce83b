import SkfService.Connection.Conversation

/-! One connection interaction by interaction.

A request takes the session out of its connection and runs as a task. When the task ends, the
session is put back. When the request times out first, the connection gets an empty session, and the
task goes on with the one it took. -/

set_option autoImplicit false

namespace SkfService

open Interaction

/-- The blocking task of one request, on the session it took. -/
structure Task where
  number : Nat
  text : String
  state : SessionState
  rest : Program Skf Panic (RpcResponse × Language)

/-- A connection holds its session, or waits for the task that took it. -/
inductive Holder
  | session (line : Line)
  | task (task : Task)

/-- `detached` are the tasks of requests that timed out. -/
structure JsonRpcSession where
  received : Nat
  holder : Holder
  detached : List Task

def JsonRpcSession.new (ttl : Duration) : JsonRpcSession := ⟨0, .session (.new ttl), []⟩

/-- Requests are numbered in the order they are received. -/
inductive Happening
  | received (text : String)
  | performed (request : Nat) (event : Event Skf)
  | completed (response : RpcResponse)
  | expired
  | failed (why : Panic)

structure Entry where
  now : Instant
  happening : Happening

def Op.reading : (op : Op) → op.Reply → Option Instant
  | .session (.authorize _), (now, _) => some now
  | .session (.grant _), (now, _) => some now
  | _, _ => none

inductive Task.Performs (ctx : SkfContext) (now : Instant) (task : Task) : Event Skf → Task → Prop
  | mk {op : Op} {next : op.Reply → Program Skf Panic (RpcResponse × Language)} {reply : op.Reply}
      (asks : task.rest = .call op next)
      (possible : (tracked ctx.platform.lastInstant).possible task.state op reply)
      (timely : ∀ reading ∈ op.reading reply, reading = now) :
      Task.Performs ctx now task ⟨op, reply⟩
        { task with
          state := (tracked ctx.platform.lastInstant).advance task.state op reply
          rest := next reply }

namespace JsonRpcSession

/-- `JsonRpcSession::handle`. A request is taken up only when the one before it has been answered. -/
inductive Step (ctx : SkfContext) (ttl : Duration) : JsonRpcSession → Entry → JsonRpcSession → Prop
  | receive {n : Nat} {line : Line} {detached : List Task} {now : Instant} (text : String) :
      Step ctx ttl ⟨n, .session line, detached⟩ ⟨now, .received text⟩
        ⟨n + 1, .task ⟨n, text, line.state, handleRequest ctx text line.lang⟩, detached⟩
  | perform {n : Nat} {task after : Task} {detached : List Task} {now : Instant} {event : Event Skf}
      (performs : task.Performs ctx now event after) :
      Step ctx ttl ⟨n, .task task, detached⟩ ⟨now, .performed task.number event⟩
        ⟨n, .task after, detached⟩
  -- A task whose request timed out goes on beside what the connection does next.
  | late {n : Nat} {holder : Holder} {front back : List Task} {task after : Task} {now : Instant}
      {event : Event Skf} (performs : task.Performs ctx now event after) :
      Step ctx ttl ⟨n, holder, front ++ task :: back⟩ ⟨now, .performed task.number event⟩
        ⟨n, holder, front ++ after :: back⟩
  | complete {n : Nat} {task : Task} {detached : List Task} {now : Instant} {response : RpcResponse}
      {lang : Language} (done : task.rest = .done (response, lang)) :
      Step ctx ttl ⟨n, .task task, detached⟩ ⟨now, .completed response⟩
        ⟨n, .session ⟨task.state, lang⟩, detached⟩
  -- The client is answered, and the connection goes on with a session that knows nothing.
  | expire {n : Nat} {task : Task} {detached : List Task} {now : Instant}
      (limited : exempt ctx task.text = false) :
      Step ctx ttl ⟨n, .task task, detached⟩ ⟨now, .expired⟩
        ⟨n, .session (.new ttl), task :: detached⟩
  -- The session is released with the task that unwound.
  | fail {n : Nat} {task : Task} {detached : List Task} {now : Instant} {why : Panic}
      (unwound : task.rest = .stop why) :
      Step ctx ttl ⟨n, .task task, detached⟩ ⟨now, .failed why⟩ ⟨n, .session (.new ttl), detached⟩

end JsonRpcSession

/-- What a log says request by request: the turns that ended and the request that has not. -/
structure Transcript where
  ended : List Turn
  running : Option (String × List (Event Skf))

def Turn.extend (event : Event Skf) : Turn → Turn
  | .answered text trace response => .answered text (trace ++ [event]) response
  | .timedOut text trace => .timedOut text (trace ++ [event])
  | .failed text trace why => .failed text (trace ++ [event]) why

namespace Transcript

def finish (t : Transcript) (turn : String → List (Event Skf) → Turn) : Transcript :=
  match t.running with
  | some (text, trace) => ⟨t.ended ++ [turn text trace], none⟩
  | none => t

def note (t : Transcript) : Happening → Transcript
  | .received text => { t with running := some (text, []) }
  | .performed request event =>
    if request < t.ended.length then { t with ended := t.ended.modify request (Turn.extend event) }
    else { t with running := t.running.map fun (text, trace) => (text, trace ++ [event]) }
  | .completed response => t.finish fun text trace => .answered text trace response
  | .expired => t.finish .timedOut
  | .failed why => t.finish fun text trace => .failed text trace why

def request (t : Transcript) (n : Nat) : Option (String × List (Event Skf)) :=
  if n = t.ended.length then t.running else t.ended[n]?.map fun turn => (turn.text, turn.trace)

section note

variable {t : Transcript} {text : String} {trace : List (Event Skf)}
  {turn : String → List (Event Skf) → Turn} {k : Nat} {event : Event Skf}

theorem finish_running (current : t.running = some (text, trace)) :
    t.finish turn = ⟨t.ended ++ [turn text trace], none⟩ := by
  unfold finish
  rw [current]

theorem note_late (late : k < t.ended.length) :
    t.note (.performed k event) = { t with ended := t.ended.modify k (Turn.extend event) } :=
  if_pos late

theorem note_running (last : k = t.ended.length) :
    t.note (.performed k event) =
      { t with running := t.running.map fun (text, trace) => (text, trace ++ [event]) } :=
  if_neg (by omega)

theorem request_received (n : Nat) :
    (t.note (.received text)).request n = if n =
      t.ended.length then some (text, []) else t.request n := by
  have noted : t.note (.received text) = { t with running := some (text, []) } := rfl
  rw [noted, request, request]
  split <;> rfl

/-- An interaction adds to the trace of its own request. -/
theorem request_performed (known : k ≤ t.ended.length) (n : Nat) :
    (t.note (.performed k event)).request n =
      if n = k then (t.request n).map fun (text, trace) => (text, trace ++ [event])
        else t.request n := by
  rcases Nat.lt_or_eq_of_le known with late | last
  · rw [note_late late, request, request, List.length_modify]
    by_cases current : n = t.ended.length
    · rw [if_pos current, if_pos current, if_neg (by omega)]
    · rw [if_neg current, if_neg current, List.getElem?_modify]
      by_cases same : n = k
      · subst same
        rw [if_pos rfl]
        cases t.ended[n]? with
        | none => simp
        | some turn => cases turn <;> simp [Turn.extend, Turn.text, Turn.trace]
      · rw [if_neg same]
        cases t.ended[n]? with
        | none => rfl
        | some turn => simp [Ne.symm same]
  · rw [note_running last, request, request]
    by_cases current : n = t.ended.length
    · rw [if_pos current, if_pos current, if_pos (current.trans last.symm)]
    · rw [if_neg current, if_neg current, if_neg (by omega)]

theorem request_finish (current : t.running = some (text, trace))
    (same : (turn text trace).text = text) (told : (turn text trace).trace = trace) (n : Nat) :
    (t.finish turn).request n = t.request n := by
  simp only [finish_running current, request, List.length_append, List.length_singleton]
  rcases Nat.lt_trichotomy n t.ended.length with inside | rfl | beyond
  · rw [if_neg (by omega), if_neg (by omega), List.getElem?_append_left inside]
  · rw [if_neg (by omega), if_pos rfl, List.getElem?_concat_length, current, Option.map_some, same,
      told]
  · rw [if_neg (Nat.ne_of_gt beyond), List.getElem?_eq_none (Nat.le_of_lt beyond)]
    split
    · rfl
    · next further =>
      rw [List.getElem?_eq_none (by rw [List.length_append, List.length_singleton]; omega)]

end note

end Transcript

def transcript (log : List Entry) : Transcript :=
  log.foldl (fun t entry => t.note entry.happening) ⟨[], none⟩

@[simp] theorem transcript_append (log : List Entry) (entry : Entry) :
    transcript (log ++ [entry]) = (transcript log).note entry.happening := by
  simp [transcript]

/-- What a task has done since it took its session from `line`. -/
structure Task.Ran (ctx : SkfContext) (line : Line) (trace : List (Event Skf)) (task : Task) :
    Prop where
  reaches : Program.Reaches (handleRequest ctx task.text line.lang) trace task.rest
  possible : (tracked ctx.platform.lastInstant).Possible line.state trace
  follows : (tracked ctx.platform.lastInstant).follow line.state trace = task.state

section tracks

variable {ctx : SkfContext} {ttl : Duration} {line : Line} {trace : List (Event Skf)}
  {task after : Task} {now : Instant} {event : Event Skf}

theorem Task.Ran.step (ran : task.Ran ctx line trace)
    (performs : task.Performs ctx now event after) :
    after.Ran ctx line (trace ++ [event]) := by
  obtain ⟨asks, possible, timely⟩ := performs
  refine ⟨?_, ?_, ?_⟩
  · refine ran.reaches.trans ?_
    rw [asks]
    exact .step _ (.refl _)
  · rw [Monitor.possible_append, ran.follows]
    exact ⟨ran.possible, possible, trivial⟩
  · rw [Monitor.follow_append, ran.follows]
    rfl

theorem Task.Performs.number (performs : task.Performs ctx now event after) :
    after.number = task.number := by
  cases performs
  rfl

theorem Task.Performs.text (performs : task.Performs ctx now event after) :
    after.text = task.text := by
  cases performs
  rfl

/-- More of a request that timed out leaves the rest of the conversation as it was. -/
theorem Conversation.extend {first last : Line} {turns : List Turn} {n : Nat} {text : String}
    {q : Program Skf Panic (RpcResponse × Language)} (whole : Conversation ctx ttl first turns last)
    (late : turns[n]? = some (.timedOut text trace)) (limited : exempt ctx text = false)
    (earlier : Conversation ctx ttl first (turns.take n) line)
    (ran : Program.Reaches (handleRequest ctx text line.lang) (trace ++ [event]) q)
    (possible : (tracked ctx.platform.lastInstant).Possible line.state (trace ++ [event])) :
    Conversation ctx ttl first (turns.modify n (Turn.extend event)) last := by
  obtain ⟨bound, at_n⟩ := List.getElem?_eq_some_iff.mp late
  rw [← List.take_append_drop n turns, List.drop_eq_getElem_cons bound, at_n,
    List.append_cons] at whole
  obtain ⟨middle, before, behind⟩ := whole.split
  obtain ⟨taken, -, step⟩ := before.last_step
  rw [step.reset rfl] at behind
  rw [List.modify_eq_take_cons_drop bound, at_n, List.append_cons]
  exact (earlier.next (.timedOut limited ran possible)).append behind

/-- What a detached task has done stands in its turn of the conversation. -/
structure Detached (ctx : SkfContext) (ttl : Duration) (ended : List Turn) (task : Task) :
    Prop where
  limited : exempt ctx task.text = false
  ran : ∃ line trace, ended[task.number]? = some (.timedOut task.text trace) ∧
    Conversation ctx ttl (.new ttl) (ended.take task.number) line ∧ task.Ran ctx line trace

theorem Detached.bound {ended : List Turn} (late : Detached ctx ttl ended task) :
    task.number < ended.length := by
  obtain ⟨line, trace, found, -⟩ := late.ran
  exact (List.getElem?_eq_some_iff.mp found).1

theorem Detached.more {ended : List Turn} {turn : Turn} (late : Detached ctx ttl ended task) :
    Detached ctx ttl (ended ++ [turn]) task := by
  have bound := late.bound
  obtain ⟨line, trace, found, earlier, ran⟩ := late.ran
  refine ⟨late.limited, line, trace, ?_, ?_, ran⟩
  · rw [List.getElem?_append_left bound]
    exact found
  · rw [List.take_append_of_le_length (Nat.le_of_lt bound)]
    exact earlier

/-- An interaction of a detached task changes no other part of the conversation. -/
theorem Detached.extend_take {ended : List Turn} {last : Line} {k : Nat}
    (late : Detached ctx ttl ended task) (performs : task.Performs ctx now event after)
    (whole : Conversation ctx ttl (.new ttl) (ended.take k) last) :
    Conversation ctx ttl (.new ttl) ((ended.modify task.number (Turn.extend event)).take k)
      last := by
  rw [List.take_modify]
  by_cases behind : task.number < k
  · obtain ⟨line, trace, found, earlier, ran⟩ := late.ran
    have ran' := ran.step performs
    refine Conversation.extend whole ?_ late.limited ?_ (performs.text ▸ ran'.reaches) ran'.possible
    · rw [List.getElem?_take_of_lt behind]
      exact found
    · rw [List.take_take, Nat.min_eq_left (Nat.le_of_lt behind)]
      exact earlier
  · rw [List.modify_eq_self (Nat.le_trans (List.length_take_le _ _) (Nat.not_lt.mp behind))]
    exact whole

def Holder.Stands (ctx : SkfContext) (ttl : Duration) (t : Transcript) (received : Nat) :
    Holder → Prop
  | .session line =>
    received = t.ended.length ∧ t.running = none ∧ Conversation ctx ttl (.new ttl) t.ended line
  | .task task => received = t.ended.length + 1 ∧ task.number = t.ended.length ∧
      ∃ line trace,
        t.running = some (task.text, trace) ∧ Conversation ctx ttl (.new ttl) t.ended line ∧
        task.Ran ctx line trace

structure Tracks (ctx : SkfContext) (ttl : Duration) (t : Transcript) (conn : JsonRpcSession) :
    Prop where
  holder : conn.holder.Stands ctx ttl t conn.received
  detached : ∀ task ∈ conn.detached, Detached ctx ttl t.ended task
  distinct : (conn.detached.map Task.number).Nodup

theorem tracks_new : Tracks ctx ttl ⟨[], none⟩ (.new ttl) :=
  ⟨⟨rfl, rfl, .start⟩, by simp [JsonRpcSession.new], by simp [JsonRpcSession.new]⟩

theorem Tracks.late {t : Transcript} {n : Nat} {holder : Holder} {front back : List Task}
    (tracks : Tracks ctx ttl t ⟨n, holder, front ++ task :: back⟩)
    (performs : task.Performs ctx now event after) :
    Tracks ctx ttl (t.note (.performed task.number event)) ⟨n, holder, front ++ after :: back⟩ := by
  have here := tracks.detached task (by simp)
  -- The turn of a detached task ended in a timeout, so that another interaction in it leaves the
  -- conversation what it was.
  have whole {last : Line} (conversation : Conversation ctx ttl (.new ttl) t.ended last) :
      Conversation ctx ttl (.new ttl) (t.ended.modify task.number (Turn.extend event)) last := by
    rw [← List.take_length (l := t.ended)] at conversation
    have taken := here.extend_take performs conversation
    rwa [List.take_of_length_le (by simp)] at taken
  rw [Transcript.note_late here.bound]
  refine ⟨?_, fun other member => ?_, ?_⟩
  · have stands : holder.Stands ctx ttl t n := tracks.holder
    cases holder with
    | session line =>
      obtain ⟨received, idle, conversation⟩ := stands
      exact ⟨by rw [List.length_modify]; exact received, idle, whole conversation⟩
    | task running =>
      obtain ⟨received, number, line, trace, current, conversation, ran⟩ := stands
      refine ⟨?_, ?_, line, trace, current, whole conversation, ran⟩
      · rw [List.length_modify]
        exact received
      · rw [List.length_modify]
        exact number
  · by_cases same : other = after
    · subst same
      obtain ⟨line, trace, found, earlier, ran⟩ := here.ran
      refine ⟨performs.text ▸ here.limited, line, trace ++ [event], ?_, ?_, ran.step performs⟩
      · rw [performs.number, performs.text, List.getElem?_modify_eq, found]
        rfl
      · rw [performs.number]
        exact here.extend_take performs earlier
    · have elsewhere : other ∈ front ++ back := by
        simp only [List.mem_append, List.mem_cons, same, false_or] at member ⊢
        exact member
      -- Every other detached task has a number of its own, and so its turn keeps its trace.
      have differs : task.number ≠ other.number := by
        have distinct := tracks.distinct
        rw [List.map_append, List.map_cons, List.nodup_middle, List.nodup_cons,
          ← List.map_append] at distinct
        exact fun equal => distinct.1 (equal ▸ List.mem_map_of_mem elsewhere)
      have there := tracks.detached other (by
        simp only [List.mem_append, List.mem_cons] at elsewhere ⊢
        exact elsewhere.imp_right .inr)
      obtain ⟨line, trace, found, earlier, ran⟩ := there.ran
      refine ⟨there.limited, line, trace, ?_, here.extend_take performs earlier, ran⟩
      rw [List.getElem?_modify_ne _ _ differs]
      exact found
  · have distinct := tracks.distinct
    simp only [List.map_append, List.map_cons, performs.number] at distinct ⊢
    exact distinct

theorem tracks_finish {t : Transcript} {received : Nat} {detached : List Task} {text : String}
    {last : Line} {turn : String → List (Event Skf) → Turn}
    (counted : received = t.ended.length + 1) (current : t.running = some (text, trace))
    (conversation : Conversation ctx ttl (.new ttl) (t.ended ++ [turn text trace]) last)
    (late : ∀ task ∈ detached, Detached ctx ttl (t.ended ++ [turn text trace]) task)
    (distinct : (detached.map Task.number).Nodup) :
    Tracks ctx ttl (t.finish turn) ⟨received, .session last, detached⟩ := by
  rw [Transcript.finish_running current]
  exact ⟨⟨by simpa using counted, rfl, conversation⟩, late, distinct⟩

/-- Every step of a connection is noted as it happens. -/
theorem Tracks.step {t : Transcript} {conn conn' : JsonRpcSession} {entry : Entry}
    (tracks : Tracks ctx ttl t conn) (step : JsonRpcSession.Step ctx ttl conn entry conn') :
    Tracks ctx ttl (t.note entry.happening) conn' := by
  cases step with
  | @receive n line detached now text =>
    obtain ⟨received, idle, conversation⟩ := tracks.holder
    -- The task starts with the session that the connection held, and has done nothing.
    have ran : Task.Ran ctx line [] ⟨n, text, line.state, handleRequest ctx text line.lang⟩ :=
      ⟨.refl _, trivial, rfl⟩
    exact ⟨⟨congrArg (· + 1) received, received, line, [], rfl, conversation, ran⟩, tracks.detached,
      tracks.distinct⟩
  | @perform n task after detached now event performs =>
    obtain ⟨received, number, line, trace, current, conversation, ran⟩ := tracks.holder
    rw [Transcript.note_running number]
    refine ⟨⟨received, performs.number.trans number, line, trace ++ [event], ?_, conversation,
      ran.step performs⟩,
      tracks.detached, tracks.distinct⟩
    rw [current, performs.text]
    rfl
  | late performs => exact tracks.late performs
  | @complete n task detached now response lang done =>
    obtain ⟨received, number, line, trace, current, conversation, ran⟩ := tracks.holder
    have ended : TurnStep ctx ttl line (.answered task.text trace response) ⟨task.state, lang⟩ :=
      .answered ⟨by rw [Program.Finishes, Program.ofOutcome, ← done]; exact ran.reaches,
        ran.possible, ran.follows⟩
    exact tracks_finish received current (conversation.next ended)
      (fun task member => (tracks.detached task member).more)
      tracks.distinct
  | @expire n task detached now limited =>
    obtain ⟨received, number, line, trace, current, conversation, ran⟩ := tracks.holder
    have ended : TurnStep ctx ttl line (.timedOut task.text trace) (.new ttl) :=
      .timedOut limited ran.reaches ran.possible
    -- The task goes on behind a turn of its own, on the session it took.
    have here : Detached ctx ttl (t.ended ++ [.timedOut task.text trace]) task := by
      refine ⟨limited, line, trace, ?_, ?_, ran⟩
      · rw [number, List.getElem?_concat_length]
      · rw [number, List.take_left]
        exact conversation
    refine tracks_finish received current (conversation.next ended) ?_
      (List.nodup_cons.mpr ⟨?_, tracks.distinct⟩)
    · intro other member
      rcases List.mem_cons.mp member with rfl | earlier
      · exact here
      · exact (tracks.detached other earlier).more
    · intro member
      obtain ⟨other, earlier, same⟩ := List.mem_map.mp member
      have bound := (tracks.detached other earlier).bound
      omega
  | @fail n task detached now why unwound =>
    obtain ⟨received, number, line, trace, current, conversation, ran⟩ := tracks.holder
    have ended : TurnStep ctx ttl line (.failed task.text trace why) (.new ttl) :=
      .failed ⟨by rw [Program.Finishes, Program.ofOutcome, ← unwound]; exact ran.reaches,
        ran.possible⟩
    exact tracks_finish received current (conversation.next ended)
      (fun task member => (tracks.detached task member).more)
      tracks.distinct

/-- What an environment answers a task at one instant, the task performs at that instant, wherever
in the connection it is. -/
theorem perform_all (place : Task → JsonRpcSession)
    (steps : ∀ task after event, task.Performs ctx now event after →
      JsonRpcSession.Step ctx ttl (place task) ⟨now, .performed task.number event⟩ (place after))
    {number : Nat} {text : String} {state : SessionState}
    {p q : Program Skf Panic (RpcResponse × Language)} (ran : Program.Reaches p trace q)
    (possible : (tracked ctx.platform.lastInstant).Possible state trace)
    (timely : ∀ event ∈ trace, ∀ reading ∈ event.op.reading event.reply, reading = now) :
    Run (JsonRpcSession.Step ctx ttl) (place ⟨number, text, state, p⟩)
      (trace.map fun event => ⟨now, .performed number event⟩)
      (place ⟨number, text, (tracked ctx.platform.lastInstant).follow state trace, q⟩) := by
  induction ran generalizing state with
  | refl => exact .start
  | @step op next trace q reply _ ih =>
    have performs : Task.Performs ctx now ⟨number, text, state, .call op next⟩ ⟨op, reply⟩ _ :=
      .mk rfl possible.1 (timely ⟨op, reply⟩ List.mem_cons_self)
    exact .cons (steps _ _ _ performs)
      (ih possible.2 fun event member => timely event (List.mem_cons_of_mem _ member))

abbrev JsonRpcSession.Reached (ctx : SkfContext) (ttl : Duration) :
    List Entry → JsonRpcSession → Prop :=
  Run (JsonRpcSession.Step ctx ttl) (.new ttl)

theorem tracks_reached {log : List Entry} {conn : JsonRpcSession}
    (run : JsonRpcSession.Reached ctx ttl log conn) :
    Tracks ctx ttl (transcript log) conn := by
  refine Run.invariant (fun log conn => Tracks ctx ttl (transcript log) conn) run tracks_new ?_
  intro log entry before after tracks step
  rw [transcript_append]
  exact tracks.step step

/-- The requests of a connection that have ended are a conversation, however they were interleaved
with the tasks they left behind. -/
theorem conversation_of_reached {log : List Entry} {conn : JsonRpcSession}
    (run : JsonRpcSession.Reached ctx ttl log conn) :
    ∃ line, Conversation ctx ttl (.new ttl) (transcript log).ended line := by
  have stands := (tracks_reached run).holder
  cases held : conn.holder with
  | session line =>
    rw [held] at stands
    exact ⟨line, stands.2.2⟩
  | task task =>
    rw [held] at stands
    obtain ⟨-, -, line, -, -, conversation, -⟩ := stands
    exact ⟨line, conversation⟩

/-- Every request ran some part of its program, on the line its predecessors left. -/
theorem request_of_reached {log : List Entry} {conn : JsonRpcSession} {n : Nat} {text : String}
    (run : JsonRpcSession.Reached ctx ttl log conn)
    (found : (transcript log).request n = some (text, trace)) :
    ∃ line, Conversation ctx ttl (.new ttl) ((transcript log).ended.take n) line ∧
      (∃ q, Program.Reaches (handleRequest ctx text line.lang) trace q) ∧
        (tracked ctx.platform.lastInstant).Possible line.state trace := by
  have tracks := tracks_reached run
  unfold Transcript.request at found
  -- The request is the one running, or one that has ended.
  split at found
  · next current =>
    subst current
    have stands := tracks.holder
    cases held : conn.holder with
    | session line =>
      rw [held] at stands
      rw [stands.2.1] at found
      cases found
    | task task =>
      rw [held] at stands
      obtain ⟨-, -, line, trace', current, conversation, ran⟩ := stands
      rw [current, Option.some.injEq, Prod.mk.injEq] at found
      obtain ⟨rfl, rfl⟩ := found
      rw [List.take_length]
      exact ⟨line, conversation, ⟨_, ran.reaches⟩, ran.possible⟩
  · obtain ⟨turn, there, same⟩ := Option.map_eq_some_iff.mp found
    cases same
    obtain ⟨bound, at_n⟩ := List.getElem?_eq_some_iff.mp there
    obtain ⟨last, whole⟩ := conversation_of_reached run
    rw [← List.take_append_drop n (transcript log).ended, List.drop_eq_getElem_cons bound, at_n,
      List.append_cons] at whole
    -- The conversation is cut right behind the request asked for.
    obtain ⟨after, before, -⟩ := whole.split
    obtain ⟨line, conversation, step⟩ := before.last_step
    exact ⟨line, conversation, step.ran.1, step.ran.2⟩

end tracks

end SkfService
