import SkfService.Connection.JsonRpcSession

/-! All connections of the service, against one monotone clock. -/

set_option autoImplicit false

namespace SkfService

open Interaction

section clock

def readings (trace : List (Event Skf)) : List Instant :=
  trace.filterMap fun event => event.op.reading event.reply

/-- Readings are taken from the log, and an answered request read the clock before those that follow
it. -/
structure Timed (log : List Entry) (t : Transcript) : Prop where
  noted : ∀ n text trace, t.request n = some (text, trace) →
    ∀ r ∈ readings trace, ∃ entry ∈ log, entry.now = r
  ordered : ∀ m n text trace response text' trace', m < n →
    t.ended[m]? = some (.answered text trace response) →
    t.request n = some (text', trace') → ∀ r ∈ readings trace, ∀ r' ∈ readings trace', r ≤ r'

variable {ctx : SkfContext} {ttl : Duration} {conn after : JsonRpcSession} {entry : Entry}
  {t : Transcript} {log : List Entry}

theorem request_step (tracks : Tracks ctx ttl t conn)
    (step : JsonRpcSession.Step ctx ttl conn entry after) {n : Nat} {text : String}
    {trace : List (Event Skf)} (found : (t.note entry.happening).request n = some (text, trace)) :
    trace = [] ∨ ∃ before, t.request n = some (text, before) ∧
      ∀ r ∈ readings trace, r ∈ readings before ∨ r = entry.now := by
  have kept (before : List (Event Skf)) (there : t.request n = some (text, before))
      (same : before = trace) :
      trace = [] ∨ ∃ before, t.request n = some (text, before) ∧
        ∀ r ∈ readings trace, r ∈ readings before ∨ r = entry.now :=
    .inr ⟨before, there, fun r read => .inl (same ▸ read)⟩
  -- An interaction adds to the trace of its own request, with a reading of this instant at most.
  have performed {task task' : Task} {event : Event Skf} {now : Instant}
      (known : task.number ≤ t.ended.length)
      (performs : task.Performs ctx now event task') (here : entry.now = now)
      (found : (t.note (.performed task.number event)).request n = some (text, trace)) :
      trace = [] ∨ ∃ before, t.request n = some (text, before) ∧
        ∀ r ∈ readings trace, r ∈ readings before ∨ r = entry.now := by
    rw [Transcript.request_performed known] at found
    split at found
    · obtain ⟨⟨text', before⟩, there, same⟩ := Option.map_eq_some_iff.mp found
      cases same
      refine .inr ⟨before, there, fun r read => ?_⟩
      rw [readings, List.filterMap_append] at read
      rcases List.mem_append.mp read with old | new
      · exact .inl old
      · obtain ⟨asks, possible, timely⟩ := performs
        obtain ⟨last, member, reading⟩ := List.mem_filterMap.mp new
        rw [List.mem_singleton.mp member] at reading
        exact .inr ((timely r reading).trans here.symm)
    · exact kept trace found rfl
  cases step with
  | receive opening =>
    rw [Transcript.request_received] at found
    split at found
    · cases found
      exact .inl rfl
    · exact kept trace found rfl
  | perform performs => exact performed (Nat.le_of_eq tracks.holder.2.1) performs rfl found
  | late performs =>
    exact performed (Nat.le_of_lt (tracks.detached _ (by simp)).bound) performs rfl found
  | complete | expire | fail =>
    obtain ⟨-, -, line, trace', current, -⟩ := tracks.holder
    exact kept trace (by rwa [Transcript.note, Transcript.request_finish current rfl rfl] at found)
      rfl

/-- A turn that stands as answered has its trace for good, and nothing follows it unless it stood
before. -/
theorem answered_step (tracks : Tracks ctx ttl t conn)
    (step : JsonRpcSession.Step ctx ttl conn entry after) {m : Nat} {text : String}
    {trace : List (Event Skf)} {response : RpcResponse}
    (found : (t.note entry.happening).ended[m]? = some (.answered text trace response)) :
    t.ended[m]? = some (.answered text trace response) ∨
      ∀ n, m < n → (t.note entry.happening).request n = none := by
  -- A turn that ends comes last, and no request is numbered behind it.
  have finished {turn : String → List (Event Skf) → Turn} {text' : String}
      {trace' : List (Event Skf)}
      (current : t.running = some (text', trace'))
      (found : (t.finish turn).ended[m]? = some (.answered text trace response)) :
      t.ended[m]? = some (.answered text trace response) ∨ ∀ n, m < n →
        (t.finish turn).request n = none := by
    rw [Transcript.finish_running current] at found ⊢
    by_cases inside : m < t.ended.length
    · rw [List.getElem?_append_left inside] at found
      exact .inl found
    · refine .inr fun n less => ?_
      rw [Transcript.request, List.length_append, List.length_singleton]
      split
      · rfl
      · rw [List.getElem?_eq_none (by rw [List.length_append, List.length_singleton]; omega)]
        rfl
  cases step with
  | receive opening => exact .inl found
  | perform performs =>
    rw [Transcript.note_running tracks.holder.2.1] at found
    exact .inl found
  | @late n holder front back task after now event performs =>
    have here := tracks.detached task (by simp)
    rw [Transcript.note_late here.bound, List.getElem?_modify] at found
    obtain ⟨line, before, late, -⟩ := here.ran
    split at found
    · next same =>
      rw [← same, late] at found
      cases found
    · rw [id_map'] at found
      exact .inl found
  | complete | expire | fail =>
    obtain ⟨-, -, line, trace', current, -⟩ := tracks.holder
    exact finished current found

theorem Timed.step (timed : Timed log t) (tracks : Tracks ctx ttl t conn)
    (step : JsonRpcSession.Step ctx ttl conn entry after)
    (later : ∀ earlier ∈ log, earlier.now ≤ entry.now) :
    Timed (log ++ [entry]) (t.note entry.happening) := by
  refine ⟨fun n text trace found r read => ?_, ?_⟩
  · rcases request_step tracks step found with rfl | ⟨before, there, old⟩
    · cases read
    · rcases old r read with earlier | now
      · obtain ⟨logged, member, same⟩ := timed.noted n text before there r earlier
        exact ⟨logged, List.mem_append_left _ member, same⟩
      · exact ⟨entry, by simp, now.symm⟩
  · intro m n text trace response text' trace' less found found' r read r' read'
    rcases answered_step tracks step found with stood | nothing
    · rcases request_step tracks step found' with rfl | ⟨before, there, old⟩
      · cases read'
      · rcases old r' read' with earlier | rfl
        · exact timed.ordered m n text trace response text' before less stood there r read
            r' earlier
        · have asked : t.request m = some (text, trace) := by
            have bound := (List.getElem?_eq_some_iff.mp stood).1
            rw [Transcript.request, if_neg (Nat.ne_of_lt bound), stood]
            rfl
          obtain ⟨logged, member, same⟩ := timed.noted m text trace asked r read
          exact same ▸ later logged member
    · rw [nothing n less] at found'
      cases found'

def Chronological (log : List Entry) : Prop := log.Pairwise fun a b => a.now ≤ b.now

theorem timed_reached (run : JsonRpcSession.Reached ctx ttl log conn)
    (chronological : Chronological log) :
    Timed log (transcript log) := by
  induction run with
  | start =>
    exact ⟨fun n text trace found =>
      by simp [transcript, Transcript.request] at found, by simp [transcript]⟩
  | @next log entry before after earlier step ih =>
    obtain ⟨front, -, last⟩ := List.pairwise_append.mp chronological
    rw [transcript_append]
    exact (ih front).step (tracks_reached earlier) step fun other member =>
      last other member entry (by simp)

end clock

/-- All connections of the service, by number. -/
abbrev Service := Nat → JsonRpcSession

structure Record where
  connection : Nat
  entry : Entry

inductive Service.Step (ctx : SkfContext) (ttl : Duration) : Service → Record → Service → Prop
  | at {service : Service} {c : Nat} {entry : Entry} {after : JsonRpcSession}
      (step : JsonRpcSession.Step ctx ttl (service c) entry after) :
      Service.Step ctx ttl service ⟨c, entry⟩ (Function.update service c after)

def Service.new (ttl : Duration) : Service := fun _ => .new ttl

def project (c : Nat) (log : List Record) : List Entry :=
  (log.filter (·.connection = c)).map Record.entry

/-- Connections do not see each other. -/
theorem reached_project {ctx : SkfContext} {ttl : Duration} {log : List Record} {service : Service}
    (run : Run (Service.Step ctx ttl) (.new ttl) log service) (c : Nat) :
    JsonRpcSession.Reached ctx ttl (project c log) (service c) := by
  refine Run.invariant (fun log service =>
    JsonRpcSession.Reached ctx ttl (project c log) (service c)) run .start ?_
  rintro log ⟨c', entry⟩ before after reached ⟨step⟩
  by_cases same : c' = c
  · subst same
    have noted : project c' (log ++ [⟨c', entry⟩]) = project c' log ++ [entry] := by simp [project]
    rw [noted, Function.update_self]
    exact reached.next step
  · have noted : project c (log ++ [⟨c', entry⟩]) = project c log := by simp [project, same]
    rw [noted, Function.update_of_ne (Ne.symm same)]
    exact reached

theorem run_alone {ctx : SkfContext} {ttl : Duration} {log : List Entry} {conn : JsonRpcSession}
    (c : Nat) (run : JsonRpcSession.Reached ctx ttl log conn) :
    Run (Service.Step ctx ttl) (.new ttl) (log.map (⟨c, ·⟩))
      (Function.update (Service.new ttl) c conn) := by
  induction run with
  | start =>
    rw [show JsonRpcSession.new ttl = Service.new ttl c from rfl, Function.update_eq_self]
    exact .start
  | @next log entry before after earlier step ih =>
    have stepped :=
      @Service.Step.at ctx ttl (Function.update (Service.new ttl) c before) c entry after
      (by rwa [Function.update_self])
    rw [Function.update_idem] at stepped
    rw [List.map_append]
    exact ih.next stepped

theorem project_alone (c : Nat) (log : List Entry) : project c (log.map (⟨c, ·⟩)) = log := by
  simp [project, List.filter_map, Function.comp_def]

end SkfService
