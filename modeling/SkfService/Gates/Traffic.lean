import SkfService.Connection.Service
import SkfService.Gates.Branches
import SkfService.Server.BlockingWork

/-! Calls that take time, over all connections: a call takes its gate when it begins and gives it
back when it ends. -/

set_option autoImplicit false

namespace SkfService

open Interaction Program

section session

def ResourceKind.library : (kind : ResourceKind) → kind.Guard → Library
  | Device, guard => guard.library
  | Application, guard => guard.device.library
  | Container, guard => guard.application.device.library
  | Digest, guard => guard.device.library

def HandleTable.Gated (ctx : SkfContext) (table : HandleTable) : Prop :=
  ∀ (kind : ResourceKind) (handle : String) (guard : kind.Guard),
    (table.tables kind).lookup handle = some guard →
    (kind.library guard).Gated ctx

variable {ctx : SkfContext} {table : HandleTable} {kind : ResourceKind} {handle : String}
  {guard : kind.Guard}

theorem gated_new : HandleTable.new.Gated ctx := by
  intro kind handle guard found
  cases found

theorem HandleTable.Gated.get (gated : table.Gated ctx)
    (found : table.get kind handle = .ok guard) :
    (kind.library guard).Gated ctx := gated kind handle guard (HandleTable.get_ok found)

theorem HandleTable.Gated.issue (gated : table.Gated ctx) (held : (kind.library guard).Gated ctx) :
    (table.issue kind guard).1.Gated ctx := by
  intro other name it found
  by_cases same : other = kind
  · subst same
    rw [HandleTable.issue] at found
    dsimp only at found
    rw [Function.update_self] at found
    by_cases minted : name = table.mint other
    · rw [minted, AList.lookup_insert] at found
      cases found
      exact held
    · rw [AList.lookup_insert_ne minted] at found
      exact gated other name it found
  · rw [HandleTable.issue] at found
    dsimp only at found
    rw [Function.update_of_ne same] at found
    exact gated other name it found

theorem HandleTable.Gated.remove (gated : table.Gated ctx) :
    (table.remove kind handle).1.Gated ctx := by
  unfold HandleTable.remove
  split
  · intro other name it found
    by_cases same : other = kind
    · subst same
      dsimp only at found
      rw [Function.update_self] at found
      by_cases erased : name = handle
      · rw [erased, AList.lookup_erase] at found
        cases found
      · rw [AList.lookup_erase_ne erased] at found
        exact gated other name it found
    · dsimp only at found
      rw [Function.update_of_ne same] at found
      exact gated other name it found
  · exact gated

theorem HandleTable.Gated.removed (gated : table.Gated ctx)
    (found : (table.remove kind handle).2 = .ok guard) :
    (kind.library guard).Gated ctx := gated kind handle guard (HandleTable.remove_ok found).1

variable {limit : Instant} {symbols : Bool} {state : SessionState}

/-- An operation that answers with a guard hands out that guard's library and no other. -/
theorem gated_fetched {op : Op} {reply : op.Reply} (kind : ResourceKind)
    (answer : Except HandleError kind.Guard)
    (same : op.fetches reply = answer.toOption.map kind.library)
    (held : ∀ guard, answer = .ok guard → (kind.library guard).Gated ctx) :
    ∀ library ∈ op.fetches reply, library.Gated ctx := by
  rw [same]
  intro library member
  cases answer with
  | error reason => cases member
  | ok guard =>
    cases member
    exact held guard rfl

/-- Under the session's own operations gated libraries stay gated, and only such are given back. -/
theorem HandleTable.Gated.perform (gated : state.handles.Gated ctx) (now : Instant) (op : SessionOp)
    (stored : ∀ library ∈ (Op.session op).stores, library.Gated ctx) :
    (op.perform limit now state).1.handles.Gated ctx ∧
      ∀ library ∈ (Op.session op).fetches (op.perform limit now state).2, library.Gated ctx := by
  cases op with
  | authorize key | grant key | invalidateDevice provider name =>
    rw [SessionOp.perform_handles _ _ _ _ rfl]
    refine ⟨gated, fun library none => ?_⟩
    cases none
  -- What is issued comes from the request, which stores gated libraries only.
  | issueDevice guard =>
    refine ⟨gated.issue (stored _ rfl), fun library none => ?_⟩
    cases none
  | issueDigest guard =>
    refine ⟨gated.issue (stored _ rfl), fun library none => ?_⟩
    cases none
  -- What is given back was issued before.
  | device handle =>
    refine ⟨gated, gated_fetched .Device (state.handles.device handle) ?_ fun guard found =>
      gated.get found⟩
    change Op.fetches (.session (.device handle)) (state.handles.device handle) = _
    cases state.handles.device handle <;> rfl
  | digest handle =>
    refine ⟨gated, gated_fetched .Digest (state.handles.digest handle) ?_ fun guard found =>
      gated.get found⟩
    change Op.fetches (.session (.digest handle)) (state.handles.digest handle) = _
    cases state.handles.digest handle <;> rfl
  | removeDevice handle =>
    refine ⟨gated.remove, gated_fetched .Device (state.handles.removeDevice handle).2 ?_
      fun guard found => gated.removed found⟩
    change Op.fetches (.session (.removeDevice handle)) (state.handles.removeDevice handle).2 = _
    cases (state.handles.removeDevice handle).2 <;> rfl
  | removeDigest handle =>
    refine ⟨gated.remove, gated_fetched .Digest (state.handles.removeDigest handle).2 ?_
      fun guard found => gated.removed found⟩
    change Op.fetches (.session (.removeDigest handle)) (state.handles.removeDigest handle).2 = _
    cases (state.handles.removeDigest handle).2 <;> rfl

theorem serial_reaches {p q : Program Skf Panic (RpcResponse × Language)} {trace : List (Event Skf)}
    (met : p.Meets (serial ctx symbols) (fun _ _ => True) (fun _ _ => True) ())
    (gated : state.handles.Gated ctx) (ran : Program.Reaches p trace q)
    (possible : (tracked limit).Possible state trace) :
    q.Meets (serial ctx symbols) (fun _ _ => True) (fun _ _ => True) () ∧
      ((tracked limit).follow state trace).handles.Gated ctx := by
  induction ran generalizing state with
  | refl => exact ⟨met, gated⟩
  | @step op next trace q reply rest ih =>
    -- The session answers from its state, so what it gives back is gated; no other operation gives
    -- back a resource.
    obtain ⟨allowed, goes⟩ := met
    obtain ⟨answered, later⟩ := possible
    cases op with
    | session op =>
      obtain ⟨kept, given⟩ :=
        @HandleTable.Gated.perform _ limit _ gated (op.clock reply) op allowed.stored
      have same : (op.perform limit (op.clock reply) state).2 = reply := answered
      rw [same] at given
      exact ih (goes reply given) kept later
    | provider op => exact ih (goes reply fun _ none => by cases none) gated later
    | vendor op => exact ih (goes reply fun _ none => by cases none) gated later
    | host op => exact ih (goes reply fun _ none => by cases none) gated later

end session

section conversation

variable {ctx : SkfContext} {ttl : Duration} {log : List Entry} {conn : JsonRpcSession}

theorem gated_of_conversation {turns : List Turn} {line : Line}
    (conversation : Conversation ctx ttl (.new ttl) turns line) : line.state.handles.Gated ctx := by
  refine Run.invariant (fun _ line => line.state.handles.Gated ctx) conversation gated_new ?_
  intro turns turn before after gated step
  cases step with
  | answered exchange =>
    obtain ⟨ran, possible, follows⟩ := exchange
    rw [← follows]
    exact (serial_reaches (serial_request ctx _ before.lang) gated ran possible).2
  | timedOut => exact gated_new
  | failed => exact gated_new

theorem serial_of_ran {line : Line} {trace : List (Event Skf)} {task : Task} {turns : List Turn}
    (conversation : Conversation ctx ttl (.new ttl) turns line) (ran : task.Ran ctx line trace) :
    task.rest.Meets (serial ctx (symbolsOf ctx task.text)) (fun _ _ => True) (fun _ _ => True) () :=
  (serial_reaches (serial_request ctx task.text line.lang)
    (gated_of_conversation conversation) ran.reaches ran.possible).1

/-- Every task of a connection keeps to the gates, also one whose request timed out. -/
theorem serial_of_reached (run : JsonRpcSession.Reached ctx ttl log conn) {task : Task}
    (member : task ∈ conn.tasks) :
    task.rest.Meets (serial ctx (symbolsOf ctx task.text)) (fun _ _ => True)
      (fun _ _ => True) () := by
  have tracks := tracks_reached run
  have detached (late : task ∈ conn.detached) :
      task.rest.Meets (serial ctx (symbolsOf ctx task.text)) (fun _ _ => True)
        (fun _ _ => True) () := by
    -- A task that lost its session still runs on the line it was given, and a conversation of its
    -- own led there.
    obtain ⟨line, trace, -, conversation, ran⟩ := (tracks.detached task late).ran
    exact serial_of_ran conversation ran
  have stands := tracks.holder
  unfold JsonRpcSession.tasks at member
  cases held : conn.holder with
  | session line =>
    simp only [held] at member
    exact detached member
  | task running =>
    simp only [held] at member
    rw [held] at stands
    rcases List.mem_cons.mp member with rfl | late
    · obtain ⟨-, -, line, trace, -, conversation, ran⟩ := stands
      exact serial_of_ran conversation ran
    · exact detached late

end conversation

structure Calling where
  connection : Nat
  request : Nat
  op : Op

/-- The connections, and the calls their tasks are in. -/
structure Traffic where
  service : Service
  calls : List Calling

def Traffic.new (ttl : Duration) : Traffic := ⟨.new ttl, []⟩

inductive Phase
  | begun (call : Calling)
  | ended (record : Record)
  | other (record : Record)

/-- A task begins the call it asks for when no other call holds its gate, and is answered at the end
of it. -/
inductive Traffic.Step (ctx : SkfContext) (ttl : Duration) : Traffic → Phase → Traffic → Prop
  | start {service : Service} {calls : List Calling} {c : Nat} {task : Task} {op : Op}
      {next : op.Reply → Program Skf Panic (RpcResponse × Language)}
      (member : task ∈ (service c).tasks)
      (asks : task.rest = .call op next) (idle : ∀ call ∈ calls, call.connection = c →
        call.request ≠ task.number)
      (free : ∀ gate ∈ op.gate, ∀ call ∈ calls, call.op.gate ≠ some gate) :
      Traffic.Step ctx ttl ⟨service, calls⟩ (.begun ⟨c, task.number, op⟩)
        ⟨service, ⟨c, task.number, op⟩ :: calls⟩
  | finish {service after : Service} {front back : List Calling} {c n : Nat} {now : Instant}
      {event : Event Skf}
      (step : Service.Step ctx ttl service ⟨c, ⟨now, .performed n event⟩⟩ after) :
      Traffic.Step ctx ttl ⟨service, front ++ ⟨c, n, event.op⟩ :: back⟩
        (.ended ⟨c, ⟨now, .performed n event⟩⟩)
        ⟨after, front ++ back⟩
  | other {service after : Service} {calls : List Calling} {record : Record}
      (step : Service.Step ctx ttl service record after)
      (quiet : ∀ n event, record.entry.happening ≠ .performed n event) :
      Traffic.Step ctx ttl ⟨service, calls⟩ (.other record) ⟨after, calls⟩

def Phase.record? : Phase → Option Record
  | .begun _ => none
  | .ended record | .other record => some record

section invariant

variable {ctx : SkfContext} {ttl : Duration} {conn after : JsonRpcSession} {entry : Entry}

/-- An interaction of one task leaves the others as they are. -/
theorem JsonRpcSession.Step.tasks_performed {n : Nat} {event : Event Skf} {now : Instant}
    (step : JsonRpcSession.Step ctx ttl conn ⟨now, .performed n event⟩ after) {task : Task}
    (member : task ∈ conn.tasks) (differs : task.number ≠ n) : task ∈ after.tasks := by
  cases step with
  | perform performs =>
    rcases List.mem_cons.mp member with rfl | late
    · exact absurd rfl differs
    · exact List.mem_cons_of_mem _ late
  | @late _ holder front back moving moved _ _ performs =>
    have inside (late : task ∈ front ++ moving :: back) : task ∈ front ++ moved :: back := by
      simp only [List.mem_append, List.mem_cons] at late ⊢
      rcases late with before | rfl | behind
      · exact .inl before
      · exact absurd rfl differs
      · exact .inr (.inr behind)
    cases holder with
    | session line => exact inside member
    | task running =>
      rcases List.mem_cons.mp member with rfl | late
      · exact List.mem_cons_self
      · exact List.mem_cons_of_mem _ (inside late)

/-- Whatever else happens on a connection, a task that waits for an answer stays. -/
theorem JsonRpcSession.Step.tasks_quiet (step : JsonRpcSession.Step ctx ttl conn entry after)
    (quiet : ∀ n event, entry.happening ≠ .performed n event) {task : Task}
    (member : task ∈ conn.tasks) {op : Op}
    {next : op.Reply → Program Skf Panic (RpcResponse × Language)}
    (asks : task.rest = .call op next) :
    task ∈ after.tasks := by
  cases step with
  | receive text => exact List.mem_cons_of_mem _ member
  | perform performs => exact absurd rfl (quiet _ _)
  | late performs => exact absurd rfl (quiet _ _)
  | complete done =>
    rcases List.mem_cons.mp member with rfl | late
    · rw [done] at asks
      cases asks
    · exact late
  | expire limited => exact member
  | fail unwound =>
    rcases List.mem_cons.mp member with rfl | late
    · rw [unwound] at asks
      cases asks
    · exact late

/-- Every call is the one its task waits for, and no gate is held twice. -/
structure Orderly (traffic : Traffic) : Prop where
  asked : ∀ call ∈ traffic.calls, ∃ task ∈ (traffic.service call.connection).tasks,
    task.number = call.request ∧
    ∃ next, task.rest = .call call.op next
  single : traffic.calls.Pairwise fun one two =>
    one.connection = two.connection → one.request ≠ two.request
  apart : traffic.calls.Pairwise fun one two => ∀ gate ∈ one.op.gate, two.op.gate ≠ some gate

theorem orderly_new : Orderly (.new ttl) := ⟨fun _ none => absurd none List.not_mem_nil, .nil, .nil⟩

theorem Service.Step.elsewhere {service after : Service} {record : Record}
    (step : Service.Step ctx ttl service record after) {c : Nat} (other : c ≠ record.connection) :
    after c = service c := by
  cases step with
  | «at» step => exact Function.update_of_ne other _ _

theorem Service.Step.here {service after : Service} {record : Record}
    (step : Service.Step ctx ttl service record after) :
    JsonRpcSession.Step ctx ttl (service record.connection) record.entry
      (after record.connection) := by
  cases step with
  | «at» step => rwa [Function.update_self]

theorem Orderly.step {traffic after : Traffic} {phase : Phase} (orderly : Orderly traffic)
    (step : Traffic.Step ctx ttl traffic phase after) : Orderly after := by
  obtain ⟨asked, single, apart⟩ := orderly
  cases step with
  | @start service calls c task op next member asks idle free =>
    refine ⟨fun call there => ?_, ?_, ?_⟩
    · rcases List.mem_cons.mp there with rfl | earlier
      · exact ⟨task, member, rfl, next, asks⟩
      · exact asked call earlier
    · exact List.pairwise_cons.mpr ⟨fun call earlier same =>
        (idle call earlier same.symm).symm, single⟩
    · exact List.pairwise_cons.mpr ⟨fun call earlier gate held =>
        free gate held call earlier, apart⟩
  | @finish service after front back c n now event step =>
    have fewer : (front ++ back).Sublist (front ++ ⟨c, n, event.op⟩ :: back) :=
      (List.Sublist.refl front).append (List.sublist_cons_self _ _)
    refine ⟨fun call there => ?_, single.sublist fewer, apart.sublist fewer⟩
    obtain ⟨task, member, number, waits⟩ := asked call (fewer.subset there)
    refine ⟨task, ?_, number, waits⟩
    by_cases same : call.connection = c
    -- The call that is answered is the only one of its request, so this call waits in another task.
    · have differs : call.request ≠ n := by
        obtain ⟨-, behind, across⟩ := List.pairwise_append.mp single
        rcases List.mem_append.mp there with before | later
        · exact across call before _ List.mem_cons_self same
        · exact fun equal => (List.pairwise_cons.mp behind).1 call later same.symm equal.symm
      rw [same] at member ⊢
      exact step.here.tasks_performed member (number ▸ differs)
    · change task ∈ (after call.connection).tasks
      rw [step.elsewhere same]
      exact member
  | @other service after calls record step quiet =>
    refine ⟨fun call there => ?_, single, apart⟩
    obtain ⟨task, member, number, next, waits⟩ := asked call there
    refine ⟨task, ?_, number, next, waits⟩
    by_cases same : call.connection = record.connection
    · rw [same] at member ⊢
      exact step.here.tasks_quiet quiet member waits
    · change task ∈ (after call.connection).tasks
      rw [step.elsewhere same]
      exact member

abbrev Traffic.Reached (ctx : SkfContext) (ttl : Duration) : List Phase → Traffic → Prop :=
  Run (Traffic.Step ctx ttl) (.new ttl)

theorem Traffic.Reached.orderly {phases : List Phase} {traffic : Traffic}
    (run : Traffic.Reached ctx ttl phases traffic) :
    Orderly traffic :=
  Run.invariant (fun _ traffic => Orderly traffic) run orderly_new fun _ _ _ _ orderly step =>
    orderly.step step

theorem Traffic.Reached.service {phases : List Phase} {traffic : Traffic}
    (run : Traffic.Reached ctx ttl phases traffic) :
    Run (Service.Step ctx ttl) (.new ttl) (phases.filterMap Phase.record?) traffic.service := by
  refine Run.invariant (fun phases traffic =>
    Run (Service.Step ctx ttl) (.new ttl) (phases.filterMap Phase.record?)
    traffic.service) run .start ?_
  intro phases phase before after earlier step
  rw [List.filterMap_append]
  cases step with
  | start => exact (List.append_nil _).symm ▸ earlier
  | finish step => exact earlier.next step
  | other step quiet => exact earlier.next step

theorem Traffic.Reached.serial {phases : List Phase} {traffic : Traffic}
    (run : Traffic.Reached ctx ttl phases traffic) {call : Calling}
    (member : call ∈ traffic.calls) :
    ∃ task ∈ (traffic.service call.connection).tasks, task.number = call.request ∧
      Op.Serial ctx (symbolsOf ctx task.text) call.op := by
  obtain ⟨task, there, number, next, waits⟩ := run.orderly.asked call member
  have met := serial_of_reached (reached_project run.service call.connection) there
  rw [waits] at met
  exact ⟨task, there, number, met.1⟩

/-- No two calls of the default alias are in progress at once, unless one of them is a wait or a
cancel, or is made by a request whose method calls the symbol table. -/
theorem gated_calls_alone {phases : List Phase} {traffic : Traffic}
    (run : Traffic.Reached ctx ttl phases traffic) (i j : Nat) (one two : Calling)
    (first : traffic.calls[i]? = some one) (second : traffic.calls[j]? = some two) (differ : i ≠ j)
    (here there : Library) (called : one.op.library = some here)
    (called' : two.op.library = some there) (default : here.providerAlias = ctx.config.default)
    (default' : there.providerAlias = ctx.config.default) (unwaiting : one.op.waits = false)
    (unwaiting' : two.op.waits = false) :
    ∃ call ∈ [one, two], call.op.direct = true ∧ ∃ task ∈ (traffic.service call.connection).tasks,
      task.number = call.request ∧ symbolsOf ctx task.text = true := by
  have shared {call : Calling} {library : Library} (member : call ∈ traffic.calls)
      (calls : call.op.library = some library)
      (same : library.providerAlias = ctx.config.default) (unwaiting : call.op.waits = false) :
      call.op.gate = some 0 ∨ call.op.direct = true ∧
        ∃ task ∈ (traffic.service call.connection).tasks,
        task.number = call.request ∧ symbolsOf ctx task.text = true := by
    obtain ⟨task, running, number, keeps⟩ := run.serial member
    cases direct : call.op.direct with
    | true => exact .inr ⟨rfl, task, running, number, keeps.permitted direct⟩
    | false =>
      left
      rw [Op.gate, unwaiting, direct, calls]
      -- A provider of the default alias is reached through the gate with number 0.
      exact keeps.gated direct library calls same
  have member := List.mem_of_getElem? first
  have member' := List.mem_of_getElem? second
  rcases shared member called default unwaiting with held | direct
  · rcases shared member' called' default' unwaiting' with held' | direct
    · have apart := List.pairwise_iff_getElem.mp run.orderly.apart
      obtain ⟨bound, at_i⟩ := List.getElem?_eq_some_iff.mp first
      obtain ⟨bound', at_j⟩ := List.getElem?_eq_some_iff.mp second
      -- Both would hold that gate, in one order or the other.
      rcases Nat.lt_or_gt_of_ne differ with before | behind
      · exact absurd (at_j ▸ held') (apart i j bound bound' before 0 (at_i ▸ held))
      · exact absurd (at_i ▸ held) (apart j i bound' bound behind 0 (at_j ▸ held'))
    · exact ⟨two, by simp, direct⟩
  · exact ⟨one, by simp, direct⟩

end invariant

section fresh

variable {ctx : SkfContext} {ttl : Duration} {calls : List Calling}

theorem Traffic.Step.receives (c : Nat) (text : String) {service : Service}
    (new : service c = .new ttl) :
    Traffic.Step ctx ttl ⟨service, calls⟩ (.other ⟨c, ⟨0, .received text⟩⟩)
      ⟨Function.update service c ⟨1, .task ⟨0, text, .new ttl, handleRequest ctx text .EN⟩, []⟩,
        calls⟩ := by
  refine .other (.at ?_) fun _ _ impossible => ?_
  · rw [new]
    exact .receive text
  · cases impossible

theorem Traffic.Step.begins (c : Nat) (op : Op) {text : String} {state : SessionState}
    {next : op.Reply → Program Skf Panic (RpcResponse × Language)} {service : Service}
    (running : service c = ⟨1, .task ⟨0, text, state, .call op next⟩, []⟩)
    (elsewhere : ∀ call ∈ calls, call.connection ≠ c)
    (free : ∀ gate ∈ op.gate, ∀ call ∈ calls, call.op.gate ≠ some gate) :
    Traffic.Step ctx ttl ⟨service, calls⟩ (.begun ⟨c, 0, op⟩)
      ⟨service, ⟨c, 0, op⟩ :: calls⟩ := by
  have member : ⟨0, text, state, .call op next⟩ ∈ (service c).tasks := by
    rw [running]
    exact List.mem_cons_self
  exact .start member rfl (fun call there same => absurd same (elsewhere call there)) free

end fresh

/-- A state that is asked for through the provider, and a list of applications asked of the symbol
table. -/
def twoClients : SkfContext :=
  .serving [("state", ⟨"GetDevState", [.null, .string "token"], none, none⟩),
    ("list", ⟨"EnumApplication", [.string "GM3000", .string "token"], none, none⟩)]

def tokenName : CString := ⟨"token", by decide⟩

def heldCall : Calling := ⟨0, 0, .provider (.deviceState ⟨"GM3000", some 0⟩ "token")⟩

def besideCall : Calling := ⟨1, 0, .vendor (.connectDev ⟨"GM3000", none⟩ tokenName)⟩

/-- Both are in progress at once: the second takes no gate. -/
theorem calls_overlap :
    ∃ phases service, Traffic.Reached twoClients 0 phases ⟨service, [besideCall, heldCall]⟩ := by
  have looks : Task.Performs twoClients 0 ⟨0, "list", .new 0, handleRequest twoClients "list" .EN⟩
      ⟨.host (.readCache "GM3000"), true⟩ _ :=
        .mk rfl trivial fun _ none => absurd none (by simp [Op.reading])
  -- The first client is in its call; the second looks its library up and then calls.
  have first := Run.start.next (@Traffic.Step.receives twoClients 0 [] 0 "state" (.new 0) rfl)
  have second := first.next (.begins 0 heldCall.op rfl (by simp) (by simp))
  have third := second.next (.receives 1 "list" rfl)
  have fourth := third.next (.begins 1 (.host (.readCache "GM3000")) rfl (by simp)
    (by simp [Op.gate, Op.library]))
  have fifth : Traffic.Reached twoClients 0 _ ⟨_, [heldCall]⟩ := fourth.next
    (@Traffic.Step.finish twoClients 0 _ _ [] [heldCall] 1 0 0 ⟨.host (.readCache "GM3000"), true⟩
      (.at (.perform looks)))
  have sixth := fifth.next (.begins 1 besideCall.op rfl (by simp [heldCall])
    (by simp [Op.gate, Op.direct, besideCall]))
  exact ⟨_, _, sixth⟩

theorem gated_calls_alone_overlap : ∃ phases traffic, Traffic.Reached twoClients 0 phases traffic ∧
    traffic.calls = [besideCall, heldCall] ∧ ∃ call ∈ [besideCall, heldCall],
      call.op.direct = true ∧
      ∃ task ∈ (traffic.service call.connection).tasks, task.number = call.request ∧
        symbolsOf twoClients task.text = true := by
  obtain ⟨phases, service, run⟩ := calls_overlap
  exact ⟨phases, _, run, rfl,
    gated_calls_alone run 0 1 besideCall heldCall rfl rfl (by decide) _ _ rfl rfl rfl rfl rfl rfl⟩

end SkfService
