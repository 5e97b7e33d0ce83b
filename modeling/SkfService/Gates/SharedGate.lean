import SkfService.Gates.Traffic

/-! One gate for a library. Calls through the provider of the default alias share gate 0. Calls
through the symbol table take no gate, and a provider made for another alias brings its own. -/

set_option autoImplicit false

namespace SkfService

open Interaction

namespace Op

/-- The wait and the cancel, through a provider or through the symbol table. -/
def awaits : Op → Bool
  | .vendor (.waitForDevEvent _ _) => true
  | op => op.waits

/-- A call that is not a wait or a cancel goes through the provider of the default alias. -/
def Shared (ctx : SkfContext) (op : Op) : Prop :=
  op.awaits = false → ∀ library ∈ op.library,
    op.direct = false ∧ library.providerAlias = ctx.config.default

theorem waits_of_awaits {op : Op} (unwaiting : op.awaits = false) : op.waits = false := by
  cases op with
  | provider op => exact unwaiting
  | vendor op => rfl
  | session op => rfl
  | host op => rfl

end Op

/-- No two calls in progress reach one library, unless one of them is a wait or a cancel. -/
def Traffic.Exclusive (traffic : Traffic) : Prop :=
  traffic.calls.Pairwise fun one two => one.op.awaits = false → two.op.awaits = false →
    ∀ here ∈ one.op.library, ∀ there ∈ two.op.library, here.providerAlias ≠ there.providerAlias

/-- One gate for each alias, which every call that was begun took, apart from waits and cancels. -/
def OneGate (phases : List Phase) : Prop :=
  ∃ gates : String → Nat, ∀ call, .begun call ∈ phases → call.op.awaits = false →
    ∀ library ∈ call.op.library, call.op.gate = some (gates library.providerAlias)

section runs

variable {ctx : SkfContext} {ttl : Duration} {phases : List Phase} {traffic : Traffic}

/-- A call in progress was begun. -/
theorem Traffic.Reached.begun (run : Traffic.Reached ctx ttl phases traffic) :
    ∀ call ∈ traffic.calls, .begun call ∈ phases := by
  refine Run.invariant (fun phases traffic => ∀ call ∈ traffic.calls, .begun call ∈ phases) run
    (fun _ none => absurd none List.not_mem_nil) ?_
  intro phases phase before after begun step call there
  cases step with
  | start member asks idle free =>
    rcases List.mem_cons.mp there with rfl | earlier
    · exact List.mem_append_right _ List.mem_cons_self
    · exact List.mem_append_left _ (begun call earlier)
  | @finish service after front back c n now event step =>
    have fewer : (front ++ back).Sublist (front ++ ⟨c, n, event.op⟩ :: back) :=
      (List.Sublist.refl front).append (List.sublist_cons_self _ _)
    exact List.mem_append_left _ (begun call (fewer.subset there))
  | other step quiet => exact List.mem_append_left _ (begun call there)

/-- A call through a provider of the default alias was begun with the gate its callers share. -/
theorem Traffic.Reached.gated (run : Traffic.Reached ctx ttl phases traffic) :
    ∀ call, .begun call ∈ phases → call.op.direct = false →
      ∀ library ∈ call.op.library, library.Gated ctx := by
  induction run with
  | start => exact fun _ none => absurd none List.not_mem_nil
  | @next phases phase before after earlier step ih =>
    intro call there indirect library called
    rcases List.mem_append.mp there with before | last
    · exact ih call before indirect library called
    · -- A call that has just begun is one of those in progress.
      have member : call ∈ after.calls := by
        cases List.mem_singleton.mp last
        cases step with
        | start member asks idle free => exact List.mem_cons_self
      have run : Traffic.Reached ctx ttl (phases ++ [phase]) after := earlier.next step
      obtain ⟨task, -, -, keeps⟩ := run.serial member
      exact keeps.gated indirect library called

theorem Traffic.Reached.shared_gate (run : Traffic.Reached ctx ttl phases traffic) {call : Calling}
    (begun : .begun call ∈ phases) (shared : call.op.Shared ctx)
    (unwaiting : call.op.awaits = false) {library : Library}
    (called : library ∈ call.op.library) : call.op.gate = some 0 := by
  obtain ⟨indirect, default⟩ := shared unwaiting library called
  have gated := run.gated call begun indirect library called default
  rw [Op.gate, Op.waits_of_awaits unwaiting, indirect, called]
  exact gated

/-- While every call that is begun goes through the provider of the default alias, apart from waits
and cancels, calls into one library are made one at a time, under one gate. -/
theorem calls_one_at_a_time (run : Traffic.Reached ctx ttl phases traffic)
    (shared : ∀ call, .begun call ∈ phases → call.op.Shared ctx) :
    traffic.Exclusive ∧ OneGate phases := by
  refine ⟨?_, fun _ => 0, fun call begun unwaiting library called =>
    run.shared_gate begun (shared call begun) unwaiting called⟩
  -- Two calls in progress would both hold gate 0.
  refine run.orderly.apart.imp_of_mem fun {one two} first second apart unwaiting unwaiting' here
    called there called' => ?_
  have held := run.shared_gate (run.begun one first) (shared one (run.begun one first)) unwaiting
    called
  have held' := run.shared_gate (run.begun two second) (shared two (run.begun two second))
    unwaiting' called'
  exact absurd held' (apart 0 held)

end runs

/-- Taken together the two are not exclusive, and the direct one holds no gate. -/
theorem calls_overlap_directly : ∃ phases traffic, Traffic.Reached twoClients 0 phases traffic ∧
    ¬traffic.Exclusive ∧ ¬OneGate phases := by
  obtain ⟨phases, service, run⟩ := calls_overlap
  refine ⟨phases, _, run, fun exclusive => ?_, fun one => ?_⟩
  · have apart := (List.pairwise_cons.mp exclusive).1 heldCall List.mem_cons_self
    exact apart rfl rfl _ rfl _ rfl rfl
  · obtain ⟨gates, held⟩ := one
    have gated := held besideCall (run.begun besideCall List.mem_cons_self) rfl _ rfl
    cases gated

def statesAndWait : SkfContext :=
  .serving [("state", ⟨"GetDevState", [.null, .string "token"], none, none⟩),
    ("wait", ⟨"WaitForDevEvent", [], none, none⟩)]

def stateOf (connection : Nat) : Calling :=
  ⟨connection, 0, .provider (.deviceState ⟨"GM3000", some 0⟩ "token")⟩

def waitOf (connection : Nat) : Calling :=
  ⟨connection, 0, .provider (.waitForEvent ⟨"GM3000", some 0⟩ 256)⟩

/-- Two clients ask for the state of a device one after the other, while a third one waits. -/
def statesInTurn : List Phase :=
  [.other ⟨0, ⟨0, .received "state"⟩⟩, .begun (stateOf 0), .other ⟨2, ⟨0, .received "wait"⟩⟩,
    .begun (waitOf 2), .other ⟨1, ⟨0, .received "state"⟩⟩,
    .ended ⟨0, ⟨0, .performed 0 ⟨(stateOf 0).op, some (.ok 2)⟩⟩⟩, .begun (stateOf 1)]

theorem states_in_turn :
    ∃ service, Traffic.Reached statesAndWait 0 statesInTurn ⟨service, [stateOf 1, waitOf 2]⟩ := by
  have answers : Task.Performs statesAndWait 0
      ⟨0, "state", .new 0, handleRequest statesAndWait "state" .EN⟩
      ⟨(stateOf 0).op, some (.ok 2)⟩ _ :=
    .mk rfl trivial fun _ none => absurd none (Option.not_mem_none _)
  have first := Run.start.next (@Traffic.Step.receives statesAndWait 0 [] 0 "state" (.new 0) rfl)
  have second := first.next (.begins 0 (stateOf 0).op rfl (by simp) (by simp))
  have third := second.next (.receives 2 "wait" rfl)
  have fourth := third.next (.begins 2 (waitOf 2).op rfl (by simp)
    (by simp [waitOf, Op.gate, Op.waits]))
  have fifth := fourth.next (.receives 1 "state" rfl)
  have sixth := fifth.next
    (@Traffic.Step.finish statesAndWait 0 _ _ [waitOf 2] [] 0 0 0 ⟨(stateOf 0).op, some (.ok 2)⟩
      (.at (.perform answers)))
  exact ⟨_, sixth.next (.begins 1 (stateOf 1).op rfl (by simp [waitOf])
    (by simp [waitOf, Op.gate, Op.waits]))⟩

theorem shared_in_turn : ∀ call, .begun call ∈ statesInTurn → call.op.Shared statesAndWait := by
  intro call begun
  simp only [statesInTurn, List.mem_cons, Phase.begun.injEq, List.not_mem_nil, or_false,
    reduceCtorEq, false_or] at begun
  rcases begun with rfl | rfl | rfl
  · intro _ library called
    cases called
    exact ⟨rfl, rfl⟩
  · intro unwaiting
    cases unwaiting
  · intro _ library called
    cases called
    exact ⟨rfl, rfl⟩

theorem calls_one_at_a_time_in_turn :
    ∃ traffic, Traffic.Reached statesAndWait 0 statesInTurn traffic ∧
      traffic.calls = [stateOf 1, waitOf 2] ∧ traffic.Exclusive ∧ OneGate statesInTurn := by
  obtain ⟨service, run⟩ := states_in_turn
  exact ⟨_, run, rfl, calls_one_at_a_time run shared_in_turn⟩

end SkfService
