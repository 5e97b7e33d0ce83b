import SkfService.Provider.GuardSteps

/-! When the native provider closes its handles. -/

set_option autoImplicit false

namespace SkfService.Native

open Interaction

theorem Sound.step {log : List Entry} {before after : State} {entry : Entry}
    (sound : Sound log before) (step : Step before entry after) : Sound (log ++ [entry]) after := by
  cases step with
  | invoke callable => exact sound.invoke callable rfl
  | dropBox found boxed unborrowed => exact sound.dropBox found boxed unborrowed rfl
  | lock => exact sound.lock rfl
  | unlock => exact sound.unlock rfl
  | execute executes =>
    cases executes with
    | opened raw => exact sound.opened rfl
    | refused => exact sound.call (.inl ⟨_, _, rfl⟩) rfl
    | called => exact sound.call (.inr ⟨_, rfl⟩) rfl
    | close found => exact sound.close found
    | dropArc found => exact sound.dropArc found rfl

theorem sound_new (threads : Nat) : Sound [] (.new threads) := by
  have idle : pending (List.replicate threads []) = fun _ => 0 := by
    funext instr
    simp [pending]
  refine ⟨?_, ?_, ?_, ?_, ?_, ?_⟩
  · intro i thread found
    obtain ⟨bound, same⟩ := List.getElem?_eq_some_iff.mp found
    rw [← same]
    simp only [State.new, List.getElem_replicate]
    exact .idle
  · intro i held
    cases held
  · intro n
    simp [State.new, idle, strongOf, boxes, reading, children]
  · intro n
    simp [State.new, idle, endings, dead, reading]
  · intro n
    simp [State.new, closings, rawOf, reading]
  · intro front thread n back same
    simp at same

theorem sound_reached {threads : Nat} {log : List Entry} {s : State} (run : Reached threads log s) :
    Sound log s :=
  Run.invariant Sound run (sound_new threads) fun _ _ _ _ sound step => sound.step step

/-- A thread that waits for the gate does not hold it, and one that calls into the library does. -/
theorem Sound.gate_held {log : List Entry} {s : State} (sound : Sound log s) {i : Nat}
    {instr : Instr} {rest : List Instr} (found : s.threads[i]? = some (instr :: rest)) :
    (instr = .gateLock → s.gate ≠ some i) ∧
      (∀ n, instr = .close n ∨ instr = .call n → s.gate = some i) := by
  have shape := sound.shapes i _ found
  constructor
  · rintro rfl held
    rw [held, beq_self_eq_true] at shape
    generalize spelled : Instr.gateLock :: rest = thread at shape
    generalize holds : true = yes at shape
    cases shape with
    | idle => cases holds
    | entering => cases holds
    | inside callable =>
      cases spelled
      cases callable
    | leaving => cases spelled
    | dropping => cases holds
    | destroying => cases holds
    | closing => cases spelled
  · rintro n (rfl | rfl)
    · exact beq_iff_eq.mp shape.closes.1
    · exact beq_iff_eq.mp (shape.calling (.inr ⟨n, rfl⟩)).1

def Happened.runs : Happened → Bool
  | .began | .boxDropped _ => false
  | _ => true

theorem split_at {threads : List (List Instr)} {i : Nat} {thread : List Instr}
    (found : threads[i]? = some thread) :
    ∃ front back, threads = front ++ thread :: back ∧ front.length = i := by
  obtain ⟨bound, same⟩ := List.getElem?_eq_some_iff.mp found
  refine ⟨threads.take i, threads.drop (i + 1), ?_, ?_⟩
  · rw [← same, ← List.drop_eq_getElem_cons bound, List.take_append_drop]
  · rw [List.length_take]
    omega

/-- As long as a thread has something left to run, some thread can go on: no close waits for ever. -/
theorem Sound.progress {log : List Entry} {s : State} (sound : Sound log s) {i : Nat}
    {thread : List Instr} (found : s.threads[i]? = some thread) (busy : thread ≠ []) :
    ∃ entry after, Step s entry after ∧ entry.happened.runs = true := by
  obtain ⟨guards, gate, threads⟩ := s
  cases gate with
  | some j =>
    -- The holder of the gate is inside a method or a destructor, and nothing there waits.
    obtain ⟨holder, there⟩ : ∃ holder, threads[j]? = some holder :=
      ⟨_, List.getElem?_eq_getElem (sound.holder j rfl)⟩
    have shape := sound.shapes j holder there
    obtain ⟨front, back, rfl, rfl⟩ := split_at there
    generalize holds : (some front.length == some front.length) = yes at shape
    cases shape with
    | inside callable =>
      cases callable with
      | openDevice => exact ⟨_, _, .execute .refused, rfl⟩
      | openOn => exact ⟨_, _, .execute .refused, rfl⟩
      | call => exact ⟨_, _, .execute .called, rfl⟩
    | leaving parent => exact ⟨_, _, .unlock, rfl⟩
    | closing found =>
      refine ⟨_, _, .execute (.close found), ?_⟩
      split <;> rfl
    | idle => simp at holds
    | entering => simp at holds
    | dropping => simp at holds
    | destroying => simp at holds
  | none =>
    have shape := sound.shapes i thread found
    obtain ⟨front, back, rfl, rfl⟩ := split_at found
    generalize holds : ((none : Option Nat) == some front.length) = no at shape
    cases shape with
    | idle => exact absurd rfl busy
    | entering callable => exact ⟨_, _, .lock, rfl⟩
    | destroying => exact ⟨_, _, .lock, rfl⟩
    | dropping n =>
      have strong := sound.strong n
      rw [pending_append, List.count_cons_self] at strong
      cases there : guards[n]? with
      | none =>
        rw [strongOf, reading, there, Option.map_none, Option.getD_none] at strong
        omega
      | some guard => exact ⟨_, _, .execute (.dropArc there), rfl⟩
    | inside => cases holds
    | leaving => cases holds
    | closing => cases holds

/-- A guard is of a kind that is opened on its parent's, and was opened after it. -/
def Typed (guards : List Guard) : Prop :=
  ∀ (c : Nat) (guard : Guard), guards[c]? = some guard →
    match guard.parent with
    | none => guard.kind.parent = none
    | some n => n < c ∧ ∃ on, guards[n]? = some on ∧ guard.kind.parent = some on.kind

theorem Typed.of_same {guards after : List Guard} (typed : Typed guards)
    (ext : Extends guards after) (length : after.length = guards.length) : Typed after := by
  intro c guard found
  obtain ⟨bound, -⟩ := List.getElem?_eq_some_iff.mp found
  rw [length] at bound
  have earlier := List.getElem?_eq_getElem bound
  obtain ⟨guard', there, kind, parent, -⟩ := ext c _ earlier
  cases found.symm.trans there
  have known := typed c _ earlier
  rw [← parent] at known
  cases on : guard.parent with
  | none =>
    rw [on] at known
    simp only at known ⊢
    rw [kind]
    exact known
  | some n =>
    rw [on] at known
    obtain ⟨before, on, at_n, fits⟩ := known
    obtain ⟨on', at_n', kind', -, -⟩ := ext n on at_n
    exact ⟨before, on', at_n', by rw [kind, kind']; exact fits⟩

theorem Typed.opened {guards : List Guard} {kind : GuardKind} {parent : Option Nat}
    (typed : Typed guards) (callable : Callable guards (.openOn kind parent)) (raw : Nat) :
    Typed (clone guards parent ++ [⟨kind, parent, raw, 1, true⟩]) := by
  have cloned : Typed (clone guards parent) :=
    typed.of_same (extends_clone parent) (length_clone parent)
  have grown :
      Extends (clone guards parent) (clone guards parent ++ [⟨kind, parent, raw, 1, true⟩]) :=
    extends_append (extends_refl _) _
  intro c guard found
  -- The guard was there before, or it is the new one at the end.
  rcases Nat.lt_or_ge c (clone guards parent).length with inside | last
  · rw [List.getElem?_append_left inside] at found
    have known := cloned c guard found
    cases on : guard.parent with
    | none =>
      rw [on] at known
      exact known
    | some n =>
      rw [on] at known
      obtain ⟨before, on, at_n, fits⟩ := known
      obtain ⟨on', at_n', kind', -, -⟩ := grown n on at_n
      exact ⟨before, on', at_n', by rw [kind']; exact fits⟩
  · rw [List.getElem?_append_right last] at found
    rw [List.mem_singleton.mp (List.mem_of_getElem? found)]
    cases callable with
    | openDevice => rfl
    | @openOn _ n on there boxed fits =>
      obtain ⟨bound, -⟩ := List.getElem?_eq_some_iff.mp there
      rw [length_clone] at last
      obtain ⟨on', at_n', kind', -, -⟩ := extends_append (@extends_clone guards (some n))
        ⟨kind, some n, raw, 1, true⟩ n on there
      exact ⟨Nat.lt_of_lt_of_le bound last, on', at_n', by rw [kind']; exact fits⟩

theorem Typed.step {log : List Entry} {before after : State} {entry : Entry}
    (typed : Typed before.guards) (sound : Sound log before) (step : Step before entry after) :
    Typed after.guards := by
  cases step with
  | invoke => exact typed
  | dropBox => exact typed.of_same (extends_modify fun _ => ⟨rfl, rfl, rfl⟩) (List.length_modify ..)
  | lock => exact typed
  | unlock => exact typed
  | execute executes =>
    cases executes with
    | opened raw => exact typed.opened (sound.shape.calling (.inl ⟨_, _, rfl⟩)).2.2 raw
    | refused => exact typed
    | called => exact typed
    | close => exact typed
    | dropArc =>
      exact typed.of_same (extends_modify fun _ => ⟨rfl, rfl, rfl⟩) (List.length_modify ..)

theorem typed_reached {threads : Nat} {log : List Entry} {s : State} (run : Reached threads log s) :
    Typed s.guards := by
  have both : Sound log s ∧ Typed s.guards := by
    refine Run.invariant (fun log s => Sound log s ∧ Typed s.guards) run ⟨sound_new threads, ?_⟩ ?_
    · intro c guard found
      cases found
    · intro log entry before after inv step
      exact ⟨inv.1.step step, inv.2.step inv.1 step⟩
  exact both.2

/-- With every box dropped and every thread at rest nothing refers to a guard: its children are
younger. -/
theorem Sound.unreferenced {log : List Entry} {s : State} (sound : Sound log s)
    (typed : Typed s.guards) (unboxed : ∀ guard ∈ s.guards, guard.boxed = false)
    (idle : ∀ thread ∈ s.threads, thread = []) (k n : Nat) (near : s.guards.length ≤ n + k) :
    strongOf s.guards n = 0 := by
  have silent (instr : Instr) : pending s.threads instr = 0 := by
    rw [pending, List.flatten_eq_nil_iff.mpr idle]
    rfl
  have unowned : boxes s.guards n = 0 := by
    cases found : s.guards[n]? with
    | none =>
      rw [boxes, reading, found]
      rfl
    | some guard =>
      rw [boxes, reading_found found, unboxed guard (List.mem_of_getElem? found)]
      rfl
  -- From the youngest guard down: what holds a reference to a guard is a younger one.
  induction k generalizing n with
  | zero =>
    rw [strongOf, reading, List.getElem?_eq_none (Nat.add_zero n ▸ near)]
    rfl
  | succ k ih =>
    have strong := sound.strong n
    have childless : children s.guards n = 0 := by
      refine List.countP_eq_zero.mpr fun child member => ?_
      obtain ⟨c, bound, at_c⟩ := List.getElem_of_mem member
      have found : s.guards[c]? = some child := at_c ▸ List.getElem?_eq_getElem bound
      by_cases on : child.parent = some n
      · have known := typed c child found
        rw [on] at known
        have owned : boxes s.guards c = 0 := by
          rw [boxes, reading_found found, unboxed child member]
          rfl
        have gone := ih c (by omega) owned
        rw [strongOf, reading_found found] at gone
        simp [gone]
      · simp [on]
    rw [silent] at strong
    omega

/-- Every handle is closed once and no null handle is; when all boxes are dropped and all threads
are at rest, every handle has been closed. Before a handle is closed those opened on it have been, a
container's before its application's, an application's or a digest's before its device's. A thread
that waits for the gate does not hold it, and a thread that closes holds it. -/
theorem guards_close_once {threads : Nat} {log : List Entry} {s : State}
    (run : Reached threads log s) :
    (∀ n, (closings log).count n ≤ 1 ∧ (rawOf s.guards n = 0 → n ∉ closings log)) ∧
      ((∀ guard ∈ s.guards, guard.boxed = false) → (∀ thread ∈ s.threads, thread = []) →
        ∀ (n : Nat) (guard : Guard), s.guards[n]? = some guard → guard.raw ≠ 0 →
          (closings log).count n = 1) ∧
      Typed s.guards ∧ Ordered log s.guards ∧
      ∀ (i : Nat) (instr : Instr) (rest : List Instr), s.threads[i]? = some (instr :: rest) →
        (instr = .gateLock → s.gate ≠ some i) ∧ ∀ n, instr = .close n ∨ instr = .call n →
          s.gate = some i := by
  have sound := sound_reached run
  have typed := typed_reached run
  -- A guard counts as dead once at most.
  have once (n : Nat) : dead s.guards n ≤ 1 := by
    unfold dead reading
    cases s.guards[n]? with
    | none => exact Nat.zero_le _
    | some guard =>
      simp only [Option.map_some, Option.getD_some]
      split <;> omega
  refine ⟨?_, ?_, typed, sound.ordered, fun i instr rest => sound.gate_held⟩
  · intro n
    have ended := sound.ended n
    have told := sound.told n
    have bound := once n
    constructor
    · split at told <;> omega
    · intro null
      rw [if_pos null] at told
      exact List.count_eq_zero.mp told
  · intro unboxed idle n guard found some
    have gone := sound.unreferenced typed unboxed idle s.guards.length n (by omega)
    rw [strongOf, reading_found found] at gone
    have ended := sound.ended n
    have told := sound.told n
    rw [pending, List.flatten_eq_nil_iff.mpr idle, List.count_nil, dead, reading_found found,
      if_pos gone] at ended
    rw [rawOf, reading_found found, if_neg some] at told
    omega

section teardown

/-- A device and an application are opened, and then their boxes dropped, the device's first. -/
def teardownLog : List Entry :=
  [.began, .locked, .opened 0, .unlocked, .began, .locked, .opened 1, .unlocked, .boxDropped 0,
    .arcDropped 0,
    .boxDropped 1, .arcDropped 1, .locked, .closed 1, .unlocked, .arcDropped 0, .locked, .closed 0,
    .unlocked].map (⟨0, ·⟩)

def tornDown : State :=
  ⟨[⟨.NativeDevice, none, 7, 0, false⟩, ⟨.NativeApplication, some 0, 8, 0, false⟩], none, [[]]⟩

theorem teardown_reached : Reached 1 teardownLog tornDown := by
  refine .cons (@Step.invoke _ _ [] [] _ .openDevice) ?_
  refine .cons (@Step.lock _ [] [] _) ?_
  refine .cons (@Step.execute _ _ _ [] [] _ _ _ _ (.opened 7)) ?_
  refine .cons (@Step.unlock _ [] [] _) ?_
  refine .cons (@Step.invoke _ _ [] [] (.openOn .NativeApplication (some 0)) (.openOn rfl rfl rfl))
    ?_
  refine .cons (@Step.lock _ [] [] _) ?_
  refine .cons (@Step.execute _ _ _ [] [] _ _ _ _ (.opened 8)) ?_
  refine .cons (@Step.unlock _ [] [] _) ?_
  refine .cons (@Step.dropBox _ _ [] [] 0 _ rfl rfl (by simp)) ?_
  refine .cons (@Step.execute _ _ _ [] [] _ _ _ _ (.dropArc rfl)) ?_
  refine .cons (@Step.dropBox _ _ [] [] 1 _ rfl rfl (by simp)) ?_
  refine .cons (@Step.execute _ _ _ [] [] _ _ _ _ (.dropArc rfl)) ?_
  refine .cons (@Step.lock _ [] [] _) ?_
  refine .cons (@Step.execute _ _ _ [] [] _ _ _ _
    (@Executes.close _ 1 ⟨.NativeApplication, some 0, 8, 0, false⟩ rfl)) ?_
  refine .cons (@Step.unlock _ [] [] _) ?_
  refine .cons (@Step.execute _ _ _ [] [] _ _ _ _ (.dropArc rfl)) ?_
  refine .cons (@Step.lock _ [] [] _) ?_
  refine .cons (@Step.execute _ _ _ [] [] _ _ _ _
    (@Executes.close _ 0 ⟨.NativeDevice, none, 7, 0, false⟩ rfl)) ?_
  exact .cons (@Step.unlock _ [] [] _) .start

theorem guards_close_once_teardown :
    (∀ n, (closings teardownLog).count n ≤ 1 ∧
      (rawOf tornDown.guards n = 0 → n ∉ closings teardownLog)) ∧
      ((∀ guard ∈ tornDown.guards, guard.boxed = false) →
        (∀ thread ∈ tornDown.threads, thread = []) →
        ∀ (n : Nat) (guard : Guard), tornDown.guards[n]? = some guard → guard.raw ≠ 0 →
          (closings teardownLog).count n = 1) ∧
      Typed tornDown.guards ∧ Ordered teardownLog tornDown.guards ∧
      ∀ (i : Nat) (instr : Instr) (rest : List Instr), tornDown.threads[i]? = some (instr :: rest) →
        (instr = .gateLock → tornDown.gate ≠ some i) ∧
          ∀ n, instr = .close n ∨ instr = .call n → tornDown.gate = some i :=
  guards_close_once teardown_reached

end teardown

end SkfService.Native
