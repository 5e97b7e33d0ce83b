import SkfService.Logging.Rotation
import SkfService.Machine.Steps

/-! Rotation when file operations fail: the size counter, and what becomes of the rotated files. -/

set_option autoImplicit false

namespace SkfService

open Text Logging Machine

namespace RotatingFileLogger

structure Call where
  entry : LogEntry
  faults : Faults

def step (maxBytes : Nat) (inner : Inner) (call : Call) : Inner :=
  log maxBytes inner call.entry call.faults

variable {faults : Faults} {dir : Directory} {inner : Inner} {call : Call} {maxBytes keep : Nat}

section active

theorem shift_numbered_active (i j : Nat) :
    shift faults (.numbered i) (.numbered j) dir .active = dir .active := by
  unfold shift
  split
  · simp
  · rfl

theorem shiftNumbered_active (n : Nat) (dir : Directory) :
    shiftNumbered faults n dir .active = dir .active := by
  induction n generalizing dir with
  | zero => rfl
  | succ n ih => rw [shiftNumbered, ih, shift_numbered_active]

/-- Of all the operations only its own rename moves the active file. -/
theorem cascade_active : cascade faults keep dir .active =
    if faults.rename .active then dir .active else none := by
  have before : shiftNumbered faults (keep - 1)
      (if faults.remove then dir else dir.remove (.numbered keep)) .active =
      dir .active := by
    rw [shiftNumbered_active]
    split
    · rfl
    · simp
  unfold cascade shift
  rw [before]
  cases found : dir .active with
  | none =>
    rw [Option.isSome_none, Bool.false_and, if_neg Bool.false_ne_true, before, found]
    split <;> rfl
  | some content =>
    cases faulty : faults.rename .active with
    | true => simpa [faulty] using before.trans found
    | false => simp

end active

def Truthful (inner : Inner) : Prop :=
  inner.file = true → ∃ content, inner.dir .active = some content ∧ inner.written = content.length

/-- A rotation that cannot move a non-empty active file, and opens it again. -/
def LeavesBehind (maxBytes : Nat) (inner : Inner) (call : Call) : Prop :=
  Full maxBytes inner call.entry ∧ (∃ content, inner.dir .active = some content ∧ content ≠ []) ∧
    call.faults.rename .active = true ∧ call.faults.reopen = false

theorem truthful_new (keep : Nat) (dir : Directory) : Truthful (new keep dir) := by
  intro _
  exact ⟨(dir .active).getD [], by simp [new], by simp [new]⟩

theorem truthful_write (truthful : Truthful inner) (entry : LogEntry) :
    Truthful (write entry inner) := by
  unfold write
  split
  · next opened =>
    intro _
    obtain ⟨content, found, counted⟩ := truthful opened
    refine ⟨content ++ bytes entry, ?_, ?_⟩
    · simp [found]
    · simp [counted, bytes_length, Nat.add_assoc]
  · exact truthful

theorem step_rotated (full : Full maxBytes inner call.entry)
    (reopens : call.faults.reopen = false) :
    (step maxBytes inner call).dir .active =
        some (((if call.faults.rename .active then inner.dir .active else none).getD []) ++
          bytes call.entry) ∧
      (step maxBytes inner call).file = true ∧
        (step maxBytes inner call).written = (bytes call.entry).length := by
  have rotated : rotate call.faults inner =
      { inner with
        file := true
        dir := (cascade call.faults inner.keep inner.dir).create .active
        written := 0 } := by
    unfold rotate
    rw [reopens]
    rfl
  rw [step, log, if_pos full, rotated, write, if_pos rfl]
  refine ⟨?_, rfl, ?_⟩
  · simp [cascade_active]
  · simp [bytes_length]

theorem step_closed (full : Full maxBytes inner call.entry) (fails : call.faults.reopen = true) :
    (step maxBytes inner call).file = false ∧ (step maxBytes inner call).dir .active =
      if call.faults.rename .active then inner.dir .active else none := by
  have rotated : rotate call.faults inner =
      { inner with file := false, dir := cascade call.faults inner.keep inner.dir } := by
    unfold rotate
    rw [fails]
    rfl
  rw [step, log, if_pos full, rotated, write, if_neg (by simp)]
  exact ⟨rfl, cascade_active⟩

/-- What is left in the active file when it is opened again is what could not be moved. -/
theorem leavesBehind_iff (full : Full maxBytes inner call.entry)
    (reopens : call.faults.reopen = false) :
    LeavesBehind maxBytes inner call ↔
      (if call.faults.rename .active then inner.dir .active else none).getD [] ≠ [] := by
  rw [LeavesBehind, reopens]
  cases call.faults.rename .active with
  | false => simp
  | true =>
    cases found : inner.dir .active with
    | none => simp
    | some content => simp [full]

/-- The counter goes wrong exactly where a file is left behind. -/
theorem truthful_step_iff (truthful : Truthful inner) (call : Call) :
    Truthful (step maxBytes inner call) ↔ ¬LeavesBehind maxBytes inner call := by
  by_cases full : Full maxBytes inner call.entry
  · cases reopens : call.faults.reopen with
    | true =>
      have closed := (step_closed full reopens).1
      apply iff_of_true
      · intro opened
        rw [closed] at opened
        cases opened
      · rintro ⟨-, -, -, opens⟩
        rw [reopens] at opens
        cases opens
    | false =>
      obtain ⟨active, opened, written⟩ := step_rotated full reopens
      rw [leavesBehind_iff full reopens, not_not, Truthful, opened, active, written]
      simp
  · have wrote : step maxBytes inner call = write call.entry inner := by rw [step, log, if_neg full]
    rw [wrote]
    exact iff_of_true (truthful_write truthful call.entry) fun behind => full behind.1

/-- The active file is within the limit, or one line, or still as it was found. -/
def Within (maxBytes : Nat) (found : Option (List UInt8)) (inner : Inner) : Prop :=
  ∀ content, inner.dir .active = some content →
    content.length ≤ maxBytes ∨ SingleLine content ∨ found = some content

theorem within_new (keep : Nat) (dir : Directory) :
    Within maxBytes (dir .active) (new keep dir) := by
  intro content active
  cases found : dir .active with
  | none =>
    left
    have empty : content = [] := by simpa [new, found, eq_comm] using active
    rw [empty]
    exact Nat.zero_le _
  | some old =>
    right
    right
    simpa [new, found] using active

theorem within_step {found : Option (List UInt8)} (truthful : Truthful inner)
    (within : Within maxBytes found inner) (call : Call)
    (moves : ¬LeavesBehind maxBytes inner call) :
    Within maxBytes found (step maxBytes inner call) := by
  intro content active
  by_cases full : Full maxBytes inner call.entry
  · cases reopens : call.faults.reopen with
    | true =>
      rw [(step_closed full reopens).2] at active
      split at active
      · exact within content active
      · cases active
    | false =>
      have empty := not_not.mp (mt (leavesBehind_iff full reopens).mpr moves)
      rw [(step_rotated full reopens).1, empty, List.nil_append, Option.some.injEq] at active
      subst active
      exact .inr (.inl (bytes_singleLine call.entry))
  · rw [step, log, if_neg full, write] at active
    split at active
    · next opened =>
      -- The counter is the length of what was there, so the record has room.
      obtain ⟨old, held, counted⟩ := truthful opened
      dsimp only at active
      rw [append_apply, if_pos rfl, held, Option.map_some, Option.some.injEq] at active
      subst active
      left
      have room := Nat.le_of_not_lt full
      rw [List.length_append, bytes_length, ← counted]
      omega
    · exact within content active

structure Sound (maxBytes : Nat) (found : Option (List UInt8)) (inner : Inner) : Prop where
  truthful : Truthful inner
  within : Within maxBytes found inner

end RotatingFileLogger

open RotatingFileLogger

/-- The counter stays the length of the open file in exactly the runs in which no rotation leaves a
non-empty file in place and opens it again; in such a run the active file exceeds the limit only as
found or as a single line. -/
theorem size_counter_iff (maxBytes keep : Nat) (dir : Directory) (calls : List Call) :
    ((∀ inner ∈ visited (step maxBytes) (new keep dir) calls, Truthful inner) ↔
      Along (step maxBytes) (fun inner call => ¬LeavesBehind maxBytes inner call)
        (new keep dir) calls) ∧
    (Along (step maxBytes) (fun inner call => ¬LeavesBehind maxBytes inner call)
      (new keep dir) calls →
      ∀ inner ∈ visited (step maxBytes) (new keep dir) calls, ∀ content,
        inner.dir .active = some content →
        content.length ≤ maxBytes ∨ SingleLine content ∨ dir .active = some content) := by
  constructor
  · exact visited_iff (truthful_new keep dir)
      (fun _ call truthful => truthful_step_iff truthful call) calls
  · intro along
    have start : Sound maxBytes (dir .active) (new keep dir) :=
      ⟨truthful_new keep dir, within_new keep dir⟩
    have sound : ∀ inner ∈ visited (step maxBytes) (new keep dir) calls,
        Sound maxBytes (dir .active) inner :=
      visited_of_along start (fun inner call held moves =>
        ⟨(truthful_step_iff held.truthful call).mpr moves,
          within_step held.truthful held.within call moves⟩) along
    intro inner member
    exact (sound inner member).within

namespace HeldOpen

/-! A viewer holds the active file open while the second record is logged, so it cannot be renamed. -/

def started : LogEntry := ⟨0, .Info, "skf", "started"⟩
def stopped : LogEntry := ⟨1, .Info, "skf", "stopped"⟩

theorem started_length : (utf8 (line started)).length = 58 := by decide
theorem stopped_length : (utf8 (line stopped)).length = 58 := by decide

def calls : List Call := [⟨started, .none⟩, ⟨stopped, ⟨false, fun _ => true, false⟩⟩]

def first : Inner := step 64 (new 7 .empty) ⟨started, .none⟩

def second : Inner := step 64 first ⟨stopped, ⟨false, fun _ => true, false⟩⟩

theorem second_visited : second ∈ visited (step 64) (new 7 .empty) calls :=
  List.mem_cons_of_mem _ (List.mem_cons_of_mem _ List.mem_cons_self)

theorem first_eq :
    first = ⟨true, 59, 7, Directory.append (Directory.create .empty .active) .active
      (bytes started)⟩ := by
  have fits : ¬Full 64 (new 7 .empty) started := by
    rw [Full, started_length]
    decide
  rw [first, step, log, if_neg fits, write_open rfl, started_length]
  rfl

theorem second_rotates : Full 64 first stopped := by
  have counted : first.written = 59 := by rw [first_eq]
  rw [Full, stopped_length, counted]
  decide

theorem second_left : LeavesBehind 64 first ⟨stopped, ⟨false, fun _ => true, false⟩⟩ := by
  refine ⟨second_rotates, ⟨bytes started, ?_, ?_⟩, rfl, rfl⟩
  · rw [first_eq]
    simp [Directory.empty]
  · simp [bytes]

end HeldOpen

theorem counter_forgets_file : ¬∀ maxBytes keep dir calls,
    ∀ inner ∈ visited (step maxBytes) (new keep dir) calls, Truthful inner := by
  intro always
  have first : Truthful HeldOpen.first :=
    always 64 7 .empty HeldOpen.calls _ (List.mem_cons_of_mem _ List.mem_cons_self)
  have second := always _ _ _ _ _ HeldOpen.second_visited
  exact (truthful_step_iff first _).mp second HeldOpen.second_left

end SkfService
