import SkfService.Logging.Faults

/-! What becomes of the rotated files when the active file cannot be opened again. -/

set_option autoImplicit false

namespace SkfService

open Text Logging Machine

namespace RotatingFileLogger

def reopening (fails : Bool) : Faults := { Faults.none with reopen := fails }

variable {maxBytes keep : Nat} {dir : Directory} {inner : Inner} {entry : LogEntry} {fails : Bool}

theorem shiftNumbered_reopening (n : Nat) (dir : Directory) :
    shiftNumbered (reopening fails) n dir = shiftNumbered .none n dir := by
  induction n generalizing dir with
  | zero => rfl
  | succ n ih =>
    rw [shiftNumbered, shiftNumbered, ih]
    rfl

theorem cascade_reopening : cascade (reopening fails) keep dir = cascade .none keep dir := by
  unfold cascade
  dsimp only
  rw [shiftNumbered_reopening]
  rfl

/-- With no rotated files to keep, the active file replaces the first one. -/
theorem cascade_none_zero (i : Nat) : cascade .none 0 dir (.numbered i) =
    if i = 1 ∧ dir .active ≠ none then dir .active else if i = 0 then none
      else dir (.numbered i) := by
  change shift .none .active (.numbered 1) (dir.remove (.numbered 0)) (.numbered i) = _
  unfold shift
  cases found : dir .active with
  | none => simp [found]
  | some content => 
    simp [found, Faults.none]

def reopenStep (maxBytes : Nat) (inner : Inner) (call : LogEntry × Bool) : Inner :=
  log maxBytes inner call.1 (reopening call.2)

theorem write_numbered (i : Nat) :
    (write entry inner).dir (.numbered i) = inner.dir (.numbered i) := by
  unfold write
  split
  · simp
  · rfl

theorem rotate_numbered (i : Nat) :
    (rotate (reopening fails) inner).dir (.numbered i) =
      cascade .none inner.keep inner.dir (.numbered i) := by
  unfold rotate
  rw [cascade_reopening]
  dsimp only
  split
  · rfl
  · simp

/-- The rotated files after a call: they move if the record has no room. -/
theorem reopenStep_numbered (call : LogEntry × Bool) (i : Nat) :
    (reopenStep maxBytes inner call).dir (.numbered i) =
    if Full maxBytes inner call.1 then cascade .none inner.keep inner.dir (.numbered i)
      else inner.dir (.numbered i) := by
  rw [reopenStep, log, write_numbered]
  split
  · exact rotate_numbered i
  · rfl

/-- Content of a rotated file that no rotated file has any more. -/
structure Discarded (before after : Directory) (content : List UInt8) : Prop where
  nonempty : content ≠ []
  held : ∃ i, before (.numbered i) = some content
  gone : ∀ i, after (.numbered i) ≠ some content

def MovedIn (before after : Directory) : Prop :=
  ∃ moved, moved ≠ [] ∧ before .active = some moved ∧ after (.numbered 1) = some moved

def KeepsHistory (before after : Directory) : Prop :=
  ∀ content, Discarded before after content → MovedIn before after

/-- A file that a rotation removes, or replaces without keeping any others. -/
def Last (inner : Inner) (i : Nat) : Prop :=
  i = inner.keep ∨ (inner.keep = 0 ∧ i = 1 ∧ inner.dir .active ≠ none)

/-- The active file has content, or what would be removed has none that another file does not have
too. -/
def SparesHistory (inner : Inner) : Prop :=
  (∃ moved, moved ≠ [] ∧ inner.dir .active = some moved) ∨
    ∀ content i, content ≠ [] → Last inner i → inner.dir (.numbered i) = some content →
      ∃ j, ¬Last inner j ∧ inner.dir (.numbered j) = some content

theorem cascade_vacant (vacant : ∀ moved, moved ≠ [] → inner.dir .active ≠ some moved)
    {content : List UInt8} (nonempty : content ≠ []) :
    (∃ i, cascade .none inner.keep inner.dir (.numbered i) = some content) ↔
      ∃ i, ¬Last inner i ∧ inner.dir (.numbered i) = some content := by
  have other : inner.dir .active ≠ some content := vacant content nonempty
  by_cases kept : 1 ≤ inner.keep
  · rw [cascade_none kept]
    constructor
    · rintro ⟨i, found⟩
      rw [advanced] at found
      split at found
      · exact absurd found other
      · split at found
        -- The file was moved up by one, and the last one was not.
        · refine ⟨i - 1, ?_, found⟩
          rintro (last | ⟨none, -⟩) <;> omega
        · refine ⟨i, ?_, found⟩
          rintro (last | ⟨none, -⟩) <;> omega
    · rintro ⟨i, held, found⟩
      have before : i ≠ inner.keep := fun last => held (.inl last)
      by_cases moves : 1 ≤ i ∧ i < inner.keep
      · refine ⟨i + 1, ?_⟩
        rw [advanced, if_neg (by omega), if_pos (by omega), Nat.add_sub_cancel, found]
      · refine ⟨i, ?_⟩
        rw [advanced, if_neg (by omega), if_neg (by omega), found]
  -- With nothing to keep, the first numbered file is the one that is given up.
  · have none : inner.keep = 0 := by omega
    rw [none]
    constructor
    · rintro ⟨i, found⟩
      rw [cascade_none_zero] at found
      split at found
      · exact absurd found other
      · next stays =>
        split at found
        · cases found
        · next positive =>
          refine ⟨i, ?_, found⟩
          rintro (last | ⟨-, first, present⟩)
          · omega
          · exact stays ⟨first, present⟩
    · rintro ⟨i, held, found⟩
      refine ⟨i, ?_⟩
      rw [cascade_none_zero, if_neg, if_neg, found]
      · intro first
        exact held (.inl (first.trans none.symm))
      · rintro ⟨first, present⟩
        exact held (.inr ⟨none, first, present⟩)

theorem cascade_moved {moved : List UInt8} (present : dir .active = some moved) :
    cascade .none keep dir (.numbered 1) = some moved := by
  by_cases kept : 1 ≤ keep
  · rw [cascade_none kept, advanced, if_pos rfl, present]
  · have none : keep = 0 := by omega
    have some_ : dir .active ≠ Option.none := by
      rw [present]
      exact Option.some_ne_none _
    rw [none, cascade_none_zero, if_pos ⟨rfl, some_⟩, present]

/-- A call keeps the history exactly if it does not rotate, or rotates where nothing is lost by it. -/
theorem keepsHistory_iff (inner : Inner) (call : LogEntry × Bool) :
    KeepsHistory inner.dir (reopenStep maxBytes inner call).dir ↔
      (Full maxBytes inner call.1 → SparesHistory inner) := by
  by_cases full : Full maxBytes inner call.1
  · have after (i : Nat) : (reopenStep maxBytes inner call).dir (.numbered i) =
        cascade .none inner.keep inner.dir (.numbered i) := by rw [reopenStep_numbered, if_pos full]
    by_cases vacant : ∀ moved, moved ≠ [] → inner.dir .active ≠ some moved
    -- Nothing is moved in, so that no numbered content may be given up.
    · have still : ¬MovedIn inner.dir (reopenStep maxBytes inner call).dir := by
        rintro ⟨moved, nonempty, present, -⟩
        exact vacant moved nonempty present
      constructor
      · intro keeps _
        right
        intro content i nonempty last found
        by_contra lost
        refine still (keeps content ⟨nonempty, ⟨i, found⟩, fun j same => lost ?_⟩)
        rw [after] at same
        exact (cascade_vacant vacant nonempty).mp ⟨j, same⟩
      · intro spares content discarded
        obtain ⟨i, held⟩ := discarded.held
        have kept : ∃ j, ¬Last inner j ∧ inner.dir (.numbered j) = some content := by
          rcases spares full with ⟨moved, nonempty, present⟩ | repeated
          · exact absurd present (vacant moved nonempty)
          · by_cases last : Last inner i
            · exact repeated content i discarded.nonempty last held
            · exact ⟨i, last, held⟩
        obtain ⟨j, same⟩ := (cascade_vacant vacant discarded.nonempty).mpr kept
        exact absurd ((after j).trans same) (discarded.gone j)
    · push Not at vacant
      obtain ⟨moved, nonempty, present⟩ := vacant
      apply iff_of_true
      · intro content _
        exact ⟨moved, nonempty, present, (after 1).trans (cascade_moved present)⟩
      · intro _
        exact .inl ⟨moved, nonempty, present⟩
  · apply iff_of_true
    · rintro content ⟨-, ⟨i, held⟩, gone⟩
      refine absurd held ?_
      have stays := gone i
      rwa [reopenStep_numbered, if_neg full] at stays
    · intro rotates
      exact absurd rotates full

end RotatingFileLogger

open RotatingFileLogger

/-- When only opening the active file fails, a run discards nothing but for a non-empty active file
exactly if none of its rotations finds that file missing or empty while there is content to lose. -/
theorem history_kept_iff (maxBytes keep : Nat) (dir : Directory) (calls : List (LogEntry × Bool)) :
    Along (reopenStep maxBytes) (fun inner call =>
      KeepsHistory inner.dir (reopenStep maxBytes inner call).dir)
        (new keep dir) calls ↔
      Along (reopenStep maxBytes) (fun inner call =>
        Full maxBytes inner call.1 → SparesHistory inner) (new keep dir) calls :=
  along_congr keepsHistory_iff calls

namespace CannotReopen

open HeldOpen

/-! One rotated file is kept. The active file cannot be opened again after the second record has
moved it. -/

def first : Inner := reopenStep 64 (new 1 .empty) (started, false)

def second : Inner := reopenStep 64 first (stopped, true)

theorem first_eq :
    first = ⟨true, 59, 1, Directory.append (Directory.create .empty .active) .active
      (bytes started)⟩ := by
  have fits : ¬Full 64 (new 1 .empty) started := by
    rw [Full, started_length]
    decide
  rw [first, reopenStep, log, if_neg fits, write_open rfl, started_length]
  rfl

/-- The second moves the file, which is not opened again, and the counter stays. -/
theorem second_eq : second = ⟨false, 59, 1, cascade .none 1 first.dir⟩ := by
  have full : Full 64 first stopped := by
    rw [Full, stopped_length, first_eq]
    decide
  rw [second, reopenStep, log, if_pos full, first_eq, rotate, cascade_reopening]
  rfl

theorem third_rotates : Full 64 second started := by
  rw [Full, started_length, second_eq]
  decide

theorem second_active : second.dir .active = none := by
  rw [second_eq]
  dsimp only
  rw [cascade_active]
  rfl

theorem second_numbered (i : Nat) :
    second.dir (.numbered i) = if i = 1 then some (bytes started) else none := by
  rw [second_eq]
  dsimp only
  rw [cascade_none (Nat.le_refl 1), advanced, first_eq]
  by_cases one : i = 1
  · simp [one, Directory.empty]
  · rw [if_neg one, if_neg one, if_neg (by omega)]
    simp [Directory.empty]

end CannotReopen

open HeldOpen CannotReopen in
theorem third_call_discards : ¬∀ maxBytes keep dir calls,
    Along (reopenStep maxBytes) (fun inner call =>
      KeepsHistory inner.dir (reopenStep maxBytes inner call).dir)
      (new keep dir) calls := by
  intro always
  obtain ⟨-, -, third, -⟩ := always 64 1 .empty [(started, false), (stopped, true), (started, true)]
  have spares : SparesHistory CannotReopen.second :=
    (keepsHistory_iff CannotReopen.second _).mp third third_rotates
  have keep : CannotReopen.second.keep = 1 := by rw [second_eq]
  have held : CannotReopen.second.dir (.numbered 1) = some (bytes started) := by
    rw [second_numbered, if_pos rfl]
  rcases spares with ⟨moved, -, present⟩ | repeated
  · rw [second_active] at present
    cases present
  · obtain ⟨j, other, found⟩ := repeated _ 1 (by simp [bytes]) (.inl keep.symm) held
    rw [second_numbered, if_neg fun one => other (.inl (one.trans keep.symm))] at found
    cases found

end SkfService
