import SkfService.Logging.RotatingFile
import SkfService.Logging.Retention

/-! Rotation when every file operation succeeds, as a history kept in chunks. -/

set_option autoImplicit false

namespace SkfService

open Text Logging Retention

namespace RotatingFileLogger

/-- Without a fault a file that exists is moved and one that does not leaves an empty place as it
is. -/
theorem shift_none (source target : LogFile) (dir : Directory) (other : LogFile)
    (vacant : dir target = none) :
    shift .none source target dir other =
      if other = source then none else if other = target then dir source else dir other := by
  unfold shift
  cases found : dir source with
  | some content => simp [Faults.none, found]
  | none =>
    simp only [Option.isSome_none, Bool.false_and, Bool.false_eq_true, if_false]
    split
    · next same => rw [same, found]
    · split
      · next same => rw [same, vacant]
      · rfl

def raised (n : Nat) (dir : Directory) : Directory
  | .active => dir .active
  | .numbered i =>
    if i = 1 then none else if 1 < i ∧ i ≤ n + 1 then dir (.numbered (i - 1)) else dir (.numbered i)

/-- Every number up to a vacant one moves up. -/
theorem shiftNumbered_none (n : Nat) (dir : Directory) (vacant : dir (.numbered (n + 1)) = none) :
    shiftNumbered .none n dir = raised n dir := by
  induction n generalizing dir with
  | zero =>
    funext file
    cases file with
    | active => rfl
    | numbered i =>
      rw [shiftNumbered, raised]
      split
      · next first => rw [first, vacant]
      · rw [if_neg (by omega)]
  | succ n ih =>
    have last : shift .none (.numbered (n + 1)) (.numbered (n + 2)) dir (.numbered (n + 1)) =
        none := by
      simp [shift_none, vacant]
    rw [shiftNumbered, ih _ last]
    funext file
    cases file with
    | active => simp [raised, shift_none, vacant]
    | numbered i =>
      simp only [raised, shift_none _ _ _ _ vacant, LogFile.numbered.injEq]
      grind

/-- Every file one number higher, up to the last one that is kept. -/
def advanced (keep : Nat) (dir : Directory) : Directory
  | .active => none
  | .numbered i =>
    if i = 1 then dir .active else if 1 < i ∧ i ≤ keep then dir (.numbered (i - 1))
    else dir (.numbered i)

theorem cascade_none {keep : Nat} (kept : 1 ≤ keep) (dir : Directory) :
    cascade .none keep dir = advanced keep dir := by
  have last : keep - 1 + 1 = keep := Nat.sub_add_cancel kept
  have removed : dir.remove (.numbered keep) (.numbered (keep - 1 + 1)) = none := by simp [last]
  have vacant : raised (keep - 1) (dir.remove (.numbered keep)) (.numbered 1) = none := by
    simp [raised]
  change shift .none .active (.numbered 1)
    (shiftNumbered .none (keep - 1) (dir.remove (.numbered keep))) = _
  rw [shiftNumbered_none _ _ removed]
  funext file
  rw [shift_none _ _ _ _ vacant]
  cases file with
  | active => rfl
  | numbered i =>
    simp only [raised, advanced, remove_apply, LogFile.numbered.injEq, reduceCtorEq, if_false]
    grind

def size (entry : LogEntry) : Nat := (bytes entry).length

theorem flatMap_length (chunk : List LogEntry) :
    (chunk.flatMap bytes).length = total size chunk := by
  simp only [List.length_flatMap, total]
  rfl

/-- The files are the chunks: the active one the newest, and the others by their numbers. -/
structure Represents (keep : Nat) (inner : Inner) (chunks : Chunks LogEntry) : Prop where
  opened : inner.file = true
  written : inner.written = total size chunks.newest
  keeps : inner.keep = keep
  active : inner.dir .active = some (chunks.newest.flatMap bytes)
  unnumbered : inner.dir (.numbered 0) = none
  numbered i : inner.dir (.numbered (i + 1)) = (chunks.older[i]?).map (List.flatMap bytes)
  few : chunks.older.length ≤ keep

variable {keep : Nat} {inner : Inner} {chunks : Chunks LogEntry}

theorem represents_new (keep : Nat) : Represents keep (new keep .empty) ⟨[], []⟩ where
  opened := rfl
  written := by simp [new, Directory.empty]
  keeps := rfl
  active := by simp [new, Directory.empty]
  unnumbered := by simp [new, Directory.empty]
  numbered i := by simp [new, Directory.empty]
  few := Nat.zero_le _

namespace Represents

theorem rotated (represents : Represents keep inner chunks) (kept : 1 ≤ keep) :
    Represents keep (rotate .none inner) ⟨[], chunks.all.take keep⟩ := by
  have few := represents.few
  have moved : (rotate .none inner).dir = (advanced keep inner.dir).create .active := by
    rw [← cascade_none kept, ← represents.keeps]
    rfl
  constructor
  · rfl
  · rfl
  · exact represents.keeps
  · rw [moved, create_apply, if_pos rfl]
    rfl
  · rw [moved, create_apply, if_neg (by simp)]
    simp [advanced, represents.unnumbered]
  · intro i
    rw [moved, create_apply, if_neg (by simp), advanced]
    cases i with
    | zero =>
      rw [if_pos rfl, represents.active, List.getElem?_take_of_lt (by omega)]
      rfl
    | succ i =>
      -- A file moves up by one, and the one that would pass the last number is gone.
      by_cases inside : i + 1 < keep
      · rw [if_neg (by omega), if_pos (by omega), Nat.add_sub_cancel, represents.numbered,
          List.getElem?_take_of_lt inside]
        rfl
      · rw [if_neg (by omega), if_neg (by omega), represents.numbered,
          List.getElem?_eq_none (by omega),
          List.getElem?_eq_none (Nat.le_trans (List.length_take_le _ _) (by omega))]
  · exact List.length_take_le _ _

theorem wrote (represents : Represents keep inner chunks) (entry : LogEntry) :
    Represents keep (write entry inner) ⟨chunks.newest ++ [entry], chunks.older⟩ := by
  rw [write_open represents.opened]
  constructor
  · exact represents.opened
  · rw [total_append, ← represents.written]
    simp [total, size, bytes_length, Nat.add_assoc]
  · exact represents.keeps
  · simp [represents.active]
  · simp [represents.unnumbered]
  · intro i
    simp [represents.numbered]
  · exact represents.few

theorem logged (represents : Represents keep inner chunks) (kept : 1 ≤ keep) (maxBytes : Nat)
    (entry : LogEntry) :
    Represents keep (log maxBytes inner entry .none) (add size maxBytes keep chunks entry) := by
  have needed : Full maxBytes inner entry ↔ maxBytes < total size chunks.newest + size entry := by
    rw [Full, represents.written, size, bytes_length, Nat.add_assoc]
  unfold log add
  by_cases full : Full maxBytes inner entry
  · rw [if_pos full, if_pos (needed.mp full)]
    exact (represents.rotated kept).wrote entry
  · rw [if_neg full, if_neg (fun large => full (needed.mpr large))]
    exact represents.wrote entry

end Represents

def logAll (maxBytes : Nat) (inner : Inner) (entries : List LogEntry) : Inner :=
  entries.foldl (fun inner entry => log maxBytes inner entry .none) inner

namespace Represents

theorem loggedAll (represents : Represents keep inner chunks) (kept : 1 ≤ keep) (maxBytes : Nat)
    (entries : List LogEntry) :
    Represents keep (logAll maxBytes inner entries)
      (entries.foldl (add size maxBytes keep) chunks) := by
  induction entries generalizing inner chunks with
  | nil =>
    rw [List.foldl_nil]
    exact represents
  | cons entry entries ih =>
    rw [List.foldl_cons]
    exact ih (represents.logged kept maxBytes entry)

end Represents

def history (keep : Nat) (dir : Directory) : List UInt8 :=
  ((List.range keep).reverse.flatMap fun i => (dir (.numbered (i + 1))).getD []) ++
    (dir .active).getD []

def names (keep : Nat) : List LogFile := .active :: (List.range keep).map fun i => .numbered (i + 1)

/-- One line with its end, and no other line break before that. -/
def SingleLine (content : List UInt8) : Prop :=
  ∃ text, (0x0A : UInt8) ∉ text ∧ content = text ++ [0x0A]

theorem bytes_singleLine (entry : LogEntry) : SingleLine (bytes entry) :=
  ⟨_, line_no_break entry, rfl⟩

theorem flatMap_range (keep : Nat) (older : List (List LogEntry)) :
    ((List.range keep).reverse.flatMap fun i => ((older[i]?).map (List.flatMap bytes)).getD []) =
      (older.take keep).reverse.flatMap (List.flatMap bytes) := by
  induction keep with
  | zero => simp
  | succ keep ih =>
    rw [List.range_succ, List.reverse_append, List.reverse_singleton, List.singleton_append,
      List.flatMap_cons, ih, List.take_add_one, List.reverse_append, List.flatMap_append]
    cases older[keep]? <;> simp

theorem fits_bytes {maxBytes : Nat} {chunk : List LogEntry} (fits : Fits size maxBytes chunk) :
    (chunk.flatMap bytes).length ≤ maxBytes ∨
      (SingleLine (chunk.flatMap bytes) ∧ maxBytes < (chunk.flatMap bytes).length) := by
  rcases fits with small | ⟨entry, rfl, large⟩
  · left
    rwa [flatMap_length]
  · right
    rw [List.flatMap_singleton]
    exact ⟨bytes_singleLine entry, large⟩

namespace Represents

theorem joined (represents : Represents keep inner chunks) :
    history keep inner.dir = chunks.items.flatMap bytes := by
  have flat : chunks.older.reverse.flatten.flatMap bytes =
      chunks.older.reverse.flatMap (List.flatMap bytes) := by
    rw [← List.flatMap_id, List.flatMap_assoc]
    rfl
  simp only [history, represents.active, represents.numbered, flatMap_range]
  rw [List.take_of_length_le represents.few, Chunks.items, Chunks.all, List.reverse_cons,
    List.flatten_append, List.flatMap_append, flat, List.flatten_singleton]
  rfl

theorem named (represents : Represents keep inner chunks) {file : LogFile}
    (found : inner.dir file ≠ none) :
    file ∈ names keep := by
  cases file with
  | active => exact List.mem_cons_self
  | numbered i =>
    cases i with
    | zero => exact absurd represents.unnumbered found
    | succ i =>
      rw [represents.numbered, Ne, Option.map_eq_none_iff, List.getElem?_eq_none_iff] at found
      have few := represents.few
      apply List.mem_cons_of_mem
      exact List.mem_map.mpr ⟨i, List.mem_range.mpr (by omega), rfl⟩

theorem chunk (represents : Represents keep inner chunks) {file : LogFile} {content : List UInt8}
    (found : inner.dir file = some content) :
    ∃ chunk ∈ chunks.all, content = chunk.flatMap bytes := by
  cases file with
  | active =>
    rw [represents.active, Option.some.injEq] at found
    exact ⟨_, List.mem_cons_self, found.symm⟩
  | numbered i =>
    cases i with
    | zero =>
      rw [represents.unnumbered] at found
      cases found
    | succ i =>
      rw [represents.numbered, Option.map_eq_some_iff] at found
      obtain ⟨chunk, place, same⟩ := found
      exact ⟨chunk, List.mem_cons_of_mem _ (List.mem_of_getElem? place), same.symm⟩

end Represents

end RotatingFileLogger

open RotatingFileLogger

/-- From an empty directory and without faults, the files hold the end of what was logged, the last
record included; there are at most `keep + 1` of them, and each is within the limit or one line that
is larger than it. -/
theorem log_keeps_suffix (keep maxBytes : Nat) (kept : 1 ≤ keep) (earlier : List LogEntry)
    (last : LogEntry) :
    let inner := logAll maxBytes (new keep .empty) (earlier ++ [last])
    (∃ shown, shown <:+ earlier ++ [last] ∧ shown.getLast? = some last ∧
      history keep inner.dir = shown.flatMap bytes) ∧
    (∃ names : List LogFile, names.length ≤ keep + 1 ∧ ∀ file, inner.dir file ≠ none →
      file ∈ names) ∧
    ∀ file content, inner.dir file = some content →
      content.length ≤ maxBytes ∨ (SingleLine content ∧ maxBytes < content.length) := by
  intro inner
  have represents := (represents_new keep).loggedAll kept maxBytes (earlier ++ [last])
  have holds : Retention.Holds size maxBytes keep (earlier ++ [last]) _ :=
    holds_foldl holds_empty (earlier ++ [last])
  refine ⟨⟨_, holds.suffix, ?_, represents.joined⟩, ⟨names keep, ?_, ?_⟩, ?_⟩
  · rw [Chunks.items, Chunks.all, List.reverse_cons, List.flatten_append, List.flatten_singleton,
      List.getLast?_append, holds.latest, List.getLast?_append]
    rfl
  · simp [names]
  · intro file found
    exact represents.named found
  · intro file content found
    obtain ⟨chunk, member, rfl⟩ := represents.chunk found
    exact fits_bytes (holds.fits chunk member)

theorem log_keeps_suffix_twice :
    ∃ shown, shown <:+ [⟨0, .Info, "skf", "started"⟩, ⟨1, .Info, "skf", "stopped"⟩] ∧
      shown.getLast? = some ⟨1, .Info, "skf", "stopped"⟩ ∧
      history 1 (logAll 64 (new 1 .empty) [⟨0, .Info, "skf", "started"⟩,
        ⟨1, .Info, "skf", "stopped"⟩]).dir =
        shown.flatMap bytes :=
  (log_keeps_suffix 1 64 (Nat.le_refl 1) [⟨0, .Info, "skf", "started"⟩]
    ⟨1, .Info, "skf", "stopped"⟩).1

end SkfService
