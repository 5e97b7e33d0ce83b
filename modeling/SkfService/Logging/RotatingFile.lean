import SkfService.Text.JsonText
import SkfService.Text.Encoded
import Mathlib.Logic.Function.Basic

/-! The rotating log file: its records, the directory it writes to, and the file operations that may
fail. -/

set_option autoImplicit false

namespace SkfService

open Text

namespace Logging

inductive Level
  | Error
  | Warn
  | Info
  | Debug
  | Trace
  deriving DecidableEq

def Level.asStr : Level → String
  | Error => "ERROR"
  | Warn => "WARN"
  | Info => "INFO"
  | Debug => "DEBUG"
  | Trace => "TRACE"

structure Record where
  level : Level
  target : String
  message : String

/-- A record and the clock when it is logged, in seconds; a clock before the epoch counts as zero. -/
structure LogEntry where
  ts : UInt64
  record : Record

inductive LogFile
  | active
  | numbered (i : Nat)
  deriving DecidableEq

abbrev Directory := LogFile → Option (List UInt8)

namespace Directory

def empty : Directory := fun _ => none

def remove (dir : Directory) (file : LogFile) : Directory := Function.update dir file none

/-- Whatever the target held is replaced. -/
def rename (dir : Directory) (source target : LogFile) : Directory :=
  Function.update (Function.update dir target (dir source)) source none

/-- Opens for appending, and creates the file if there is none. -/
def create (dir : Directory) (file : LogFile) : Directory :=
  Function.update dir file (some ((dir file).getD []))

def append (dir : Directory) (file : LogFile) (bytes : List UInt8) : Directory :=
  Function.update dir file ((dir file).map (· ++ bytes))

end Directory

/-- Which operations of one rotation fail; a rename is told by what it moves. -/
structure Faults where
  remove : Bool
  rename : LogFile → Bool
  reopen : Bool

def Faults.none : Faults := ⟨false, fun _ => false, false⟩

/-- The state behind the mutex, with the directory of `path`. Sizes are counted in 64 bits, which is
more than any file system lets a file have. -/
structure Inner where
  file : Bool
  written : Nat
  keep : Nat
  dir : Directory

end Logging

open Logging

namespace RotatingFileLogger

/-- Opens the active file and continues the size it has. -/
def new (keep : Nat) (dir : Directory) : Inner :=
  let opened := dir.create .active
  ⟨true, ((opened .active).getD []).length, keep, opened⟩

def shift (faults : Faults) (source target : LogFile) (dir : Directory) : Directory :=
  if (dir source).isSome && !faults.rename source then dir.rename source target else dir

def shiftNumbered (faults : Faults) : Nat → Directory → Directory
  | 0, dir => dir
  | n + 1, dir => shiftNumbered faults n (shift faults (.numbered (n + 1)) (.numbered (n + 2)) dir)

/-- Drops the last number, moves every other one up and the active file to the first. -/
def cascade (faults : Faults) (keep : Nat) (dir : Directory) : Directory :=
  let removed := if faults.remove then dir else dir.remove (.numbered keep)
  shift faults .active (.numbered 1) (shiftNumbered faults (keep - 1) removed)

def rotate (faults : Faults) (inner : Inner) : Inner :=
  let moved := cascade faults inner.keep inner.dir
  if faults.reopen then { inner with file := false, dir := moved }
  else { inner with file := true, dir := moved.create .active, written := 0 }

def line (entry : LogEntry) : String :=
  (Json.ofFields [("ts", .number (.unsigned entry.ts)), ("level", .string entry.record.level.asStr),
    ("target", .string entry.record.target), ("message", .string entry.record.message)]).render

def bytes (entry : LogEntry) : List UInt8 := utf8 (line entry) ++ [0x0A]

def Full (maxBytes : Nat) (inner : Inner) (entry : LogEntry) : Prop :=
  maxBytes < inner.written + (utf8 (line entry)).length + 1

instance (maxBytes : Nat) (inner : Inner) (entry : LogEntry) :
    Decidable (Full maxBytes inner entry) :=
  inferInstanceAs (Decidable (_ < _))

/-- Writes go to the open file and succeed; without one the record is lost. -/
def write (entry : LogEntry) (inner : Inner) : Inner :=
  if inner.file then
    { inner with
      dir := inner.dir.append .active (bytes entry)
      written := inner.written + (utf8 (line entry)).length + 1 }
  else inner

def log (maxBytes : Nat) (inner : Inner) (entry : LogEntry) (faults : Faults) : Inner :=
  write entry (if Full maxBytes inner entry then rotate faults inner else inner)

end RotatingFileLogger

namespace Logging

section operations

variable {dir : Directory} {file other source target : LogFile} {content bytes : List UInt8}

@[simp] theorem remove_apply :
    dir.remove file other = if other = file then none else dir other := by
  simp [Directory.remove, Function.update_apply]

@[simp] theorem rename_apply : dir.rename source target other =
    if other = source then none else if other = target then dir source else dir other := by
  simp [Directory.rename, Function.update_apply]

@[simp] theorem create_apply : dir.create file other =
    if other = file then some ((dir file).getD []) else dir other := by
  simp [Directory.create, Function.update_apply]

@[simp] theorem append_apply : dir.append file bytes other =
    if other = file then (dir file).map (· ++ bytes) else dir other := by
  simp [Directory.append, Function.update_apply]

end operations

end Logging

namespace RotatingFileLogger

theorem bytes_length (entry : LogEntry) :
    (bytes entry).length = (utf8 (line entry)).length + 1 := by
  rw [bytes, List.length_append, List.length_singleton]

/-- Whatever a record holds, it is written on one line. -/
theorem line_printable (entry : LogEntry) : ∀ c ∈ (line entry).toList, Printable c := by
  rw [line, Json.render, String.toList_ofList]
  apply Json.ofFields_lined
  intro field member
  simp only [List.mem_cons, List.not_mem_nil, or_false] at member
  rcases member with rfl | rfl | rfl | rfl
  · exact Json.unsigned_lined _
  all_goals exact Json.string_lined _

theorem line_no_break (entry : LogEntry) : (0x0A : UInt8) ∉ utf8 (line entry) := by
  intro member
  obtain ⟨c, inside, same⟩ := ascii_of_mem_utf8 member (by decide)
  have printable : 0x20 ≤ c.toNat := line_printable entry c inside
  rw [same] at printable
  exact absurd printable (by decide)

theorem write_open {inner : Inner} (opened : inner.file = true) (entry : LogEntry) :
    write entry inner = { inner with
      dir := inner.dir.append .active (bytes entry)
      written := inner.written + (utf8 (line entry)).length + 1 } := if_pos opened

end RotatingFileLogger

end SkfService
