import SkfService.Interaction.History
import SkfService.Interaction.Program
import SkfService.Interaction.Run
import SkfService.Session.Handles

/-! The handle table over whole runs: four tables and one counter behave as one finite map of fresh
names, in which every name has the kind it was issued for. -/

set_option autoImplicit false

namespace SkfService

open Text Interaction

/-- What is asked of a handle table, for any kind and with any text as a handle. -/
inductive HandleOp
  | issue (kind : ResourceKind) (guard : kind.Guard)
  | lookup (kind : ResourceKind) (handle : String)
  | remove (kind : ResourceKind) (handle : String)

namespace HandleOp

abbrev Answer : HandleOp → Type
  | issue _ _ => String
  | lookup kind _ => Except HandleError kind.Guard
  | remove kind _ => Except HandleError kind.Guard

def issues : (op : HandleOp) → op.Answer → Option String
  | issue _ _, handle => some handle
  | _, _ => none

def removes : (op : HandleOp) → op.Answer → Option (ResourceKind × String)
  | remove kind handle, .ok _ => some (kind, handle)
  | _, _ => none

def refused : (op : HandleOp) → op.Answer → Prop
  | lookup _ _, .error _ => True
  | remove _ _, .error _ => True
  | _, _ => False

end HandleOp

def Handles : Signature := ⟨HandleOp, HandleOp.Answer⟩

/-- The kind that the text before the first dash names. -/
def kindOf (handle : String) : Option ResourceKind :=
  (ResourceKind.stemOf handle).bind ResourceKind.ofStem

namespace HandleTable

def perform (table : HandleTable) : (op : HandleOp) → HandleTable × op.Answer
  | .issue kind guard => table.issue kind guard
  | .lookup kind handle => (table, table.get kind handle)
  | .remove kind handle => table.remove kind handle

def about (table : HandleTable) : HandleOp → String
  | .issue kind _ => table.mint kind
  | .lookup _ handle => handle
  | .remove _ handle => handle

def Performs (before : HandleTable) (event : Event Handles) (after : HandleTable) : Prop :=
  before.perform event.op = (after, event.reply)

end HandleTable

section history

variable {log : List (Event Handles)} {event : Event Handles} {kind : ResourceKind}
  {handle : String} {guard : kind.Guard}

def issuedHandles (log : List (Event Handles)) : List String :=
  log.filterMap fun event => HandleOp.issues event.op event.reply

def removedHandles (log : List (Event Handles)) : List (ResourceKind × String) :=
  log.filterMap fun event => HandleOp.removes event.op event.reply

/-- The handle was issued for the guard, and was not removed since. -/
def Holds (log : List (Event Handles)) (kind : ResourceKind) (handle : String)
    (guard : kind.Guard) : Prop :=
  Standing log ⟨HandleOp.issue kind guard, handle⟩ fun later =>
    HandleOp.removes later.op later.reply ≠ some (kind, handle)

theorem issued_concat :
    issuedHandles (log ++ [event]) = issuedHandles log ++
      (HandleOp.issues event.op event.reply).toList := by
  rw [issuedHandles, List.filterMap_append, issuedHandles]
  rfl

theorem removed_concat :
    removedHandles (log ++ [event]) = removedHandles log ++
      (HandleOp.removes event.op event.reply).toList := by
  rw [removedHandles, List.filterMap_append, removedHandles]
  rfl

theorem Holds.issued (holds : Holds log kind handle guard) : handle ∈ issuedHandles log :=
  List.mem_filterMap.mpr ⟨_, holds.mem, rfl⟩

theorem holds_concat : Holds (log ++ [event]) kind handle guard ↔
    event = ⟨HandleOp.issue kind guard, handle⟩ ∨
      (Holds log kind handle guard ∧ HandleOp.removes event.op event.reply ≠ some (kind, handle)) :=
  standing_concat

end history

section answers

variable {table : HandleTable} {kind : ResourceKind} {handle : String} {guard : kind.Guard}

theorem kindOf_stem (kind : ResourceKind) (rest : String) :
    kindOf (kind.stem ++ "-" ++ rest) = some kind := by
  have pieces : splitOnce '-' (kind.stem ++ "-" ++ rest) = some (kind.stem, rest) := by
    rw [splitOnce, String.toList_append, String.toList_append, List.append_assoc]
    cases kind <;> simp [ResourceKind.stem]
  rw [kindOf, ResourceKind.stemOf, pieces]
  cases kind <;> rfl

theorem check_eq (handle : String) (expected : ResourceKind) :
    HandleTable.check handle expected = if kindOf handle =
      some expected then .ok () else .error .WrongKind := by
  unfold HandleTable.check kindOf
  cases ResourceKind.stemOf handle with
  | none => rfl
  | some stem =>
    cases named : ResourceKind.ofStem stem with
    | none => simp [named]
    | some kind => simp [named]

theorem get_eq (table : HandleTable) (kind : ResourceKind) (handle : String) :
    table.get kind handle =
      if kindOf handle = some kind then
        match (table.tables kind).lookup handle with
        | some guard => .ok guard
        | none => .error .Unknown
      else .error .WrongKind := by
  rw [HandleTable.get, check_eq]
  split <;> rfl

theorem get_ok_iff (named : kindOf handle = some kind) :
    table.get kind handle = .ok guard ↔ (table.tables kind).lookup handle = some guard := by
  rw [get_eq, if_pos named]
  cases (table.tables kind).lookup handle <;> simp

theorem get_unknown_iff : table.get kind handle = .error .Unknown ↔
    kindOf handle = some kind ∧ (table.tables kind).lookup handle = none := by
  rw [get_eq]
  split
  · next named => cases (table.tables kind).lookup handle <;> simp [named]
  · next unnamed => simp [unnamed]

theorem get_wrongKind_iff :
    table.get kind handle = .error .WrongKind ↔ kindOf handle ≠ some kind := by
  rw [get_eq]
  split
  · next named => cases (table.tables kind).lookup handle <;> simp [named]
  · next unnamed => simp [unnamed]

theorem remove_answer (table : HandleTable) (kind : ResourceKind) (handle : String) :
    (table.remove kind handle).2 = table.get kind handle := by
  rw [HandleTable.remove]
  split <;> next found => exact found.symm

end answers

section sizes

variable {T : Type} {table : HandleTable} {kind : ResourceKind} {handle : String}

theorem insert_length {held : Table T} (fresh : held.lookup handle = none) (guard : T) :
    (held.insert handle guard).entries.length = held.entries.length + 1 := by
  rw [AList.entries_insert_of_notMem (AList.lookup_eq_none.mp fresh), List.length_cons]

theorem erase_length {held : Table T} {guard : T} (present : held.lookup handle = some guard) :
    (held.erase handle).entries.length + 1 = held.entries.length := by
  have inside : handle ∈ held.keys := AList.lookup_isSome.mp (Option.isSome_of_eq_some present)
  have shorter := congrArg List.length (AList.keys_erase handle held)
  have positive := List.length_pos_of_mem inside
  rw [List.length_erase_of_mem inside] at shorter
  simp only [AList.keys, List.keys, List.length_map] at shorter positive
  omega

theorem len_update (table : HandleTable) (n : UInt64) (kind : ResourceKind)
    (held : Table kind.Guard) :
    (HandleTable.mk n (Function.update table.tables kind held)).len +
      (table.tables kind).entries.length =
      table.len + held.entries.length := by
  cases kind <;>
    simp [HandleTable.len, HandleTable.devices, HandleTable.applications, HandleTable.containers,
      HandleTable.digests, Function.update] <;>
    omega

end sizes

/-- What a run so far says about the table: the counter has passed every issued name, the names are
distinct and carry their kinds, and the tables hold exactly what was issued and not removed since. -/
structure Registers (log : List (Event Handles)) (table : HandleTable) : Prop where
  distinct : (issuedHandles log).Nodup
  counted : table.nextId.toNat = (issuedHandles log).length
  numbered : ∀ handle ∈ issuedHandles log, Numbered table.nextId handle
  named : ∀ kind handle guard, Holds log kind handle guard → kindOf handle = some kind
  holds : ∀ kind handle guard, (table.tables kind).lookup handle = some guard ↔
    Holds log kind handle guard
  gone : ∀ kind handle, (kind, handle) ∈ removedHandles log →
    kindOf handle = some kind ∧ handle ∈ issuedHandles log ∧
      (table.tables kind).lookup handle = none
  size : table.len + (removedHandles log).length = (issuedHandles log).length

theorem registers_start : Registers [] HandleTable.new where
  distinct := List.nodup_nil
  counted := rfl
  numbered _ member := by cases member
  named _ _ _ holds := (not_standing_nil holds).elim
  holds kind handle guard := by
    refine ⟨fun impossible => ?_, fun holds => (not_standing_nil holds).elim⟩
    cases impossible
  gone _ _ member := by cases member
  size := rfl

section steps

variable {log : List (Event Handles)} {table : HandleTable} {kind : ResourceKind}

theorem issue_tables (guard : kind.Guard) : (table.issue kind guard).1.tables =
    Function.update table.tables kind ((table.tables kind).insert (table.mint kind) guard) := rfl

theorem issue_lookup_ne {guard : kind.Guard} {other : ResourceKind} {handle : String}
    (differs : handle ≠ table.mint kind) :
    ((table.issue kind guard).1.tables other).lookup handle =
      (table.tables other).lookup handle := by
  by_cases same : other = kind
  · subst same
    rw [issue_tables, Function.update_self, AList.lookup_insert_ne differs]
  · rw [issue_tables, Function.update_of_ne same]

theorem Registers.unissued (registers : Registers log table)
    (room : (issuedHandles log).length + 1 < 18446744073709551616) (kind : ResourceKind) :
    table.mint kind ∉ issuedHandles log := fun member =>
  mint_new (by rw [registers.counted]; exact room) kind (registers.numbered _ member) rfl

/-- A table that issues a handle holds its guard under it, and under other handles what it held. -/
theorem Registers.issue_holds (registers : Registers log table) {guard : kind.Guard}
    (unissued : table.mint kind ∉ issuedHandles log) (other : ResourceKind) (handle : String)
    (held : other.Guard) :
    ((table.issue kind guard).1.tables other).lookup handle = some held ↔
      Holds (log ++ [⟨HandleOp.issue kind guard, table.mint kind⟩]) other handle held := by
  by_cases minted : handle = table.mint kind
  · subst minted
    rw [holds_concat, or_iff_left fun old => unissued old.1.issued]
    by_cases same : other = kind
    · subst same
      rw [issue_tables, Function.update_self, AList.lookup_insert]
      constructor
      · intro found
        cases found
        rfl
      · intro event
        cases event
        rfl
    -- The tables of the other kinds have nothing under a name that was never issued.
    · rw [issue_tables, Function.update_of_ne same]
      constructor
      · intro found
        exact absurd ((registers.holds _ _ _).mp found).issued unissued
      · intro event
        cases event
        exact absurd rfl same
  · rw [issue_lookup_ne minted, registers.holds, holds_concat]
    constructor
    · intro held
      exact .inr ⟨held, fun impossible => by cases impossible⟩
    · rintro (event | ⟨held, -⟩)
      · cases event
        exact absurd rfl minted
      · exact held

theorem Registers.issue_size (registers : Registers log table) (guard : kind.Guard)
    (unissued : table.mint kind ∉ issuedHandles log) :
    (table.issue kind guard).1.len + (removedHandles log).length =
      (issuedHandles log).length + 1 := by
  have fresh : (table.tables kind).lookup (table.mint kind) = none := by
    cases held : (table.tables kind).lookup (table.mint kind) with
    | none => rfl
    | some other => exact absurd ((registers.holds _ _ _).mp held).issued unissued
  have grown :=
    len_update table (table.nextId + 1) kind ((table.tables kind).insert (table.mint kind) guard)
  rw [insert_length fresh] at grown
  have size := registers.size
  change (HandleTable.mk _ _).len + _ = _
  omega

theorem Registers.issue (registers : Registers log table)
    (room : (issuedHandles log).length + 1 < 18446744073709551616) (guard : kind.Guard) :
    Registers (log ++ [⟨HandleOp.issue kind guard, table.mint kind⟩])
      (table.issue kind guard).1 := by
  have counter : (table.nextId + 1).toNat = (issuedHandles log).length + 1 := by
    rw [UInt64.toNat_add, UInt64.toNat_one, registers.counted, Nat.mod_eq_of_lt room]
  have unissued := registers.unissued room kind
  have spelled : issuedHandles (log ++ [⟨HandleOp.issue kind guard, table.mint kind⟩]) =
      issuedHandles log ++ [table.mint kind] :=
    issued_concat
  have unremoved : removedHandles (log ++ [⟨HandleOp.issue kind guard, table.mint kind⟩]) =
      removedHandles log :=
    removed_concat.trans (List.append_nil _)
  refine ⟨?_, ?_, ?_, ?_, registers.issue_holds unissued, ?_, ?_⟩
  · rw [spelled]
    refine List.nodup_append.mpr ⟨registers.distinct, List.nodup_singleton _,
      fun handle old other new => ?_⟩
    rw [List.mem_singleton.mp new]
    rintro rfl
    exact unissued old
  · rw [spelled, List.length_append, List.length_singleton]
    exact counter
  · intro handle member
    rw [spelled] at member
    rcases List.mem_append.mp member with old | new
    · refine (registers.numbered handle old).later ?_
      change _ ≤ (table.nextId + 1).toNat
      rw [counter, registers.counted]
      omega
    · rw [List.mem_singleton.mp new]
      exact ⟨kind, _, Nat.le_refl _, rfl⟩
  · intro other handle held holds
    rcases holds_concat.mp holds with same | ⟨earlier, -⟩
    · cases same
      exact kindOf_stem _ _
    · exact registers.named _ _ _ earlier
  · intro other handle member
    rw [unremoved] at member
    obtain ⟨named, old, lost⟩ := registers.gone other handle member
    -- A removed handle is an issued one, so it is not the new one.
    have other_ : handle ≠ table.mint kind := by
      rintro rfl
      exact unissued old
    rw [spelled, issue_lookup_ne other_]
    exact ⟨named, List.mem_append_left _ old, lost⟩
  · rw [spelled, unremoved, List.length_append, List.length_singleton]
    exact registers.issue_size guard unissued

theorem remove_tables {handle : String} {guard : kind.Guard}
    (found : table.get kind handle = .ok guard) :
    (table.remove kind handle).1.nextId = table.nextId ∧
      (table.remove kind handle).1.tables = Function.update table.tables kind
        ((table.tables kind).erase handle) := by
  rw [HandleTable.remove, found]
  exact ⟨rfl, rfl⟩

theorem remove_lookup_ne {handle name : String} {guard : kind.Guard} {other : ResourceKind}
    (found : table.get kind handle = .ok guard) (differs : (kind, handle) ≠ (other, name)) :
    ((table.remove kind handle).1.tables other).lookup name = (table.tables other).lookup name := by
  rw [(remove_tables found).2]
  by_cases same : other = kind
  · subst same
    rw [Function.update_self, AList.lookup_erase_ne]
    rintro rfl
    exact differs rfl
  · rw [Function.update_of_ne same]

theorem remove_lookup {handle : String} {guard : kind.Guard}
    (found : table.get kind handle = .ok guard) :
    ((table.remove kind handle).1.tables kind).lookup handle = none := by
  rw [(remove_tables found).2, Function.update_self, AList.lookup_erase]

theorem Registers.remove_holds (registers : Registers log table) {handle : String}
    {guard : kind.Guard} (found : table.get kind handle = .ok guard) (other : ResourceKind)
    (name : String) (value : other.Guard) :
    ((table.remove kind handle).1.tables other).lookup name = some value ↔
      Holds (log ++ [⟨HandleOp.remove kind handle, .ok guard⟩]) other name value := by
  rw [holds_concat, or_iff_right (fun impossible => by cases impossible), ← registers.holds]
  change _ ↔ _ ∧ some (kind, handle) ≠ some (other, name)
  -- The removed handle is held no more; every other one keeps its guard.
  by_cases differs : (kind, handle) = (other, name)
  · cases differs
    rw [remove_lookup found]
    constructor
    · intro impossible
      cases impossible
    · intro kept
      exact absurd rfl kept.2
  · rw [remove_lookup_ne found differs, iff_self_and]
    exact fun _ same => differs (Option.some.inj same)

theorem Registers.remove_size (registers : Registers log table) {handle : String}
    {guard : kind.Guard} (held : (table.tables kind).lookup handle = some guard)
    (tables : (table.remove kind handle).1.tables =
      Function.update table.tables kind ((table.tables kind).erase handle)) :
    (table.remove kind handle).1.len + ((removedHandles log).length + 1) =
      (issuedHandles log).length := by
  have shrunk := len_update table table.nextId kind ((table.tables kind).erase handle)
  have shorter := erase_length held
  have size := registers.size
  have after : (table.remove kind handle).1.len =
      (HandleTable.mk table.nextId
        (Function.update table.tables kind ((table.tables kind).erase handle))).len := by
    rw [← tables]
    rfl
  rw [after]
  omega

theorem Registers.remove (registers : Registers log table) {handle : String} {guard : kind.Guard}
    (found : table.get kind handle = .ok guard) :
    Registers (log ++ [⟨HandleOp.remove kind handle, .ok guard⟩]) (table.remove kind handle).1 := by
  have held := HandleTable.get_ok found
  have holds := (registers.holds kind handle guard).mp held
  obtain ⟨next, tables⟩ := remove_tables found
  have spelled : issuedHandles (log ++ [⟨HandleOp.remove kind handle, .ok guard⟩]) =
      issuedHandles log :=
    issued_concat.trans (List.append_nil _)
  have gone : removedHandles (log ++ [⟨HandleOp.remove kind handle, .ok guard⟩]) =
      removedHandles log ++ [(kind, handle)] :=
    removed_concat
  refine ⟨?_, ?_, ?_, ?_, registers.remove_holds found, ?_, ?_⟩
  · rw [spelled]
    exact registers.distinct
  · rw [spelled, next]
    exact registers.counted
  · rw [spelled, next]
    exact registers.numbered
  · intro other name held holds
    rcases holds_concat.mp holds with same | ⟨earlier, -⟩
    · cases same
    · exact registers.named _ _ _ earlier
  · intro other name member
    rw [gone] at member
    rw [spelled]
    by_cases differs : (kind, handle) = (other, name)
    · cases differs
      exact ⟨registers.named _ _ _ holds, holds.issued, remove_lookup found⟩
    · have old :=
        (List.mem_append.mp member).resolve_right fun new =>
          differs (List.mem_singleton.mp new).symm
      rw [remove_lookup_ne found differs]
      exact registers.gone other name old
  · rw [spelled, gone, List.length_append, List.length_singleton]
    exact registers.remove_size held tables

theorem Registers.quiet (registers : Registers log table) {event : Event Handles}
    (issues : HandleOp.issues event.op event.reply = none)
    (removes : HandleOp.removes event.op event.reply = none) :
    Registers (log ++ [event]) table := by
  have spelled : issuedHandles (log ++ [event]) = issuedHandles log := by
    rw [issued_concat, issues, Option.toList_none, List.append_nil]
  have kept : removedHandles (log ++ [event]) = removedHandles log := by
    rw [removed_concat, removes, Option.toList_none, List.append_nil]
  -- Holdings change with an issue or a removal only.
  have holds (kind : ResourceKind) (handle : String) (guard : kind.Guard) :
      Holds (log ++ [event]) kind handle guard ↔ Holds log kind handle guard := by
    rw [holds_concat]
    constructor
    · rintro (rfl | ⟨held, -⟩)
      · cases issues
      · exact held
    · intro held
      refine .inr ⟨held, ?_⟩
      rw [removes]
      exact Option.some_ne_none _ ∘ Eq.symm
  refine ⟨?_, ?_, ?_, ?_, ?_, ?_, ?_⟩
  · rw [spelled]
    exact registers.distinct
  · rw [spelled]
    exact registers.counted
  · rw [spelled]
    exact registers.numbered
  · intro kind handle guard held
    exact registers.named kind handle guard ((holds kind handle guard).mp held)
  · intro kind handle guard
    rw [holds]
    exact registers.holds kind handle guard
  · rw [kept, spelled]
    exact registers.gone
  · rw [kept, spelled]
    exact registers.size

/-- One operation of any kind keeps the register, as long as the counter has room. -/
theorem Registers.performs {event : Event Handles} {after : HandleTable}
    (registers : Registers log table) (performs : table.Performs event after)
    (room : (issuedHandles (log ++ [event])).length < 18446744073709551616) :
    Registers (log ++ [event]) after := by
  obtain ⟨op, answer⟩ := event
  cases op with
  | issue kind guard =>
    obtain ⟨rfl, rfl⟩ := Prod.mk.inj performs
    rw [issued_concat, List.length_append] at room
    exact registers.issue room guard
  | lookup kind handle =>
    obtain ⟨rfl, rfl⟩ := Prod.mk.inj performs
    exact registers.quiet rfl rfl
  | remove kind handle =>
    have same : table.remove kind handle = (after, answer) := performs
    have answered := remove_answer table kind handle
    obtain rfl : (table.remove kind handle).1 = after := congrArg Prod.fst same
    obtain rfl : (table.remove kind handle).2 = answer := congrArg Prod.snd same
    cases found : table.get kind handle with
    | ok guard =>
      rw [found] at answered
      rw [answered]
      exact registers.remove found
    | error reason =>
      rw [found] at answered
      rw [HandleTable.remove_error answered, answered]
      exact registers.quiet rfl rfl

theorem registers_of_run (ran : Run HandleTable.Performs HandleTable.new log table)
    (few : (issuedHandles log).length < 18446744073709551616) :
    Registers log table := by
  induction ran with
  | start => exact registers_start
  | next earlier last ih =>
    refine (ih ?_).performs last few
    rw [issued_concat, List.length_append] at few
    omega

theorem perform_other (table : HandleTable) (op : HandleOp) {other : ResourceKind} {handle : String}
    (differs : handle ≠ table.about op) :
    (table.perform op).1.get other handle = table.get other handle := by
  rw [get_eq, get_eq]
  cases op with
  | issue kind guard => rw [HandleTable.perform, issue_lookup_ne differs]
  | lookup kind name => rfl
  | remove kind name =>
    cases found : table.get kind name with
    | ok guard =>
      rw [HandleTable.perform, remove_lookup_ne found]
      rintro ⟨⟩
      exact differs rfl
    | error reason =>
      rw [HandleTable.perform,
        HandleTable.remove_error ((remove_answer table kind name).trans found)]

theorem perform_refused (table : HandleTable) (op : HandleOp)
    (refused : op.refused (table.perform op).2) :
    (table.perform op).1 = table := by
  cases op with
  | issue => cases refused
  | lookup => rfl
  | remove kind handle =>
    cases found : table.get kind handle with
    | ok guard =>
      rw [HandleTable.perform, remove_answer, found] at refused
      cases refused
    | error reason => exact HandleTable.remove_error ((remove_answer table kind handle).trans found)

end steps

/-- In every run the table is the finite map of what was issued and not removed since: its names are
fresh, a text of another kind or of none is rejected as such, every other text is unknown, nothing
touches a handle it is not about, and the count is that of the map. -/
theorem handle_table_refines {log : List (Event Handles)} {table : HandleTable}
    (ran : Run HandleTable.Performs HandleTable.new log table)
    (few : (issuedHandles log).length < 18446744073709551616) :
    (issuedHandles log).Nodup ∧
      (∀ kind handle guard, table.get kind handle = .ok guard ↔ Holds log kind handle guard) ∧
      (∀ kind handle, (kind, handle) ∈ removedHandles log →
        table.get kind handle = .error .Unknown) ∧
      (∀ kind handle, table.get kind handle = .error .WrongKind ↔ kindOf handle ≠ some kind) ∧
      (∀ kind handle, table.get kind handle = .error .Unknown ↔
        kindOf handle = some kind ∧ ∀ guard, ¬Holds log kind handle guard) ∧
      (∀ kind handle, (table.remove kind handle).2 = table.get kind handle) ∧
      (∀ op kind handle, handle ≠ table.about op →
        (table.perform op).1.get kind handle = table.get kind handle) ∧
      (∀ op, op.refused (table.perform op).2 → (table.perform op).1 = table) ∧
      table.len + (removedHandles log).length = (issuedHandles log).length := by
  have registers := registers_of_run ran few
  refine ⟨registers.distinct, fun kind handle guard => ?_, fun kind handle member => ?_, fun _ _ =>
    get_wrongKind_iff,
    fun kind handle => ?_, remove_answer table, fun op _ _ differs =>
      perform_other table op differs,
    perform_refused table, registers.size⟩
  · constructor
    · intro found
      exact (registers.holds kind handle guard).mp (HandleTable.get_ok found)
    · intro holds
      rw [get_ok_iff (registers.named kind handle guard holds), registers.holds]
      exact holds
  -- A removed handle is spelled for its kind, so that only the table can refuse it.
  · obtain ⟨named, -, lost⟩ := registers.gone kind handle member
    exact get_unknown_iff.mpr ⟨named, lost⟩
  · rw [get_unknown_iff, Option.eq_none_iff_forall_ne_some]
    simp only [ne_eq, registers.holds]

namespace Registering

/-! A device is issued, found and removed. -/

def device : Device := ⟨⟨"GM3000", some 0⟩, "dev", 1⟩
def held : HandleTable := (HandleTable.new.issue .Device device).1
def after : HandleTable := (held.remove .Device "dev-1").1

def log : List (Event Handles) :=
  [⟨HandleOp.issue .Device device, "dev-1"⟩, ⟨HandleOp.lookup .Device "dev-1", .ok device⟩,
    ⟨HandleOp.remove .Device "dev-1", .ok device⟩]

theorem minted : HandleTable.new.mint .Device = "dev-1" := by decide

theorem found : held.get .Device "dev-1" = .ok device := by
  rw [get_ok_iff (by decide), held, issue_tables, Function.update_self, minted, AList.lookup_insert]

theorem ran : Run HandleTable.Performs HandleTable.new log after := by
  have issues : HandleTable.new.Performs ⟨HandleOp.issue .Device device, "dev-1"⟩ held :=
    Prod.ext rfl minted
  have looksUp : held.Performs ⟨HandleOp.lookup .Device "dev-1", .ok device⟩ held :=
    Prod.ext rfl found
  have removes : held.Performs ⟨HandleOp.remove .Device "dev-1", .ok device⟩ after :=
    Prod.ext rfl ((remove_answer held .Device "dev-1").trans found)
  exact Run.cons issues (Run.cons looksUp (Run.cons removes Run.start))

end Registering

theorem handle_table_refines_removed :
    Registering.after.get .Device "dev-1" = .error .Unknown ∧ Registering.after.len + 1 = 1 := by
  obtain ⟨-, -, gone, -, -, -, -, -, size⟩ := handle_table_refines Registering.ran (by decide)
  exact ⟨gone .Device "dev-1" (List.mem_singleton_self _), size⟩

end SkfService
