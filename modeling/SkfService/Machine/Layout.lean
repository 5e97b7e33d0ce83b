import Mathlib.Data.List.Infix

/-! The layout of C structures: fields in their order, each at its alignment. -/

set_option autoImplicit false

namespace Machine

structure CType where
  size : Nat
  align : Nat

namespace CType

def u8 : CType := ⟨1, 1⟩

def u32 : CType := ⟨4, 4⟩

def array (item : CType) (n : Nat) : CType := ⟨item.size * n, item.align⟩

end CType

structure Field where
  name : String
  type : CType

def roundUp (n align : Nat) : Nat := n + (align - n % align) % align

theorem le_roundUp (n align : Nat) : n ≤ roundUp n align := Nat.le_add_right _ _

namespace Layout

/-- Where a field starts that comes after the first `used` bytes. -/
def startOf (used : Nat) (field : Field) : Nat := roundUp used field.type.align

def placeFrom : Nat → List Field → String → Option (Nat × CType)
  | _, [], _ => none
  | used, field :: fields, name =>
    if field.name = name then some (startOf used field, field.type)
    else placeFrom (startOf used field + field.type.size) fields name

def endFrom : Nat → List Field → Nat
  | used, [] => used
  | used, field :: fields => endFrom (startOf used field + field.type.size) fields

/-- A structure as the type of a field: its size is rounded up to its alignment. -/
def struct (fields : List Field) : CType :=
  let align := fields.foldl (fun most field => max most field.type.align) 1
  ⟨roundUp (endFrom 0 fields) align, align⟩

def place (fields : List Field) (name : String) : Nat × CType :=
  (placeFrom 0 fields name).getD (0, .u8)

def offsetOf (fields : List Field) (name : String) : Nat := (place fields name).1

def read (fields : List Field) (name : String) (bytes : List UInt8) : List UInt8 :=
  (bytes.drop (place fields name).1).take (place fields name).2.size

/-- The values of fields one after the other, with zeros for padding. -/
def writeFrom : Nat → List (Field × List UInt8) → List UInt8
  | _, [] => []
  | used, (field, value) :: rest =>
    List.replicate (startOf used field - used) 0 ++
      (value ++ writeFrom (startOf used field + field.type.size) rest)

def write (values : List (Field × List UInt8)) : List UInt8 := writeFrom 0 values

/-- Every value but the last has the size of its field. -/
def Exact (values : List (Field × List UInt8)) : Prop :=
  ∀ item ∈ values.dropLast, item.2.length = item.1.type.size

theorem length_read {fields : List Field} {name : String} {bytes : List UInt8} {offset : Nat}
    {type : CType} (placed : place fields name = (offset, type))
    (inside : offset + type.size ≤ bytes.length) :
    (read fields name bytes).length = type.size := by
  rw [read, placed, List.length_take, List.length_drop]
  exact Nat.min_eq_left (Nat.le_sub_of_add_le' inside)

variable {values : List (Field × List UInt8)} {field : Field} {value : List UInt8} {used : Nat}

theorem Exact.tail {item : Field × List UInt8} (exact_ : Exact (item :: values)) :
    Exact values := by
  cases values with
  | nil => exact List.forall_mem_nil _
  | cons next rest =>
    intro other member
    exact exact_ other (List.mem_cons_of_mem _ member)

theorem writeFrom_at (exact_ : Exact values) (names : (values.map fun item => item.1.name).Nodup)
    (member : (field, value) ∈ values) :
    ∃ offset,
      used ≤ offset ∧ placeFrom used (values.map Prod.fst) field.name = some (offset, field.type) ∧
      value <+: (writeFrom used values).drop (offset - used) := by
  induction values generalizing used with
  | nil => cases member
  | cons item rest ih =>
    obtain ⟨first, bytes⟩ := item
    have start : used ≤ startOf used first := le_roundUp _ _
    rw [List.map_cons, List.nodup_cons] at names
    rw [List.map_cons, placeFrom, writeFrom]
    rcases List.mem_cons.mp member with same | later
    · cases same
      refine ⟨startOf used field, start, if_pos rfl, ?_⟩
      rw [List.drop_left' List.length_replicate]
      exact List.prefix_append _ _
    · have other : first.name ≠ field.name := by
        intro same
        apply names.1
        rw [same]
        exact List.mem_map_of_mem later
      have whole : bytes.length = first.type.size := by
        cases rest with
        | nil => cases later
        | cons next rest => exact exact_ _ List.mem_cons_self
      obtain ⟨offset, after, found, begins⟩ :=
        @ih (startOf used first + first.type.size) exact_.tail names.2 later
      refine ⟨offset, by omega, (if_neg other).trans found, ?_⟩
      -- The field lies behind the padding and the bytes of the first one.
      have skipped :
          offset - used = (List.replicate (startOf used first - used) (0 : UInt8)).length +
          (bytes.length + (offset - (startOf used first + first.type.size))) := by
        rw [List.length_replicate, whole]
        omega
      rw [skipped, List.drop_length_add_append, List.drop_length_add_append]
      exact begins

/-- In a buffer that starts with a structure a field is read as the value that was written for it. -/
theorem read_write {fields : List Field} {bytes : List UInt8} (exact_ : Exact values)
    (names : (fields.map Field.name).Nodup) (spelled : values.map Prod.fst = fields)
    (begins : write values <+: bytes) (member : (field, value) ∈ values) :
    value <+: bytes.drop (offsetOf fields field.name) ∧
      (value.length = field.type.size → read fields field.name bytes = value) := by
  subst spelled
  rw [List.map_map] at names
  obtain ⟨offset, -, found, here⟩ := @writeFrom_at values field value 0 exact_ names member
  have inside : value <+: bytes.drop offset := here.trans (begins.drop offset)
  rw [offsetOf, read, place, found]
  refine ⟨inside, fun whole => ?_⟩
  rw [Option.getD_some, ← whole]
  exact (List.prefix_iff_eq_take.mp inside).symm

end Layout
end Machine
