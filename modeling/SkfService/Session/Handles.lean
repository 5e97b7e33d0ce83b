import Mathlib.Data.List.AList
import SkfService.Provider.Types

/-! Opaque handles for the resources one session owns.

A handle is a string a session issues: the kind of the resource, a dash and a number that the four
kinds share. -/

set_option autoImplicit false

namespace SkfService

open Text

inductive HandleError
  | Unknown
  | WrongKind
  deriving DecidableEq

inductive ResourceKind
  | Device
  | Application
  | Container
  | Digest
  deriving DecidableEq

namespace ResourceKind

def stem : ResourceKind → String
  | Device => "dev"
  | Application => "app"
  | Container => "cnt"
  | Digest => "hsh"

def ofStem : String → Option ResourceKind
  | "dev" => some Device
  | "app" => some Application
  | "cnt" => some Container
  | "hsh" => some Digest
  | _ => none

def stemOf (handle : String) : Option String := (splitOnce '-' handle).map Prod.fst

abbrev Guard : ResourceKind → Type
  | Device => SkfService.Device
  | Application => SkfService.Application
  | Container => SkfService.Container
  | Digest => SkfService.Digest

end ResourceKind

abbrev Table (T : Type) := AList fun _ : String => T

structure HandleTable where
  nextId : UInt64
  tables : (kind : ResourceKind) → Table kind.Guard

namespace HandleTable

def new : HandleTable := ⟨0, fun _ => ∅⟩

def devices (table : HandleTable) : Table Device := table.tables .Device

def applications (table : HandleTable) : Table Application := table.tables .Application

def containers (table : HandleTable) : Table Container := table.tables .Container

def digests (table : HandleTable) : Table Digest := table.tables .Digest

/-- The handle of the next resource. The counter is shared across kinds and wraps at 64 bits. -/
def mint (table : HandleTable) (kind : ResourceKind) : String :=
  kind.stem ++ "-" ++ decimal (table.nextId + 1).toNat

def check (handle : String) (expected : ResourceKind) : Except HandleError Unit :=
  match ResourceKind.stemOf handle with
  | some stem =>
    match ResourceKind.ofStem stem with
    | some kind => if kind = expected then .ok () else .error .WrongKind
    | none => .error .WrongKind
  | none => .error .WrongKind

def issue (table : HandleTable) (kind : ResourceKind) (guard : kind.Guard) : HandleTable × String :=
  let handle := table.mint kind
  (⟨table.nextId + 1, Function.update table.tables kind ((table.tables kind).insert handle guard)⟩,
    handle)

def get (table : HandleTable) (kind : ResourceKind) (handle : String) :
    Except HandleError kind.Guard := do
  check handle kind
  match (table.tables kind).lookup handle with
  | some guard => .ok guard
  | none => .error .Unknown

def remove (table : HandleTable) (kind : ResourceKind) (handle : String) :
    HandleTable × Except HandleError kind.Guard :=
  match table.get kind handle with
  | .ok guard =>
    (⟨table.nextId, Function.update table.tables kind ((table.tables kind).erase handle)⟩,
      .ok guard)
  | .error reason => (table, .error reason)

def issueDevice (table : HandleTable) (guard : Device) : HandleTable × String :=
  table.issue .Device guard

def device (table : HandleTable) (handle : String) : Except HandleError Device :=
  table.get .Device handle

def removeDevice (table : HandleTable) (handle : String) :
    HandleTable × Except HandleError Device :=
  table.remove .Device handle

def issueApplication (table : HandleTable) (guard : Application) : HandleTable × String :=
  table.issue .Application guard

def application (table : HandleTable) (handle : String) : Except HandleError Application :=
  table.get .Application handle

def removeApplication (table : HandleTable) (handle : String) :
    HandleTable × Except HandleError Application :=
  table.remove .Application handle

def issueContainer (table : HandleTable) (guard : Container) : HandleTable × String :=
  table.issue .Container guard

def container (table : HandleTable) (handle : String) : Except HandleError Container :=
  table.get .Container handle

def removeContainer (table : HandleTable) (handle : String) :
    HandleTable × Except HandleError Container :=
  table.remove .Container handle

def issueDigest (table : HandleTable) (guard : Digest) : HandleTable × String :=
  table.issue .Digest guard

def digest (table : HandleTable) (handle : String) : Except HandleError Digest :=
  table.get .Digest handle

def removeDigest (table : HandleTable) (handle : String) :
    HandleTable × Except HandleError Digest :=
  table.remove .Digest handle

def len (table : HandleTable) : Nat :=
  table.devices.entries.length + table.applications.entries.length +
    table.containers.entries.length +
    table.digests.entries.length

theorem get_ok {table : HandleTable} {kind : ResourceKind} {handle : String} {guard : kind.Guard}
    (found : table.get kind handle = .ok guard) :
    (table.tables kind).lookup handle = some guard := by
  unfold get at found
  cases checked : check handle kind with
  | error reason => simp [checked, bind, Except.bind] at found
  | ok ready =>
    simp only [checked, bind, Except.bind] at found
    split at found
    · next held => rw [held, Except.ok.inj found]
    · cases found

theorem remove_error {table : HandleTable} {kind : ResourceKind} {handle : String}
    {reason : HandleError} (refused : (table.remove kind handle).2 = .error reason) :
    (table.remove kind handle).1 = table := by
  unfold remove at refused ⊢
  split
  · next found => simp [found] at refused
  · rfl

theorem remove_ok {table : HandleTable} {kind : ResourceKind} {handle : String} {guard : kind.Guard}
    (removed : (table.remove kind handle).2 = .ok guard) :
    (table.tables kind).lookup handle = some guard ∧
      (table.remove kind handle).1 =
        ⟨table.nextId, Function.update table.tables kind ((table.tables kind).erase handle)⟩ := by
  unfold remove at removed ⊢
  split at removed
  · next held found =>
    rw [Except.ok.inj removed] at found
    exact ⟨get_ok found, rfl⟩
  · cases removed

@[simp] theorem issueDevice_nextId (table : HandleTable) (guard : Device) :
    (table.issueDevice guard).1.nextId = table.nextId + 1 := rfl

@[simp] theorem issueDigest_nextId (table : HandleTable) (guard : Digest) :
    (table.issueDigest guard).1.nextId = table.nextId + 1 := rfl

@[simp] theorem issueDevice_snd (table : HandleTable) (guard : Device) :
    (table.issueDevice guard).2 = table.mint .Device := rfl

@[simp] theorem issueDigest_snd (table : HandleTable) (guard : Digest) :
    (table.issueDigest guard).2 = table.mint .Digest := rfl

@[simp] theorem issueDevice_devices (table : HandleTable) (guard : Device) :
    (table.issueDevice guard).1.devices = table.devices.insert (table.mint .Device) guard := rfl

@[simp] theorem issueDevice_digests (table : HandleTable) (guard : Device) :
    (table.issueDevice guard).1.digests = table.digests := rfl

@[simp] theorem issueDigest_devices (table : HandleTable) (guard : Digest) :
    (table.issueDigest guard).1.devices = table.devices := rfl

@[simp] theorem issueDigest_digests (table : HandleTable) (guard : Digest) :
    (table.issueDigest guard).1.digests = table.digests.insert (table.mint .Digest) guard := rfl

theorem removeDevice_ok {table : HandleTable} {handle : String} {guard : Device}
    (removed : (table.removeDevice handle).2 = .ok guard) :
    handle ∈ table.devices ∧ (table.removeDevice handle).1.devices = table.devices.erase handle ∧
      (table.removeDevice handle).1.digests = table.digests ∧
      (table.removeDevice handle).1.nextId = table.nextId := by
  obtain ⟨held, after⟩ := remove_ok removed
  refine ⟨AList.lookup_isSome.mp (by simp [devices, held]), ?_⟩
  rw [removeDevice, after]
  exact ⟨rfl, rfl, rfl⟩

theorem removeDigest_ok {table : HandleTable} {handle : String} {guard : Digest}
    (removed : (table.removeDigest handle).2 = .ok guard) :
    handle ∈ table.digests ∧ (table.removeDigest handle).1.digests = table.digests.erase handle ∧
      (table.removeDigest handle).1.devices = table.devices ∧
      (table.removeDigest handle).1.nextId = table.nextId := by
  obtain ⟨held, after⟩ := remove_ok removed
  refine ⟨AList.lookup_isSome.mp (by simp [digests, held]), ?_⟩
  rw [removeDigest, after]
  exact ⟨rfl, rfl, rfl⟩

theorem mem_of_device {table : HandleTable} {handle : String} {guard : Device}
    (found : table.device handle = .ok guard) : handle ∈ table.devices :=
  AList.lookup_isSome.mp (by simp [devices, get_ok found])

theorem mem_of_digest {table : HandleTable} {handle : String} {guard : Digest}
    (found : table.digest handle = .ok guard) : handle ∈ table.digests :=
  AList.lookup_isSome.mp (by simp [digests, get_ok found])

theorem decimal_injective {m n : Nat} (same : decimal m = decimal n) : m = n := by
  have digits : Nat.toDigits 10 m = Nat.toDigits 10 n := by
    simpa only [decimal, String.toList_ofList] using congrArg String.toList same
  have left := Nat.ofDigitChars_toDigits (b := 10) (n := m) (by decide) (by decide)
  rw [digits, Nat.ofDigitChars_toDigits (by decide) (by decide)] at left
  exact left.symm

theorem stem_injective {kind other : ResourceKind} (same : kind.stem = other.stem) :
    kind = other := by
  have back : ∀ kind : ResourceKind, ResourceKind.ofStem kind.stem = some kind := by
    intro kind
    cases kind <;> rfl
  exact Option.some.inj (by rw [← back kind, ← back other, same])

theorem stem_length (kind : ResourceKind) : kind.stem.toList.length = 3 := by
  cases kind <;> rfl

/-- Minted handles are equal only for one kind and one counter value. -/
theorem mint_injective {kind other : ResourceKind} {m n : Nat}
    (same : kind.stem ++ "-" ++ decimal m = other.stem ++ "-" ++ decimal n) :
    kind = other ∧ m = n := by
  have chars := congrArg String.toList same
  simp only [String.toList_append, List.append_assoc] at chars
  obtain ⟨stems, rest⟩ := List.append_inj chars (by rw [stem_length, stem_length])
  exact ⟨stem_injective (String.toList_inj.mp stems),
    decimal_injective (String.toList_inj.mp (List.append_cancel_left rest))⟩

end HandleTable

def Numbered (n : UInt64) (handle : String) : Prop :=
  ∃ kind m, m ≤ n.toNat ∧ handle = ResourceKind.stem kind ++ "-" ++ Text.decimal m

theorem Numbered.later {n m : UInt64} {handle : String} (numbered : Numbered n handle)
    (grown : n.toNat ≤ m.toNat) : Numbered m handle := by
  obtain ⟨kind, k, bound, same⟩ := numbered
  exact ⟨kind, k, bound.trans grown, same⟩

/-- The next handle has a number that no numbered handle has. -/
theorem mint_new {table : HandleTable} (room : table.nextId.toNat + 1 < 18446744073709551616)
    (kind : ResourceKind) {handle : String} (numbered : Numbered table.nextId handle) :
    handle ≠ table.mint kind := by
  obtain ⟨other, m, bound, rfl⟩ := numbered
  intro same
  have numbers := (HandleTable.mint_injective same).2
  rw [UInt64.toNat_add, UInt64.toNat_one] at numbers
  omega

end SkfService
