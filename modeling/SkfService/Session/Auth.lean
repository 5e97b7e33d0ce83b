import Mathlib.Data.List.AList

/-! Per-session authorization grants.

A grant is a deadline and nothing else; the credential that produced it is not kept. -/

set_option autoImplicit false

namespace SkfService

/-- A reading of the monotone clock, in nanoseconds. -/
abbrev Instant := Nat

abbrev Duration := Nat

inductive AuthRejection
  | NotAuthorized
  | Expired
  | DeviceUnavailable
  deriving DecidableEq

structure AuthKey where
  provider : String
  device : String
  application : String
  deriving DecidableEq

structure Grant where
  expiresAt : Instant
  deriving DecidableEq

structure AuthTable where
  grants : AList fun _ : AuthKey => Grant
  ttl : Duration

namespace AuthTable

def new (ttl : Duration) : AuthTable := ⟨∅, ttl⟩

/-- Records a verification. `limit` is the last instant the clock type can hold: the addition of a
deadline beyond it panics, and nothing is recorded. -/
def grant (table : AuthTable) (limit now : Instant) (key : AuthKey) : Option AuthTable :=
  if now + table.ttl ≤ limit then
    some { table with grants := table.grants.insert key ⟨now + table.ttl⟩ }
  else none

/-- Checks an authorization and removes it if it has expired. -/
def check (table : AuthTable) (now : Instant) (key : AuthKey) :
    AuthTable × Except AuthRejection Unit :=
  match table.grants.lookup key with
  | none => (table, .error .NotAuthorized)
  | some held =>
    if held.expiresAt ≤ now then ({ table with grants := table.grants.erase key }, .error .Expired)
    else (table, .ok ())

def isFor (provider device : String) (key : AuthKey) : Bool :=
  key.provider == provider && key.device == device

def retained (provider device : String) (grants : AList fun _ : AuthKey => Grant) :
    AList fun _ : AuthKey => Grant where
  entries := grants.entries.filter fun entry => !isFor provider device entry.1
  nodupKeys := List.NodupKeys.sublist List.filter_sublist grants.nodupKeys

/-- Drops every grant for one device and tells how many they were. -/
def invalidateDevice (table : AuthTable) (provider device : String) : AuthTable × Nat :=
  let kept := retained provider device table.grants
  ({ table with grants := kept }, table.grants.entries.length - kept.entries.length)

def lookup (table : AuthTable) (key : AuthKey) : Option Grant := table.grants.lookup key

@[simp] theorem lookup_new (ttl : Duration) (key : AuthKey) : (new ttl).lookup key = none := rfl

theorem lookup_grant {table after : AuthTable} {limit now : Instant} {key : AuthKey}
    (granted : table.grant limit now key = some after) (other : AuthKey) :
    after.lookup other = if other = key then some ⟨now + table.ttl⟩ else table.lookup other := by
  unfold grant at granted
  split at granted
  · cases granted
    split
    · next same =>
      rw [same]
      exact AList.lookup_insert _
    · next differs => exact AList.lookup_insert_ne differs
  · cases granted

theorem grant_ttl {table after : AuthTable} {limit now : Instant} {key : AuthKey}
    (granted : table.grant limit now key = some after) : after.ttl = table.ttl := by
  unfold grant at granted
  split at granted
  · cases granted
    rfl
  · cases granted

theorem lookup_check (table : AuthTable) (now : Instant) (key other : AuthKey) :
    (table.check now key).1.lookup other = table.lookup other ∨
      (other = key ∧ (table.check now key).1.lookup other = none) := by
  unfold check
  split
  · exact .inl rfl
  · split
    · by_cases same : other = key
      · right
        rw [same]
        exact ⟨rfl, AList.lookup_erase _ _⟩
      · exact .inl (AList.lookup_erase_ne same)
    · exact .inl rfl

@[simp] theorem check_ttl (table : AuthTable) (now : Instant) (key : AuthKey) :
    (table.check now key).1.ttl = table.ttl := by
  unfold check
  split
  · rfl
  · split <;> rfl

/-- A check succeeds exactly on a grant whose deadline lies ahead. -/
theorem check_ok_iff (table : AuthTable) (now : Instant) (key : AuthKey) :
    (table.check now key).2 = .ok () ↔ ∃ held,
      table.lookup key = some held ∧ now < held.expiresAt := by
  unfold check lookup
  cases table.grants.lookup key with
  | none => simp
  | some held =>
    by_cases late : held.expiresAt ≤ now
    · simp [late]
    · simp [late, Nat.lt_of_not_le late]

theorem check_missing {table : AuthTable} {key : AuthKey} (missing : table.lookup key = none)
    (now : Instant) : table.check now key = (table, .error .NotAuthorized) := by
  unfold check
  rw [lookup] at missing
  rw [missing]

theorem lookup_retained (provider device : String) (grants : AList fun _ : AuthKey => Grant)
    (key : AuthKey) : (retained provider device grants).lookup key =
      if isFor provider device key then none else grants.lookup key := by
  ext held
  rw [← Option.mem_def, AList.mem_lookup_iff]
  simp only [retained, List.mem_filter]
  split
  · next dropped => simp [dropped]
  · next kept => simp [kept, ← AList.mem_lookup_iff]

/-- Losing a device drops the grants for it and leaves every other grant as it was. -/
theorem lookup_invalidateDevice (table : AuthTable) (provider device : String) (key : AuthKey) :
    (table.invalidateDevice provider device).1.lookup key =
      if key.provider = provider ∧ key.device = device then none else table.lookup key := by
  rw [lookup, invalidateDevice, lookup_retained]
  simp [isFor, lookup]

@[simp] theorem invalidateDevice_ttl (table : AuthTable) (provider device : String) :
    (table.invalidateDevice provider device).1.ttl = table.ttl := rfl

end AuthTable
end SkfService
