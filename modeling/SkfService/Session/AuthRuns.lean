import SkfService.Interaction.History
import SkfService.Interaction.Program
import SkfService.Interaction.Run
import SkfService.Session.Auth

/-! The authorization table over whole runs: what a check answers follows from the history of
grants, checks and lost devices alone. -/

set_option autoImplicit false

namespace SkfService

open Interaction

inductive AuthOp
  | grant (key : AuthKey)
  | check (key : AuthKey)
  | invalidateDevice (provider device : String)

/-- A grant answers `false` when the addition of its deadline panics. -/
abbrev AuthOp.Answer : AuthOp → Type
  | grant _ => Bool
  | check _ => Except AuthRejection Unit
  | invalidateDevice _ _ => Nat

def Authorizations : Signature := ⟨AuthOp, AuthOp.Answer⟩

structure AuthCall where
  now : Instant
  event : Event Authorizations

namespace AuthTable

def perform (limit now : Instant) (table : AuthTable) : (op : AuthOp) → AuthTable × op.Answer
  | .grant key =>
    match table.grant limit now key with
    | some after => (after, true)
    | none => (table, false)
  | .check key => table.check now key
  | .invalidateDevice provider device => table.invalidateDevice provider device

def Performs (limit : Instant) (before : AuthTable) (call : AuthCall) (after : AuthTable) : Prop :=
  before.perform limit call.now call.event.op = (after, call.event.reply)

end AuthTable

namespace AuthTable

theorem perform_granted {table after : AuthTable} {limit now : Instant} {key : AuthKey}
    (granted : table.grant limit now key = some after) :
    table.perform limit now (.grant key) = (after, true) := by
  rw [perform, granted]

theorem perform_overflowed {table : AuthTable} {limit now : Instant} {key : AuthKey}
    (overflowed : table.grant limit now key = none) :
    table.perform limit now (.grant key) = (table, false) := by
  rw [perform, overflowed]

end AuthTable

namespace AuthOp

def supersedes (key : AuthKey) : (op : AuthOp) → op.Answer → Prop
  | grant other, answer => answer = true ∧ other = key
  | check _, _ => False
  | invalidateDevice provider device, _ => key.provider = provider ∧ key.device = device

def About (key : AuthKey) : AuthOp → Prop
  | grant other => other = key
  | check other => other = key
  | invalidateDevice provider device => key.provider = provider ∧ key.device = device

end AuthOp

def grantOf (key : AuthKey) (t0 : Instant) : AuthCall := ⟨t0, ⟨AuthOp.grant key, true⟩⟩

/-- The last grant of the key was at `t0`, and the device was not lost since. -/
def Granted (log : List AuthCall) (key : AuthKey) (t0 : Instant) : Prop :=
  Standing log (grantOf key t0) fun later => ¬AuthOp.supersedes key later.event.op later.event.reply

/-- And no check has come at its deadline or later, which would have removed it. -/
def Unremoved (ttl : Duration) (log : List AuthCall) (key : AuthKey) (t0 : Instant) : Prop :=
  Standing log (grantOf key t0) fun later =>
    ¬AuthOp.supersedes key later.event.op later.event.reply ∧
      (later.event.op = AuthOp.check key → later.now < t0 + ttl)

section steps

variable {limit : Instant} {ttl : Duration} {table after : AuthTable} {key : AuthKey} {held : Grant}

theorem lookup_check_iff (now : Instant) (other : AuthKey) :
    (table.check now other).1.lookup key = some held ↔
    table.lookup key = some held ∧ (other = key → now < held.expiresAt) := by
  unfold AuthTable.check AuthTable.lookup
  cases found : table.grants.lookup other with
  | none =>
    rw [iff_self_and]
    rintro present rfl
    rw [found] at present
    cases present
  | some own =>
    dsimp only
    -- A check drops its own grant once that has lapsed, and no other.
    by_cases same : other = key
    · subst same
      rw [found]
      split
      · next late =>
        rw [AList.lookup_erase]
        constructor
        · intro impossible
          cases impossible
        · rintro ⟨⟨⟩, ahead⟩
          exact absurd (ahead rfl) (Nat.not_lt.mpr late)
      · next early =>
        rw [found, iff_self_and]
        rintro ⟨⟩ _
        exact Nat.lt_of_not_le early
    · rw [and_iff_left fun impossible => absurd impossible same]
      split
      · rw [AList.lookup_erase_ne (Ne.symm same)]
      · rfl

/-- A grant gives its own key a deadline, unless the addition overflows, and leaves the others. -/
theorem performs_grant {now : Instant} {other : AuthKey} {answer : Bool}
    (performs : table.Performs limit ⟨now, ⟨AuthOp.grant other, answer⟩⟩ after) :
    after.lookup key = some held ↔
      ((other = key ∧ answer = true) ∧ held = ⟨now + table.ttl⟩) ∨
        (table.lookup key = some held ∧ ¬(answer = true ∧ other = key)) := by
  -- No grant is recorded when its deadline lies beyond the last instant.
  cases granted : table.grant limit now other with
  | none =>
    obtain ⟨rfl, rfl⟩ := Prod.mk.inj ((AuthTable.perform_overflowed granted).symm.trans performs)
    constructor
    · intro present
      exact .inr ⟨present, fun superseded => Bool.false_ne_true superseded.1⟩
    · rintro (⟨⟨-, impossible⟩, -⟩ | ⟨present, -⟩)
      · cases impossible
      · exact present
  | some next =>
    obtain ⟨rfl, rfl⟩ := Prod.mk.inj ((AuthTable.perform_granted granted).symm.trans performs)
    rw [AuthTable.lookup_grant granted]
    by_cases same : key = other
    · subst same
      rw [if_pos rfl]
      constructor
      · intro given
        cases given
        exact .inl ⟨⟨rfl, rfl⟩, rfl⟩
      · rintro (⟨-, rfl⟩ | ⟨-, kept⟩)
        · rfl
        · exact absurd ⟨rfl, rfl⟩ kept
    · rw [if_neg same]
      constructor
      · intro present
        exact .inr ⟨present, fun superseded => same superseded.2.symm⟩
      · rintro (⟨⟨own, -⟩, -⟩ | ⟨present, -⟩)
        · exact absurd own.symm same
        · exact present

theorem lookup_invalidateDevice_iff (provider device : String) :
    (table.invalidateDevice provider device).1.lookup key = some held ↔
      table.lookup key = some held ∧ ¬(key.provider = provider ∧ key.device = device) := by
  rw [AuthTable.lookup_invalidateDevice]
  split
  · next lost =>
    constructor
    · intro impossible
      cases impossible
    · rintro ⟨-, kept⟩
      exact absurd lost kept
  · next kept => exact (and_iff_left kept).symm

/-- A call leaves the grant it gives, and the grants it neither replaces, drops nor finds lapsed. -/
theorem performs_lookup {call : AuthCall} (performs : table.Performs limit call after) :
    after.lookup key = some held ↔
      (call.event = ⟨AuthOp.grant key, true⟩ ∧ held = ⟨call.now + table.ttl⟩) ∨
        (table.lookup key = some held ∧ ¬AuthOp.supersedes key call.event.op call.event.reply ∧
          (call.event.op = AuthOp.check key → call.now < held.expiresAt)) := by
  obtain ⟨now, op, answer⟩ := call
  cases op with
  | grant other =>
    have event : (⟨AuthOp.grant other, answer⟩ : Event Authorizations) = ⟨AuthOp.grant key, true⟩ ↔
        other = key ∧ answer = true := by
      constructor
      · intro same
        cases same
        exact ⟨rfl, rfl⟩
      · rintro ⟨rfl, rfl⟩
        rfl
    -- A grant is no check, so that the deadline of the old one does not matter.
    have unchecked : AuthOp.grant other = AuthOp.check key → now < held.expiresAt :=
      fun impossible => by cases impossible
    calc after.lookup key = some held ↔ _ := performs_grant performs
      _ ↔ _ := or_congr (and_congr_left' event.symm)
        (and_congr_right' (and_iff_left unchecked).symm)
  | check other =>
    obtain rfl : (table.check now other).1 = after := congrArg Prod.fst performs
    rw [lookup_check_iff]
    constructor
    · rintro ⟨present, ahead⟩
      refine .inr ⟨present, fun superseded => superseded, fun same => ?_⟩
      cases same
      exact ahead rfl
    · rintro (⟨impossible, -⟩ | ⟨present, -, ahead⟩)
      · cases impossible
      · refine ⟨present, ?_⟩
        rintro rfl
        exact ahead rfl
  | invalidateDevice provider device =>
    obtain rfl : (table.invalidateDevice provider device).1 = after := congrArg Prod.fst performs
    rw [lookup_invalidateDevice_iff]
    constructor
    · rintro ⟨present, kept⟩
      exact .inr ⟨present, kept, fun impossible => by cases impossible⟩
    · rintro (⟨impossible, -⟩ | ⟨present, kept, -⟩)
      · cases impossible
      · exact ⟨present, kept⟩

theorem performs_ttl {call : AuthCall} (performs : table.Performs limit call after) :
    after.ttl = table.ttl := by
  obtain ⟨now, op, answer⟩ := call
  cases op with
  | grant key =>
    cases granted : table.grant limit now key with
    | none =>
      obtain ⟨rfl, -⟩ := Prod.mk.inj ((AuthTable.perform_overflowed granted).symm.trans performs)
      rfl
    | some next =>
      obtain ⟨rfl, -⟩ := Prod.mk.inj ((AuthTable.perform_granted granted).symm.trans performs)
      exact AuthTable.grant_ttl granted
  | check key =>
    obtain rfl : (table.check now key).1 = after := congrArg Prod.fst performs
    exact AuthTable.check_ttl table now key
  | invalidateDevice provider device =>
    obtain rfl : (table.invalidateDevice provider device).1 = after := congrArg Prod.fst performs
    rfl

end steps

/-- What a run so far says about the table: it holds the deadlines of the grants that nothing has
superseded or removed. -/
structure Remembers (ttl : Duration) (log : List AuthCall) (table : AuthTable) : Prop where
  lifetime : table.ttl = ttl
  grants : ∀ key held, table.lookup key = some held ↔
    ∃ t0, Unremoved ttl log key t0 ∧ held = ⟨t0 + ttl⟩

section runs

variable {limit : Instant} {ttl : Duration} {log : List AuthCall} {table after : AuthTable}
  {key : AuthKey}

theorem remembers_start (ttl : Duration) : Remembers ttl [] (AuthTable.new ttl) where
  lifetime := rfl
  grants key held := by
    constructor
    · intro impossible
      cases impossible
    · rintro ⟨t0, standing, -⟩
      exact (not_standing_nil standing).elim

theorem Remembers.performs (remembers : Remembers ttl log table) {call : AuthCall}
    (performs : table.Performs limit call after) : Remembers ttl (log ++ [call]) after where
  lifetime := (performs_ttl performs).trans remembers.lifetime
  grants key held := by
    rw [performs_lookup performs, remembers.lifetime]
    constructor
    · rintro (⟨event, rfl⟩ | ⟨present, kept, ahead⟩)
      · refine ⟨call.now, standing_concat.mpr (.inl ?_), rfl⟩
        rw [grantOf, ← event]
      · obtain ⟨t0, standing, rfl⟩ := (remembers.grants key held).mp present
        exact ⟨t0, standing_concat.mpr (.inr ⟨standing, kept, ahead⟩), rfl⟩
    · rintro ⟨t0, standing, rfl⟩
      rcases standing_concat.mp standing with rfl | ⟨earlier, kept, ahead⟩
      · exact .inl ⟨rfl, rfl⟩
      · exact .inr ⟨(remembers.grants key _).mpr ⟨t0, earlier, rfl⟩, kept, ahead⟩

theorem remembers_of_run (ran : Run (AuthTable.Performs limit) (AuthTable.new ttl) log table) :
    Remembers ttl log table :=
  ran.invariant (Remembers ttl) (remembers_start ttl) fun _ _ _ _ remembers performs =>
    remembers.performs performs

theorem check_answer (table : AuthTable) (now : Instant) (key : AuthKey) :
    ((table.check now key).2 = .ok () ↔ ∃ held,
      table.lookup key = some held ∧ now < held.expiresAt) ∧
      ((table.check now key).2 = .error .Expired ↔
        ∃ held, table.lookup key = some held ∧ held.expiresAt ≤ now) ∧
      ((table.check now key).2 = .error .NotAuthorized ↔ table.lookup key = none) := by
  refine ⟨AuthTable.check_ok_iff table now key, ?_⟩
  unfold AuthTable.check AuthTable.lookup
  cases table.grants.lookup key with
  | none => simp
  | some held => by_cases late : held.expiresAt ≤ now <;> simp [late]

theorem check_congr {other : AuthTable} (now : Instant)
    (same : table.lookup key = other.lookup key) :
    (table.check now key).2 = (other.check now key).2 := by
  unfold AuthTable.check
  rw [AuthTable.lookup, AuthTable.lookup] at same
  rw [same]
  cases other.grants.lookup key with
  | none => rfl
  | some held =>
    dsimp only
    split <;> rfl

/-- A call leaves the grants of the keys it is not about. -/
theorem performs_other {call : AuthCall} (performs : table.Performs limit call after)
    (foreign : ¬AuthOp.About key call.event.op) : after.lookup key = table.lookup key := by
  obtain ⟨now, op, answer⟩ := call
  ext held
  rw [performs_lookup performs]
  constructor
  · rintro (⟨event, -⟩ | ⟨present, -⟩)
    · cases event
      exact absurd rfl foreign
    · exact present
  · intro present
    refine .inr ⟨present, fun superseded => foreign ?_, fun same => ?_⟩
    · cases op with
      | grant other => exact superseded.2
      | check other => exact superseded.elim
      | invalidateDevice provider device => exact superseded
    · cases same
      exact absurd rfl foreign

/-- A lost device drops as many grants as there are keys for it. -/
theorem invalidateDevice_count (table : AuthTable) (provider device : String) :
    (table.invalidateDevice provider device).2 =
      (table.grants.keys.filter (AuthTable.isFor provider device)).length := by
  have split :=
    table.grants.entries.length_eq_length_filter_add fun entry =>
      AuthTable.isFor provider device entry.1
  rw [AList.keys, List.keys, List.filter_map, List.length_map]
  simp only [AuthTable.invalidateDevice, AuthTable.retained, Function.comp_def] at split ⊢
  omega

theorem Granted.unremoved {now t0 : Instant} (granted : Granted log key t0)
    (clock : ∀ call ∈ log, call.now ≤ now) (ahead : now < t0 + ttl) : Unremoved ttl log key t0 :=
  granted.mono fun call member kept => ⟨kept, fun _ => Nat.lt_of_le_of_lt (clock call member) ahead⟩

theorem Unremoved.granted {t0 : Instant} (unremoved : Unremoved ttl log key t0) :
    Granted log key t0 :=
  unremoved.mono fun _ _ kept => kept.1

end runs

/-- After every run, at a time no call of it lies behind, a check answers by the history: it
succeeds while the last grant, not followed by a loss of the device, has time left; it reports a
lapsed one the first time; else there is no authorization. Calls about other keys change nothing,
and a lost device drops exactly the keys for it. -/
theorem auth_table_history {limit now : Instant} {ttl : Duration} {log : List AuthCall}
    {table : AuthTable} (ran : Run (AuthTable.Performs limit) (AuthTable.new ttl) log table)
    (clock : ∀ call ∈ log, call.now ≤ now) (key : AuthKey) :
    ((table.check now key).2 = .ok () ↔ ∃ t0, Granted log key t0 ∧ now < t0 + ttl) ∧
      ((table.check now key).2 = .error .Expired ↔
        ∃ t0, Unremoved ttl log key t0 ∧ t0 + ttl ≤ now) ∧
      ((table.check now key).2 = .error .NotAuthorized ↔
        (¬∃ t0, Granted log key t0 ∧ now < t0 + ttl) ∧ ¬∃ t0,
          Unremoved ttl log key t0 ∧ t0 + ttl ≤ now) ∧
      (∀ call after, table.Performs limit call after → ¬AuthOp.About key call.event.op →
        (after.check now key).2 = (table.check now key).2) ∧
      ∀ provider device,
        ((table.invalidateDevice provider device).1.lookup key =
          if key.provider = provider ∧ key.device = device then none else table.lookup key) ∧
        (table.invalidateDevice provider device).2 =
          (table.grants.keys.filter (AuthTable.isFor provider device)).length := by
  have remembers := remembers_of_run ran
  obtain ⟨ok, expired, unauthorized⟩ := check_answer table now key
  have succeeds : (table.check now key).2 = .ok () ↔ ∃ t0, Granted log key t0 ∧ now < t0 + ttl := by
    rw [ok]
    constructor
    · rintro ⟨held, present, ahead⟩
      obtain ⟨t0, unremoved, rfl⟩ := (remembers.grants key held).mp present
      exact ⟨t0, unremoved.granted, ahead⟩
    · rintro ⟨t0, granted, ahead⟩
      exact ⟨_, (remembers.grants key _).mpr ⟨t0, granted.unremoved clock ahead, rfl⟩, ahead⟩
  have lapses : (table.check now key).2 = .error .Expired ↔
      ∃ t0, Unremoved ttl log key t0 ∧ t0 + ttl ≤ now := by
    rw [expired]
    constructor
    · rintro ⟨held, present, late⟩
      obtain ⟨t0, unremoved, rfl⟩ := (remembers.grants key held).mp present
      exact ⟨t0, unremoved, late⟩
    · rintro ⟨t0, unremoved, late⟩
      exact ⟨_, (remembers.grants key _).mpr ⟨t0, unremoved, rfl⟩, late⟩
  refine ⟨succeeds, lapses, ?_, fun call after performs foreign =>
    check_congr now (performs_other performs foreign),
    fun provider device => ⟨AuthTable.lookup_invalidateDevice table provider device key,
      invalidateDevice_count table provider device⟩⟩
  rw [← succeeds, ← lapses, ok, expired, unauthorized]
  -- A key is refused as not granted when it is neither in time nor lapsed.
  cases table.lookup key with
  | none => simp
  | some held =>
    rw [iff_false_left (by simp)]
    rintro ⟨unexpired, fresh⟩
    rcases Nat.lt_or_ge now held.expiresAt with ahead | late
    · exact unexpired ⟨held, rfl, ahead⟩
    · exact fresh ⟨held, rfl, late⟩

namespace Granting

/-! A grant at time 5 with a lifetime of 10. -/

def key : AuthKey := ⟨"GM3000", "dev", "app"⟩
def after : AuthTable := ((AuthTable.new 10).perform 100 5 (.grant key)).1

theorem ran : Run (AuthTable.Performs 100) (AuthTable.new 10) [grantOf key 5] after := by
  have granted : (AuthTable.new 10).grant 100 5 key = some after := rfl
  exact Run.cons (AuthTable.perform_granted granted) Run.start

theorem standing : Unremoved 10 [grantOf key 5] key 5 :=
  ⟨[], [], rfl, fun _ impossible => by cases impossible⟩

end Granting

theorem auth_table_history_lapsed : (Granting.after.check 20 Granting.key).2 = .error .Expired := by
  have clock : ∀ call ∈ [grantOf Granting.key 5], call.now ≤ 20 := by
    intro call member
    rw [List.mem_singleton.mp member]
    decide
  obtain ⟨-, expired, -⟩ := auth_table_history Granting.ran clock Granting.key
  exact expired.mpr ⟨5, Granting.standing, by decide⟩

end SkfService
