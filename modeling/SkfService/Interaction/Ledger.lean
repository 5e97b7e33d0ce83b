import Mathlib.Data.List.Count
import SkfService.Interaction.Monitor

/-! Resources a program opens and has to give back.

An inventory says what each interaction opens, closes and uses. The ledger of a run is the list of
resources it holds: an operation may use only what is held, and it may close a resource only once
nothing that was opened on it is held any more. A clean run keeps to that and ends with nothing
held. -/

set_option autoImplicit false

namespace Interaction

/-- What interactions do with resources; `parent` is what a resource was opened on. -/
structure Inventory (I : Signature) (R : Type) where
  opens : (op : I.Op) → I.Reply op → Option R
  closes : I.Op → Option R
  uses : I.Op → List R
  parent : R → Option R

variable {I : Signature} {R E A B : Type}

namespace Inventory

variable [DecidableEq R] (inv : Inventory I R)

/-- The operation works on held resources, and closes only one without held children. -/
def Respects (held : List R) (op : I.Op) : Prop :=
  (∀ r ∈ inv.uses op, r ∈ held) ∧
    ∀ r ∈ inv.closes op, r ∈ held ∧ ∀ child ∈ held, inv.parent child ≠ some r

instance (held : List R) (op : I.Op) : Decidable (inv.Respects held op) :=
  inferInstanceAs (Decidable ((∀ r ∈ inv.uses op, r ∈ held) ∧
    ∀ r ∈ inv.closes op, r ∈ held ∧ ∀ child ∈ held, inv.parent child ≠ some r))

def after (held : List R) (op : I.Op) (reply : I.Reply op) : List R :=
  (inv.opens op reply).toList ++
    match inv.closes op with
    | some r => held.erase r
    | none => held

def ledger : Monitor I (List R) where
  allowed := inv.Respects
  possible _ _ _ := True
  advance := inv.after

def opened (trace : List (Event I)) : List R :=
  trace.filterMap fun event => inv.opens event.op event.reply

def closed (trace : List (Event I)) : List R := trace.filterMap fun event => inv.closes event.op

def Clean (trace : List (Event I)) : Prop :=
  inv.ledger.Allows [] trace ∧ inv.ledger.follow [] trace = []

theorem count_after {held : List R} {op : I.Op} (reply : I.Reply op)
    (respects : inv.Respects held op) (r : R) :
    (inv.after held op reply).count r + (inv.closes op).toList.count r =
      held.count r + (inv.opens op reply).toList.count r := by
  have closing : (match inv.closes op with
      | some s => held.erase s
      | none => held).count r + (inv.closes op).toList.count r = held.count r := by
    cases closes : inv.closes op with
    | none => simp
    | some s =>
      have member : s ∈ held := (respects.2 s closes).1
      by_cases same : s = r
      · subst same
        have positive := List.count_pos_iff.mpr member
        simp only [List.count_erase_self, Option.toList_some, List.count_singleton_self]
        omega
      · simp [List.count_erase_of_ne (Ne.symm same), same]
  rw [after, List.count_append]
  omega

/-- Everything a run opens is closed again, or it is still held. -/
theorem count_follow {held : List R} {trace : List (Event I)}
    (allowed : inv.ledger.Allows held trace) (r : R) :
    (inv.ledger.follow held trace).count r + (inv.closed trace).count r =
      held.count r + (inv.opened trace).count r := by
  induction trace generalizing held with
  | nil => simp [Monitor.follow, closed, opened]
  | cons event rest ih =>
    have once := inv.count_after event.reply allowed.1 r
    have later := ih allowed.2
    have closing : (inv.closed (event :: rest)).count r =
        (inv.closes event.op).toList.count r + (inv.closed rest).count r := by
      cases closes : inv.closes event.op <;> simp [closed, closes, List.count_cons, Nat.add_comm]
    have opening : (inv.opened (event :: rest)).count r =
        (inv.opens event.op event.reply).toList.count r + (inv.opened rest).count r := by
      cases opens : inv.opens event.op event.reply <;>
        simp [opened, opens, List.count_cons, Nat.add_comm]
    rw [closing, opening]
    have step : (inv.ledger.follow held (event :: rest)).count r =
        (inv.ledger.follow (inv.after held event.op event.reply) rest).count r := rfl
    have front : (inv.ledger.follow (inv.ledger.advance held event.op event.reply) rest).count r =
        (inv.ledger.follow (inv.after held event.op event.reply) rest).count r := rfl
    have kept : (inv.ledger.advance held event.op event.reply).count r =
        (inv.after held event.op event.reply).count r := rfl
    omega

theorem opened_of_uses {front back : List (Event I)} {event : Event I}
    (allowed : inv.ledger.Allows [] (front ++ event :: back)) {r : R}
    (used : r ∈ inv.uses event.op) :
    r ∈ inv.opened front := by
  obtain ⟨earlier, here⟩ := (Monitor.allows_append _ _ _ _).mp allowed
  have held : r ∈ inv.ledger.follow [] front := here.1.1 r used
  have positive := List.count_pos_iff.mpr held
  have counts := inv.count_follow earlier r
  rw [List.count_nil] at counts
  exact List.count_pos_iff.mp (by omega)

/-- A clean run closes each resource as often as it opened it. -/
theorem Clean.balanced {inv : Inventory I R} {trace : List (Event I)} (clean : inv.Clean trace)
    (r : R) :
    (inv.closed trace).count r = (inv.opened trace).count r := by
  simpa [clean.2] using inv.count_follow clean.1 r

end Inventory

/-- A ledger that goes on after an operation it would not allow, and remembers it; `flagged`
remembers that an interaction of a given kind happened. -/
structure Audit (R : Type) where
  held : List R
  faulted : Bool
  flagged : Bool

def Audit.clear (held : List R) : Audit R := ⟨held, false, false⟩

namespace Inventory

variable [DecidableEq R] (inv : Inventory I R) (flag : (op : I.Op) → I.Reply op → Bool)

def audit : Monitor I (Audit R) where
  allowed _ _ := True
  possible _ _ _ := True
  advance s op reply :=
    ⟨inv.after s.held op reply, s.faulted || !decide (inv.Respects s.held op),
      s.flagged || flag op reply⟩

theorem follow_audit (s : Audit R) (trace : List (Event I)) :
    ((inv.audit flag).follow s trace).held = inv.ledger.follow s.held trace ∧
      (((inv.audit flag).follow s trace).faulted = false ↔
        s.faulted = false ∧ inv.ledger.Allows s.held trace) ∧
      (((inv.audit flag).follow s trace).flagged = false ↔
        s.flagged = false ∧ ∀ event ∈ trace, flag event.op event.reply = false) := by
  induction trace generalizing s with
  | nil => simp [Monitor.follow, Monitor.Allows]
  | cons event rest ih =>
    obtain ⟨held, faulted, flagged⟩ := ih ((inv.audit flag).advance s event.op event.reply)
    refine ⟨held, faulted.trans ?_, flagged.trans ?_⟩
    · simp [audit, Monitor.Allows, ledger, and_assoc]
    · simp [audit, and_assoc]

/-- The audit of a run sees whether it is clean. -/
theorem clean_iff_audit (trace : List (Event I)) :
    inv.Clean trace ↔ ((inv.audit flag).follow (.clear []) trace).faulted = false ∧
      ((inv.audit flag).follow (.clear []) trace).held = [] := by
  obtain ⟨held, faulted, -⟩ := inv.follow_audit flag (.clear []) trace
  rw [Clean, held, faulted]
  simp [Audit.clear]

theorem advance_clear {held : List R} {op : I.Op} {reply : I.Reply op}
    (respects : inv.Respects held op) (unflagged : flag op reply = false) :
    (inv.audit flag).advance (.clear held) op reply = .clear (inv.after held op reply) := by
  simp [audit, Audit.clear, respects, unflagged]

end Inventory
end Interaction
