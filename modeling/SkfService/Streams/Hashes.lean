import Mathlib.Data.List.Basic
import Mathlib.Logic.Function.Basic
import SkfService.Interaction.Monitor
import SkfService.Skf.Interface

/-! Hash objects as their libraries see them.

A library knows a hash object by its raw handle alone. It may hand the same raw handle out again
only after the object was closed; a call that fails to feed an object leaves it as it was. -/

set_option autoImplicit false

namespace SkfService

open Interaction

/-- A hash object: its library and its raw handle there. -/
abbrev HashId := String × Nat

def Digest.hash (digest : Digest) : HashId := (digest.device.library.providerAlias, digest.raw)

/-- What a hash object has taken so far, and whether it was finalised. -/
structure HashState where
  taken : List (List UInt8)
  finalized : Bool

/-- The hash objects that were begun through a provider and not closed. -/
abbrev Hashes := HashId → Option HashState

def Hashes.closed : Hashes := fun _ => none

def Op.hashes : Op → Option Digest
  | .provider (.update digest _) | .provider (.finalize digest)
  | .provider (.close (.digest digest)) => some digest
  | .vendor (.digest hash _ _) => some hash
  | _ => none

def Op.begins : (op : Op) → op.Reply → Option Digest
  | .provider (.beginDigest device _ _), some (.ok raw) => some ⟨device, raw⟩
  | .provider (.beginDigestWithKey device _ _ _), some (.ok raw) => some ⟨device, raw⟩
  | .vendor (.digestInit device _), (ret, raw) => if ret = SAR_OK then some ⟨device, raw⟩ else none
  | _, _ => none

namespace Hashes

def feed (s : Hashes) (digest : Digest) (data : List UInt8) : Hashes :=
  Function.update s digest.hash ((s digest.hash).map fun state =>
    { state with taken := state.taken ++ [data] })

def finish (s : Hashes) (digest : Digest) : Hashes :=
  Function.update s digest.hash ((s digest.hash).map fun state => { state with finalized := true })

theorem finish_close (s : Hashes) (digest : Digest) :
    Function.update (s.finish digest) digest.hash none = Function.update s digest.hash none :=
  Function.update_idem _ _ _

/-- What an interaction does to the hash objects. One that a symbol table call began is not
followed; no guard ever closes it. -/
def advance (s : Hashes) : (op : Op) → op.Reply → Hashes
  | .provider (.beginDigest device _ _), some (.ok raw) =>
    Function.update s (Digest.mk device raw).hash (some ⟨[], false⟩)
  | .provider (.beginDigestWithKey device _ _ _), some (.ok raw) =>
    Function.update s (Digest.mk device raw).hash (some ⟨[], false⟩)
  | .provider (.update digest data), some (.ok ()) => s.feed digest data
  | .provider (.finalize digest), _ => s.finish digest
  | .provider (.close (.digest digest)), _ => Function.update s digest.hash none
  | .vendor (.digest hash data _), _ => s.feed hash data
  | _, _ => s

/-- A library begins no hash object under the raw handle of one that is still open. -/
def monitor : Monitor Skf Hashes where
  allowed _ _ := True
  possible s op reply := ∀ digest ∈ Op.begins op reply, s digest.hash = none
  advance s op reply := s.advance op reply

/-- Everything that was open is open still, in the same state. -/
def Spares (s t : Hashes) : Prop := ∀ hash, s hash ≠ none → t hash = s hash

theorem spares_refl (s : Hashes) : s.Spares s := fun _ _ => rfl

theorem Spares.trans {s t u : Hashes} (first : s.Spares t) (second : t.Spares u) : s.Spares u := by
  intro hash isOpen
  have kept := first hash isOpen
  rw [second hash (by rwa [kept]), kept]

theorem spares_update {s : Hashes} {hash : HashId} (closed : s hash = none)
    (state : Option HashState) :
    s.Spares (Function.update s hash state) := by
  intro other isOpen
  by_cases same : other = hash
  · subst same
    exact absurd closed isOpen
  · exact Function.update_of_ne same _ _

theorem advance_other {s : Hashes} {op : Op} {reply : op.Reply} {hash : HashId}
    (works : ∀ digest ∈ Op.hashes op, digest.hash ≠ hash)
    (begins : ∀ digest ∈ Op.begins op reply, digest.hash ≠ hash) :
    s.advance op reply hash = s hash := by
  unfold advance
  split
  · exact Function.update_of_ne (begins _ rfl).symm _ _
  · exact Function.update_of_ne (begins _ rfl).symm _ _
  · exact Function.update_of_ne (works _ rfl).symm _ _
  · exact Function.update_of_ne (works _ rfl).symm _ _
  · exact Function.update_of_ne (works _ rfl).symm _ _
  · exact Function.update_of_ne (works _ rfl).symm _ _
  · rfl

theorem advance_idle {s : Hashes} {op : Op} {reply : op.Reply} (works : op.hashes = none)
    (begins : op.begins reply = none) : s.advance op reply = s := by
  funext hash
  apply advance_other
  · intro digest on
    rw [works] at on
    cases on
  · intro digest begun
    rw [begins] at begun
    cases begun

theorem spares_advance {s : Hashes} {op : Op} {reply : op.Reply}
    (possible : monitor.possible s op reply) (works : ∀ digest ∈ Op.hashes op,
      s digest.hash = none) : s.Spares (s.advance op reply) := by
  intro hash isOpen
  apply advance_other
  · intro digest on same
    exact isOpen (same ▸ works digest on)
  · intro digest begun same
    exact isOpen (same ▸ possible digest begun)

theorem spares_follow {s : Hashes} {trace : List (Event Skf)} (possible : monitor.Possible s trace)
    (idle : ∀ event ∈ trace, Op.hashes event.op = none) : s.Spares (monitor.follow s trace) := by
  induction trace generalizing s with
  | nil => exact spares_refl s
  | cons event rest ih =>
    have here : s.Spares (monitor.advance s event.op event.reply) := by
      apply spares_advance possible.1
      intro digest on
      rw [idle event (by simp)] at on
      cases on
    exact here.trans (ih possible.2 fun other member => idle other (List.mem_cons_of_mem _ member))

/-- A trace that begins nothing is possible whatever is open. -/
theorem possible_of_unbegun {trace : List (Event Skf)}
    (unbegun : ∀ event ∈ trace, Op.begins event.op event.reply = none) (s : Hashes) :
    monitor.Possible s trace := by
  induction trace generalizing s with
  | nil => trivial
  | cons event rest ih =>
    refine ⟨fun digest begun =>
      ?_, ih (fun other member => unbegun other (List.mem_cons_of_mem _ member)) _⟩
    rw [unbegun event (by simp)] at begun
    cases begun

end Hashes
end SkfService
