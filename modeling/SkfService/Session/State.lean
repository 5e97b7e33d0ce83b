import SkfService.Session.Auth
import SkfService.Session.Handles

/-! The state one connection owns, and the operations its requests perform on it. -/

set_option autoImplicit false

namespace SkfService

structure SessionState where
  auth : AuthTable
  handles : HandleTable

namespace SessionState

def new (ttl : Duration) : SessionState := ⟨.new ttl, .new⟩

end SessionState

/-- What a handler may ask of the session state it holds. -/
inductive SessionOp
  | authorize (key : AuthKey)
  | grant (key : AuthKey)
  | invalidateDevice (provider name : String)
  | issueDevice (guard : Device)
  | device (handle : String)
  | removeDevice (handle : String)
  | issueDigest (guard : Digest)
  | digest (handle : String)
  | removeDigest (handle : String)

namespace SessionOp

/-- A check and a grant read the clock; `grant` answers `false` when its deadline addition panics. -/
abbrev Reply : SessionOp → Type
  | authorize _ => Instant × Except AuthRejection Unit
  | grant _ => Instant × Bool
  | invalidateDevice _ _ => Nat
  | issueDevice _ => String
  | device _ => Except HandleError Device
  | removeDevice _ => Except HandleError Device
  | issueDigest _ => String
  | digest _ => Except HandleError Digest
  | removeDigest _ => Except HandleError Digest

def perform (limit now : Instant) (state : SessionState) :
    (op : SessionOp) → SessionState × op.Reply
  | authorize key =>
    let (auth, answer) := state.auth.check now key
    ({ state with auth }, (now, answer))
  | grant key =>
    match state.auth.grant limit now key with
    | some auth => ({ state with auth }, (now, true))
    -- The deadline has no instant: the addition panics, and the table stays.
    | none => (state, (now, false))
  | invalidateDevice provider name =>
    let (auth, removed) := state.auth.invalidateDevice provider name
    ({ state with auth }, removed)
  | issueDevice guard =>
    let (handles, handle) := state.handles.issueDevice guard
    ({ state with handles }, handle)
  | device handle => (state, state.handles.device handle)
  | removeDevice handle =>
    let (handles, guard) := state.handles.removeDevice handle
    ({ state with handles }, guard)
  | issueDigest guard =>
    let (handles, handle) := state.handles.issueDigest guard
    ({ state with handles }, handle)
  | digest handle => (state, state.handles.digest handle)
  | removeDigest handle =>
    let (handles, guard) := state.handles.removeDigest handle
    ({ state with handles }, guard)

def onAuth : SessionOp → Bool
  | authorize _ | grant _ | invalidateDevice _ _ => true
  | _ => false

theorem perform_handles (limit now : Instant) (state : SessionState) (op : SessionOp)
    (auth : op.onAuth = true) : (op.perform limit now state).1.handles = state.handles := by
  cases op with
  | grant key =>
    simp only [perform]
    split <;> rfl
  | authorize | invalidateDevice => rfl
  | _ => cases auth

theorem perform_auth (limit now : Instant) (state : SessionState) (op : SessionOp)
    (handles : op.onAuth = false) : (op.perform limit now state).1.auth = state.auth := by
  cases op with
  | authorize | grant | invalidateDevice => cases handles
  | _ => rfl

theorem perform_ttl (limit now : Instant) (state : SessionState) (op : SessionOp) :
    (op.perform limit now state).1.auth.ttl = state.auth.ttl := by
  cases op with
  | authorize key => exact state.auth.check_ttl now key
  | grant key =>
    simp only [perform]
    split
    · next granted => exact AuthTable.grant_ttl granted
    · rfl
  | _ => rfl

end SessionOp
end SkfService
