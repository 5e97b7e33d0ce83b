import SkfService.Connection.Exchange
import SkfService.Custody.Release
import SkfService.Dispatch.Routine
import SkfService.Streams.Hashes

/-! What a request does to the hash objects that were open before it.

Only the requests of a stream work on a hash object that an earlier request began: a guard-based
handler works on nothing that it did not open itself, and of the other branches only `Digest` works
on any. -/

set_option autoImplicit false

namespace SkfService

open Interaction Program Handler

def Method.streams : Method → Bool
  | .DigestInit | .DigestUpdate | .DigestFinal | .CloseHash => true
  | _ => false

namespace Hashes

section custody

theorem begins_of_opens {op : Op} {reply : op.Reply} {digest : Digest}
    (opened : Custody.opens op reply = some (.digest digest)) : op.begins reply = some digest := by
  unfold Custody.opens at opened
  split at opened
  · cases opened
  · cases opened
  · cases opened
    rfl
  · cases opened
    rfl
  · cases opened
  · cases opened
  · split at opened <;> cases opened
  · split at opened <;> cases opened
  · split at opened <;> cases opened
  · split at opened
    · next succeeded =>
      cases opened
      exact if_pos succeeded
    · cases opened
  · cases opened

/-- Whatever hash object an operation works on, the ledger has it used or closed. -/
theorem held_of_hashes {op : Op} {digest : Digest} {held : List Resource}
    (works : op.hashes = some digest) (respects : Custody.inventory.Respects held op) :
    Resource.digest digest ∈ held := by
  unfold Op.hashes at works
  split at works
  · cases works
    exact respects.1 _ (List.mem_singleton.mpr rfl)
  · cases works
    exact respects.1 _ (List.mem_singleton.mpr rfl)
  · cases works
    exact (respects.2 _ rfl).1
  · cases works
    exact respects.1 _ (List.mem_singleton.mpr rfl)
  · cases works

/-- A run that works only on what it holds spares every hash object it did not begin. -/
theorem spares_of_ledger {first s : Hashes} {held : List Resource} {trace : List (Event Skf)}
    (spared : first.Spares s)
    (own : ∀ digest, Resource.digest digest ∈ held → first digest.hash = none)
    (allowed : Custody.inventory.ledger.Allows held trace) (possible : monitor.Possible s trace) :
    first.Spares (monitor.follow s trace) := by
  induction trace generalizing held s with
  | nil => exact spared
  | cons event rest ih =>
    obtain ⟨op, reply⟩ := event
    have unopened {digest : Digest} (closed : s digest.hash = none) : first digest.hash = none := by
      by_contra isOpen
      exact isOpen (by rw [← spared _ isOpen, closed])
    -- A call works on a digest of the ledger, which the request opened itself.
    have here : first.Spares (s.advance op reply) := by
      intro hash isOpen
      rw [← spared hash isOpen]
      apply advance_other
      · intro digest works same
        exact isOpen (same ▸ own digest (held_of_hashes works allowed.1))
      · intro digest begun same
        exact isOpen (same ▸ unopened (possible.1 digest begun))
    apply ih here _ allowed.2 possible.2
    intro digest member
    have later : Resource.digest digest ∈ Custody.inventory.after held op reply := member
    rcases List.mem_append.mp later with new | old
    · exact unopened (possible.1 digest (begins_of_opens (Option.mem_toList.mp new)))
    · apply own digest
      cases closes : Custody.inventory.closes op with
      | none => rwa [closes] at old
      | some r =>
        rw [closes] at old
        exact List.mem_of_mem_erase old

end custody

section sparing

variable {A B : Type} {first s : Hashes} {ctx : SkfContext} {params : Params} {lang : Language}

def Sparing (first s : Hashes) (p : Handler A) : Prop :=
  p.Meets monitor (fun _ t => first.Spares t) (fun _ t => first.Spares t) s

theorem Sparing.bind {p : Handler A} {k : A → Handler B} (before : Sparing first s p)
    (next : ∀ value t, first.Spares t → Sparing first t (k value)) : Sparing first s (p >>= k) := by
  rw [Sparing, meets_bind]
  exact Meets.mono before next fun _ _ spared => spared

theorem sparing_of_confined {p : Handler A} (confined : Confined (fun op => op.hashes = none) p)
    (spared : first.Spares s) : Sparing first s p := by
  induction p generalizing s with
  | done value => exact spared
  | stop exit => exact spared
  | call op next ih =>
    refine ⟨trivial, fun reply possible => ih reply (confined.2 reply) (spared.trans ?_)⟩
    apply spares_advance possible
    intro digest works
    have unhashed : op.hashes = none := confined.1
    rw [unhashed] at works
    cases works

theorem sparing_digest : Sparing first first (Digest.handle ctx params lang) := by
  apply (sparing_of_confined (Confined.orReply _) (spares_refl first)).bind
  intro provName s spared
  apply (sparing_of_confined (Confined.orReply _) spared).bind
  intro devName s spared
  apply (sparing_of_confined (Confined.orReply _) spared).bind
  intro dataB64 s spared
  apply (sparing_of_confined (Confined.expect _ _) spared).bind
  intro algId s spared
  apply (sparing_of_confined (Confined.orReply _) spared).bind
  intro data s spared
  apply (sparing_of_confined (confined_apiOr _ _) spared).bind
  intro api s spared
  apply (sparing_of_confined (confined_connectDev _ _ _) spared).bind
  intro device s spared
  refine bind_call trivial fun reply possible => ?_
  obtain ⟨started, raw⟩ := reply
  refine meets_ite (fun ok => ?_) fun failed => ?_
  · -- The hash object that was just begun is none of those that were open before.
    have own : s (Digest.mk device raw).hash = none := possible _ (if_pos ok)
    have other : first (Digest.mk device raw).hash = none := by
      by_contra isOpen
      exact isOpen (by rw [← spared _ isOpen, own])
    refine bind_call trivial fun filled _ => ?_
    have fed : first.Spares (s.feed ⟨device, raw⟩ data) := spared.trans (spares_update own _)
    refine Sparing.bind (sparing_of_confined (confined_disConnectDev _) fed) fun _ s spared => ?_
    exact sparing_of_confined (Confined.ite trivial trivial) spared
  · exact Sparing.bind (sparing_of_confined (confined_disConnectDev _) spared) fun _ s spared =>
      spared

end sparing

/-- Of the branches that are neither a stream's nor guarded, only `Digest` works on a hash object. -/
theorem unhashed_branch {ctx : SkfContext} {params : Params} {lang : Language} {method : Method}
    (other : method.streams = false) (unguarded : method.isGuarded = false)
    (different : method ≠ .Digest) :
    Confined (fun op => op.hashes = none) (method.branch ctx params lang) := by
  cases method with
  | GetProtocolVersion | SetLanguage | EnumProvider => exact asks_done _
  | WaitForDevEvent => exact confined_wait
  | EnumDevice => exact confined_enumDevice
  | ConnectDev => exact confined_connect
  | EnumApplication => exact confined_enumApplication
  | EnumContainer => exact confined_enumContainer
  | IssueCertificate => exact confined_issueCertificate
  | ImportKeyPair => exact confined_importKeyPair (fun _ _ => rfl) fun _ _ _ _ => rfl
  | DisConnectDev => exact confined_disConnect
  | FindCertificates => exact confined_findCertificates
  | GenerateRandom => exact confined_generateRandom
  | GetDevInfo => exact confined_getDevInfo
  | GetDevState => exact confined_getDevState
  | SetLabel => exact confined_setLabel fun _ _ => rfl
  | ECCVerify => exact confined_eccVerify fun _ _ _ _ => rfl
  | LockDev => exact confined_lockDev fun _ _ => rfl
  | UnlockDev => exact confined_unlockDev fun _ => rfl
  | Transmit => exact confined_transmit fun _ _ _ => rfl
  | CancelWaitForDevEvent => exact confined_cancelWait
  | RSAVerify => exact confined_rsaVerify fun _ _ _ _ => rfl
  | Digest => exact absurd rfl different
  -- The streaming branches and the guarded ones are left to other lemmas.
  | DigestInit | DigestUpdate | DigestFinal | CloseHash => cases other
  | DeleteContainer | ImportCertificate | SignData | CheckPIN | CreatePKCS10 | EncryptData
  | DecryptData | CreateContainer | GetContainerType | RSASignData | GenECCKeyPair | GenRSAKeyPair =>
    cases unguarded

/-- A request that belongs to no stream spares every hash object that was open before it. -/
theorem spares_of_other {ctx : SkfContext} {before after : Line} {text : String}
    {trace : List (Event Skf)} {response : RpcResponse} {method : Method} {params : Params}
    {s : Hashes} (there : reached ctx text = some (method, params)) (other : method.streams = false)
    (exchange : Exchange ctx before text trace response after)
    (possible : monitor.Possible s trace) :
    s.Spares (monitor.follow s trace) := by
  have through (sparing : Sparing s s (method.branch ctx params before.lang)) :
      s.Spares (monitor.follow s trace) := by
    have met : (method.branch ctx params before.lang).Meets monitor (fun _ t => s.Spares t)
        (fun exit t => ∀ response, exit = .reply response → s.Spares t) s := by
      apply Meets.mono sparing
      · exact fun _ _ spared => spared
      · exact fun _ _ spared _ _ => spared
    exact (meets_handleRequest there met).returned exchange.1 possible
  -- A guarded branch closes the digests it begins; the others begin none, apart from Digest.
  cases guarded : method.isGuarded with
  | false =>
    by_cases digest : method = .Digest
    · subst digest
      exact through sparing_digest
    · exact through (sparing_of_confined (unhashed_branch other guarded digest) (spares_refl s))
  | true =>
    have ends : (Custody.inventory.audit Custody.unflagged).follow (.clear []) trace =
        .clear [] := by
      have met :
          (method.branch ctx params before.lang).Meets (Custody.inventory.audit Custody.unflagged)
          (fun _ t => t = .clear []) (fun exit t =>
            ∀ response, exit = .reply response → t = .clear []) (.clear []) := by
        apply (Custody.keeps_branch guarded).mono
        · exact fun _ _ same => same
        · exact fun _ _ same _ _ => same
      exact (meets_handleRequest there met).returned exchange.1 (Custody.possible_audit _ _)
    have clean : Custody.inventory.Clean trace := by
      rw [Custody.inventory.clean_iff_audit Custody.unflagged, ends]
      exact ⟨rfl, rfl⟩
    apply spares_of_ledger (spares_refl s) _ clean.1 possible
    intro digest member
    cases member

end Hashes
end SkfService
