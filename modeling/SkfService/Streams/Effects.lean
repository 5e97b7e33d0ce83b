import SkfService.Streams.Requests

/-! What a request does with the streams of its session, by its handles and by its calls. -/

set_option autoImplicit false

namespace SkfService

open Text Interaction Program Handler HandleTable

namespace HandleTable

theorem digest_congr {table other : HandleTable} (same : table.digests = other.digests)
    (handle : String) :
    table.digest handle = other.digest handle := by
  have tables : table.tables .Digest = other.tables .Digest := same
  simp only [digest, get, tables]

theorem digest_of_removed {table : HandleTable} {handle : String} {guard : Digest}
    (removed : (table.removeDigest handle).2 = .ok guard) : table.digest handle = .ok guard := by
  unfold removeDigest remove at removed
  split at removed
  · next held found =>
    rw [Except.ok.inj removed] at found
    exact found
  · cases removed

theorem digest_of_unremoved {table : HandleTable} {handle : String} {reason : HandleError}
    (missing : (table.removeDigest handle).2 = .error reason) :
    table.digest handle = .error reason := by
  unfold removeDigest remove at missing
  split at missing
  · cases missing
  · next found =>
    rw [Except.error.inj missing] at found
    exact found

theorem digest_lookup_congr {table other : HandleTable} {handle : String}
    (same : table.digests.lookup handle = other.digests.lookup handle) :
    table.digest handle = other.digest handle := by
  have found : (table.tables .Digest).lookup handle = (other.tables .Digest).lookup handle := same
  simp only [digest, get, found]

theorem digest_removed_other {table : HandleTable} {handle other : String} {guard : Digest}
    (removed : (table.removeDigest handle).2 = .ok guard) (differs : other ≠ handle) :
    (table.removeDigest handle).1.digest other = table.digest other := by
  obtain ⟨-, digests, -⟩ := removeDigest_ok removed
  apply digest_lookup_congr
  rw [digests, AList.lookup_erase_ne differs]

theorem digest_removed {table : HandleTable} {handle : String} {guard : Digest}
    (removed : (table.removeDigest handle).2 = .ok guard) (found : Digest) :
    (table.removeDigest handle).1.digest handle ≠ .ok found := by
  obtain ⟨-, digests, -⟩ := removeDigest_ok removed
  intro held
  have still := mem_of_digest held
  rw [digests, AList.mem_erase] at still
  exact still.1 rfl

theorem digest_issued {table : HandleTable} {guard found : Digest}
    (held : ((table.issueDigest guard).1.issueDevice guard.device).1.digest (table.mint .Digest) =
      .ok found) :
    found = guard := by
  have inserted :
      ((table.issueDigest guard).1.issueDevice guard.device).1.digests.lookup (table.mint .Digest) =
      some guard := by
    rw [issueDevice_digests, issueDigest_digests, AList.lookup_insert]
  exact Option.some.inj ((get_ok held).symm.trans inserted)

theorem digest_issued_other {table : HandleTable} {guard : Digest} {handle : String}
    (differs : handle ≠ table.mint .Digest) :
    ((table.issueDigest guard).1.issueDevice guard.device).1.digest handle =
      table.digest handle := by
  apply digest_lookup_congr
  rw [issueDevice_digests, issueDigest_digests, AList.lookup_insert_ne differs]

end HandleTable

/-- `Streamed ctx params before s method trace response after t`: everything a request can have done
with the streams of its session, by its handles and by its calls. -/
inductive Streamed (ctx : SkfContext) (params : Params) (before : HandleTable) (s : Hashes) :
    Method → List (Event Skf) → RpcResponse → HandleTable → Hashes → Prop
  | aside {method : Method} {trace : List (Event Skf)} {response : RpcResponse}
      {after : HandleTable} {t : Hashes}
      (kept : after.digests = before.digests) (spared : s.Spares t)
      (unfed : method = .DigestUpdate → response.isErr = true)
      (untold : method = .DigestInit → response.isErr = true)
      (unheld : method = .DigestFinal ∨ method = .CloseHash →
        ∀ handle digest, params.str 0 = some handle →
        before.digest handle ≠ .ok digest) :
          Streamed ctx params before s method trace response after t
  | begun {trace : List (Event Skf)} {digest : Digest} {algId : ULONG} {id : List UInt8}
      (begins : ⟨.provider (.beginDigest digest.device algId id), some (.ok digest.raw)⟩ ∈ trace)
      (new : s digest.hash = none) : Streamed ctx params before s .DigestInit trace
        (.ok (.ofFields [("handle", .string (before.mint .Digest))]) params.id)
        ((before.issueDigest digest).1.issueDevice digest.device).1
          (Function.update s digest.hash (some ⟨[], false⟩))
  | fed {trace : List (Event Skf)} {handle : String} {data : List UInt8} {digest : Digest}
      (named : params.str 0 = some handle) (given : DigestUpdate.data ctx params = some data)
      (held : before.digest handle = .ok digest) : Streamed ctx params before s .DigestUpdate trace
        (.ok (.bool true) params.id) before (s.feed digest data)
  | ended {method : Method} {trace : List (Event Skf)} {response : RpcResponse} {handle : String}
      {digest : Digest}
      (ending : method = .DigestFinal ∨ method = .CloseHash) (named : params.str 0 = some handle)
      (removed : (before.removeDigest handle).2 = .ok digest) :
      Streamed ctx params before s method trace response
        (before.removeDigest handle).1 (Function.update s digest.hash none)

section exchange

variable {ctx : SkfContext} {before after : Line} {text : String} {trace : List (Event Skf)}
  {response : RpcResponse} {method : Method} {params : Params} {s : Hashes}

theorem Exchange.digestUpdate_streamed (there : reached ctx text = some (.DigestUpdate, params))
    (exchange : Exchange ctx before text trace response after) :
    Streamed ctx params before.state.handles s .DigestUpdate trace response after.state.handles
      (Hashes.monitor.follow s trace) := by
  have ran := digestUpdate_ran (exchange.yields there)
  obtain ⟨-, possible, left⟩ := exchange
  rw [← left]
  cases ran with
  | malformed bad refused =>
    refine .aside rfl (Hashes.spares_refl s) (fun _ => refused) (fun other => by cases other) ?_
    rintro (other | other) <;> cases other
  | unknown named given =>
    refine .aside rfl (Hashes.spares_refl s) (fun _ => rfl) (fun other => by cases other) ?_
    rintro (other | other) <;> cases other
  | failed named given refused =>
    refine .aside rfl (Hashes.spares_refl s) (fun _ => refused) (fun other => by cases other) ?_
    rintro (other | other) <;> cases other
  | fed named given => exact .fed named given possible.1

/-- A handle that could not be removed was not held, and the table is as it was. -/
theorem Streamed.unknown {handle : String} {reason : HandleError} {state : SessionState}
    (named : params.str 0 = some handle)
    (missing : (state.handles.removeDigest handle).2 = .error reason) :
    Streamed ctx params state.handles s method trace (invalidHashHandle params.id)
      (state.handles.removeDigest handle).1 s := by
  have same : (state.handles.removeDigest handle).1 = state.handles := remove_error missing
  rw [same]
  refine .aside rfl (Hashes.spares_refl s) (fun _ => rfl) (fun _ => rfl)
    fun _ other digest given held => ?_
  obtain rfl : handle = other := Option.some.inj (named.symm.trans given)
  rw [digest_of_unremoved missing] at held
  cases held

theorem Exchange.digestFinal_streamed (there : reached ctx text = some (.DigestFinal, params))
    (exchange : Exchange ctx before text trace response after) :
    Streamed ctx params before.state.handles s .DigestFinal trace response after.state.handles
      (Hashes.monitor.follow s trace) := by
  have ran := digestFinal_ran (exchange.yields there)
  obtain ⟨-, possible, left⟩ := exchange
  rw [← left]
  cases ran with
  | malformed bad refused =>
    refine .aside rfl (Hashes.spares_refl s) (fun _ => refused) (fun _ => refused)
      fun _ handle digest named => ?_
    rw [bad] at named
    cases named
  | unknown named => exact .unknown named possible.1
  | @failed handle digest e response named refused =>
    change Streamed _ _ _ _ _ _ _ _ (Function.update (s.finish digest) digest.hash none)
    rw [s.finish_close]
    exact .ended (.inl rfl) named possible.1
  | @finalized handle digest hash named =>
    change Streamed _ _ _ _ _ _ _ _ (Function.update (s.finish digest) digest.hash none)
    rw [s.finish_close]
    exact .ended (.inl rfl) named possible.1

theorem Exchange.closeHash_streamed (there : reached ctx text = some (.CloseHash, params))
    (exchange : Exchange ctx before text trace response after) :
    Streamed ctx params before.state.handles s .CloseHash trace response after.state.handles
      (Hashes.monitor.follow s trace) := by
  have ran := closeHash_ran (exchange.yields there)
  obtain ⟨-, possible, left⟩ := exchange
  rw [← left]
  cases ran with
  | malformed bad refused =>
    refine .aside rfl (Hashes.spares_refl s) (fun _ => refused) (fun _ => refused)
      fun _ handle digest named => ?_
    rw [bad] at named
    cases named
  | unknown named => exact .unknown named possible.1
  | closed named => exact .ended (.inr rfl) named possible.1

theorem Exchange.digestInit_streamed (there : reached ctx text = some (.DigestInit, params))
    (exchange : Exchange ctx before text trace response after)
    (fits : Hashes.monitor.Possible s trace) :
    Streamed ctx params before.state.handles s .DigestInit trace response after.state.handles
      (Hashes.monitor.follow s trace) := by
  have ran := digestInit_ran (exchange.yields there)
  cases ran with
  | failed idle refused =>
    have touched := exchange.touched there
    have kept : after.state.handles.digests = before.state.handles.digests := by
      generalize after.state.handles = handles at touched
      cases touched with
      | nothing => rfl
      | begun => cases refused
      | ended ending => rcases ending with other | other <;> cases other
    refine .aside kept (Hashes.spares_follow fits idle) (fun _ => refused) (fun _ => refused) ?_
    rintro (other | other) <;> cases other
  | @begun library name raw hash algId id handle hidden =>
    obtain ⟨-, possible, left⟩ := exchange
    obtain ⟨-, -, minted, -⟩ := possible
    obtain rfl : before.state.handles.mint .Digest = handle := minted
    rw [← left]
    exact @Streamed.begun ctx params _ s _ ⟨⟨library, name, raw⟩, hash⟩ algId id (by simp)
      (fits.2.1 _ rfl)

theorem Exchange.streamed (there : reached ctx text = some (method, params))
    (exchange : Exchange ctx before text trace response after)
    (fits : Hashes.monitor.Possible s trace) :
    Streamed ctx params before.state.handles s method trace response after.state.handles
      (Hashes.monitor.follow s trace) := by
  cases streams : method.streams with
  | true =>
    cases method with
    | DigestInit => exact exchange.digestInit_streamed there fits
    | DigestUpdate => exact exchange.digestUpdate_streamed there
    | DigestFinal => exact exchange.digestFinal_streamed there
    | CloseHash => exact exchange.closeHash_streamed there
    | _ => cases streams
  | false =>
    have touched := exchange.touched there
    have kept : after.state.handles.digests = before.state.handles.digests := by
      generalize after.state.handles = handles at touched
      cases touched with
      | nothing | drawn => rfl
      | connected => rfl
      | disconnected named held => exact (removeDevice_ok held).2.2.1
      | begun | fed => cases streams
      | ended ending => rcases ending with rfl | rfl <;> cases streams
    refine .aside kept (Hashes.spares_of_other there streams exchange fits) ?_ ?_ ?_
    · rintro rfl
      cases streams
    · rintro rfl
      cases streams
    · rintro (rfl | rfl) <;> cases streams

end exchange

end SkfService
