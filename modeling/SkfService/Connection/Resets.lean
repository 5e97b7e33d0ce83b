import SkfService.Connection.Client

/-! Handles across the resets of a connection.

A reset empties the session and starts its counter again. As long as nothing is issued after a reset
that came after a handle was told, no handle is told twice and no old handle finds anything. -/

set_option autoImplicit false

namespace SkfService

open Interaction HandleTable

/-- Nothing that may issue a handle is requested once a reset has come after a told handle. -/
def IssuesBeforeResets (ctx : SkfContext) (turns : List Turn) : Prop :=
  ∀ front turn back, turns = front ++ turn :: back →
    (∃ method params, reached ctx turn.text = some (method, params) ∧ method.givesHandle = true) →
      ∀ before reset behind, front = before ++ reset :: behind → reset.resets = true →
        told ctx before = []

def Stale (ctx : SkfContext) (turns : List Turn) (handle : String) : Prop :=
  ∃ before reset behind,
    turns = before ++ reset :: behind ∧ reset.resets = true ∧ handle ∈ told ctx before

/-- What a run so far says about its handles: none was told twice; once one is stale the tables are
empty, and until then the counter is past every one of them. -/
structure Fresh (ctx : SkfContext) (turns : List Turn) (table : HandleTable) : Prop where
  distinct : (told ctx turns).Nodup
  emptied : (∃ handle, Stale ctx turns handle) → table.devices = ∅ ∧ table.digests = ∅
  passed : (∀ handle, ¬Stale ctx turns handle) →
    table.nextId.toNat ≤ 2 * turns.length ∧ ∀ handle ∈ told ctx turns, Numbered table.nextId handle

section resets

variable {ctx : SkfContext} {ttl : Duration} {turns : List Turn} {before line after : Line}
  {text : String} {trace : List (Event Skf)} {response : RpcResponse}

/-- A turn that does not reset makes no handle stale. -/
theorem stale_answered {turn : Turn} (kept : turn.resets = false) {handle : String} :
    Stale ctx (turns ++ [turn]) handle ↔ Stale ctx turns handle := by
  constructor
  · rintro ⟨front, reset, behind, spelled, resets, spoken⟩
    rcases List.eq_nil_or_concat behind with rfl | ⟨rest, final, rfl⟩
    · obtain ⟨rfl, same⟩ := List.append_inj' spelled rfl
      cases same
      rw [kept] at resets
      cases resets
    · rw [List.concat_eq_append, ← List.cons_append, ← List.append_assoc] at spelled
      obtain ⟨same, -⟩ := List.append_inj' spelled rfl
      exact ⟨front, reset, rest, same, resets, spoken⟩
  · rintro ⟨front, reset, behind, rfl, resets, spoken⟩
    exact ⟨front, reset, behind ++ [turn], by simp, resets, spoken⟩

/-- A reset makes every handle told so far stale. -/
theorem stale_reset {turn : Turn} (resets : turn.resets = true) {handle : String} :
    Stale ctx (turns ++ [turn]) handle ↔ handle ∈ told ctx turns := by
  constructor
  · rintro ⟨front, reset, behind, spelled, -, spoken⟩
    have stretch : front <+: turns := by
      rcases List.eq_nil_or_concat behind with rfl | ⟨rest, final, rfl⟩
      · exact (List.append_inj' spelled rfl).1 ▸ List.prefix_refl _
      · rw [List.concat_eq_append, ← List.cons_append, ← List.append_assoc] at spelled
        exact (List.append_inj' spelled rfl).1 ▸ List.prefix_append _ _
    obtain ⟨rest, rfl⟩ := stretch
    rw [told, List.filterMap_append]
    exact List.mem_append_left _ spoken
  · exact fun spoken => ⟨turns, turn, [], rfl, resets, spoken⟩

theorem told_reset {turn : Turn} (resets : turn.resets = true) : turn.told ctx = none := by
  cases turn with
  | answered => cases resets
  | timedOut | failed => rfl

theorem fresh_start : Fresh ctx [] (Line.new ttl).state.handles where
  distinct := List.nodup_nil
  emptied := by
    rintro ⟨_, front, reset, behind, spelled, _⟩
    simp at spelled
  passed _ := ⟨Nat.le_refl _, fun _ member => by cases member⟩

theorem Fresh.issue {turn : Turn} {table : HandleTable} (kind : ResourceKind)
    (fresh : Fresh ctx turns before.state.handles) (room : 2 * (turns.length + 1) < 2 ^ 64)
    (kept : turn.resets = false) (unstale : ∀ handle, ¬Stale ctx turns handle)
    (spoken : turn.told ctx = some (before.state.handles.mint kind))
    (grown : before.state.handles.nextId.toNat + 1 ≤ table.nextId.toNat)
    (bounded : table.nextId.toNat ≤ before.state.handles.nextId.toNat + 2) :
    Fresh ctx (turns ++ [turn]) table := by
  obtain ⟨counted, numbered⟩ := fresh.passed unstale
  have split : told ctx (turns ++ [turn]) = told ctx turns ++ [before.state.handles.mint kind] := by
    rw [told_append, spoken]
    rfl
  refine ⟨?_, ?_, fun _ => ⟨?_, ?_⟩⟩
  · rw [split]
    refine List.nodup_append.mpr ⟨fresh.distinct, List.nodup_singleton _,
      fun handle old other new => ?_⟩
    rw [List.mem_singleton.mp new]
    exact mint_new (by omega) kind (numbered handle old)
  · rintro ⟨handle, stale⟩
    exact absurd ((stale_answered kept).mp stale) (unstale handle)
  · rw [List.length_append, List.length_singleton]
    omega
  -- The counter has passed the number just issued, and did not wrap.
  · intro handle member
    rw [split] at member
    rcases List.mem_append.mp member with old | new
    · exact (numbered handle old).later (by omega)
    · rw [List.mem_singleton.mp new]
      refine ⟨kind, _, ?_, rfl⟩
      rw [UInt64.toNat_add, UInt64.toNat_one, Nat.mod_eq_of_lt (by omega)]
      exact grown

theorem Fresh.quiet {turn : Turn} {table : HandleTable}
    (fresh : Fresh ctx turns before.state.handles) (kept : turn.resets = false)
    (untold : turn.told ctx = none) (sameId : table.nextId = before.state.handles.nextId)
    (devices : ∀ handle, handle ∈ table.devices → handle ∈ before.state.handles.devices)
    (digests : ∀ handle, handle ∈ table.digests → handle ∈ before.state.handles.digests) :
    Fresh ctx (turns ++ [turn]) table := by
  have same : told ctx (turns ++ [turn]) = told ctx turns := by
    rw [told_append, untold]
    simp
  have emptied {T : Type} {old new : Table T} (subset : ∀ handle, handle ∈ new → handle ∈ old)
      (none : old = ∅) :
      new = ∅ := by
    refine AList.ext (List.eq_nil_iff_forall_not_mem.mpr fun entry member => ?_)
    have key : entry.1 ∈ new := List.mem_map_of_mem member
    rw [none] at subset
    exact AList.notMem_empty _ (subset _ key)
  refine ⟨?_, ?_, fun unstale => ?_⟩
  · rw [same]
    exact fresh.distinct
  · rintro ⟨handle, stale⟩
    obtain ⟨noDevices, noDigests⟩ := fresh.emptied ⟨handle, (stale_answered kept).mp stale⟩
    exact ⟨emptied devices noDevices, emptied digests noDigests⟩
  · obtain ⟨counted, numbered⟩ := fresh.passed fun handle stale =>
      unstale handle ((stale_answered kept).mpr stale)
    rw [same, sameId, List.length_append]
    exact ⟨by omega, numbered⟩

theorem Fresh.connected {turn : Turn} (fresh : Fresh ctx turns before.state.handles)
    (room : 2 * (turns.length + 1) < 2 ^ 64) (kept : turn.resets = false)
    (unstale : ∀ handle, ¬Stale ctx turns handle) (guard : Device)
    (spoken : turn.told ctx = some (before.state.handles.mint .Device)) :
    Fresh ctx (turns ++ [turn]) (before.state.handles.issueDevice guard).1 := by
  have counted := (fresh.passed unstale).1
  have next : (before.state.handles.issueDevice guard).1.nextId.toNat =
      before.state.handles.nextId.toNat + 1 := by
    rw [issueDevice_nextId, UInt64.toNat_add, UInt64.toNat_one, Nat.mod_eq_of_lt (by omega)]
  exact fresh.issue .Device room kept unstale spoken (by omega) (by omega)

theorem Fresh.begun {turn : Turn} (fresh : Fresh ctx turns before.state.handles)
    (room : 2 * (turns.length + 1) < 2 ^ 64) (kept : turn.resets = false)
    (unstale : ∀ handle, ¬Stale ctx turns handle) (guard : Digest)
    (spoken : turn.told ctx = some (before.state.handles.mint .Digest)) :
    Fresh ctx (turns ++ [turn])
      ((before.state.handles.issueDigest guard).1.issueDevice guard.device).1 := by
  have counted := (fresh.passed unstale).1
  -- The digest and its device take a number each.
  have next :
      ((before.state.handles.issueDigest guard).1.issueDevice guard.device).1.nextId.toNat =
      before.state.handles.nextId.toNat + 2 := by
    rw [issueDevice_nextId, issueDigest_nextId, UInt64.toNat_add, UInt64.toNat_add,
      UInt64.toNat_one]
    omega
  exact fresh.issue .Digest room kept unstale spoken (by omega) (by omega)

theorem Fresh.disconnected {turn : Turn} {gone : String} {guard : Device}
    (fresh : Fresh ctx turns before.state.handles) (kept : turn.resets = false)
    (untold : turn.told ctx = none)
    (held : (before.state.handles.removeDevice gone).2 = .ok guard) :
    Fresh ctx (turns ++ [turn]) (before.state.handles.removeDevice gone).1 := by
  obtain ⟨-, devices, digests, nextId⟩ := removeDevice_ok held
  refine fresh.quiet kept untold nextId (fun handle still => ?_) fun handle still => ?_
  · rw [devices, AList.mem_erase] at still
    exact still.2
  · rwa [digests] at still

theorem Fresh.ended {turn : Turn} {gone : String} {guard : Digest}
    (fresh : Fresh ctx turns before.state.handles) (kept : turn.resets = false)
    (untold : turn.told ctx = none)
    (held : (before.state.handles.removeDigest gone).2 = .ok guard) :
    Fresh ctx (turns ++ [turn]) (before.state.handles.removeDigest gone).1 := by
  obtain ⟨-, digests, devices, nextId⟩ := removeDigest_ok held
  refine fresh.quiet kept untold nextId (fun handle still => ?_) fun handle still => ?_
  · rwa [devices] at still
  · rw [digests, AList.mem_erase] at still
    exact still.2

theorem told_isErr (failed : response.isErr = true) :
    (Turn.answered text trace response).told ctx = none := by
  simp only [Turn.told, failed, if_true]
  split <;> rfl

theorem told_takes {method : Method} {params : Params}
    (there : reached ctx text = some (method, params)) (gives : method.givesHandle = false) :
    (Turn.answered text trace response).told ctx = none := by
  simp only [Turn.told, there]
  split
  · rfl
  · cases method with
    | ConnectDev | DigestInit => cases gives
    | _ => rfl

theorem Fresh.step (fresh : Fresh ctx turns before.state.handles)
    (exchange : Exchange ctx before text trace response after)
    (room : 2 * (turns.length + 1) < 2 ^ 64)
    (orderly : IssuesBeforeResets ctx (turns ++ [.answered text trace response])) :
    Fresh ctx (turns ++ [.answered text trace response]) after.state.handles := by
  cases there : reached ctx text with
  | none =>
    obtain ⟨rfl, -, failed⟩ := exchange.unreached there
    exact fresh.quiet rfl (told_isErr failed) rfl (fun _ held => held) fun _ held => held
  | some found =>
    obtain ⟨method, params⟩ := found
    -- No handle is asked for behind a reset that follows a told one, so that no told handle is
    -- stale here.
    have unstale (gives : method.givesHandle = true) (handle : String) :
        ¬Stale ctx turns handle := by
      rintro ⟨front, reset, behind, spelled, resets, spoken⟩
      have silent :=
        orderly turns _ [] rfl ⟨method, params, there, gives⟩ front reset behind spelled resets
      rw [silent] at spoken
      cases spoken
    have touched := exchange.touched there
    generalize after.state.handles = handles at touched ⊢
    cases touched with
    | nothing refused untold =>
      refine fresh.quiet rfl ?_ rfl (fun _ held => held) fun _ held => held
      cases gives : method.givesHandle with
      | true => exact told_isErr (untold gives)
      | false => exact told_takes there gives
    | drawn named held | fed named held =>
      exact fresh.quiet rfl (told_takes there rfl) rfl (fun _ held => held) fun _ held => held
    | connected guard =>
      apply fresh.connected room rfl (unstale rfl) guard
      rw [told_reached there rfl]
      rfl
    | begun guard =>
      apply fresh.begun room rfl (unstale rfl) guard
      rw [told_reached there rfl]
      rfl
    | disconnected named held => exact fresh.disconnected rfl (told_takes there rfl) held
    | ended ending named held =>
      refine fresh.ended rfl ?_ held
      rcases ending with rfl | rfl <;> exact told_takes there rfl

theorem Fresh.reset {turn : Turn} (fresh : Fresh ctx turns before.state.handles)
    (resets : turn.resets = true) :
    Fresh ctx (turns ++ [turn]) (Line.new ttl).state.handles := by
  have same : told ctx (turns ++ [turn]) = told ctx turns := by
    rw [told_append, told_reset resets]
    simp
  refine ⟨?_, fun _ => ⟨rfl, rfl⟩, fun unstale => ⟨Nat.zero_le _, fun handle member => ?_⟩⟩
  · rw [same]
    exact fresh.distinct
  · rw [same] at member
    exact absurd ((stale_reset resets).mpr member) (unstale handle)

theorem IssuesBeforeResets.front {turn : Turn} (whole : IssuesBeforeResets ctx (turns ++ [turn])) :
    IssuesBeforeResets ctx turns := by
  intro front other back spelled
  exact whole front other (back ++ [turn]) (by rw [spelled, List.append_assoc, List.cons_append])

theorem fresh_conversation (conversation : Conversation ctx ttl (.new ttl) turns line)
    (short : 2 * turns.length < 2 ^ 64) (orderly : IssuesBeforeResets ctx turns) :
    Fresh ctx turns line.state.handles := by
  induction conversation with
  | start => exact fresh_start
  | @next turns turn line after earlier step ih =>
    rw [List.length_append, List.length_singleton] at short
    have fresh := ih (by omega) orderly.front
    cases step with
    | answered exchange => exact fresh.step exchange short orderly
    | timedOut | failed => exact fresh.reset rfl

/-- While nothing is issued after a reset that came after a told handle, no handle is told twice,
and a request that names a handle from before a reset is answered with an error. -/
theorem handles_not_reused (conversation : Conversation ctx ttl (.new ttl) turns line)
    (short : 2 * turns.length < 2 ^ 64) (orderly : IssuesBeforeResets ctx turns) :
    (told ctx turns).Nodup ∧
      ∀ handle, Stale ctx turns handle → ∀ text trace response after,
        Exchange ctx line text trace response after →
          (∀ method params, reached ctx text = some (method, params) →
            method.takesHandle = true ∧ params.str 0 = some handle) → response.error ≠ 0 := by
  have fresh := fresh_conversation conversation short orderly
  refine ⟨fresh.distinct, fun handle stale text trace response after exchange uses => ?_⟩
  cases there : reached ctx text with
  | none => exact (exchange.unreached there).2.1
  | some found =>
    obtain ⟨method, params⟩ := found
    obtain ⟨takes, -⟩ := uses method params there
    -- Nothing has been issued since the reset, so that every handle is refused.
    obtain ⟨noDevices, noDigests⟩ := fresh.emptied ⟨handle, stale⟩
    have touched := exchange.touched there
    generalize after.state.handles = handles at touched
    have noDevice {handle : String} : handle ∉ line.state.handles.devices := by
      rw [noDevices]
      exact AList.notMem_empty _
    have noDigest {handle : String} : handle ∉ line.state.handles.digests := by
      rw [noDigests]
      exact AList.notMem_empty _
    cases touched with
    | nothing refused => exact (refused takes).1
    | connected | begun => cases takes
    | drawn named held => exact absurd (mem_of_device held) noDevice
    | fed named held => exact absurd (mem_of_digest held) noDigest
    | disconnected named held => exact absurd (removeDevice_ok held).1 noDevice
    | ended ending named held => exact absurd (removeDigest_ok held).1 noDigest

end resets

section reuse

def openText : String := "\x7b\"method\":\"ConnectDev\",\"params\":[\"K1\"],\"id\":1\x7d"

def randomText : String := "\x7b\"method\":\"GenerateRandom\",\"params\":[\"dev-1\",8],\"id\":2\x7d"

def reuseContext : SkfContext :=
  .serving [(openText, ⟨"ConnectDev", [.string "K1"], some (.number (.unsigned 1)), none⟩),
    (randomText, ⟨"GenerateRandom", [.string "dev-1", .number (.unsigned 8)],
      some (.number (.unsigned 2)), none⟩)]

/-- What opening `K1` does when the library hands out `raw` and the session mints `handle`. -/
def openTrace (raw : Nat) (handle : String) : List (Event Skf) :=
  [⟨.provider (.openDevice ⟨"GM3000", some 0⟩ "K1"), some (.ok raw)⟩,
    ⟨.session (.issueDevice ⟨⟨"GM3000", some 0⟩, "K1", raw⟩), handle⟩]

def openResponse : RpcResponse := .ok (.string "dev-1") (some (.number (.unsigned 1)))

theorem mint_first : HandleTable.new.mint .Device = "dev-1" := by decide

theorem opened (raw : Nat) :
    Exchange reuseContext (.new 100) openText (openTrace raw "dev-1") openResponse
      ⟨(tracked (2 ^ 63)).follow (.new 100) (openTrace raw "dev-1"), .EN⟩ :=
  ⟨.step _ (.step _ (.refl _)), ⟨trivial, mint_first, trivial⟩, rfl⟩

def stalledTurns : List Turn :=
  [.answered openText (openTrace 7 "dev-1") openResponse, .timedOut randomText []]

theorem stalled : Conversation reuseContext 100 (.new 100) stalledTurns (.new 100) :=
  .next (.next .start (.answered (opened 7))) (.timedOut rfl (.refl _) trivial)

theorem handles_not_reused_stalled :
    (told reuseContext stalledTurns).Nodup ∧
      ∀ handle, Stale reuseContext stalledTurns handle → ∀ text trace response after,
        Exchange reuseContext (.new 100) text trace response after →
          (∀ method params, reached reuseContext text = some (method, params) →
            method.takesHandle = true ∧ params.str 0 = some handle) → response.error ≠ 0 := by
  refine handles_not_reused stalled (by decide)
    fun front turn back spelled gives before reset behind cut => ?_
  rcases front with - | ⟨first, - | ⟨second, rest⟩⟩
  · simp at cut
  · obtain ⟨method, params, there, issuing⟩ := gives
    unfold stalledTurns at spelled
    cases spelled
    cases there
    cases issuing
  · have lengths := congrArg List.length spelled
    simp [stalledTurns] at lengths

/-- After the reset the next connect is told the handle that the first one was told. -/
theorem handle_told_twice :
    ∃ turns line,
      Conversation reuseContext 100 (.new 100) turns line ∧ ¬(told reuseContext turns).Nodup := by
  have twice :
      told reuseContext (stalledTurns ++ [.answered openText (openTrace 9 "dev-1") openResponse]) =
      ["dev-1", "dev-1"] := rfl
  refine ⟨_, _, stalled.next (.answered (opened 9)), ?_⟩
  rw [twice]
  decide

end reuse

end SkfService
