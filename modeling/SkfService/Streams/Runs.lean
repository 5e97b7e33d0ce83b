import SkfService.Connection.Accounts
import SkfService.Connection.Resets
import SkfService.Streams.Effects

/-! Streams of one session over a whole run.

A stream is what `DigestInit` begins under the handle it answers with. In a run without resets each
stream keeps to its own hash object, whatever other requests come in between, as long as the handle
counter has not come round. -/

set_option autoImplicit false

namespace SkfService

open Text Interaction Program Handler HandleTable

def traceOf (turns : List Turn) : List (Event Skf) := turns.flatMap Turn.trace

/-- How many handles a turn takes from the counter: `DigestInit` takes one for its device, too. -/
def Turn.issues (ctx : SkfContext) : Turn → Nat
  | .answered text _ response =>
    match reached ctx text with
    | some (.ConnectDev, _) => if response.isErr then 0 else 1
    | some (.DigestInit, _) => if response.isErr then 0 else 2
    | _ => 0
  | .timedOut _ _ | .failed _ _ _ => 0

def issued (ctx : SkfContext) (turns : List Turn) : Nat := (turns.map (Turn.issues ctx)).sum

/-- The stream a well-formed request of a stream is about. -/
def Method.digestHandle (ctx : SkfContext) (params : Params) : Method → Option String
  | .DigestUpdate => (DigestUpdate.data ctx params).bind fun _ => params.str 0
  | .DigestFinal | .CloseHash => params.str 0
  | _ => none

def Method.takesDigest : Method → Bool
  | .DigestUpdate | .DigestFinal | .CloseHash => true
  | _ => false

/-- The data a turn feeds to the stream of a handle: that of a successful `DigestUpdate` of it. -/
def Turn.feeds (ctx : SkfContext) (handle : String) : Turn → Option (List UInt8)
  | .answered text _ response =>
    match reached ctx text with
    | some (.DigestUpdate, params) =>
      if params.str 0 = some handle ∧ response.isErr =
        false then DigestUpdate.data ctx params else none
    | _ => none
  | .timedOut _ _ | .failed _ _ _ => none

def fed (ctx : SkfContext) (handle : String) (turns : List Turn) : List (List UInt8) :=
  turns.filterMap (Turn.feeds ctx handle)

/-- The stream a turn asks to be ended, whether that succeeds or not. -/
def Turn.ends (ctx : SkfContext) : Turn → Option String
  | .answered text _ _ =>
    match reached ctx text with
    | some (.DigestFinal, params) | some (.CloseHash, params) => params.str 0
    | _ => none
  | .timedOut _ _ | .failed _ _ _ => none

/-- The turn is the `DigestInit` that answered with the handle, and the digest is the one it began. -/
def Turn.Begins (ctx : SkfContext) (turn : Turn) (handle : String) (digest : Digest) : Prop :=
  (∃ params, reached ctx turn.text = some (.DigestInit, params)) ∧ turn.told ctx = some handle ∧
    ∃ algId id,
      ⟨.provider (.beginDigest digest.device algId id), some (.ok digest.raw)⟩ ∈ turn.trace

def Ended (ctx : SkfContext) (turns : List Turn) (handle : String) : Prop :=
  ∃ front turn back,
    turns = front ++ turn :: back ∧ turn.ends ctx = some handle ∧ handle ∈ told ctx front

def hashesAfter (turns : List Turn) : Hashes := Hashes.monitor.follow .closed (traceOf turns)

/-- What the next request of a run keeps to. A `DigestFinal` that succeeds finalises the digest its
handle was told for, once it took exactly the data of the successful updates. A stream that was
asked to end is gone. A request leaves every stream alone that it does not name. -/
structure Unmixed (ctx : SkfContext) (turns : List Turn) (before : Line) (text : String)
    (trace : List (Event Skf)) (response : RpcResponse) (after : Line) : Prop where
  finalises : ∀ params handle, reached ctx text = some (.DigestFinal, params) →
    params.str 0 = some handle →
    response.isErr = false → ∃ earlier init since digest hash,
      turns = earlier ++ init :: since ∧ init.Begins ctx handle digest ∧
        hashesAfter turns digest.hash = some ⟨fed ctx handle since, false⟩ ∧
          trace = [⟨.session (.removeDigest handle), .ok digest⟩,
            ⟨.provider (.finalize digest), some (.ok hash)⟩,
              ⟨.provider (.close (.digest digest)), ()⟩] ∧
            response = .ok (.string (Base64.encode hash)) params.id
  gone : ∀ method params handle, reached ctx text = some (method, params) →
    method.digestHandle ctx params = some handle → Ended ctx turns handle →
      response = invalidHashHandle params.id
  apart : ∀ handle digest, before.state.handles.digest handle = .ok digest →
    (∀ method params, reached ctx text = some (method, params) → method.takesDigest = true →
      params.str 0 ≠ some handle) →
    after.state.handles.digest handle = .ok digest ∧
      Hashes.monitor.follow (hashesAfter turns) trace digest.hash = hashesAfter turns digest.hash

/-- The counter stands at the number of handles taken, and no told handle has a greater number. -/
structure Tally (ctx : SkfContext) (turns : List Turn) (table : HandleTable) : Prop where
  counted : table.nextId.toNat = issued ctx turns
  numbered : ∀ handle ∈ told ctx turns, Numbered table.nextId handle

/-- Every stream the session holds was begun by a turn that told its handle, and its hash object
took what was fed to it since. No two streams share a hash object. What was asked to end is not
held. -/
structure Streams (ctx : SkfContext) (turns : List Turn) (table : HandleTable) (s : Hashes) :
    Prop where
  live : ∀ handle digest, table.digest handle = .ok digest → ∃ earlier init since,
    turns = earlier ++ init :: since ∧ init.Begins ctx handle digest ∧
      s digest.hash = some ⟨fed ctx handle since, false⟩
  distinct : ∀ handle other digest digest', table.digest handle = .ok digest →
    table.digest other = .ok digest' →
    digest.hash = digest'.hash → handle = other
  ended : ∀ handle digest, Ended ctx turns handle → table.digest handle ≠ .ok digest

section run

variable {ctx : SkfContext} {ttl : Duration} {turns : List Turn} {before line after : Line}
  {text : String} {trace : List (Event Skf)} {response : RpcResponse} {method : Method}
  {params : Params} {s : Hashes}

theorem issued_append (turn : Turn) :
    issued ctx (turns ++ [turn]) = issued ctx turns + turn.issues ctx := by
  simp [issued]

theorem fed_append (handle : String) (turn : Turn) :
    fed ctx handle (turns ++ [turn]) = fed ctx handle turns ++ (turn.feeds ctx handle).toList := by
  cases feeds : turn.feeds ctx handle <;> simp [fed, feeds]

theorem hashesAfter_append (turn : Turn) :
    hashesAfter (turns ++ [turn]) = Hashes.monitor.follow (hashesAfter turns) turn.trace := by
  rw [hashesAfter, traceOf, List.flatMap_append, List.flatMap_singleton, Monitor.follow_append]
  rfl

theorem issues_isErr (failed : response.isErr = true) :
    (Turn.answered text trace response).issues ctx = 0 := by
  simp only [Turn.issues, failed, if_true]
  split <;> rfl

theorem issues_takes (there : reached ctx text = some (method, params))
    (gives : method.givesHandle = false) :
    (Turn.answered text trace response).issues ctx = 0 := by
  simp only [Turn.issues, there]
  cases method with
  | ConnectDev | DigestInit => cases gives
  | _ => rfl

theorem Tally.quiet {turn : Turn} {table other : HandleTable} (tally : Tally ctx turns table)
    (takes : turn.issues ctx = 0) (untold : turn.told ctx = none)
    (same : other.nextId = table.nextId) :
    Tally ctx (turns ++ [turn]) other := by
  constructor
  · rw [issued_append, takes, same]
    exact tally.counted
  · intro handle member
    rw [told_append, untold] at member
    rw [same]
    exact tally.numbered handle (by simpa using member)

theorem Tally.issue {turn : Turn} {table other : HandleTable} (kind : ResourceKind)
    (tally : Tally ctx turns table) (few : issued ctx (turns ++ [turn]) < 2 ^ 64)
    (spoken : turn.told ctx = some (table.mint kind)) (taken : 0 < turn.issues ctx)
    (grown : other.nextId = table.nextId + .ofNat (turn.issues ctx)) :
    Tally ctx (turns ++ [turn]) other := by
  have counted := tally.counted
  rw [issued_append] at few
  have stands : other.nextId.toNat = table.nextId.toNat + turn.issues ctx := by
    rw [grown, UInt64.toNat_add, UInt64.toNat_ofNat',
      Nat.mod_eq_of_lt (a := turn.issues ctx) (by omega)]
    exact Nat.mod_eq_of_lt (by omega)
  constructor
  · rw [issued_append, stands, counted]
  · intro handle member
    rw [told_append, spoken] at member
    rcases List.mem_append.mp member with old | new
    · exact (tally.numbered handle old).later (by omega)
    · rw [Option.toList_some, List.mem_singleton] at new
      refine ⟨kind, _, ?_, new⟩
      rw [UInt64.toNat_add, UInt64.toNat_one, Nat.mod_eq_of_lt (by omega)]
      omega

theorem Tally.step (tally : Tally ctx turns before.state.handles)
    (exchange : Exchange ctx before text trace response after)
    (few : issued ctx (turns ++ [.answered text trace response]) < 2 ^ 64) :
    Tally ctx (turns ++ [.answered text trace response]) after.state.handles := by
  cases there : reached ctx text with
  | none =>
    obtain ⟨rfl, -, failed⟩ := exchange.unreached there
    exact tally.quiet (issues_isErr failed) (told_isErr failed) rfl
  | some found =>
    obtain ⟨method, params⟩ := found
    have touched := exchange.touched there
    generalize after.state.handles = handles at touched ⊢
    cases touched with
    | nothing refused untold =>
      cases gives : method.givesHandle with
      | true => exact tally.quiet (issues_isErr (untold gives)) (told_isErr (untold gives)) rfl
      | false => exact tally.quiet (issues_takes there gives) (told_takes there gives) rfl
    | drawn named held | fed named held =>
      exact tally.quiet (issues_takes there rfl) (told_takes there rfl) rfl
    | connected guard =>
      have taken : (Turn.answered text trace
          (.ok (.string (before.state.handles.issueDevice guard).2) params.id)).issues
          ctx = 1 := by
        simp only [Turn.issues, there]
        rfl
      -- ConnectDev draws one number, DigestInit two.
      refine tally.issue .Device few ?_ (by omega) ?_
      · rw [told_reached there rfl]
        rfl
      · rw [taken]
        rfl
    | begun guard =>
      have taken : (Turn.answered text trace (.ok (.ofFields
          [("handle", .string (before.state.handles.issueDigest guard).2)]) params.id)).issues ctx =
            2 := by
        simp only [Turn.issues, there]
        rfl
      refine tally.issue .Digest few ?_ (by omega) ?_
      · rw [told_reached there rfl]
        rfl
      · rw [taken, issueDevice_nextId, issueDigest_nextId, UInt64.add_assoc]
        rfl
    | disconnected named held =>
      exact tally.quiet (issues_takes there rfl) (told_takes there rfl) (removeDevice_ok held).2.2.2
    | ended ending named held =>
      have gives : method.givesHandle = false := by rcases ending with rfl | rfl <;> rfl
      exact tally.quiet (issues_takes there gives) (told_takes there gives)
        (removeDigest_ok held).2.2.2

theorem feeds_other (there : reached ctx text = some (method, params))
    (unfed : method = .DigestUpdate → response.isErr = true) (handle : String) :
    (Turn.answered text trace response).feeds ctx handle = none := by
  simp only [Turn.feeds, there]
  split
  · next same =>
    cases same
    simp [unfed rfl]
  · rfl

theorem Ended.earlier {turn : Turn} {handle : String} (ended : Ended ctx (turns ++ [turn]) handle) :
    Ended ctx turns handle ∨ (turn.ends ctx = some handle ∧ handle ∈ told ctx turns) := by
  obtain ⟨front, ending, back, spelled, ends, spoken⟩ := ended
  rcases List.eq_nil_or_concat back with rfl | ⟨rest, final, rfl⟩
  · obtain ⟨rfl, same⟩ := List.append_inj' spelled rfl
    cases same
    exact .inr ⟨ends, spoken⟩
  · rw [List.concat_eq_append, ← List.cons_append, ← List.append_assoc] at spelled
    exact .inl ⟨front, ending, rest, (List.append_inj' spelled rfl).1, ends, spoken⟩

theorem Ended.told {handle : String} (ended : Ended ctx turns handle) :
    handle ∈ told ctx turns := by
  obtain ⟨front, turn, back, rfl, -, spoken⟩ := ended
  rw [SkfService.told, List.filterMap_append]
  exact List.mem_append_left _ spoken

theorem Streams.later {table : HandleTable} {turn : Turn} {handle : String} {digest : Digest}
    {t : Hashes} (streams : Streams ctx turns table s) (held : table.digest handle = .ok digest)
    (took : ∀ taken, s digest.hash = some ⟨taken, false⟩ →
      t digest.hash = some ⟨taken ++ (turn.feeds ctx handle).toList, false⟩) :
    ∃ earlier init since,
      turns ++ [turn] = earlier ++ init :: since ∧ init.Begins ctx handle digest ∧
      t digest.hash = some ⟨fed ctx handle since, false⟩ := by
  obtain ⟨earlier, init, since, rfl, begins, taken⟩ := streams.live handle digest held
  refine ⟨earlier, init, since ++ [turn], by simp, begins, ?_⟩
  rw [fed_append]
  exact took _ taken

theorem Streams.isOpen {table : HandleTable} {handle : String} {digest : Digest}
    (streams : Streams ctx turns table s) (held : table.digest handle = .ok digest) :
    s digest.hash ≠ none := by
  obtain ⟨earlier, init, since, -, -, taken⟩ := streams.live handle digest held
  rw [taken]
  exact Option.some_ne_none _

theorem Streams.spoken {table : HandleTable} {handle : String} {digest : Digest}
    (streams : Streams ctx turns table s) (held : table.digest handle = .ok digest) :
    handle ∈ told ctx turns := by
  obtain ⟨earlier, init, since, rfl, begins, -⟩ := streams.live handle digest held
  rw [told, List.filterMap_append, List.filterMap_cons, begins.2.1]
  simp

theorem ends_reached {handle : String} (there : reached ctx text = some (method, params))
    (ends : (Turn.answered text trace response).ends ctx = some handle) :
    (method = .DigestFinal ∨ method = .CloseHash) ∧ params.str 0 = some handle := by
  simp only [Turn.ends, there] at ends
  split at ends
  · next same =>
    cases same
    exact ⟨.inl rfl, ends⟩
  · next same =>
    cases same
    exact ⟨.inr rfl, ends⟩
  · cases ends

theorem Streams.aside {table other : HandleTable} {turn : Turn} {t : Hashes}
    (streams : Streams ctx turns table s) (kept : other.digests = table.digests)
    (spared : s.Spares t) (unfed : ∀ handle, turn.feeds ctx handle = none)
    (unheld : ∀ handle digest, turn.ends ctx = some handle → table.digest handle ≠ .ok digest) :
    Streams ctx (turns ++ [turn]) other t := by
  constructor
  · intro handle digest held
    rw [digest_congr kept] at held
    apply streams.later held
    intro taken same
    rw [unfed, spared _ (streams.isOpen held), same]
    simp
  · intro handle other digest digest' held held'
    rw [digest_congr kept] at held held'
    exact streams.distinct handle other digest digest' held held'
  · intro handle digest ended
    rw [digest_congr kept]
    rcases ended.earlier with earlier | ⟨ends, -⟩
    · exact streams.ended handle digest earlier
    · exact unheld handle digest ends

theorem Streams.begun {table : HandleTable} {turn : Turn} {digest : Digest}
    (streams : Streams ctx turns table s) (fresh : table.mint .Digest ∉ told ctx turns)
    (begins : turn.Begins ctx (table.mint .Digest) digest) (new : s digest.hash = none)
    (unfed : ∀ handle, turn.feeds ctx handle = none) (unended : turn.ends ctx = none) :
    Streams ctx (turns ++ [turn]) ((table.issueDigest digest).1.issueDevice digest.device).1
      (Function.update s digest.hash (some ⟨[], false⟩)) := by
  -- Handles that are held point at open streams, and the new one was not open.
  have others {handle : String} {found : Digest} (held : table.digest handle = .ok found) :
      found.hash ≠ digest.hash := by
    intro same
    exact streams.isOpen held (same ▸ new)
  constructor
  · intro handle found held
    by_cases minted : handle = table.mint .Digest
    · subst minted
      obtain rfl := digest_issued held
      exact ⟨turns, turn, [], rfl, begins, Function.update_self _ _ _⟩
    · rw [digest_issued_other minted] at held
      apply streams.later held
      intro taken same
      rw [unfed, Function.update_of_ne (others held), same]
      simp
  · intro handle other found found' held held' same
    by_cases minted : handle = table.mint .Digest
    · by_cases minted' : other = table.mint .Digest
      · rw [minted, minted']
      · subst minted
        obtain rfl := digest_issued held
        rw [digest_issued_other minted'] at held'
        exact absurd same.symm (others held')
    · rw [digest_issued_other minted] at held
      by_cases minted' : other = table.mint .Digest
      · subst minted'
        obtain rfl := digest_issued held'
        exact absurd same (others held)
      · rw [digest_issued_other minted'] at held'
        exact streams.distinct handle other found found' held held' same
  · intro handle found ended
    rcases ended.earlier with earlier | ⟨ends, -⟩
    · have old : handle ≠ table.mint .Digest := fun minted => fresh (minted ▸ earlier.told)
      rw [digest_issued_other old]
      exact streams.ended handle found earlier
    · rw [unended] at ends
      cases ends

theorem Streams.fed {table : HandleTable} {turn : Turn} {handle : String} {digest : Digest}
    {data : List UInt8} (streams : Streams ctx turns table s)
    (held : table.digest handle = .ok digest) (feeds : turn.feeds ctx handle = some data)
    (unfed : ∀ other, other ≠ handle → turn.feeds ctx other = none) (unended : turn.ends ctx =
      none) : Streams ctx (turns ++ [turn]) table (s.feed digest data) := by
  constructor
  · intro other found held'
    apply streams.later held'
    intro taken same
    by_cases this : other = handle
    · subst this
      obtain rfl : digest = found := Except.ok.inj (held.symm.trans held')
      rw [Hashes.feed, Function.update_self, same, feeds]
      rfl
    · have differs : found.hash ≠ digest.hash :=
        fun shared => this (streams.distinct _ _ _ _ held' held shared)
      rw [Hashes.feed, Function.update_of_ne differs, same, unfed other this]
      simp
  · exact streams.distinct
  · intro other found ended
    rcases ended.earlier with earlier | ⟨ends, -⟩
    · exact streams.ended other found earlier
    · rw [unended] at ends
      cases ends

theorem Streams.closed {table : HandleTable} {turn : Turn} {handle : String} {digest : Digest}
    (streams : Streams ctx turns table s) (removed : (table.removeDigest handle).2 = .ok digest)
    (unfed : ∀ other, turn.feeds ctx other = none) (ends : turn.ends ctx = some handle) :
    Streams ctx (turns ++ [turn]) (table.removeDigest handle).1
      (Function.update s digest.hash none) := by
  -- What the table still holds after the removal it held before, under another handle.
  have survives {other : String} {found : Digest}
      (held : (table.removeDigest handle).1.digest other = .ok found) :
      other ≠ handle ∧ table.digest other = .ok found := by
    have differs : other ≠ handle := by
      rintro rfl
      exact digest_removed removed found held
    rw [digest_removed_other removed differs] at held
    exact ⟨differs, held⟩
  constructor
  · intro other found held
    obtain ⟨differs, held⟩ := survives held
    have unshared : found.hash ≠ digest.hash := fun shared =>
      differs (streams.distinct _ _ _ _ held (digest_of_removed removed) shared)
    apply streams.later held
    intro taken same
    rw [unfed, Function.update_of_ne unshared, same]
    simp
  · intro one other found found' held held'
    exact streams.distinct _ _ _ _ (survives held).2 (survives held').2
  · intro other found ended held
    obtain ⟨differs, held⟩ := survives held
    rcases ended.earlier with earlier | ⟨same, -⟩
    · exact streams.ended other found earlier held
    · exact differs (Option.some.inj (same.symm.trans ends))

/-- The next digest handle of a session was never told. -/
theorem Tally.fresh {table : HandleTable} (tally : Tally ctx turns table)
    (room : issued ctx turns + 1 < 2 ^ 64) :
    table.mint .Digest ∉ told ctx turns := by
  intro spoken
  have counted := tally.counted
  exact mint_new (by omega) .Digest (tally.numbered _ spoken) rfl

/-- What one request does to the streams, for each way it can go. -/
theorem Streams.streamed {table : HandleTable} {t : Hashes}
    (streams : Streams ctx turns before.state.handles s)
    (tally : Tally ctx turns before.state.handles)
    (there : reached ctx text = some (method, params))
    (streamed : Streamed ctx params before.state.handles s method trace response table t)
    (few : issued ctx (turns ++ [.answered text trace response]) < 2 ^ 64) :
    Streams ctx (turns ++ [.answered text trace response]) table t := by
  cases streamed with
  | aside kept spared unfed untold unheld =>
    apply streams.aside kept spared (feeds_other there unfed)
    intro handle digest ends
    obtain ⟨ending, named⟩ := ends_reached there ends
    exact unheld ending handle digest named
  | @begun _ digest algId id begins new =>
    have spoken : (Turn.answered text trace (.ok (.ofFields
        [("handle", .string (before.state.handles.mint .Digest))]) params.id)).told ctx =
          some (before.state.handles.mint .Digest) := by
      rw [told_reached there rfl]
      rfl
    have taken : (Turn.answered text trace (.ok (.ofFields
        [("handle", .string (before.state.handles.mint .Digest))]) params.id)).issues ctx =
          2 := by
      simp only [Turn.issues, there]
      rfl
    -- DigestInit draws two numbers, one for the digest and one for the device it keeps open.
    rw [issued_append, taken] at few
    have inits : (Turn.answered text trace (.ok (.ofFields
        [("handle", .string (before.state.handles.mint .Digest))]) params.id)).Begins ctx
          (before.state.handles.mint .Digest) digest :=
            ⟨⟨params, there⟩, spoken, algId, id, begins⟩
    apply streams.begun (tally.fresh (by omega)) inits new
    · exact feeds_other there fun other => by cases other
    · simp only [Turn.ends, there]
  | @fed _ handle data digest named given held =>
    apply streams.fed held
    · simp only [Turn.feeds, there, named, given]
      rfl
    · intro other differs
      simp only [Turn.feeds, there, named]
      rw [if_neg (fun same => differs (Option.some.inj same.1).symm)]
    · simp only [Turn.ends, there]
  | @ended _ _ _ handle digest ending named removed =>
    apply streams.closed removed
    · apply feeds_other there
      rcases ending with rfl | rfl <;> exact fun other => by cases other
    · rcases ending with rfl | rfl <;> simp only [Turn.ends, there, named]

theorem Streams.step (streams : Streams ctx turns before.state.handles s)
    (tally : Tally ctx turns before.state.handles)
    (exchange : Exchange ctx before text trace response after)
    (fits : Hashes.monitor.Possible s trace)
    (few : issued ctx (turns ++ [.answered text trace response]) < 2 ^ 64) :
    Streams ctx (turns ++ [.answered text trace response]) after.state.handles
      (Hashes.monitor.follow s trace) := by
  cases there : reached ctx text with
  | none =>
    -- A text that reaches no branch runs no interaction, so that no stream is touched.
    obtain ⟨rfl, -⟩ := exchange.unreached there
    obtain ⟨early, at_once, -⟩ := handleRequest_unreached there after.lang
    have ran := exchange.1
    rw [Program.Finishes, at_once] at ran
    obtain ⟨rfl, -⟩ := Program.reaches_done ran
    apply streams.aside rfl (Hashes.spares_refl s)
    · intro handle
      simp only [Turn.feeds, there]
    · intro handle digest ends
      simp only [Turn.ends, there] at ends
      cases ends
  | some found =>
    obtain ⟨method, params⟩ := found
    exact streams.streamed tally there (exchange.streamed there fits) few

theorem tally_start : Tally ctx [] (Line.new ttl).state.handles :=
  ⟨rfl, fun _ member => by cases member⟩

theorem streams_start : Streams ctx [] (Line.new ttl).state.handles .closed := by
  have nothing (handle : String) (digest : Digest) :
      (Line.new ttl).state.handles.digest handle ≠ .ok digest := by
    intro held
    exact AList.notMem_empty _ (mem_of_digest held)
  exact ⟨fun handle digest held => absurd held (nothing handle digest),
    fun handle _ digest _ held => absurd held (nothing handle digest), fun handle digest _ =>
      nothing handle digest⟩

theorem traceOf_append (turn : Turn) : traceOf (turns ++ [turn]) = traceOf turns ++ turn.trace := by
  simp [traceOf]

/-- In a run without resets the session's streams are those its turns began and did not end. -/
theorem streams_conversation (conversation : Conversation ctx ttl (.new ttl) turns line)
    (unbroken : ∀ turn ∈ turns, turn.resets = false)
    (possible : Hashes.monitor.Possible .closed (traceOf turns)) (few : issued ctx turns < 2 ^ 64) :
    Tally ctx turns line.state.handles ∧ Streams ctx turns line.state.handles
      (hashesAfter turns) := by
  induction conversation with
  | start => exact ⟨tally_start, streams_start⟩
  | @next turns turn line after earlier step ih =>
    rw [traceOf_append, Monitor.possible_append] at possible
    have fewer : issued ctx turns < 2 ^ 64 := by
      rw [issued_append] at few
      omega
    obtain ⟨tally, streams⟩ :=
      ih (fun turn member => unbroken turn (List.mem_append_left _ member)) possible.1 fewer
    cases step with
    | answered exchange =>
      rw [hashesAfter_append]
      exact ⟨tally.step exchange few, streams.step tally exchange possible.2 few⟩
    | timedOut => cases unbroken _ (List.mem_append_right _ (List.mem_singleton.mpr rfl))
    | failed => cases unbroken _ (List.mem_append_right _ (List.mem_singleton.mpr rfl))

/-- A well-formed request of a stream that is not held is answered with the invalid-handle error. -/
theorem Exchange.invalid {handle : String}
    (exchange : Exchange ctx before text trace response after)
    (there : reached ctx text = some (method, params))
    (named : method.digestHandle ctx params = some handle)
    (unheld : ∀ digest, before.state.handles.digest handle ≠ .ok digest) :
    response = invalidHashHandle params.id := by
  have possible := exchange.2.1
  -- Each of the three looks its handle up before it calls the provider, and stops where it is
  -- unheld.
  cases method with
  | DigestUpdate =>
    obtain ⟨data, given, named⟩ := Option.bind_eq_some_iff.mp named
    cases digestUpdate_ran (exchange.yields there) with
    | malformed bad =>
      rw [named, given] at bad
      rcases bad with bad | bad <;> cases bad
    | unknown => rfl
    | failed other =>
      obtain rfl := Option.some.inj (named.symm.trans other)
      exact absurd possible.1 (unheld _)
    | fed other =>
      obtain rfl := Option.some.inj (named.symm.trans other)
      exact absurd possible.1 (unheld _)
  | DigestFinal =>
    cases digestFinal_ran (exchange.yields there) with
    | malformed bad => cases named.symm.trans bad
    | unknown => rfl
    | failed other =>
      obtain rfl := Option.some.inj (Eq.trans (Eq.symm named) other)
      exact absurd (digest_of_removed possible.1) (unheld _)
    | finalized other =>
      obtain rfl := Option.some.inj (Eq.trans (Eq.symm named) other)
      exact absurd (digest_of_removed possible.1) (unheld _)
  | CloseHash =>
    cases closeHash_ran (exchange.yields there) with
    | malformed bad => cases named.symm.trans bad
    | unknown => rfl
    | closed other =>
      obtain rfl := Option.some.inj (Eq.trans (Eq.symm named) other)
      exact absurd (digest_of_removed possible.1) (unheld _)
  | _ => cases named

/-- A stream that a request does not name keeps its digest, and the digest its state. -/
theorem Streams.apart {table other : HandleTable} {t : Hashes} {handle : String} {digest : Digest}
    (streams : Streams ctx turns table s)
    (fresh : method = .DigestInit → response.isErr = false → table.mint .Digest ∉ told ctx turns)
    (streamed : Streamed ctx params table s method trace response other t)
    (held : table.digest handle = .ok digest)
    (unnamed : method.takesDigest = true → params.str 0 ≠ some handle) :
    other.digest handle = .ok digest ∧ t digest.hash = s digest.hash := by
  -- A request changes the digest it names, and another handle never shares its hash.
  cases streamed with
  | aside kept spared =>
    rw [digest_congr kept]
    exact ⟨held, spared _ (streams.isOpen held)⟩
  | @begun _ begun algId id begins new =>
    have old : handle ≠ table.mint .Digest :=
      fun minted => fresh rfl rfl (minted ▸ streams.spoken held)
    have differs : digest.hash ≠ begun.hash := fun same => streams.isOpen held (same ▸ new)
    rw [digest_issued_other old, Function.update_of_ne differs]
    exact ⟨held, rfl⟩
  | @fed _ named data feeding given carried other =>
    have differs : digest.hash ≠ feeding.hash := by
      intro shared
      have same := streams.distinct _ _ _ _ held other shared
      exact unnamed rfl (same ▸ given)
    rw [Hashes.feed, Function.update_of_ne differs]
    exact ⟨held, rfl⟩
  | @ended _ _ _ named closing ending given removed =>
    have this : handle ≠ named := by
      rintro rfl
      refine unnamed ?_ given
      rcases ending with rfl | rfl <;> rfl
    have differs : digest.hash ≠ closing.hash := fun shared =>
      this (streams.distinct _ _ _ _ held (digest_of_removed removed) shared)
    rw [digest_removed_other removed this, Function.update_of_ne differs]
    exact ⟨held, rfl⟩

/-- In a run without resets, as long as fewer than 2^64 handles were taken from the counter, the
streams of a session do not mix. -/
theorem streams_do_not_mix (conversation : Conversation ctx ttl (.new ttl) turns line)
    (unbroken : ∀ turn ∈ turns, turn.resets = false)
    (exchange : Exchange ctx line text trace response after)
    (possible : Hashes.monitor.Possible .closed (traceOf turns ++ trace))
    (few : issued ctx (turns ++ [.answered text trace response]) < 2 ^ 64) :
    Unmixed ctx turns line text trace response after := by
  obtain ⟨earlier, fits⟩ := (Monitor.possible_append _ _ _ _).mp possible
  have fewer : issued ctx turns < 2 ^ 64 := by
    rw [issued_append] at few
    omega
  obtain ⟨tally, streams⟩ := streams_conversation conversation unbroken earlier fewer
  constructor
  · intro params handle there named succeeded
    have perform := exchange.2.1
    cases digestFinal_ran (exchange.yields there) with
    | malformed bad => cases named.symm.trans bad
    | unknown => cases succeeded
    | failed _ refused => cases refused.symm.trans succeeded
    | @finalized handle' digest hash named' =>
      obtain rfl := Option.some.inj (named.symm.trans named')
      obtain ⟨before, init, since, spelled, begins, taken⟩ :=
        streams.live _ _ (digest_of_removed perform.1)
      exact ⟨before, init, since, digest, hash, spelled, begins, taken, rfl, rfl⟩
  · intro method params handle there named ended
    exact exchange.invalid there named fun digest => streams.ended handle digest ended
  · intro handle digest held unnamed
    cases there : reached ctx text with
    | none =>
      obtain ⟨rfl, -⟩ := exchange.unreached there
      obtain ⟨early, at_once, -⟩ := handleRequest_unreached there after.lang
      have ran := exchange.1
      rw [Program.Finishes, at_once] at ran
      obtain ⟨rfl, -⟩ := Program.reaches_done ran
      exact ⟨held, rfl⟩
    | some found =>
      obtain ⟨method, params⟩ := found
      apply streams.apart _ (exchange.streamed there fits) held (unnamed method params there)
      -- Were the handle the one that DigestInit tells now, it would have been told twice.
      rintro rfl succeeded
      apply tally.fresh
      have taken : (Turn.answered text trace response).issues ctx = 2 := by
        simp only [Turn.issues, there, succeeded]
        rfl
      rw [issued_append, taken] at few
      omega

end run

section interleaved

/-! Two streams on the same device name: `hsh-1` takes two bytes, one of them after `hsh-3` took its
own. -/

def updateText : String :=
  "\x7b\"method\":\"DigestUpdate\",\"params\":[\"hsh-1\",\"AQ==\"],\"id\":3\x7d"

def otherText : String :=
  "\x7b\"method\":\"DigestUpdate\",\"params\":[\"hsh-3\",\"Ag==\"],\"id\":4\x7d"

def moreText : String :=
  "\x7b\"method\":\"DigestUpdate\",\"params\":[\"hsh-1\",\"Aw==\"],\"id\":5\x7d"

def streamContext : SkfContext :=
  .serving [(digestText,
    ⟨"DigestInit", [.string "GM3000", .string "K1"], some (.number (.unsigned 1)), none⟩),
    (updateText,
      ⟨"DigestUpdate", [.string "hsh-1", .string "AQ=="], some (.number (.unsigned 3)), none⟩),
    (otherText,
      ⟨"DigestUpdate", [.string "hsh-3", .string "Ag=="], some (.number (.unsigned 4)), none⟩),
    (moreText,
      ⟨"DigestUpdate", [.string "hsh-1", .string "Aw=="], some (.number (.unsigned 5)), none⟩),
    (finalText, ⟨"DigestFinal", [.string "hsh-1"], some (.number (.unsigned 2)), none⟩)]

def otherDevice : Device := ⟨⟨"GM3000", some 0⟩, "K1", 9⟩

def otherTrace : List (Event Skf) :=
  [⟨.provider (.openDevice ⟨"GM3000", some 0⟩ "K1"), some (.ok 9)⟩,
    ⟨.provider (.beginDigest otherDevice SGD_SM3 []), some (.ok 10)⟩,
    ⟨.session (.issueDigest ⟨otherDevice, 10⟩), "hsh-3"⟩,
    ⟨.session (.issueDevice otherDevice), "dev-4"⟩]

def otherResponse : RpcResponse :=
  .ok (.ofFields [("handle", .string "hsh-3")]) (some (.number (.unsigned 1)))

def bothLine : Line := ⟨(tracked (2 ^ 63)).follow digestLine.state otherTrace, .EN⟩

def feedTrace (handle : String) (digest : Digest) (data : List UInt8) : List (Event Skf) :=
  [⟨.session (.digest handle), .ok digest⟩, ⟨.provider (.update digest data), some (.ok ())⟩]

def feedResponse (id : UInt64) : RpcResponse := .ok (.bool true) (some (.number (.unsigned id)))

def finishedLine : Line := ⟨(tracked (2 ^ 63)).follow bothLine.state finalTrace, .EN⟩

/-- Both streams are begun, then fed in turn. -/
def interleaved : List Turn :=
  [.answered digestText digestTrace digestResponse, .answered digestText otherTrace otherResponse,
    .answered updateText (feedTrace "hsh-1" ⟨digestDevice, 8⟩ [1]) (feedResponse 3),
    .answered otherText (feedTrace "hsh-3" ⟨otherDevice, 10⟩ [2]) (feedResponse 4),
    .answered moreText (feedTrace "hsh-1" ⟨digestDevice, 8⟩ [3]) (feedResponse 5)]

theorem mint_other : digestLine.state.handles.mint .Digest = "hsh-3" := by decide

theorem mint_behind_other :
    (digestLine.state.handles.issueDigest ⟨otherDevice, 10⟩).1.mint .Device = "dev-4" := by decide

theorem interleaved_ran : Conversation streamContext 100 (.new 100) interleaved bothLine := by
  have begun : Exchange streamContext (.new 100) digestText digestTrace digestResponse digestLine :=
    ⟨.step _ (.step _ (.step _ (.step _ (.refl _)))),
      ⟨trivial, trivial, mint_digest, mint_behind, trivial⟩, rfl⟩
  have begunOther :
      Exchange streamContext digestLine digestText otherTrace otherResponse bothLine :=
    ⟨.step _ (.step _ (.step _ (.step _ (.refl _)))),
      ⟨trivial, trivial, mint_other, mint_behind_other, trivial⟩, rfl⟩
  have fed : Exchange streamContext bothLine updateText (feedTrace "hsh-1" ⟨digestDevice, 8⟩ [1])
      (feedResponse 3)
      bothLine := ⟨.step _ (.step _ (.refl _)), ⟨rfl, trivial, trivial⟩, rfl⟩
  have fedOther : Exchange streamContext bothLine otherText
      (feedTrace "hsh-3" ⟨otherDevice, 10⟩ [2]) (feedResponse 4)
      bothLine := ⟨.step _ (.step _ (.refl _)), ⟨rfl, trivial, trivial⟩, rfl⟩
  have fedAgain : Exchange streamContext bothLine moreText (feedTrace "hsh-1" ⟨digestDevice, 8⟩ [3])
      (feedResponse 5)
      bothLine := ⟨.step _ (.step _ (.refl _)), ⟨rfl, trivial, trivial⟩, rfl⟩
  exact .next
    (.next (.next (.next (.next .start (.answered begun)) (.answered begunOther)) (.answered fed))
    (.answered fedOther)) (.answered fedAgain)

theorem possible_beginDigest {s : Hashes} {device : Device} {raw : Nat} {algId : ULONG}
    {id : List UInt8} {rest : List (Event Skf)} (free : s (Digest.mk device raw).hash = none)
    (later : Hashes.monitor.Possible
      (Function.update s (Digest.mk device raw).hash (some ⟨[], false⟩)) rest) :
    Hashes.monitor.Possible s (⟨.provider (.beginDigest device algId id), some (.ok raw)⟩ ::
      rest) := by
  refine ⟨?_, later⟩
  intro digest begun
  cases begun
  exact free

theorem possible_idle {s : Hashes} {event : Event Skf} {rest : List (Event Skf)}
    (works : Op.hashes event.op = none) (begins : Op.begins event.op event.reply = none)
    (later : Hashes.monitor.Possible s rest) : Hashes.monitor.Possible s (event :: rest) := by
  refine ⟨?_, ?_⟩
  · intro digest begun
    rw [begins] at begun
    cases begun
  · rwa [show Hashes.monitor.advance s event.op event.reply = s from
      Hashes.advance_idle works begins]

theorem possible_interleaved :
    Hashes.monitor.Possible .closed (traceOf interleaved ++ finalTrace) := by
  refine possible_idle rfl rfl
    (possible_beginDigest rfl (possible_idle rfl rfl (possible_idle rfl rfl ?_)))
  refine possible_idle rfl rfl
    (possible_beginDigest ?_ (possible_idle rfl rfl (possible_idle rfl rfl ?_)))
  · exact Function.update_of_ne (by decide) _ _
  · apply Hashes.possible_of_unbegun
    decide

/-- `hsh-1` is finalised over its own two bytes, in their order, while `hsh-3` goes on. -/
theorem streams_do_not_mix_interleaved :
    Unmixed streamContext interleaved bothLine finalText finalTrace finalResponse finishedLine ∧
      fed streamContext "hsh-1" interleaved = [[1], [3]] ∧
        fed streamContext "hsh-3" interleaved = [[2]] := by
  have final : Exchange streamContext bothLine finalText finalTrace finalResponse finishedLine :=
    ⟨.step _ (.step _ (.step _ (.refl _))), ⟨rfl, trivial, trivial, trivial⟩, rfl⟩
  have whole : ∀ turn ∈ interleaved, turn.resets = false := by simp [interleaved, Turn.resets]
  exact ⟨streams_do_not_mix interleaved_ran whole final possible_interleaved (by decide), by
    decide, by decide⟩

end interleaved

end SkfService
