import SkfService.Api.Promises

/-! The connections of a page: what they have ended stays ended, and they receive what the page has
sent. -/

set_option autoImplicit false

namespace SkfService.Api

open Text Interaction

variable {ctx : SkfContext} {ttl : Duration} {t : Transcript} {n : Nat} {turn : Turn}

theorem note_keeps (happening : Happening) (ended : t.ended[n]? = some turn) :
    ∃ later, (t.note happening).ended[n]? = some later ∧ later.text = turn.text ∧
      later.response ctx = turn.response ctx := by
  have finished (last : String → List (Event Skf) → Turn) : ∃ later,
      (t.finish last).ended[n]? = some later ∧
      later.text = turn.text ∧ later.response ctx = turn.response ctx := by
    refine ⟨turn, ?_, rfl, rfl⟩
    cases current : t.running with
    | none =>
      rw [Transcript.finish, current]
      exact ended
    | some running =>
      rw [Transcript.finish_running current]
      exact getElem?_more _ ended
  cases happening with
  | received text => exact ⟨turn, ended, rfl, rfl⟩
  | performed request event =>
    -- A late event extends the turn of its own request, whose answer is told already.
    by_cases late : request < t.ended.length
    · rw [Transcript.note_late late]
      by_cases here : request = n
      · subst here
        refine ⟨turn.extend event, ?_, Turn.extend_text event turn, by cases turn <;> rfl⟩
        rw [List.getElem?_modify_eq, ended]
        rfl
      · refine ⟨turn, ?_, rfl, rfl⟩
        rw [List.getElem?_modify_ne _ _ here]
        exact ended
    · refine ⟨turn, ?_, rfl, rfl⟩
      rw [Transcript.note, if_neg late]
      exact ended
  | completed response => exact finished _
  | expired => exact finished _
  | failed why => exact finished _

/-- What a peer becomes: it has ended what it had ended, and the page has taken what it had taken. -/
structure Peer.Grows (ctx : SkfContext) (before after : Peer) : Prop where
  taken : before.taken ≤ after.taken
  ended : ∀ (n : Nat) (turn : Turn), (transcript before.log).ended[n]? = some turn → ∃ later : Turn,
    (transcript after.log).ended[n]? = some later ∧ later.text = turn.text ∧
      later.response ctx = turn.response ctx

theorem Peer.Grows.refl (peer : Peer) : peer.Grows ctx peer :=
  ⟨Nat.le_refl _, fun _ turn ended => ⟨turn, ended, rfl, rfl⟩⟩

theorem Peer.grows_log (peer : Peer) (entry : Entry) (conn : JsonRpcSession) :
    peer.Grows ctx ⟨peer.log ++ [entry], conn, peer.taken⟩ := by
  refine ⟨Nat.le_refl _, fun n turn ended => ?_⟩
  rw [transcript_append]
  exact note_keeps _ ended

theorem Peer.grows_taken (peer : Peer) : peer.Grows ctx { peer with taken := peer.taken + 1 } :=
  ⟨Nat.le_succ _, fun _ turn ended => ⟨turn, ended, rfl, rfl⟩⟩

theorem Peer.Grows.length {before after : Peer} (grows : before.Grows ctx after) :
    (transcript before.log).ended.length ≤ (transcript after.log).ended.length := by
  rcases Nat.eq_zero_or_pos (transcript before.log).ended.length with empty | some
  · rw [empty]
    exact Nat.zero_le _
  -- The last turn that had ended is still there.
  · obtain ⟨later, found, -⟩ :=
      grows.ended _ _ (List.getElem?_eq_getElem (Nat.sub_lt some Nat.one_pos))
    have bound := (List.getElem?_eq_some_iff.mp found).1
    omega

theorem grows_update {peers : Nat → Peer} {socket : Nat} {after : Peer}
    (grows : (peers socket).Grows ctx after) (other : Nat) :
    (peers other).Grows ctx (Function.update peers socket after other) := by
  by_cases here : other = socket
  · subst here
    rw [Function.update_self]
    exact grows
  · rw [Function.update_of_ne here]
    exact .refl _

/-- A connection that has received frames of its socket, in order. -/
structure Peer.Linked (ctx : SkfContext) (ttl : Duration) (frames : List String) (peer : Peer) :
    Prop where
  reached : JsonRpcSession.Reached ctx ttl peer.log peer.conn
  received : framesOf peer.log <+: frames
  taken : peer.taken ≤ (transcript peer.log).ended.length

theorem received_frames {log : List Entry} {conn : JsonRpcSession}
    (run : JsonRpcSession.Reached ctx ttl log conn) :
    conn.received = (framesOf log).length := by
  rw [framesOf_reached run, Transcript.texts, List.length_append, List.length_map]
  have stands := (tracks_reached run).holder
  cases held : conn.holder with
  | session line =>
    rw [held] at stands
    rw [stands.1, stands.2.1]
    rfl
  | task task =>
    rw [held] at stands
    obtain ⟨received, -, line, trace, current, -⟩ := stands
    rw [received, current]
    rfl

theorem Peer.Linked.step {frames : List String} {peer : Peer} {entry : Entry}
    {conn : JsonRpcSession} (linked : peer.Linked ctx ttl frames)
    (step : JsonRpcSession.Step ctx ttl peer.conn entry conn)
    (arrives : ∀ text, entry.happening = .received text → frames[peer.conn.received]? = some text) :
    Peer.Linked ctx ttl frames ⟨peer.log ++ [entry], conn, peer.taken⟩ := by
  refine ⟨linked.reached.next step, ?_, Nat.le_trans linked.taken
    (@grows_log ctx peer entry conn).length⟩
  rw [framesOf_append]
  cases happened : entry.happening with
  | received text =>
    -- What arrives is the frame behind those that were received.
    have next := arrives text happened
    obtain ⟨rest, spelled⟩ := linked.received
    rw [received_frames linked.reached, ← spelled, List.getElem?_append_right (Nat.le_refl _),
      Nat.sub_self] at next
    rw [framesOf_received happened, ← spelled]
    obtain ⟨others, rfl⟩ : ∃ others, rest = text :: others := by
      cases rest with
      | nil => cases next
      | cons first others =>
        cases next
        exact ⟨others, rfl⟩
    exact List.prefix_append_right_inj _ |>.mpr ⟨others, rfl⟩
  | performed request event | completed response | expired | failed why =>
    have silent : framesOf [entry] = [] := by simp [framesOf, happened]
    rw [silent, List.append_nil]
    exact linked.received

end SkfService.Api
