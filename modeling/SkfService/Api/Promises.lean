import SkfService.Api.Page

/-! What settles the promises of a page that talks to the service. -/

set_option autoImplicit false

namespace SkfService.Api

open Text Interaction

def JsEvent.made : JsEvent → Option (String × JsValue)
  | .call method params _ => some (method, params)
  | _ => none

section client

variable {client : SKFClient} {event : JsEvent} {asked : List (String × JsValue)}

structure Origin (asked : List (String × JsValue)) (client : SKFClient) (socket : Nat)
    (req : JsValue) (p id : Nat) :
    Prop where
  call : ∃ call, client.calls[p]? = some call ∧ call.id = some id ∧ call.socket = some socket
  asked : ∃ method params, asked[p]? = some (method, params) ∧ req = request method params id

/-- A client's calls have numbers of their own, what it sent are requests of its calls, and a call
that is not settled is filed. -/
structure Numbered (asked : List (String × JsValue)) (client : SKFClient) : Prop where
  filed : client.Filed
  made : asked.length = client.calls.length
  positive : 0 < client.msgId
  numbered : ∀ (p : Nat) (call : Call) (id : Nat), client.calls[p]? = some call →
    call.id = some id → 0 < id ∧ id < client.msgId
  distinct : ∀ (p q : Nat) (one other : Call) (id : Nat), client.calls[p]? = some one →
    client.calls[q]? = some other →
    one.id = some id → other.id = some id → p = q
  sent : ∀ socket req, (socket, req) ∈ client.sent → ∃ p id, Origin asked client socket req p id
  pending : ∀ (p : Nat) (call : Call) (id : Nat), client.calls[p]? = some call → call.id = some id →
    call.settled = none →
    (id, p) ∈ client.callbacks

theorem numbered_new : Numbered [] .new := by
  refine ⟨?_, rfl, Nat.one_pos, ?_, ?_, ?_, ?_⟩
  · intro entry member
    cases member
  · intro p call id made
    cases made
  · intro p q one other id made
    cases made
  · intro socket req member
    cases member
  · intro p call id made
    cases made

structure Still (before after : SKFClient) : Prop where
  calls : after.calls = before.calls
  callbacks : after.callbacks = before.callbacks
  sent : after.sent = before.sent
  msgId : after.msgId = before.msgId

theorem Numbered.still {after : SKFClient} (numbered : Numbered asked client)
    (still : Still client after) :
    Numbered asked after := by
  obtain ⟨calls, callbacks, sent, msgId⟩ := still
  refine ⟨SKFClient.filed_of_calls numbered.filed callbacks calls, calls ▸ numbered.made,
    msgId ▸ numbered.positive, ?_, ?_, ?_, ?_⟩
  · rw [calls, msgId]
    exact numbered.numbered
  · rw [calls]
    exact numbered.distinct
  · intro socket req member
    rw [sent] at member
    obtain ⟨p, id, call, asked⟩ := numbered.sent socket req member
    exact ⟨p, id, calls ▸ call, asked⟩
  · rw [calls, callbacks]
    exact numbered.pending

theorem still_disconnect : Still client client.disconnect := by
  unfold SKFClient.disconnect
  split <;> exact ⟨rfl, rfl, rfl, rfl⟩

theorem still_step (quiet : event.made = none) (own : event.isMessage = false) :
    Still client (client.step event) := by
  cases event with
  | connect => exact ⟨rfl, rfl, rfl, rfl⟩
  | disconnect => exact still_disconnect
  | call method params sends => cases quiet
  | opened socket | closing socket | closed socket =>
    simp only [SKFClient.step]
    split <;> exact ⟨rfl, rfl, rfl, rfl⟩
  | errored socket => exact ⟨rfl, rfl, rfl, rfl⟩
  | message socket data => cases own

theorem getElem?_more {A : Type} {items : List A} {item : A} {p : Nat} (more : List A)
    (found : items[p]? = some item) :
    (items ++ more)[p]? = some item := by
  rw [List.getElem?_append_left (List.getElem?_eq_some_iff.mp found).1, found]

theorem getElem?_concat_cases {A : Type} {items : List A} {last item : A} {p : Nat}
    (found : (items ++ [last])[p]? = some item) :
    items[p]? = some item ∨ (p = items.length ∧ item = last) := by
  rcases Nat.lt_trichotomy p items.length with inside | rfl | beyond
  · rw [List.getElem?_append_left inside] at found
    exact .inl found
  · rw [List.getElem?_concat_length, Option.some.injEq] at found
    exact .inr ⟨rfl, found.symm⟩
  · have bound := (List.getElem?_eq_some_iff.mp found).1
    rw [List.length_append, List.length_singleton] at bound
    omega

theorem Numbered.refused (numbered : Numbered asked client) (method : String) (params : JsValue) :
    Numbered (asked ++ [(method, params)])
      { client with calls := client.calls ++ [⟨none, none, some .notConnected⟩] } := by
  have kept {p id : Nat} {call : Call}
      (found : (client.calls ++ [⟨none, none, some .notConnected⟩])[p]? = some call)
      (own : call.id = some id) : client.calls[p]? = some call := by
    rcases getElem?_concat_cases found with old | ⟨-, rfl⟩
    · exact old
    · cases own
  refine ⟨?_, ?_, numbered.positive, ?_, ?_, ?_, ?_⟩
  · intro entry member
    obtain ⟨call, found, own⟩ := numbered.filed entry member
    exact ⟨call, getElem?_more _ found, own⟩
  · rw [List.length_append, List.length_append, numbered.made]
    rfl
  · intro p call id found own
    exact numbered.numbered p call id (kept found own) own
  · intro p q one other id first second own same
    exact numbered.distinct p q one other id (kept first own) (kept second same) own same
  · intro socket req member
    obtain ⟨p, id, ⟨call, found, own⟩, method', params', made, spelled⟩ :=
      numbered.sent socket req member
    exact ⟨p, id, ⟨call, getElem?_more _ found, own⟩, method', params',
      getElem?_more _ made, spelled⟩
  · intro p call id found own pending
    exact numbered.pending p call id (kept found own) own pending

theorem increment_few {n : Nat} (few : increment n < 9007199254740992) : increment n = n + 1 := by
  unfold increment at few ⊢
  split
  · rfl
  · next many => rw [if_neg many] at few; exact absurd few many

theorem Origin.more {socket p id : Nat} {req : JsValue} {after : SKFClient}
    {more : List (String × JsValue)} {last : Call} (origin : Origin asked client socket req p id)
    (calls : after.calls = client.calls ++ [last]) :
    Origin (asked ++ more) after socket req p id := by
  obtain ⟨⟨call, found, own⟩, method, params, made, spelled⟩ := origin
  refine ⟨⟨call, ?_, own⟩, method, params, getElem?_more _ made, spelled⟩
  rw [calls]
  exact getElem?_more _ found

/-- All numbers given so far lie below the next one. -/
theorem Numbered.fresh (numbered : Numbered asked client) {p id : Nat} {call : Call}
    (found : client.calls[p]? = some call) (known : call.id = some id) : id ≠ client.msgId :=
  Nat.ne_of_lt (numbered.numbered p call id found known).2

/-- Of two calls with one number neither is the new one, or both are. -/
theorem Numbered.distinct_more (numbered : Numbered asked client) {last one other : Call}
    (own : last.id = some client.msgId) {p q id : Nat}
    (first : (client.calls ++ [last])[p]? = some one)
    (second : (client.calls ++ [last])[q]? = some other) (known : one.id = some id)
    (same : other.id = some id) : p = q := by
  rcases getElem?_concat_cases first with old | ⟨rfl, rfl⟩
  · rcases getElem?_concat_cases second with old' | ⟨rfl, rfl⟩
    · exact numbered.distinct p q one other id old old' known same
    · rw [own, Option.some.injEq] at same
      exact absurd same.symm (numbered.fresh old known)
  · rcases getElem?_concat_cases second with old' | ⟨rfl, rfl⟩
    · rw [own, Option.some.injEq] at known
      exact absurd known.symm (numbered.fresh old' same)
    · rfl

theorem Numbered.called (numbered : Numbered asked client) (method : String) (params : JsValue)
    (sends : Bool) {socket : Nat} (current : client.ws = some socket)
    (connected : client.isConnected = true)
    (few : (client.call method params sends).msgId < 9007199254740992) :
    Numbered (asked ++ [(method, params)]) (client.call method params sends) := by
  have filed := numbered.filed.call method params sends
  simp only [SKFClient.call, if_pos connected, current] at few filed ⊢
  have next := increment_few few
  generalize made : (⟨some client.msgId, some socket, if sends then none else some .threw⟩ : Call) =
    last at filed ⊢
  have own : last.id = some client.msgId := by rw [← made]
  refine ⟨filed, ?_, ?_, ?_, ?_, ?_, ?_⟩
  · rw [List.length_append, List.length_append, numbered.made]
    rfl
  · rw [next]
    exact Nat.succ_pos _
  · intro p call id found known
    dsimp only at found ⊢
    rw [next]
    rcases getElem?_concat_cases found with old | ⟨-, rfl⟩
    · obtain ⟨positive, below⟩ := numbered.numbered p call id old known
      exact ⟨positive, Nat.lt_succ_of_lt below⟩
    · rw [own, Option.some.injEq] at known
      subst known
      exact ⟨numbered.positive, Nat.lt_succ_self _⟩
  · intro p q one other id first second known same
    exact numbered.distinct_more own first second known same
  · intro socket' req member
    -- Only a call that is sent puts a request on its socket.
    have either : (socket', req) ∈ client.sent ∨
        (socket' = socket ∧ req = request method params client.msgId) := by
      cases sends with
      | false => exact .inl member
      | true =>
        rcases List.mem_append.mp member with old | new
        · exact .inl old
        · rw [Option.toList_some, List.map_singleton, List.mem_singleton, Prod.mk.injEq] at new
          exact .inr new
    rcases either with old | ⟨rfl, rfl⟩
    · obtain ⟨p, id, origin⟩ := numbered.sent socket' req old
      exact ⟨p, id, origin.more rfl⟩
    · refine ⟨client.calls.length, client.msgId,
        ⟨last, List.getElem?_concat_length, own, by rw [← made]⟩, method, params, ?_, rfl⟩
      rw [← numbered.made]
      exact List.getElem?_concat_length
  · intro p call id found known pending
    rcases getElem?_concat_cases found with old | ⟨rfl, rfl⟩
    · refine List.mem_cons_of_mem _
        (List.mem_filter.mpr ⟨numbered.pending p call id old known pending, ?_⟩)
      exact bne_iff_ne.mpr (numbered.fresh old known)
    · rw [own, Option.some.injEq] at known
      subst known
      exact List.mem_cons_self

/-- The calls after a message that settles one of them. -/
theorem settled_cases {calls : List Call} {promise p : Nat} {outcome : Settlement} {later : Call}
    (found : (calls.modify promise (Call.settle outcome))[p]? = some later) :
    ∃ call, calls[p]? = some call ∧ later.id = call.id ∧ later.socket = call.socket ∧
      later.settled = if promise = p then call.settled.or (some outcome) else call.settled := by
  rw [List.getElem?_modify] at found
  obtain ⟨call, here, same⟩ := Option.map_eq_some_iff.mp found
  refine ⟨call, here, ?_⟩
  subst same
  split <;> exact ⟨rfl, rfl, rfl⟩

theorem Origin.settled {socket p id promise : Nat} {req : JsValue} {after : SKFClient}
    {outcome : Settlement} (origin : Origin asked client socket req p id)
    (calls : after.calls = client.calls.modify promise (Call.settle outcome)) :
    Origin asked after socket req p id := by
  obtain ⟨⟨call, found, own, wired⟩, made⟩ := origin
  by_cases here : promise = p
  · refine ⟨⟨call.settle outcome, ?_, own, wired⟩, made⟩
    subst here
    rw [calls, List.getElem?_modify_eq, found]
    rfl
  · refine ⟨⟨call, ?_, own, wired⟩, made⟩
    rw [calls, List.getElem?_modify_ne _ _ here, found]

theorem Numbered.onmessage (numbered : Numbered asked client) (data : Option JsValue) :
    Numbered asked (client.onmessage data) := by
  have filed := numbered.filed.onmessage data
  rcases SKFClient.onmessage_cases data with same | ⟨value, key, promise, -, -, member, settles⟩
  · rw [same]
    exact numbered
  rw [settles] at filed ⊢
  refine ⟨filed, ?_, numbered.positive, ?_, ?_, ?_, ?_⟩
  · rw [List.length_modify]
    exact numbered.made
  · intro p later id found own
    obtain ⟨call, here, same, -, -⟩ := settled_cases found
    exact numbered.numbered p call id here (same ▸ own)
  · intro p q one other id first second own known
    obtain ⟨call, here, same, -, -⟩ := settled_cases first
    obtain ⟨call', here', same', -, -⟩ := settled_cases second
    exact numbered.distinct p q call call' id here here' (same ▸ own) (same' ▸ known)
  · intro socket req sent
    obtain ⟨p, id, origin⟩ := numbered.sent socket req sent
    exact ⟨p, id, origin.settled rfl⟩
  · intro p later id found own pending
    obtain ⟨call, here, same, -, settled⟩ := settled_cases found
    -- The call that the message settles is settled, so a call that still waits is another one.
    have elsewhere : promise ≠ p := by
      intro this
      rw [if_pos this, pending] at settled
      exact absurd (Option.or_eq_none_iff.mp settled.symm).2 (Option.some_ne_none _)
    rw [if_neg elsewhere] at settled
    refine List.mem_filter.mpr ⟨numbered.pending p call id here (same ▸ own) (settled ▸ pending),
      bne_iff_ne.mpr ?_⟩
    rintro rfl
    obtain ⟨owner, there, held⟩ := numbered.filed _ member
    exact elsewhere (numbered.distinct promise p owner call _ there here held (same ▸ own))

theorem Numbered.step (numbered : Numbered asked client) (event : JsEvent)
    (few : (client.step event).msgId < 9007199254740992) :
    Numbered (asked ++ event.made.toList) (client.step event) := by
  have none : asked ++ [] = asked := List.append_nil asked
  cases event with
  | connect | disconnect | opened socket | closing socket | closed socket | errored socket =>
    exact none.symm ▸ numbered.still (still_step rfl rfl)
  | call method params sends =>
    by_cases connected : client.isConnected = true
    · cases current : client.ws with
      | none =>
        rw [SKFClient.isConnected, current] at connected
        cases connected
      | some socket => exact numbered.called method params sends current connected few
    · have refused : client.step (.call method params sends) =
          { client with calls := client.calls ++
            [⟨Option.none, Option.none, some .notConnected⟩] } := if_neg connected
      rw [refused]
      exact numbered.refused method params
  | message socket data =>
    change Numbered (asked ++ []) (client.step (.message socket data))
    rw [none]
    simp only [SKFClient.step]
    split
    · exact numbered.onmessage data
    · exact numbered

end client

end SkfService.Api
