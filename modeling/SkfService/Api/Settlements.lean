import Mathlib.Data.List.Induction
import SkfService.Api.SkfApi

/-! What settles the promises of `call`. -/

set_option autoImplicit false

namespace SkfService.Api

def JsValue.RepliesTo (data : JsValue) (id : Nat) : Prop :=
  ∃ value, data.get "id" = some value ∧ value.truthy = true ∧ value.isNumber id = true

namespace SKFClient

variable {client : SKFClient} {event : JsEvent}

/-- Every callback is the promise of the call that was given its key as id. -/
def Filed (client : SKFClient) : Prop :=
  ∀ entry ∈ client.callbacks, ∃ call, client.calls[entry.2]? = some call ∧ call.id = some entry.1

/-- An event leaves a call as it is, or it is a reply with the call's id that settles it. -/
inductive Follows (event : JsEvent) (call : Call) : Call → Prop
  | same : Follows event call call
  | settled {socket id : Nat} {data : JsValue} (reply : event = .message socket (some data))
      (own : call.id = some id) (carries : data.RepliesTo id) :
      Follows event call (call.settle (settlement data))

theorem Follows.id {call later : Call} (follows : Follows event call later) :
    later.id = call.id := by
  cases follows <;> rfl

theorem Follows.socket {call later : Call} (follows : Follows event call later) :
    later.socket = call.socket := by
  cases follows <;> rfl

theorem filed_of_calls {before after : SKFClient} (filed : Filed before)
    (callbacks : after.callbacks = before.callbacks) (calls : after.calls = before.calls) :
    Filed after := by
  intro entry member
  rw [callbacks] at member
  rw [calls]
  exact filed entry member

theorem getElem?_append_some {calls : List Call} {call : Call} {p : Nat} (more : List Call)
    (found : calls[p]? = some call) : (calls ++ more)[p]? = some call := by
  obtain ⟨bound, -⟩ := List.getElem?_eq_some_iff.mp found
  rw [List.getElem?_append_left bound]
  exact found

theorem calls_disconnect : client.disconnect.calls = client.calls := by
  unfold disconnect
  split <;> rfl

theorem callbacks_disconnect : client.disconnect.callbacks = client.callbacks := by
  unfold disconnect
  split <;> rfl

theorem Filed.call (filed : Filed client) (method : String) (params : JsValue) (sends : Bool) :
    Filed (client.call method params sends) := by
  unfold SKFClient.call
  split
  · intro entry member
    rcases List.mem_cons.mp member with rfl | kept
    · exact ⟨_, List.getElem?_concat_length, rfl⟩
    · obtain ⟨call, found, own⟩ := filed entry (List.mem_filter.mp kept).1
      exact ⟨call, getElem?_append_some _ found, own⟩
  · intro entry member
    obtain ⟨call, found, own⟩ := filed entry member
    exact ⟨call, getElem?_append_some _ found, own⟩

theorem onmessage_cases (data : Option JsValue) :
    client.onmessage data = client ∨
      ∃ value key promise,
        data = some value ∧ value.RepliesTo key ∧ (key, promise) ∈ client.callbacks ∧
        client.onmessage data = { client with
          callbacks := client.callbacks.filter fun entry => entry.1 != key
          calls := client.calls.modify promise (Call.settle (settlement value)) } := by
  unfold onmessage
  cases data with
  | none => exact .inl rfl
  | some value =>
    cases carried : value.get "id" with
    | none =>
      left
      simp only [carried]
    | some id =>
      simp only [carried]
      cases found : client.callbacks.find? fun entry => id.truthy && id.isNumber entry.1 with
      | none => exact .inl rfl
      | some entry =>
        right
        have here := List.find?_some found
        rw [Bool.and_eq_true] at here
        exact ⟨value, entry.1, entry.2, rfl, ⟨id, carried, here.1, here.2⟩,
          List.mem_of_find?_eq_some found, rfl⟩

theorem Filed.onmessage (filed : Filed client) (data : Option JsValue) :
    Filed (client.onmessage data) := by
  rcases @onmessage_cases client data with same | ⟨value, key, promise, -, -, -, settled⟩
  · rw [same]
    exact filed
  · rw [settled]
    intro entry member
    obtain ⟨call, found, own⟩ := filed entry (List.mem_filter.mp member).1
    by_cases here : promise = entry.2
    · refine ⟨call.settle (settlement value), ?_, own⟩
      subst here
      rw [List.getElem?_modify_eq, found]
      rfl
    · refine ⟨call, ?_, own⟩
      rw [List.getElem?_modify_ne _ _ here]
      exact found

theorem Filed.step (filed : Filed client) (event : JsEvent) : Filed (client.step event) := by
  cases event with
  | connect => exact filed_of_calls filed rfl rfl
  | disconnect => exact filed_of_calls filed callbacks_disconnect calls_disconnect
  | call method params sends => exact filed.call method params sends
  | opened socket =>
    simp only [SKFClient.step]
    split <;> exact filed
  | closing socket =>
    simp only [SKFClient.step]
    split <;> exact filed
  | closed socket =>
    simp only [SKFClient.step]
    split <;> exact filed
  | errored socket => exact filed
  | message socket data =>
    simp only [SKFClient.step]
    split
    · exact filed.onmessage data
    · exact filed

theorem calls_closed (socket : Nat) : (client.step (.closed socket)).calls = client.calls := by
  simp only [step]
  split <;> rfl

theorem Filed.follows (filed : Filed client) (event : JsEvent) {p : Nat} {call : Call}
    (made : client.calls[p]? = some call) :
    ∃ later, (client.step event).calls[p]? = some later ∧ Follows event call later := by
  cases event with
  | connect => exact ⟨call, made, .same⟩
  | disconnect =>
    refine ⟨call, ?_, .same⟩
    simp only [SKFClient.step, calls_disconnect]
    exact made
  | call method params sends =>
    refine ⟨call, ?_, .same⟩
    simp only [SKFClient.step, SKFClient.call]
    split <;> exact getElem?_append_some _ made
  | opened socket =>
    refine ⟨call, ?_, .same⟩
    simp only [SKFClient.step]
    split <;> exact made
  | closing socket =>
    refine ⟨call, ?_, .same⟩
    simp only [SKFClient.step]
    split <;> exact made
  | closed socket =>
    refine ⟨call, ?_, .same⟩
    rw [calls_closed]
    exact made
  | errored socket => exact ⟨call, made, .same⟩
  | message socket data =>
    simp only [SKFClient.step]
    split
    · rcases @onmessage_cases client data with same |
        ⟨value, key, promise, rfl, carries, member, settled⟩
      · rw [same]
        exact ⟨call, made, .same⟩
      · rw [settled]
        by_cases here : promise = p
        -- The promise that is settled was filed under the position of its own call.
        · subst here
          obtain ⟨owner, found, own⟩ := filed _ member
          cases made.symm.trans found
          refine ⟨call.settle (settlement value), ?_, .settled rfl own carries⟩
          rw [List.getElem?_modify_eq, made]
          rfl
        · refine ⟨call, ?_, .same⟩
          rw [List.getElem?_modify_ne _ _ here]
          exact made
    · exact ⟨call, made, .same⟩

theorem after_append (front back : List JsEvent) :
    after (front ++ back) = back.foldl step (after front) :=
  List.foldl_append

theorem filed_after (events : List JsEvent) : Filed (after events) := by
  induction events using List.reverseRecOn with
  | nil =>
    intro entry member
    cases member
  | append_singleton events event ih =>
    rw [after_append]
    exact ih.step event

/-- What later events make of a call: it is the same call, a settlement it has stays, and one that
comes is that of a reply with its id. -/
structure Settles (events : List JsEvent) (call later : Call) : Prop where
  id : later.id = call.id
  socket : later.socket = call.socket
  stays : call.settled ≠ none → later.settled = call.settled
  own : call.settled = none → ∀ outcome, later.settled = some outcome →
    ∃ socket data id, .message socket (some data) ∈ events ∧ call.id = some id ∧ data.RepliesTo id ∧
      outcome = settlement data

theorem Settles.refl (call : Call) : Settles [] call call := by
  refine ⟨rfl, rfl, fun _ => rfl, ?_⟩
  intro pending outcome settled
  rw [pending] at settled
  cases settled

theorem Settles.next {events : List JsEvent} {call later last : Call}
    (settles : Settles events call later) (follows : Follows event later last) :
    Settles (events ++ [event]) call last := by
  have kept : ∀ outcome, call.settled = none → later.settled = some outcome →
      ∃ socket data id,
        .message socket (some data) ∈ events ++ [event] ∧ call.id = some id ∧ data.RepliesTo id ∧
        outcome = settlement data := by
    intro outcome pending settled
    obtain ⟨socket, data, id, member, own⟩ := settles.own pending outcome settled
    exact ⟨socket, data, id, List.mem_append_left _ member, own⟩
  refine ⟨follows.id.trans settles.id, follows.socket.trans settles.socket, ?_, ?_⟩
  · intro settled
    have same := settles.stays settled
    cases follows with
    | same => exact same
    | settled =>
      obtain ⟨outcome, first⟩ := Option.ne_none_iff_exists'.mp settled
      rw [first] at same ⊢
      simp only [Call.settle, same, Option.some_or]
  · intro pending outcome settled
    cases follows with
    | same => exact kept outcome pending settled
    | @settled socket id data reply own carries =>
      -- A promise that is settled already keeps its outcome, whatever comes after.
      cases earlier : later.settled with
      | some first =>
        simp only [Call.settle, earlier, Option.some_or, Option.some.injEq] at settled
        subst settled
        exact kept first pending earlier
      | none =>
        simp only [Call.settle, earlier, Option.none_or, Option.some.injEq] at settled
        subst settled
        refine ⟨socket, data, id, ?_, settles.id ▸ own, carries, rfl⟩
        rw [reply]
        exact List.mem_append_right _ List.mem_cons_self

theorem settles_after (front back : List JsEvent) {p : Nat} {call : Call}
    (made : (after front).calls[p]? = some call) :
    ∃ later, (after (front ++ back)).calls[p]? = some later ∧ Settles back call later := by
  induction back using List.reverseRecOn with
  | nil =>
    rw [List.append_nil]
    exact ⟨call, made, .refl call⟩
  | append_singleton back event ih =>
    obtain ⟨later, found, settles⟩ := ih
    obtain ⟨last, there, follows⟩ := (filed_after (front ++ back)).follows event found
    refine ⟨last, ?_, settles.next follows⟩
    rw [← List.append_assoc, after_append]
    exact there

/-- The promise a call returns: pending, unless nothing was sent. -/
theorem calls_call (method : String) (params : JsValue) (sends : Bool) :
    ∃ call, (client.step (.call method params sends)).calls = client.calls ++ [call] ∧
      call.settled = if client.isConnected then if sends then none else some .threw
        else some .notConnected := by
  simp only [step, SKFClient.call]
  split
  · exact ⟨_, rfl, rfl⟩
  · exact ⟨_, rfl, rfl⟩

/-- A promise is settled at once where its call is not sent, and otherwise at most once, by a reply
with the id of its call. -/
theorem calls_settle_once (events : List JsEvent) :
    (∀ method params sends, ∃ call,
      (after (events ++ [.call method params sends])).calls = (after events).calls ++ [call] ∧
        call.settled = if (after events).isConnected then if sends then none else some .threw
          else some .notConnected) ∧
      ∀ back (p : Fin (after events).calls.length), ∃ later,
        (after (events ++ back)).calls[p.val]? = some later ∧
          Settles back (after events).calls[p] later := by
  constructor
  · intro method params sends
    rw [after_append]
    exact calls_call method params sends
  · intro back p
    exact settles_after events back (List.getElem?_eq_getElem p.isLt)

/-- A call outstanding when its connection closes is pending from then on. -/
theorem outstanding_call_left_pending :
    ¬∀ events socket, ∀ call ∈ (after (events ++ [.closed socket])).calls,
      call.socket = some socket → call.settled ≠ none := by
  intro settled
  have made : (⟨some 1, some 0, none⟩ : Call) ∈
      (after ([.connect, .opened 0, .call "EnumProvider" (.array []) true] ++
        [.closed 0])).calls := by
    exact List.mem_singleton.mpr rfl
  exact settled _ _ _ made rfl rfl

end SKFClient
end SkfService.Api
