import SkfService.Api.Peers
import SkfService.Text.JsonScalars

/-! The promises of a page settle with the service's answers to their own calls. -/

set_option autoImplicit false

namespace SkfService.Api

open Text Interaction

/-- Why a promise settled: its call was not sent, the service answered it, or the text of a failed
task has the call's id in the description of the failure. -/
inductive Explained (ctx : SkfContext) (json : JsJson) (asked : List (String × JsValue))
    (peers : Nat → Peer) (p : Nat) (id socket : Option Nat) : Settlement → Prop
  | notConnected : Explained ctx json asked peers p id socket .notConnected
  | threw : Explained ctx json asked peers p id socket .threw
  | answered {method : String} {params : JsValue} {own wire n : Nat} {turn : Turn}
      {response : RpcResponse}
      (made : asked[p]? = some (method, params)) (number : id = some own)
      (sent : socket = some wire)
      (taken : n < (peers wire).taken) (ended : (transcript (peers wire).log).ended[n]? = some turn)
      (text : turn.text = json.stringify (request method params own))
      (responds : turn.response ctx = some response) :
      Explained ctx json asked peers p id socket (json.settlement response)
  | forged {own wire n : Nat} {turn : Turn} {join : String} {data : JsValue}
      (number : id = some own)
      (taken : n < (peers wire).taken) (ended : (transcript (peers wire).log).ended[n]? = some turn)
      (failed : turn.response ctx = none) (parsed : json.parse (failureText join) = some data)
      (carries : data.RepliesTo own) : Explained ctx json asked peers p id socket (settlement data)

section page

variable {ctx : SkfContext} {ttl : Duration} {json : JsJson} {asked : List (String × JsValue)}
  {client : SKFClient} {peers : Nat → Peer}

theorem Explained.mono {p : Nat} {id socket : Option Nat} {outcome : Settlement}
    {later : List (String × JsValue)} {after : Nat → Peer}
    (explained : Explained ctx json asked peers p id socket outcome) (more : asked <+: later)
    (grows : ∀ other, (peers other).Grows ctx (after other)) :
    Explained ctx json later after p id socket outcome := by
  obtain ⟨others, rfl⟩ := more
  cases explained with
  | notConnected => exact .notConnected
  | threw => exact .threw
  | answered made number sent taken ended text response =>
    obtain ⟨later, found, same, responds⟩ := (grows _).ended _ _ ended
    exact .answered (getElem?_more _ made) number sent
      (Nat.lt_of_lt_of_le taken (grows _).taken) found
      (same.trans text) (responds.trans response)
  | forged number taken ended failed parsed carries =>
    obtain ⟨later, found, -, responds⟩ := (grows _).ended _ _ ended
    exact .forged number (Nat.lt_of_lt_of_le taken (grows _).taken) found
      (responds.trans failed) parsed carries

def Unanswered (ctx : SkfContext) (peers : Nat → Peer) (id : Nat) : Prop :=
  ∀ (socket n : Nat) (turn : Turn) (response : RpcResponse), n < (peers socket).taken →
    (transcript (peers socket).log).ended[n]? = some turn →
    turn.response ctx = some response → response.id ≠ some (.number (.unsigned (.ofNat id)))

/-- How the calls of a page stand with the replies it has taken. -/
structure Linked (ctx : SkfContext) (ttl : Duration) (json : JsJson)
    (asked : List (String × JsValue)) (page : Page) :
    Prop where
  numbered : Numbered asked page.client
  peers : ∀ socket, (page.peers socket).Linked ctx ttl (page.client.frames json socket)
  settled : ∀ (p : Nat) (call : Call) (outcome : Settlement), page.client.calls[p]? = some call →
    call.settled = some outcome → Explained ctx json asked page.peers p call.id call.socket outcome
  pending : ∀ (p : Nat) (call : Call) (id : Nat), page.client.calls[p]? = some call →
    call.settled = none →
    call.id = some id → Unanswered ctx page.peers id

theorem mem_frames {socket : Nat} {text : String} (member : text ∈ client.frames json socket) :
    ∃ req, (socket, req) ∈ client.sent ∧ text = json.stringify req := by
  obtain ⟨⟨other, req⟩, kept, same⟩ := List.mem_map.mp member
  obtain ⟨sent, here⟩ := List.mem_filter.mp kept
  have own : other = socket := of_decide_eq_true here
  subst own
  exact ⟨req, sent, same.symm⟩

/-- A response has no id, or it answers a call of the page that was sent on its socket and has the
call's id. -/
theorem response_own (speaks : json.Speaks ctx) (numbered : Numbered asked client)
    (few : client.msgId < 9007199254740992) {peer : Peer} {socket n : Nat} {turn : Turn}
    {response : RpcResponse} (linked : peer.Linked ctx ttl (client.frames json socket))
    (ended : (transcript peer.log).ended[n]? = some turn)
    (answered : turn.response ctx = some response) :
    response.id = none ∨ ∃ (p own : Nat) (call : Call) (method : String) (params : JsValue),
      client.calls[p]? = some call ∧ call.id = some own ∧
      call.socket = some socket ∧ asked[p]? = some (method, params) ∧
        turn.text = json.stringify (request method params own) ∧ 0 < own ∧ own < client.msgId ∧
          response.id = some (.number (.unsigned (.ofNat own))) := by
  have frame := frame_of_turn linked.reached ended
  obtain ⟨rest, spelled⟩ := linked.received
  have member : turn.text ∈ client.frames json socket :=
    spelled ▸ List.mem_append_left _ (List.mem_of_getElem? frame)
  obtain ⟨req, sent, text⟩ := mem_frames member
  obtain ⟨p, own, ⟨call, found, number, wired⟩, method, params, made, rfl⟩ :=
    numbered.sent socket req sent
  obtain ⟨positive, below⟩ := numbered.numbered p call own found number
  -- The response has the id of its frame, and the frame the number of its call.
  rw [id_of_turn linked.reached ended answered, text, requestId]
  cases parsed : ctx.platform.parseRequest (json.stringify (request method params own)) with
  | error reason => exact .inl rfl
  | ok req =>
    right
    exact ⟨p, own, call, method, params, found, number, wired, made, rfl, positive, below,
      speaks.asks method params own req (Nat.lt_trans below few) parsed⟩

theorem unanswered_fresh {page : Page} (speaks : json.Speaks ctx)
    (linked : Linked ctx ttl json asked page) (few : page.client.msgId < 9007199254740992) :
    Unanswered ctx page.peers page.client.msgId := by
  intro socket n turn response taken ended answered same
  rcases response_own speaks linked.numbered few
    (linked.peers socket) ended answered with anonymous | owned
  · rw [anonymous] at same
    cases same
  · obtain ⟨p, own, call, method, params, -, -, -, -, -, -, below, known⟩ := owned
    rw [known] at same
    simp only [Option.some.injEq, Json.number.injEq, Number.unsigned.injEq] at same
    -- Both numbers are safe integers, so they are equal as numbers of 64 bits only if they are
    -- equal.
    have numbers := congrArg UInt64.toNat same
    rw [UInt64.toNat_ofNat', UInt64.toNat_ofNat', Nat.mod_eq_of_lt (by omega),
      Nat.mod_eq_of_lt (by omega)] at numbers
    omega

theorem Unanswered.grows {id : Nat} {socket : Nat} {peer : Peer}
    (unanswered : Unanswered ctx peers id)
    (kept : (transcript (peers socket).log).ended.length ≥ (peers socket).taken)
    (grows : (peers socket).Grows ctx peer) (same : peer.taken = (peers socket).taken) :
    Unanswered ctx (Function.update peers socket peer) id := by
  intro other n turn response taken ended answered
  by_cases here : other = socket
  · subst here
    rw [Function.update_self] at taken ended
    rw [same] at taken
    obtain ⟨later, found, -, responds⟩ :=
      grows.ended n _ (List.getElem?_eq_getElem (Nat.lt_of_lt_of_le taken kept))
    rw [ended, Option.some.injEq] at found
    subst found
    exact unanswered other n _ response taken (List.getElem?_eq_getElem _)
      (responds.symm.trans answered)
  · rw [Function.update_of_ne here] at taken ended
    exact unanswered other n turn response taken ended answered

theorem Peer.Linked.mono {peer : Peer} {front back : List String}
    (linked : peer.Linked ctx ttl front) (more : front <+: back) : peer.Linked ctx ttl back :=
  ⟨linked.reached, linked.received.trans more, linked.taken⟩

theorem sent_step (client : SKFClient) {event : JsEvent} (own : event.isMessage = false) :
    client.sent <+: (client.step event).sent := by
  cases made : event.made with
  | none => exact (still_step made own).sent ▸ List.prefix_rfl
  | some call =>
    cases event with
    | call method params sends =>
      simp only [SKFClient.step, SKFClient.call]
      split
      · dsimp only
        split
        · exact List.prefix_append _ _
        · exact List.prefix_rfl
      · exact List.prefix_rfl
    | _ => cases made

theorem frames_step (client : SKFClient) {event : JsEvent} (own : event.isMessage = false)
    (socket : Nat) :
    client.frames json socket <+: (client.step event).frames json socket := by
  obtain ⟨more, spelled⟩ := sent_step client own
  unfold SKFClient.frames
  rw [← spelled, List.filter_append, List.map_append]
  exact List.prefix_append _ _

theorem msgId_step (client : SKFClient) (event : JsEvent) :
    client.msgId ≤ (client.step event).msgId := by
  cases event with
  | connect | disconnect | opened socket | closing socket | closed socket | errored socket =>
    exact Nat.le_of_eq (still_step rfl rfl).msgId.symm
  | call method params sends =>
    simp only [SKFClient.step, SKFClient.call]
    split
    · dsimp only [increment]
      split <;> omega
    · exact Nat.le_refl _
  | message socket data =>
    simp only [SKFClient.step]
    split
    · rcases SKFClient.onmessage_cases data with same | ⟨value, key, promise, -, -, -, settles⟩
      · rw [same]
      · rw [settles]
    · exact Nat.le_refl _

/-- A call that is made is settled at once, or it is pending under the number that was next. -/
theorem call_new (client : SKFClient) (method : String) (params : JsValue) (sends : Bool) {p : Nat}
    {call : Call} (found : (client.call method params sends).calls[p]? = some call) :
    client.calls[p]? = some call ∨ call.settled = some .notConnected ∨ call.settled = some .threw ∨
      (call.settled = none ∧ call.id = some client.msgId) := by
  unfold SKFClient.call at found
  split at found
  · rcases getElem?_concat_cases found with old | ⟨-, rfl⟩
    · exact .inl old
    · cases sends with
      | false => exact .inr (.inr (.inl rfl))
      | true => exact .inr (.inr (.inr ⟨rfl, rfl⟩))
  · rcases getElem?_concat_cases found with old | ⟨-, rfl⟩
    · exact .inl old
    · exact .inr (.inl rfl)

theorem Linked.page (speaks : json.Speaks ctx) {event : JsEvent}
    (linked : Linked ctx ttl json asked ⟨client, peers⟩) (own : event.isMessage = false)
    (few : (client.step event).msgId < 9007199254740992) :
    Linked ctx ttl json (asked ++ event.made.toList) ⟨client.step event, peers⟩ := by
  have before : client.msgId < 9007199254740992 := Nat.lt_of_le_of_lt (msgId_step client event) few
  have fresh := unanswered_fresh speaks linked before
  have still : ∀ socket, (peers socket).Grows ctx (peers socket) := fun socket => .refl _
  -- Of the calls after the event one is new at most, and it is pending under the next id or failed.
  have either {p : Nat} {call : Call} (found : (client.step event).calls[p]? = some call) :
      client.calls[p]? = some call ∨ call.settled = some .notConnected ∨
        call.settled = some .threw ∨
        (call.settled = none ∧ call.id = some client.msgId) := by
    cases made : event.made with
    | none => exact .inl ((still_step made own).calls ▸ found)
    | some called =>
      cases event with
      | call method params sends => exact call_new client method params sends found
      | _ => cases made
  refine ⟨linked.numbered.step event few, fun socket =>
    (linked.peers socket).mono (frames_step client own socket), ?_, ?_⟩
  · intro p call outcome found settled
    rcases either found with old | refused | threw | ⟨pending, -⟩
    · exact (linked.settled p call outcome old settled).mono (List.prefix_append _ _) still
    · cases refused.symm.trans settled
      exact .notConnected
    · cases threw.symm.trans settled
      exact .threw
    · cases pending.symm.trans settled
  · intro p call id found pending known
    rcases either found with old | refused | threw | ⟨-, next⟩
    · exact linked.pending p call id old pending known
    · cases pending.symm.trans refused
    · cases pending.symm.trans threw
    · cases next.symm.trans known
      exact fresh

theorem Linked.service {socket : Nat} {entry : Entry} {conn : JsonRpcSession}
    (linked : Linked ctx ttl json asked ⟨client, peers⟩)
    (step : JsonRpcSession.Step ctx ttl (peers socket).conn entry conn)
    (arrives : ∀ text, entry.happening = .received text →
      (client.frames json socket)[(peers socket).conn.received]? = some text) :
    Linked ctx ttl json asked
      ⟨client, Function.update peers socket ⟨(peers socket).log ++ [entry], conn,
        (peers socket).taken⟩⟩ := by
  have grows := @Peer.grows_log ctx (peers socket) entry conn
  refine ⟨linked.numbered, ?_, ?_, ?_⟩
  · intro other
    by_cases here : other = socket
    · subst here
      dsimp only
      rw [Function.update_self]
      exact (linked.peers other).step step arrives
    · dsimp only
      rw [Function.update_of_ne here]
      exact linked.peers other
  · intro p call outcome found settled
    exact (linked.settled p call outcome found settled).mono List.prefix_rfl (grows_update grows)
  · intro p call id found pending known
    exact (linked.pending p call id found pending known).grows (linked.peers socket).taken grows rfl

theorem isNumber_unique {value : JsValue} {n m : Nat} (one : value.isNumber n)
    (other : value.isNumber m) : n = m := by
  cases value with
  | number value => exact Rat.natCast_inj.mp ((beq_iff_eq.mp one).symm.trans (beq_iff_eq.mp other))
  | _ => cases one

theorem settles_filed (numbered : Numbered asked client) {p id : Nat}
    (filed : (id, p) ∈ client.callbacks) {value : JsValue} (carries : value.RepliesTo id)
    {later : Call} (found : (client.onmessage (some value)).calls[p]? = some later) :
    later.settled ≠ none := by
  obtain ⟨key, here, truthy, same⟩ := carries
  cases hit : client.callbacks.find? fun entry => key.truthy && key.isNumber entry.1 with
  | none =>
    have missed := List.find?_eq_none.mp hit (id, p) filed
    rw [truthy, same] at missed
    exact absurd rfl missed
  | some entry =>
    have fits := List.find?_some hit
    rw [Bool.and_eq_true] at fits
    obtain ⟨one, there, own⟩ := numbered.filed entry (List.mem_of_find?_eq_some hit)
    obtain ⟨other, there', own'⟩ := numbered.filed (id, p) filed
    -- The first entry that fits is filed under the same number, and so it is this call's.
    have number : entry.1 = id := isNumber_unique fits.2 same
    have place : entry.2 = p := numbered.distinct _ _ one other id there there' (number ▸ own) own'
    have settles : client.onmessage (some value) = { client with
        callbacks := client.callbacks.filter fun other => other.1 != entry.1
        calls := client.calls.modify entry.2 (Call.settle (settlement value)) } := by
      unfold SKFClient.onmessage
      simp only [here, hit]
    rw [settles] at found
    obtain ⟨call, -, -, -, settled⟩ := settled_cases found
    rw [if_pos place] at settled
    intro pending
    rw [pending] at settled
    exact absurd (Option.or_eq_none_iff.mp settled.symm).2 (Option.some_ne_none _)

theorem explains_reply (speaks : json.Speaks ctx)
    (linked : Linked ctx ttl json asked ⟨client, peers⟩) (few : client.msgId < 9007199254740992)
    {socket : Nat} {turn : Turn} {join : String}
    (ended : (transcript (peers socket).log).ended[(peers socket).taken]? = some turn)
    {value : JsValue} {p key : Nat} {call : Call}
    (parsed : json.parse (turn.reply ctx join) = some value) (carries : value.RepliesTo key)
    (found : client.calls[p]? = some call) (known : call.id = some key) :
    Explained ctx json asked
      (Function.update peers socket { peers socket with taken := (peers socket).taken + 1 }) p
      call.id call.socket (settlement value) := by
  have now : ∀ after : Peer, after = { peers socket with taken := (peers socket).taken + 1 } →
      (peers socket).taken < after.taken ∧ (transcript after.log).ended[(peers socket).taken]? =
        some turn := by
    rintro _ rfl
    exact ⟨Nat.lt_succ_self _, ended⟩
  obtain ⟨taken, past⟩ := now (Function.update peers socket
    { peers socket with taken := (peers socket).taken + 1 } socket)
    (Function.update_self _ _ _)
  cases responds : turn.response ctx with
  | none =>
    -- A text without a response is put together from a description, which may have any id in it.
    rw [Turn.reply, responds] at parsed
    exact .forged known taken past responds parsed carries
  | some response =>
    have read : value = json.data response := by
      rw [Turn.reply, responds] at parsed
      exact Option.some.inj (parsed.symm.trans (speaks.replies response))
    subst read
    rcases response_own speaks linked.numbered few
      (linked.peers socket) ended responds with anonymous | owned
    · exact absurd carries (data_anonymous anonymous)
    · obtain ⟨q, own, other, method, params, there, number, sent, made, text, positive, below,
        same⟩ := owned
      obtain rfl := (data_repliesTo speaks positive (Nat.lt_trans below few) same).mp carries
      obtain rfl := linked.numbered.distinct p q call other own found there known number
      cases found.symm.trans there
      rw [settlement_data speaks]
      exact .answered made number sent taken past text responds

theorem sent_onmessage (data : Option JsValue) : (client.onmessage data).sent = client.sent := by
  rcases SKFClient.onmessage_cases data with same | ⟨value, key, promise, -, -, -, settles⟩
  · rw [same]
  · rw [settles]

/-- A call after a message is the call before it, with the settlement that the message gives it, if
any. -/
theorem onmessage_call (numbered : Numbered asked client) {data : Option JsValue} {p : Nat}
    {later : Call} (found : (client.onmessage data).calls[p]? = some later) :
    ∃ call, client.calls[p]? = some call ∧ later.id = call.id ∧ later.socket = call.socket ∧
      (later.settled = call.settled ∨ ∃ value key,
        data = some value ∧ value.RepliesTo key ∧ call.id = some key ∧
        later.settled = some (settlement value)) := by
  rcases SKFClient.onmessage_cases data with same |
    ⟨value, key, promise, parsed, carries, member, settles⟩
  · rw [same] at found
    exact ⟨later, found, rfl, rfl, .inl rfl⟩
  · rw [settles] at found
    obtain ⟨call, here, id, wired, settled⟩ := settled_cases found
    refine ⟨call, here, id, wired, ?_⟩
    by_cases own : promise = p
    · obtain ⟨owner, there, number⟩ := numbered.filed _ member
      rw [own] at there
      cases here.symm.trans there
      rw [if_pos own] at settled
      cases earlier : call.settled with
      | none =>
        rw [earlier] at settled
        exact .inr ⟨value, key, parsed, carries, number, settled⟩
      | some outcome =>
        rw [earlier] at settled
        exact .inl settled
    · rw [if_neg own] at settled
      exact .inl settled

/-- A reply with another id leaves a call unanswered. -/
theorem Unanswered.takes {id socket : Nat} {turn : Turn} (unanswered : Unanswered ctx peers id)
    (ended : (transcript (peers socket).log).ended[(peers socket).taken]? = some turn)
    (apart : ∀ response, turn.response ctx = some response →
      response.id ≠ some (.number (.unsigned (.ofNat id)))) :
    Unanswered ctx (Function.update peers socket
      { peers socket with taken := (peers socket).taken + 1 }) id := by
  intro other n later response taken past responds
  by_cases own : other = socket
  · subst own
    rw [Function.update_self] at taken past
    rcases Nat.lt_or_eq_of_le (Nat.le_of_lt_succ taken) with earlier | rfl
    · exact unanswered other n later response earlier past responds
    · cases ended.symm.trans past
      exact apart response responds
  · rw [Function.update_of_ne own] at taken past
    exact unanswered other n later response taken past responds

theorem Linked.reply (speaks : json.Speaks ctx) (linked : Linked ctx ttl json asked ⟨client, peers⟩)
    (few : client.msgId < 9007199254740992) {socket : Nat} {turn : Turn} (join : String)
    (ended : (transcript (peers socket).log).ended[(peers socket).taken]? = some turn)
    (opened : client.sockets[socket]? = some .OPEN) :
    Linked ctx ttl json asked ⟨client.step (.message socket (json.parse (turn.reply ctx join))),
      Function.update peers socket { peers socket with taken := (peers socket).taken + 1 }⟩ := by
  have numbered : Numbered asked client := linked.numbered
  have delivered : client.step (.message socket (json.parse (turn.reply ctx join))) =
      client.onmessage (json.parse (turn.reply ctx join)) := if_pos opened
  rw [delivered]
  refine ⟨numbered.onmessage _, ?_, ?_, ?_⟩
  · intro other
    dsimp only
    rw [SKFClient.frames, sent_onmessage]
    by_cases here : other = socket
    · subst here
      rw [Function.update_self]
      obtain ⟨reached, received, -⟩ := linked.peers other
      exact ⟨reached, received, (List.getElem?_eq_some_iff.mp ended).1⟩
    · rw [Function.update_of_ne here]
      exact linked.peers other
  · intro p later outcome found settled
    obtain ⟨call, here, id, wired, same | ⟨value, key, parsed, carries, known, answered⟩⟩ :=
      onmessage_call numbered found
    · rw [id, wired]
      exact (linked.settled p call outcome here (same ▸ settled)).mono List.prefix_rfl
        (grows_update (peers socket).grows_taken)
    · cases answered.symm.trans settled
      rw [id, wired]
      exact explains_reply speaks linked few ended parsed carries here known
  · intro p later id found pending known
    obtain ⟨call, here, same, -, unsettled | ⟨value, key, -, -, -, answered⟩⟩ :=
      onmessage_call numbered found
    · rw [unsettled] at pending
      rw [same] at known
      -- A reply with this call's id would have settled it.
      refine (linked.pending p call id here pending known).takes ended
        fun response responds carries => ?_
      obtain ⟨positive, below⟩ := numbered.numbered p call id here known
      have parsed : json.parse (turn.reply ctx join) = some (json.data response) := by
        rw [Turn.reply, responds]
        exact speaks.replies response
      rw [parsed] at found
      exact settles_filed numbered (numbered.pending p call id here known pending)
        ((data_repliesTo speaks positive (Nat.lt_trans below few) carries).mpr rfl) found
          (unsettled.trans pending)
    · cases answered.symm.trans pending

theorem linked_new : Linked ctx ttl json [] (Page.new ttl) := by
  refine ⟨numbered_new, fun socket => ⟨.start, List.prefix_rfl, Nat.le_refl _⟩, ?_, ?_⟩
  · intro p call outcome made
    cases made
  · intro p call id made
    cases made

theorem made_of_event (event : JsEvent) : event.made = (Happens.page event).call := by
  cases event <;> rfl

theorem Linked.step (speaks : json.Speaks ctx) {before after : Page} {happens : Happens}
    (linked : before.client.msgId < 9007199254740992 → Linked ctx ttl json asked before)
    (step : Page.Step ctx ttl json before happens after)
    (few : after.client.msgId < 9007199254740992) :
    Linked ctx ttl json (asked ++ happens.call.toList) after := by
  have none : asked ++ [] = asked := List.append_nil asked
  cases step with
  | @page client peers event own =>
    have linked := linked (Nat.lt_of_le_of_lt (msgId_step client event) few)
    rw [← made_of_event]
    exact linked.page speaks own few
  | service step arrives =>
    change Linked ctx ttl json (asked ++ []) _
    rw [none]
    exact (linked few).service step arrives
  | reply join ended opened =>
    change Linked ctx ttl json (asked ++ []) _
    rw [none]
    have few := Nat.lt_of_le_of_lt (msgId_step _ _) few
    exact (linked few).reply speaks few join ended opened

/-- Every promise that is settled is explained, and a promise that waits has had no reply with its
number. -/
theorem promises_answered (speaks : json.Speaks ctx) {labels : List Happens} {page : Page}
    (reached : Page.Reached ctx ttl json labels page) (few : page.client.msgId < 9007199254740992)
    {p : Nat} {call : Call} (made : page.client.calls[p]? = some call) :
    (∀ outcome, call.settled = some outcome →
      Explained ctx json (labels.filterMap Happens.call) page.peers p call.id call.socket outcome) ∧
    (∀ id, call.id = some id → call.settled = none → Unanswered ctx page.peers id) := by
  -- The bound is on the last number, and numbers only grow, so it is carried as a premise of the
  -- invariant.
  have linked : page.client.msgId < 9007199254740992 →
      Linked ctx ttl json (labels.filterMap Happens.call) page := by
    refine reached.invariant (fun labels page => page.client.msgId < 9007199254740992 →
      Linked ctx ttl json (labels.filterMap Happens.call) page) (fun _ => linked_new) ?_
    intro labels happens before after linked step few
    rw [List.filterMap_append]
    have one : List.filterMap Happens.call [happens] = happens.call.toList := by
      cases called : happens.call with
      | none => rw [List.filterMap_cons_none called, List.filterMap_nil, Option.toList_none]
      | some call => rw [List.filterMap_cons_some called, List.filterMap_nil, Option.toList_some]
    rw [one]
    exact Linked.step speaks linked step few
  have linked := linked few
  exact ⟨fun outcome settled => linked.settled p call outcome made settled,
    fun id known pending => linked.pending p call id made pending known⟩

/-- A value of a flat request, and what a flat response has for one. -/
def ofScalar : JsValue → Json
  | .string value => .string value
  | .number value => .number (.unsigned (.ofNat value.num.toNat))
  | .bool value => .bool value
  | _ => .null

def ofFlat : JsValue → Json
  | .array items => .array (items.map ofScalar)
  | value => ofScalar value

def valueOf (chars : List Char) : JsValue :=
  match asString chars, asWhole chars with
  | some value, _ => .string value
  | none, some value => .number value
  | none, none =>
    if chars.head? = some '-' then
      ((asWhole chars.tail).map fun value : Nat => JsValue.number (-(value : Rat))).getD .undefined
    else if chars = "true".toList then .bool true
    else if chars = "false".toList then .bool false
    else .null

def flatJson : JsJson where
  stringify
    | .object members =>
      (Json.object (members.map fun member => (member.1, ofFlat member.2))).render
    | value => (ofFlat value).render
  parse text := (readWith (2 * text.length + 1) text).map fun fields =>
    .object (fields.filterMap fun field =>
      (decode .plain field.1).map fun name => (.ofList name, valueOf field.2))
  value json := valueOf json.chars

theorem valueOf_string (s : String) : valueOf (stringLiteral s) = .string s := by
  rw [valueOf, asString_stringLiteral]

theorem asString_unquoted {chars : List Char} (unquoted : chars.head? ≠ some quote) :
    asString chars = none :=
  if_neg fun quoted => unquoted quoted.1

theorem valueOf_decimal (n : Nat) : valueOf (decimal n).toList = .number n := by
  have unquoted : (decimal n).toList.head? ≠ some quote := by
    intro head
    rw [decimal, String.toList_ofList] at head
    have digit := toDigits_isDigit n quote (List.mem_of_head? head)
    cases digit
  rw [valueOf, asString_unquoted unquoted, asWhole_decimal]

theorem valueOf_ofI32 (code : Int32) : valueOf (ofI32 code).chars = .number code.toInt := by
  rw [ofI32_chars]
  generalize code.toInt = n
  cases n with
  | ofNat n => exact valueOf_decimal n
  | negSucc n =>
    have spelled : (decimalInt (.negSucc n)).toList = '-' :: (decimal (n + 1)).toList := by
      rw [decimalInt, String.toList_append]
      rfl
    have unsigned : asWhole ('-' :: (decimal (n + 1)).toList) = none := if_neg Bool.false_ne_true
    rw [spelled, valueOf, asString_unquoted (by simp [quote]), unsigned]
    dsimp only
    rw [if_pos List.head?_cons, List.tail_cons, asWhole_decimal]
    simp only [Option.map_some, Option.getD_some, JsValue.number.injEq]
    push_cast
    rfl

theorem flatJson_parse (response : RpcResponse) : flatJson.parse response.text =
    some (.object (response.fields.map fun member => (member.1, flatJson.value member.2))) := by
  have inside : (Json.memberChars true response.fields).length + 2 = response.text.length := by
    rw [RpcResponse.text, Json.render, String.length_ofList]
    change _ = ('{' :: (Json.memberChars true response.fields ++ ['}'])).length
    rw [List.length_cons, List.length_append, List.length_singleton]
  have fuel : 2 * (Json.memberChars true response.fields).length <
      2 * response.text.length + 1 := by omega
  have filled : response.fields ≠ [] := List.cons_ne_nil _ _
  have read := readWith_object filled fuel
  have members : (response.fields.map written).filterMap (fun field =>
      (decode .plain field.1).map fun name => (String.ofList name, valueOf field.2)) =
        response.fields.map fun member => (member.1, valueOf member.2.chars) := by
    rw [List.filterMap_map, ← List.filterMap_eq_map]
    apply List.filterMap_congr
    intro member _
    simp only [written, Function.comp_apply, decode_written, Option.map_some, String.ofList_toList]
  simp only [flatJson, RpcResponse.text] at read ⊢
  rw [read, Option.map_some]
  exact congrArg (fun members => some (JsValue.object members)) members

def enumFrame : String :=
  flatJson.stringify (request "EnumProvider" (.array [.string "0000:0000"]) 1)

def enumServing : SkfContext :=
  .serving [(enumFrame, ⟨"EnumProvider", [.string "0000:0000"], some (.ofU32 1), none⟩)]

def unknownVpid : RpcResponse := .err (-4) "Unknown VPID: 0000:0000" (some (.ofU32 1))

theorem request_number {method other : String} {params others : JsValue} {id id' : Nat}
    (small : id < 9007199254740992) (small' : id' < 9007199254740992)
    (same : flatJson.stringify (request method params id) =
      flatJson.stringify (request other others id')) : id = id' := by
  have whole (n : Nat) (small : n < 9007199254740992) :
      (ofFlat (.number n)).chars = (decimal n).toList := by
    change (decimal (UInt64.ofNat n).toNat).toList = _
    rw [UInt64.toNat_ofNat']
    congr 2
    exact Nat.mod_eq_of_lt (by omega)
  have members (method : String) (params : JsValue) (id : Nat) :
      Reads (flatJson.stringify (request method params id)) ([("jsonrpc", ofFlat (.string "2.0")),
        ("method", ofFlat (.string method)), ("params", ofFlat params),
        ("id", ofFlat (.number id))].map written) :=
    reads_object (List.cons_ne_nil _ _)
  have first := members method params id
  rw [same] at first
  have fields := first.unique (members other others id')
  simp only [List.map_cons, List.cons.injEq, written, Prod.mk.injEq] at fields
  have digits := fields.2.2.2.1.2
  rw [whole id small, whole id' small'] at digits
  have values := congrArg valueOf digits
  rw [valueOf_decimal, valueOf_decimal, JsValue.number.injEq] at values
  exact Rat.natCast_inj.mp values

theorem lookup_single {text known : String} {req found : RpcRequest}
    (here : [(known, req)].lookup text = some found) :
    text = known ∧ found = req := by
  rw [List.lookup_cons] at here
  cases same : text == known with
  | true =>
    rw [same] at here
    cases here
    exact ⟨eq_of_beq same, rfl⟩
  | false =>
    rw [same] at here
    cases here

theorem enumServing_speaks : flatJson.Speaks enumServing := by
  refine ⟨?_, flatJson_parse, ?_, valueOf_ofI32, valueOf_string⟩
  · intro method params id req small parsed
    simp only [enumServing, SkfContext.serving] at parsed
    split at parsed
    · next found =>
      obtain ⟨text, rfl⟩ := lookup_single found
      obtain rfl := request_number small (by decide) text
      cases parsed
      rfl
    · cases parsed
  · intro id small
    have whole : (UInt64.ofNat id).toNat = id := by
      rw [UInt64.toNat_ofNat']
      exact Nat.mod_eq_of_lt (by omega)
    change valueOf (decimal (UInt64.ofNat id).toNat).toList = _
    rw [whole]
    exact valueOf_decimal id

theorem enumServing_handled :
    handleRequest enumServing enumFrame .EN = .done (unknownVpid, .EN) := by
  rfl

def calling : SKFClient :=
  ⟨some 0, 2, [(1, 0)], [.OPEN], [(0, request "EnumProvider" (.array [.string "0000:0000"]) 1)],
    [⟨some 1, some 0, none⟩]⟩

theorem calling_reached : Page.Reached enumServing 0 flatJson [.page .connect, .page (.opened 0),
    .page (.call "EnumProvider" (.array [.string "0000:0000"]) true)]
      ⟨calling, (Page.new 0).peers⟩ :=
  .cons (.page .connect rfl)
    (.cons (.page (.opened 0) rfl) (.cons (.page (.call _ _ true) rfl) .start))

def answeredLog : List Entry := [⟨0, .received enumFrame⟩, ⟨0, .completed unknownVpid⟩]

theorem calling_answered :
    ∃ peers labels, Page.Reached enumServing 0 flatJson labels ⟨calling, peers⟩ ∧
      labels.filterMap Happens.call = [("EnumProvider", .array [.string "0000:0000"])] ∧
      (peers 0).log = answeredLog ∧ (peers 0).taken = 0 := by
  have received : JsonRpcSession.Step enumServing 0 (.new 0) ⟨0, .received enumFrame⟩
      ⟨1, .task ⟨0, enumFrame, .new 0, handleRequest enumServing enumFrame .EN⟩, []⟩ :=
        .receive enumFrame
  have completed : JsonRpcSession.Step enumServing 0
      ⟨1, .task ⟨0, enumFrame, .new 0, handleRequest enumServing enumFrame .EN⟩, []⟩
      ⟨0, .completed unknownVpid⟩ ⟨1, .session ⟨.new 0, .EN⟩, []⟩ := .complete enumServing_handled
  have arrives : ∀ text, Happening.received enumFrame = .received text →
      (calling.frames flatJson 0)[((Page.new 0).peers 0).conn.received]? = some text := by
    rintro _ ⟨⟩
    rfl
  have first := calling_reached.next (@Page.Step.service enumServing 0 flatJson calling _ 0 _ _
    received arrives)
  have second :=
    first.next (@Page.Step.service enumServing 0 flatJson calling _ 0 _ _ completed fun text same =>
      by cases same)
  exact ⟨_, _, second, rfl, rfl, rfl⟩

def delivered : SKFClient :=
  { calling with
    callbacks := []
    calls := [⟨some 1, some 0, some (settlement (flatJson.data unknownVpid))⟩] }

theorem calling_delivered :
    calling.step (.message 0 (flatJson.parse
      (Turn.reply enumServing "" (.answered enumFrame [] unknownVpid)))) = delivered := by
  have known : unknownVpid.id = some (.number (.unsigned (.ofNat 1))) := rfl
  have id : (flatJson.data unknownVpid).get "id" = some (.number (1 : Nat)) := by
    rw [data_id, known, Option.map_some, Option.getD_some, enumServing_speaks.ids 1 (by decide)]
  have one : (JsValue.number (1 : Nat)).truthy = true ∧
      (JsValue.number (1 : Nat)).isNumber 1 = true := by
    simp [JsValue.truthy, JsValue.isNumber]
  have read : flatJson.parse (Turn.reply enumServing "" (.answered enumFrame [] unknownVpid)) =
      some (flatJson.data unknownVpid) := flatJson_parse unknownVpid
  rw [read]
  change calling.onmessage (some (flatJson.data unknownVpid)) = delivered
  unfold delivered
  generalize flatJson.data unknownVpid = data at id
  have hit : calling.callbacks.find? (fun entry => (JsValue.number (1 : Nat)).truthy &&
      (JsValue.number (1 : Nat)).isNumber entry.1) = some (1, 0) := by
    simp only [calling, List.find?_cons, one, Bool.and_self]
  simp only [SKFClient.onmessage, id, hit]
  rfl

/-- A device that is not there is reported to the call that asks for it. -/
theorem promises_answered_enumerated :
    ∃ (page : Page) (call : Call), page.client.calls[0]? = some call ∧
      Explained enumServing flatJson [("EnumProvider", .array [.string "0000:0000"])] page.peers 0
        call.id call.socket
        (.rejected (.number (-4)) (.string "Unknown VPID: 0000:0000")) := by
  obtain ⟨peers, labels, reached, made, log, taken⟩ := calling_answered
  have ended : (transcript (peers 0).log).ended[(peers 0).taken]? =
      some (.answered enumFrame [] unknownVpid) := by
    rw [log, taken]
    rfl
  have reply := @Page.Step.reply enumServing 0 flatJson calling peers 0 _ "" ended rfl
  rw [calling_delivered] at reply
  obtain ⟨answered, -⟩ :=
    promises_answered enumServing_speaks (reached.next reply) (by decide : 2 < 9007199254740992)
    (rfl : delivered.calls[0]? = some _)
  rw [List.filterMap_append, made] at answered
  exact ⟨_, _, rfl, answered _ (congrArg some (settlement_data enumServing_speaks))⟩

end page

end SkfService.Api
