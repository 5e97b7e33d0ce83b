import Mathlib.Logic.Function.Basic
import SkfService.Api.Settlements
import SkfService.Connection.Replies

/-! The client of a page, and the connections its sockets have to the service.

What is on its way is told by the histories of both ends: the frames of a socket that its connection
has not received, and the replies of the connection that the page has not taken. -/

set_option autoImplicit false

namespace SkfService.Api

open Text Interaction

/-- The page's `JSON`, and what it makes of a value that the service has written. -/
structure JsJson where
  stringify : JsValue → String
  parse : String → Option JsValue
  value : Json → JsValue

def request (method : String) (params : JsValue) (id : Nat) : JsValue :=
  .object [("jsonrpc", .string "2.0"), ("method", .string method), ("params", params),
    ("id", .number id)]

/-- The two ends read what the other one writes. Whole numbers are the same to both below two to the
53rd. -/
structure JsJson.Speaks (json : JsJson) (ctx : SkfContext) : Prop where
  asks : ∀ method params (id : Nat) req, id < 9007199254740992 →
    ctx.platform.parseRequest (json.stringify (request method params id)) = .ok req →
      req.id = some (.number (.unsigned (.ofNat id)))
  replies : ∀ response : RpcResponse, json.parse response.text =
    some (.object (response.fields.map fun member => (member.1, json.value member.2)))
  ids : ∀ id : Nat,
    id < 9007199254740992 → json.value (.number (.unsigned (.ofNat id))) = .number id
  codes : ∀ code : Int32, json.value (ofI32 code) = .number code.toInt
  strings : ∀ s, json.value (.string s) = .string s

def JsJson.settlement (json : JsJson) (response : RpcResponse) : Settlement :=
  if response.error = 0 then .resolved (if response.result.isNull then .undefined
  else json.value response.result)
  else .rejected (.number response.error.toInt)
    (.string (if response.message.getD "" = "" then "Unknown Error" else response.message.getD ""))

/-- The service's end of a socket: its log and its connection, and how many of its replies the page
has taken. -/
structure Peer where
  log : List Entry
  conn : JsonRpcSession
  taken : Nat

structure Page where
  client : SKFClient
  peers : Nat → Peer

/-- What happens on the page, what happens to a connection, and a reply that is delivered. `join` is
what the end of a failed task is described with. -/
inductive Happens
  | page (event : JsEvent)
  | service (socket : Nat) (entry : Entry)
  | reply (socket : Nat) (join : String)

def Happens.call : Happens → Option (String × JsValue)
  | .page (.call method params _) => some (method, params)
  | _ => none

def JsEvent.isMessage : JsEvent → Bool
  | .message _ _ => true
  | _ => false

def SKFClient.frames (client : SKFClient) (json : JsJson) (socket : Nat) : List String :=
  (client.sent.filter fun sent => sent.1 = socket).map fun sent => json.stringify sent.2

namespace Page

def new (ttl : Duration) : Page := ⟨.new, fun _ => ⟨[], .new ttl, 0⟩⟩

/-- A connection receives the frames of its socket in order, and the page takes the replies in
order, as long as its end of the socket is open. -/
inductive Step (ctx : SkfContext) (ttl : Duration) (json : JsJson) : Page → Happens → Page → Prop
  | page {client : SKFClient} {peers : Nat → Peer} (event : JsEvent)
      (own : event.isMessage = false) :
      Step ctx ttl json ⟨client, peers⟩ (.page event) ⟨client.step event, peers⟩
  | service {client : SKFClient} {peers : Nat → Peer} {socket : Nat} {entry : Entry}
      {conn : JsonRpcSession}
      (step : JsonRpcSession.Step ctx ttl (peers socket).conn entry conn)
      (arrives : ∀ text, entry.happening = .received text →
        (client.frames json socket)[(peers socket).conn.received]? = some text) :
      Step ctx ttl json ⟨client, peers⟩ (.service socket entry)
        ⟨client, Function.update peers socket
          ⟨(peers socket).log ++ [entry], conn, (peers socket).taken⟩⟩
  | reply {client : SKFClient} {peers : Nat → Peer} {socket : Nat} {turn : Turn} (join : String)
      (ended : (transcript (peers socket).log).ended[(peers socket).taken]? = some turn)
      (opened : client.sockets[socket]? = some .OPEN) :
      Step ctx ttl json ⟨client, peers⟩ (.reply socket join)
        ⟨client.step (.message socket (json.parse (turn.reply ctx join))),
          Function.update peers socket { peers socket with taken := (peers socket).taken + 1 }⟩

abbrev Reached (ctx : SkfContext) (ttl : Duration) (json : JsJson) : List Happens → Page → Prop :=
  Run (Step ctx ttl json) (.new ttl)

end Page

section replies

variable {json : JsJson} {ctx : SkfContext} {response : RpcResponse}

def JsJson.data (json : JsJson) (response : RpcResponse) : JsValue :=
  .object (response.fields.map fun member => (member.1, json.value member.2))

theorem data_error (speaks : json.Speaks ctx) :
    (json.data response).get "error" = some (.number response.error.toInt) := by
  have first : (json.data response).get "error" = some (json.value (ofI32 response.error)) := rfl
  rw [first, speaks.codes]

theorem data_result : (json.data response).get "result" =
    some (if response.result.isNull then .undefined else json.value response.result) := by
  obtain ⟨error, result, message, id⟩ := response
  simp only [JsJson.data, RpcResponse.fields]
  cases result.isNull <;> cases message <;> cases id <;> rfl

theorem data_message (speaks : json.Speaks ctx) :
    ((json.data response).get "message").getD .undefined =
      (response.message.map JsValue.string).getD .undefined := by
  obtain ⟨error, result, message, id⟩ := response
  simp only [JsJson.data, RpcResponse.fields]
  cases message with
  | none => cases result.isNull <;> cases id <;> rfl
  | some message =>
    have spelled := speaks.strings message
    cases result.isNull <;> cases id <;> exact spelled

theorem data_id :
    (json.data response).get "id" = some ((response.id.map json.value).getD .undefined) := by
  obtain ⟨error, result, message, id⟩ := response
  simp only [JsJson.data, RpcResponse.fields]
  cases result.isNull <;> cases message <;> cases id <;> rfl

theorem settlement_data (speaks : json.Speaks ctx) :
    settlement (json.data response) = json.settlement response := by
  have zero : (response.error.toInt : Rat) = 0 ↔ response.error = 0 := by
    rw [Rat.intCast_eq_zero_iff, ← Int32.toInt_zero, Int32.toInt_inj]
  unfold settlement JsJson.settlement
  rw [data_error speaks, data_result, data_message speaks]
  by_cases well : response.error = 0
  · have falsy : (JsValue.number response.error.toInt).truthy = false := by
      rw [JsValue.truthy, zero.mpr well]
      rfl
    simp only [Option.getD_some, falsy, if_pos well, Bool.false_eq_true, if_false]
  · have truthy : (JsValue.number response.error.toInt).truthy = true :=
      bne_iff_ne.mpr fun same => well (zero.mp same)
    simp only [Option.getD_some, truthy, if_neg well, if_true]
    congr 1
    cases response.message with
    | none => rfl
    | some message =>
      by_cases empty : message = ""
      · subst empty
        rfl
      · have told : (JsValue.string message).truthy = true := bne_iff_ne.mpr empty
        simp only [Option.map_some, Option.getD_some, JsValue.orElse, told, if_true, if_neg empty]

theorem data_repliesTo (speaks : json.Speaks ctx) {own id : Nat} (positive : 0 < own)
    (small : own < 9007199254740992) (known : response.id =
      some (.number (.unsigned (.ofNat own)))) : (json.data response).RepliesTo id ↔ own = id := by
  have here : (json.data response).get "id" = some (.number own) := by
    rw [data_id, known, Option.map_some, Option.getD_some, speaks.ids own small]
  constructor
  · rintro ⟨value, found, -, same⟩
    rw [here, Option.some.injEq] at found
    subst found
    exact Rat.natCast_inj.mp (beq_iff_eq.mp same)
  · rintro rfl
    refine ⟨_, here, bne_iff_ne.mpr ?_, beq_iff_eq.mpr rfl⟩
    exact Rat.natCast_eq_zero_iff.not.mpr (Nat.ne_of_gt positive)

theorem data_anonymous {id : Nat} (anonymous : response.id = none) :
    ¬(json.data response).RepliesTo id := by
  rintro ⟨value, found, truthy, -⟩
  rw [data_id, anonymous, Option.map_none, Option.getD_none, Option.some.injEq] at found
  subst found
  cases truthy

end replies

end SkfService.Api
