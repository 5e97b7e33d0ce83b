import Mathlib.Data.Rat.Defs

/-! The JavaScript client: its socket, its pending calls and the promises it has handed out.

Every socket that was ever opened keeps its handlers, and all of them work on the one client. -/

set_option autoImplicit false

namespace SkfService.Api

/-- JavaScript values as `JSON.parse` makes them. -/
inductive JsValue
  | undefined
  | null
  | bool (value : Bool)
  | number (value : Rat)
  | infinity (negative : Bool)
  | string (value : String)
  | array (items : List JsValue)
  | object (members : List (String × JsValue))

namespace JsValue

def truthy : JsValue → Bool
  | undefined | null => false
  | bool value => value
  | number value => value != 0
  | string value => value != ""
  | infinity _ | array _ | object _ => true

/-- `value.name`; `none` is the `TypeError` of `undefined` and `null`. -/
def get (name : String) : JsValue → Option JsValue
  | undefined | null => none
  | object members => some ((members.lookup name).getD undefined)
  | _ => some undefined

/-- The key a `Map` finds under a whole number. -/
def isNumber (n : Nat) : JsValue → Bool
  | number value => value == n
  | _ => false

def orElse (value fallback : JsValue) : JsValue := if value.truthy then value else fallback

end JsValue

/-- How a promise of `call` is settled: before anything is sent, or with a reply. -/
inductive Settlement
  | notConnected
  | threw
  | rejected (code message : JsValue)
  | resolved (result : JsValue)

def settlement (data : JsValue) : Settlement :=
  let error := (data.get "error").getD .undefined
  if error.truthy then
    .rejected error (((data.get "message").getD .undefined).orElse (.string "Unknown Error"))
  else .resolved ((data.get "result").getD .undefined)

structure Call where
  id : Option Nat
  socket : Option Nat
  settled : Option Settlement

def Call.settle (outcome : Settlement) (call : Call) : Call :=
  { call with settled := call.settled.or (some outcome) }

inductive ReadyState
  | CONNECTING
  | OPEN
  | CLOSING
  | CLOSED
  deriving DecidableEq

/-- `ws` is the number of the current socket, `callbacks` the promise pending under an id.
`sockets`, `sent` and `calls` are all there ever were, in order. -/
structure SKFClient where
  ws : Option Nat
  msgId : Nat
  callbacks : List (Nat × Nat)
  sockets : List ReadyState
  sent : List (Nat × JsValue)
  calls : List Call

/-- What happens to a client: the methods its user calls and the events of its sockets. `sends` is
false where a request cannot be written as JSON. -/
inductive JsEvent
  | connect
  | disconnect
  | call (method : String) (params : JsValue) (sends : Bool)
  | opened (socket : Nat)
  | closing (socket : Nat)
  | closed (socket : Nat)
  | errored (socket : Nat)
  | message (socket : Nat) (data : Option JsValue)

/-- `n++` on a whole number, which stays at the largest that has a successor, two to the 53rd. -/
def increment (n : Nat) : Nat := if n < 9007199254740992 then n + 1 else n

namespace SKFClient

def new : SKFClient := ⟨none, 1, [], [], [], []⟩

def connect (client : SKFClient) : SKFClient :=
  { client with
    ws := some client.sockets.length
    sockets := client.sockets ++ [.CONNECTING] }

/-- The socket is told to close, and reports it later. -/
def disconnect (client : SKFClient) : SKFClient :=
  match client.ws with
  | some socket =>
    { client with
      ws := none
      sockets :=
        client.sockets.modify socket fun state => if state = .CLOSED then .CLOSED else .CLOSING }
  | none => client

def isConnected (client : SKFClient) : Bool :=
  client.ws.any fun socket => client.sockets[socket]? == some .OPEN

/-- The pending promise is filed before the request is written. -/
def call (client : SKFClient) (method : String) (params : JsValue) (sends : Bool) : SKFClient :=
  if client.isConnected then
    let id := client.msgId
    let req : JsValue := .object
      [("jsonrpc", .string "2.0"), ("method", .string method), ("params", params),
        ("id", .number id)]
    { client with
      msgId := increment id
      callbacks := (id, client.calls.length) :: client.callbacks.filter fun entry => entry.1 != id
      sent :=
        if sends then client.sent ++ client.ws.toList.map fun socket => (socket, req)
        else client.sent
      calls := client.calls ++ [⟨some id, client.ws, if sends then none else some .threw⟩] }
  else { client with calls := client.calls ++ [⟨none, none, some .notConnected⟩] }

/-- Whichever socket closed, the client has no current one. -/
def onclose (client : SKFClient) (socket : Nat) : SKFClient :=
  { client with
    ws := none
    sockets := client.sockets.set socket .CLOSED }

/-- A message that does not parse, or is `null`, is only logged. -/
def onmessage (client : SKFClient) (data : Option JsValue) : SKFClient :=
  match data with
  | none => client
  | some data =>
    match data.get "id" with
    | none => client
    | some id =>
      match client.callbacks.find? fun entry => id.truthy && id.isNumber entry.1 with
      | none => client
      | some (key, promise) =>
        { client with
          callbacks := client.callbacks.filter fun entry => entry.1 != key
          calls := client.calls.modify promise (Call.settle (settlement data)) }

/-- One event. A socket opens once, closes once and delivers messages while it is open. -/
def step (client : SKFClient) : JsEvent → SKFClient
  | .connect => client.connect
  | .disconnect => client.disconnect
  | .call method params sends => client.call method params sends
  | .opened socket =>
    if client.sockets[socket]? = some .CONNECTING then
      { client with sockets := client.sockets.set socket .OPEN }
    else client
  | .closing socket =>
    if client.sockets[socket]? = some .OPEN then
      { client with sockets := client.sockets.set socket .CLOSING }
    else client
  | .closed socket =>
    if socket < client.sockets.length ∧ client.sockets[socket]? ≠ some .CLOSED then
      client.onclose socket
    else client
  | .errored _ => client
  | .message socket data =>
    if client.sockets[socket]? = some .OPEN then client.onmessage data else client

def after (events : List JsEvent) : SKFClient := events.foldl step .new

end SKFClient
end SkfService.Api
