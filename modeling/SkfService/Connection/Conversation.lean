import SkfService.Connection.Exchange
import SkfService.Interaction.Run

/-! What a client sees of one connection: its requests one after the other, each answered, timed out
or failed. A request that is not answered loses the session; the next one finds an empty session. -/

set_option autoImplicit false

namespace SkfService

open Interaction

/-- One request and its end. What a task did after its request timed out, it did on a session that
no later request sees; `trace` holds it all the same. -/
inductive Turn
  | answered (text : String) (trace : List (Event Skf)) (response : RpcResponse)
  | timedOut (text : String) (trace : List (Event Skf))
  | failed (text : String) (trace : List (Event Skf)) (why : Panic)

namespace Turn

def text : Turn → String
  | answered text _ _ | timedOut text _ | failed text _ _ => text

def trace : Turn → List (Event Skf)
  | answered _ trace _ | timedOut _ trace | failed _ trace _ => trace

def resets : Turn → Bool
  | answered _ _ _ => false
  | timedOut _ _ | failed _ _ _ => true

end Turn

/-- Requests that wait for the library are not timed out. -/
def exempt (ctx : SkfContext) (text : String) : Bool :=
  match ctx.platform.parseRequest text with
  | .ok req => (Method.ofName req.method).any Method.isWait
  | .error _ => false

def Line.new (ttl : Duration) : Line := ⟨.new ttl, .EN⟩

inductive TurnStep (ctx : SkfContext) (ttl : Duration) (before : Line) : Turn → Line → Prop
  | answered {text : String} {trace : List (Event Skf)} {response : RpcResponse} {after : Line}
      (exchange : Exchange ctx before text trace response after) :
      TurnStep ctx ttl before (.answered text trace response) after
  | timedOut {text : String} {trace : List (Event Skf)}
      {q : Program Skf Panic (RpcResponse × Language)}
      (limited : exempt ctx text = false)
      (ran : Program.Reaches (handleRequest ctx text before.lang) trace q)
      (possible : (tracked ctx.platform.lastInstant).Possible before.state trace) :
      TurnStep ctx ttl before (.timedOut text trace) (.new ttl)
  | failed {text : String} {trace : List (Event Skf)} {why : Panic}
      (unwinds : Unwinds ctx before text trace why) :
      TurnStep ctx ttl before (.failed text trace why) (.new ttl)

abbrev Conversation (ctx : SkfContext) (ttl : Duration) : Line → List Turn → Line → Prop :=
  Run (TurnStep ctx ttl)

variable {ctx : SkfContext} {ttl : Duration}

/-- A turn as its task ran it: some part of the request's program, on the session it was given. -/
theorem TurnStep.ran {before after : Line} {turn : Turn}
    (step : TurnStep ctx ttl before turn after) :
    (∃ q, Program.Reaches (handleRequest ctx turn.text before.lang) turn.trace q) ∧
      (tracked ctx.platform.lastInstant).Possible before.state turn.trace := by
  cases step with
  | answered exchange => exact ⟨⟨_, exchange.1⟩, exchange.2.1⟩
  | timedOut limited ran possible => exact ⟨⟨_, ran⟩, possible⟩
  | failed unwinds => exact ⟨⟨_, unwinds.1⟩, unwinds.2⟩

theorem TurnStep.reset {before after : Line} {turn : Turn}
    (step : TurnStep ctx ttl before turn after) (resets : turn.resets = true) :
    after = .new ttl := by
  cases step with
  | answered => cases resets
  | timedOut | failed => rfl

end SkfService
