import SkfService.Interaction.Permits
import SkfService.Interaction.Run

/-! The accept loop and the tasks of its clients.

A client task owns its permit, its socket and, once the socket is upgraded, its session. It drops
them when it ends, in the reverse order of their declaration, whichever way it ends. The server is
generic in the sessions it serves. -/

set_option autoImplicit false

namespace SkfService

open Interaction

def MAX_CONNECTIONS : Nat := 64

/-- What a factory's sessions do: take a frame, go on with what they have begun, and answer the
frame. `W` labels the work and `R` is a reply. -/
structure SessionFactory (S W R : Type) where
  create : S
  handle : S → String → S → Prop
  work : S → W → S → Prop
  answered : S → R → S → Prop

/-- A local variable of a client task that has something to drop. -/
inductive Local (S : Type)
  | session (session : S)
  | socket
  | permit

/-- Where a client task is suspended. An ending task has only locals left. -/
inductive Stage (S R : Type)
  | spawned
  | upgrading
  | receiving (session : S)
  | handling (session : S)
  | sending (session : S) (reply : R)
  | ending (locals : List (Local S))

inductive Incident (S W R : Type)
  | started
  | upgraded
  | upgradeFailed
  | frame (text : String)
  | ignored
  | worked (work : W)
  | answered (reply : R)
  | sent
  | sendFailed
  | closed
  | receiveFailed
  | torn
  | dropped (owned : Local S)

namespace Stage

variable {S W R : Type}

def session? : Stage S R → Option S
  | .receiving session | .handling session | .sending session _ => some session
  | .ending (.session session :: _) => some session
  | _ => none

def setSession (after : S) : Stage S R → Stage S R
  | .receiving _ => .receiving after
  | .handling _ => .handling after
  | .sending _ reply => .sending after reply
  | .ending (.session _ :: rest) => .ending (.session after :: rest)
  | stage => stage

/-- What a task drops when it ends at a stage, in that order. -/
def locals : Stage S R → List (Local S)
  | .spawned | .upgrading => [.socket, .permit]
  | .receiving session | .handling session | .sending session _ =>
    [.session session, .socket, .permit]
  | .ending locals => locals

/-- `spawn_client`. A failed upgrade has consumed the socket. Frames that are no text, or no UTF-8,
are passed over. `tear` is a task that unwinds, or whose runtime is shut down. -/
inductive Step (sessions : SessionFactory S W R) : Stage S R → Incident S W R → Stage S R → Prop
  | start : Step sessions .spawned .started .upgrading
  | upgrade : Step sessions .upgrading .upgraded (.receiving sessions.create)
  | failUpgrade : Step sessions .upgrading .upgradeFailed (.ending [.permit])
  | take {before after : S} {text : String} (handled : sessions.handle before text after) :
      Step sessions (.receiving before) (.frame text) (.handling after)
  | ignore {session : S} : Step sessions (.receiving session) .ignored (.receiving session)
  -- Its tasks work in every stage that has a session, also while the client is being answered.
  | work {stage : Stage S R} {before after : S} {work : W} (owned : stage.session? = some before)
      (worked : sessions.work before work after) :
      Step sessions stage (.worked work) (stage.setSession after)
  | answer {before after : S} {reply : R} (answered : sessions.answered before reply after) :
      Step sessions (.handling before) (.answered reply) (.sending after reply)
  | send {session : S} {reply : R} :
      Step sessions (.sending session reply) .sent (.receiving session)
  | failSend {session : S} {reply : R} :
      Step sessions (.sending session reply) .sendFailed
        (.ending [.session session, .socket, .permit])
  | close {session : S} :
      Step sessions (.receiving session) .closed (.ending [.session session, .socket, .permit])
  | failReceive {session : S} :
      Step sessions (.receiving session) .receiveFailed
        (.ending [.session session, .socket, .permit])
  | tear {stage : Stage S R} (unended : ∀ locals, stage ≠ .ending locals) :
      Step sessions stage .torn (.ending stage.locals)
  | drop {owned : Local S} {rest : List (Local S)} :
      Step sessions (.ending (owned :: rest)) (.dropped owned) (.ending rest)

end Stage

structure ClientTask (S R : Type) where
  number : Nat
  stage : Stage S R

/-- `accepted` counts the sockets the loop has accepted, `abandoned` are the sessions that were
dropped. -/
structure Server (S R : Type) where
  accepting : Bool
  accepted : Nat
  permits : Semaphore
  clients : List (ClientTask S R)
  abandoned : List S

/-- What happens at a server. Sockets are numbered in the order they are accepted. -/
inductive Occurrence (S W R : Type)
  | admitted (number : Nat)
  | refused (number : Nat)
  | stopped
  | client (number : Nat) (incident : Incident S W R)
  | leftWorking (work : W)

namespace Server

variable {S W R : Type}

def new : Server S R := ⟨true, 0, ⟨MAX_CONNECTIONS⟩, [], []⟩

def admitClient (server : Server S R) : Occurrence S W R × Server S R :=
  match server.permits.tryAcquire with
  | some permits =>
    (.admitted server.accepted, { server with
      accepted := server.accepted + 1
      permits := permits
      clients := server.clients ++ [⟨server.accepted, .spawned⟩] })
  | none => (.refused server.accepted, { server with accepted := server.accepted + 1 })

def remaining (number : Nat) : Stage S R → List (ClientTask S R)
  | .ending [] => []
  | stage => [⟨number, stage⟩]

def permitsAfter (permits : Semaphore) : Incident S W R → Semaphore
  | .dropped .permit => permits.release
  | _ => permits

def abandonedAfter (abandoned : List S) : Incident S W R → List S
  | .dropped (.session session) => session :: abandoned
  | _ => abandoned

/-- The accept loop ends when it is told to stop and when accepting fails. -/
inductive Step (sessions : SessionFactory S W R) : Server S R → Occurrence S W R → Server S R → Prop
  | accept {server : Server S R} (accepting : server.accepting = true) :
      Step sessions server (server.admitClient (W := W)).1 (server.admitClient (W := W)).2
  | stop {server : Server S R} (accepting : server.accepting = true) :
      Step sessions server .stopped { server with accepting := false }
  | client {accepting : Bool} {accepted number : Nat} {permits : Semaphore}
      {front back : List (ClientTask S R)}
      {abandoned : List S} {before after : Stage S R} {incident : Incident S W R}
      (step : Stage.Step sessions before incident after) :
      Step sessions ⟨accepting, accepted, permits, front ++ ⟨number, before⟩ :: back, abandoned⟩
        (.client number incident)
        ⟨accepting, accepted, permitsAfter permits incident,
          front ++ remaining number after ++ back,
          abandonedAfter abandoned incident⟩
  | leftWork {accepting : Bool} {accepted : Nat} {permits : Semaphore}
      {clients : List (ClientTask S R)}
      {front back : List S} {before after : S} {work : W}
      (worked : sessions.work before work after) :
      Step sessions ⟨accepting, accepted, permits, clients, front ++ before :: back⟩
        (.leftWorking work)
        ⟨accepting, accepted, permits, clients, front ++ after :: back⟩

abbrev Reached (sessions : SessionFactory S W R) : List (Occurrence S W R) → Server S R → Prop :=
  Run (Step sessions) .new

theorem Step.only {sessions : SessionFactory S W R} {accepting : Bool} {accepted number : Nat}
    {permits : Semaphore} {abandoned : List S} {before after : Stage S R}
    {incident : Incident S W R} (step : Stage.Step sessions before incident after) :
    Step sessions ⟨accepting, accepted, permits, [⟨number, before⟩], abandoned⟩
      (.client number incident)
      ⟨accepting, accepted, permitsAfter permits incident, remaining number after,
        abandonedAfter abandoned incident⟩ := by
  have alone :=
    @Step.client S W R sessions accepting accepted number permits [] [] abandoned _ _ _ step
  rwa [List.append_nil] at alone

def sessions (server : Server S R) : List S :=
  server.clients.filterMap fun client => client.stage.session?

end Server
end SkfService
