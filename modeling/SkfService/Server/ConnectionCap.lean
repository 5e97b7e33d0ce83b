import SkfService.Server.Clients

/-! Every client task holds one permit from its admission until its last local is dropped. -/

set_option autoImplicit false

namespace SkfService

open Interaction

variable {S W R : Type} {sessions : SessionFactory S W R} {server server' : Server S R}
  {log : List (Occurrence S W R)}

namespace Occurrence

def admission? : Occurrence S W R → Option Nat
  | .admitted number => some number
  | _ => none

def refusal? : Occurrence S W R → Option Nat
  | .refused number => some number
  | _ => none

def return? : Occurrence S W R → Option Nat
  | .client number (.dropped .permit) => some number
  | _ => none

end Occurrence

def admitted (log : List (Occurrence S W R)) : List Nat := log.filterMap Occurrence.admission?

def refused (log : List (Occurrence S W R)) : List Nat := log.filterMap Occurrence.refusal?

def returned (log : List (Occurrence S W R)) : List Nat := log.filterMap Occurrence.return?

/-- What a task that has not ended can own. The permit is always there, and goes last. -/
inductive Owned : List (Local S) → Prop
  | permit : Owned [.permit]
  | socket : Owned [.socket, .permit]
  | session (session : S) : Owned [.session session, .socket, .permit]

theorem locals_setSession {stage : Stage S R} {before : S} (after : S)
    (owned : stage.session? = some before) (owns : Owned stage.locals) :
    Owned (stage.setSession after).locals := by
  cases stage with
  | spawned => cases owned
  | upgrading => cases owned
  | receiving session => exact .session after
  | handling session => exact .session after
  | sending session reply => exact .session after
  | ending locals =>
    cases owns with
    | permit => cases owned
    | socket => cases owned
    | session session => exact .session after

/-- One step of a task: it drops its permit and is over, or it keeps its permit. -/
theorem Stage.Step.permit {before after : Stage S R} {incident : Incident S W R}
    (step : Stage.Step sessions before incident after) (owns : Owned before.locals) :
    (incident = .dropped .permit ∧ after = .ending []) ∨
      (incident ≠ .dropped .permit ∧ Owned after.locals) := by
  cases step with
  | start => exact .inr ⟨by simp, .socket⟩
  | upgrade => exact .inr ⟨by simp, .session _⟩
  | failUpgrade => exact .inr ⟨by simp, .permit⟩
  | take => exact .inr ⟨by simp, .session _⟩
  | ignore => exact .inr ⟨by simp, .session _⟩
  | work owned => exact .inr ⟨by simp, locals_setSession _ owned owns⟩
  | answer => exact .inr ⟨by simp, .session _⟩
  | send => exact .inr ⟨by simp, .session _⟩
  | failSend => exact .inr ⟨by simp, .session _⟩
  | close => exact .inr ⟨by simp, .session _⟩
  | failReceive => exact .inr ⟨by simp, .session _⟩
  | tear => exact .inr ⟨by simp, owns⟩
  | drop =>
    cases owns with
    | permit => exact .inl ⟨rfl, rfl⟩
    | socket => exact .inr ⟨by simp, .permit⟩
    | session => exact .inr ⟨by simp, .socket⟩

theorem remaining_owned {number : Nat} {stage : Stage S R} (owns : Owned stage.locals) :
    Server.remaining number stage = [⟨number, stage⟩] := by
  cases stage with
  | ending locals => cases owns <;> rfl
  | spawned => rfl
  | upgrading => rfl
  | receiving => rfl
  | handling => rfl
  | sending => rfl

theorem permitsAfter_kept (permits : Semaphore) {incident : Incident S W R}
    (kept : incident ≠ .dropped .permit) :
    Server.permitsAfter permits incident = permits := by
  unfold Server.permitsAfter
  split
  · exact absurd rfl kept
  · rfl

theorem return?_kept {number : Nat} {incident : Incident S W R}
    (kept : incident ≠ .dropped .permit) :
    (Occurrence.client number incident).return? = none := by
  unfold Occurrence.return?
  split
  · next same =>
    cases same
    exact absurd rfl kept
  · rfl

structure Accounted (log : List (Occurrence S W R)) (server : Server S R) : Prop where
  balanced : server.permits.Balanced MAX_CONNECTIONS server.clients.length
  owns : ∀ client ∈ server.clients, Owned client.stage.locals
  numbered : ∀ number, (admitted log).count number + (refused log).count number =
    if number < server.accepted then 1 else 0
  settled : ∀ number,
    (returned log).count number + (server.clients.map ClientTask.number).count number =
    (admitted log).count number
  known : ∀ number incident, .client number incident ∈ log → number ∈ admitted log

theorem accounted_new : Accounted (W := W) [] (.new : Server S R) where
  balanced := Semaphore.balanced_new _
  owns := by simp [Server.new]
  numbered := by simp [admitted, refused, Server.new]
  settled := by simp [admitted, returned, Server.new]
  known := by simp

section append

variable (log)

theorem admitted_append (occurrence : Occurrence S W R) :
    admitted (log ++ [occurrence]) = admitted log ++ occurrence.admission?.toList := by
  cases found : occurrence.admission? <;> simp [admitted, found]

theorem refused_append (occurrence : Occurrence S W R) :
    refused (log ++ [occurrence]) = refused log ++ occurrence.refusal?.toList := by
  cases found : occurrence.refusal? <;> simp [refused, found]

theorem returned_append (occurrence : Occurrence S W R) :
    returned (log ++ [occurrence]) = returned log ++ occurrence.return?.toList := by
  cases found : occurrence.return? <;> simp [returned, found]

end append

/-- Whether a socket is admitted or refused, its number is used up. -/
theorem count_accepted {accepted number : Nat} :
    (if number < accepted then 1 else 0) + [accepted].count number = if number <
      accepted + 1 then 1 else 0 := by
  by_cases same : accepted = number
  · subst same
    simp
  · have other : [accepted].count number = 0 := List.count_eq_zero.mpr (by simpa using Ne.symm same)
    rw [other]
    by_cases before : number < accepted
    · rw [if_pos before, if_pos (by omega)]
    · rw [if_neg before, if_neg (by omega)]

theorem Accounted.quiet {occurrence : Occurrence S W R} (accounted : Accounted log server)
    (silent : occurrence = .stopped ∨ ∃ work, occurrence = .leftWorking work)
    (same : server'.accepted = server.accepted ∧ server'.permits = server.permits ∧
      server'.clients = server.clients) :
    Accounted (log ++ [occurrence]) server' := by
  have unsaid : occurrence.admission? = none ∧ occurrence.refusal? = none ∧
      occurrence.return? = none := by
    rcases silent with rfl | ⟨work, rfl⟩ <;> exact ⟨rfl, rfl, rfl⟩
  obtain ⟨accepted, permits, clients⟩ := same
  refine ⟨?_, ?_, ?_, ?_, ?_⟩
  · rw [permits, clients]
    exact accounted.balanced
  · rw [clients]
    exact accounted.owns
  · intro number
    rw [admitted_append, refused_append, unsaid.1, unsaid.2.1, accepted]
    simpa using accounted.numbered number
  · intro number
    rw [admitted_append, returned_append, unsaid.1, unsaid.2.2, clients]
    simpa using accounted.settled number
  · intro number incident member
    rw [admitted_append]
    apply List.mem_append_left
    apply accounted.known number incident
    rcases silent with rfl | ⟨work, rfl⟩ <;> simpa using member

theorem Accounted.accept (accounted : Accounted log server) :
    Accounted (log ++ [(server.admitClient (W := W)).1]) (server.admitClient (W := W)).2 := by
  unfold Server.admitClient
  have numbered := accounted.numbered
  have settled := accounted.settled
  -- A permit that is left goes to the new client; without one it is refused.
  cases taken : server.permits.tryAcquire with
  | some permits =>
    refine ⟨?_, ?_, ?_, ?_, ?_⟩
    · rw [List.length_append]
      exact accounted.balanced.acquire taken
    · intro client member
      rcases List.mem_append.mp member with earlier | last
      · exact accounted.owns client earlier
      · rw [List.mem_singleton.mp last]
        exact .socket
    · intro number
      rw [admitted_append, refused_append, ← count_accepted, ← numbered number]
      simp only [Occurrence.admission?, Occurrence.refusal?, Option.toList, List.count_append,
        List.count_nil]
      omega
    · intro number
      rw [admitted_append, returned_append, List.map_append, List.count_append, List.count_append,
        List.count_append]
      have here := settled number
      simp only [Occurrence.admission?, Occurrence.return?, Option.toList, List.count_nil,
        List.map_cons, List.map_nil]
      omega
    · intro number incident member
      rw [admitted_append]
      apply List.mem_append_left
      exact accounted.known number incident (by simpa using member)
  | none =>
    refine ⟨accounted.balanced, accounted.owns, ?_, ?_, ?_⟩
    · intro number
      rw [admitted_append, refused_append, ← count_accepted, ← numbered number]
      simp only [Occurrence.admission?, Occurrence.refusal?, Option.toList, List.count_append,
        List.count_nil]
      omega
    · intro number
      rw [admitted_append, returned_append]
      simpa [Occurrence.admission?, Occurrence.return?] using settled number
    · intro number incident member
      rw [admitted_append]
      apply List.mem_append_left
      exact accounted.known number incident (by simpa using member)

theorem Accounted.running {number : Nat} {stage : Stage S R} (accounted : Accounted log server)
    (member : ⟨number, stage⟩ ∈ server.clients) : number ∈ admitted log := by
  have count := accounted.settled number
  have positive := List.count_pos_iff.mpr (List.mem_map_of_mem (f := ClientTask.number) member)
  dsimp only at count positive
  exact List.count_pos_iff.mp (by omega)

section client

variable {number : Nat} (incident : Incident S W R)

theorem Accounted.known_client (accounted : Accounted log server)
    (running : number ∈ admitted log) : ∀ other incident',
      .client other incident' ∈ log ++ [.client number incident] →
        other ∈ admitted (log ++ [.client number incident]) := by
  intro other incident' member
  rw [admitted_append]
  apply List.mem_append_left
  rcases List.mem_append.mp member with earlier | last
  · exact accounted.known other incident' earlier
  · cases List.mem_singleton.mp last
    exact running

/-- What a client does neither admits nor refuses one. -/
theorem Accounted.numbered_client (accounted : Accounted log server) : ∀ other,
    (admitted (log ++ [.client number incident])).count other +
      (refused (log ++ [.client number incident])).count other =
        if other < server.accepted then 1 else 0 := by
  intro other
  rw [admitted_append, refused_append]
  simpa [Occurrence.admission?, Occurrence.refusal?] using accounted.numbered other

end client

/-- A step of a client settles its permit when it is dropped, and changes no other account. -/
theorem Accounted.client {accepting : Bool} {accepted number : Nat} {permits : Semaphore}
    {front back : List (ClientTask S R)} {abandoned : List S} {before after : Stage S R}
    {incident : Incident S W R}
    (accounted :
      Accounted log ⟨accepting, accepted, permits, front ++ ⟨number, before⟩ :: back, abandoned⟩)
    (step : Stage.Step sessions before incident after) :
    Accounted (log ++ [.client number incident])
      ⟨accepting, accepted, Server.permitsAfter permits incident,
        front ++ Server.remaining number after ++ back,
        Server.abandonedAfter abandoned incident⟩ := by
  have owns := accounted.owns
  have balanced := accounted.balanced
  have settled := accounted.settled
  have inside : (⟨number, before⟩ : ClientTask S R) ∈ front ++ ⟨number, before⟩ :: back := by simp
  have here : Owned before.locals := owns ⟨number, before⟩ inside
  have known := accounted.known_client incident (accounted.running inside)
  have elsewhere : ∀ other ∈ front ++ back, Owned other.stage.locals := by
    intro other member
    apply owns
    rcases List.mem_append.mp member with first | second
    · exact List.mem_append_left _ first
    · exact List.mem_append_right _ (List.mem_cons_of_mem _ second)
  rcases step.permit here with ⟨rfl, rfl⟩ | ⟨kept, still⟩
  · -- The permit goes back and the client is no longer counted.
    refine ⟨?_, ?_, accounted.numbered_client _, ?_, known⟩
    · simp only [List.length_append, List.length_cons, ← Nat.add_assoc] at balanced
      simpa [Server.remaining, Server.permitsAfter] using balanced.release
    · intro other member
      apply elsewhere
      simpa [Server.remaining] using member
    · intro other
      have count := settled other
      rw [admitted_append, returned_append]
      simp only [Occurrence.admission?, Occurrence.return?, Option.toList, Server.remaining,
        List.map_append, List.map_cons, List.count_append, List.count_cons, List.count_nil,
        List.append_nil] at count ⊢
      omega
  · -- The permit stays where it is, and the client is still one of those that own one.
    refine ⟨?_, ?_, accounted.numbered_client _, ?_, known⟩
    · rw [remaining_owned still, permitsAfter_kept _ kept]
      simpa using balanced
    · intro other member
      rw [remaining_owned still] at member
      simp only [List.append_assoc, List.mem_append, List.mem_cons, List.not_mem_nil,
        or_false] at member
      rcases member with first | rfl | second
      · exact elsewhere other (List.mem_append_left _ first)
      · exact still
      · exact elsewhere other (List.mem_append_right _ second)
    · intro other
      have count := settled other
      rw [admitted_append, returned_append, return?_kept kept, remaining_owned still]
      simpa [Occurrence.admission?] using count

theorem Accounted.step {occurrence : Occurrence S W R} (accounted : Accounted log server)
    (step : Server.Step sessions server occurrence server') :
    Accounted (log ++ [occurrence]) server' := by
  cases step with
  | accept => exact accounted.accept
  | stop => exact accounted.quiet (.inl rfl) ⟨rfl, rfl, rfl⟩
  | client step => exact accounted.client step
  | leftWork => exact accounted.quiet (.inr ⟨_, rfl⟩) ⟨rfl, rfl, rfl⟩

theorem accounted_reached (run : Server.Reached sessions log server) : Accounted log server :=
  Run.invariant Accounted run accounted_new fun _ _ _ _ accounted step => accounted.step step

/-- Live client tasks and free permits make up the cap. At most the cap of sessions exist, a refused
socket never has a task, and a client's permit comes back once, when its task is over. -/
theorem connection_cap (run : Server.Reached sessions log server) :
    server.clients.length + server.permits.available = MAX_CONNECTIONS ∧
      server.sessions.length ≤ MAX_CONNECTIONS ∧
      (∀ number ∈ refused log, ∀ incident, .client number incident ∉ log) ∧
      (∀ number, (admitted log).count number ≤ 1) ∧
      ∀ number ∈ admitted log,
        (returned log).count number = if number ∈
          server.clients.map ClientTask.number then 0 else 1 := by
  have accounted := accounted_reached run
  -- A number is given once, to a client that is admitted or refused.
  have once : ∀ number, (admitted log).count number + (refused log).count number ≤ 1 := by
    intro number
    rw [accounted.numbered number]
    split <;> omega
  refine ⟨?_, ?_, ?_, ?_, ?_⟩
  · have balanced := accounted.balanced
    unfold Semaphore.Balanced at balanced
    omega
  · exact Nat.le_trans (List.length_filterMap_le _ _) accounted.balanced.bound
  · intro number rejected incident member
    have counted := List.count_pos_iff.mpr rejected
    have running := List.count_pos_iff.mpr (accounted.known number incident member)
    have := once number
    omega
  · intro number
    have := once number
    omega
  · intro number running
    have settled := accounted.settled number
    have counted := List.count_pos_iff.mpr running
    have := once number
    split
    · next live =>
      have := List.count_pos_iff.mpr live
      omega
    · next gone =>
      have := List.count_eq_zero.mpr gone
      omega

def SessionFactory.silent : SessionFactory Unit Empty Empty :=
  ⟨(), fun _ _ _ => True, fun _ _ _ => True, fun _ _ _ => True⟩

/-- A client whose upgrade fails is admitted, and its permit comes back. -/
theorem connection_cap_failed_upgrade :
    let log : List (Occurrence Unit Empty Empty) :=
      [.admitted 0, .client 0 .started, .client 0 .upgradeFailed, .client 0 (.dropped .permit)]
    let server : Server Unit Empty := ⟨true, 1, ⟨64⟩, [], []⟩
    server.clients.length + server.permits.available = MAX_CONNECTIONS ∧
      server.sessions.length ≤ MAX_CONNECTIONS ∧
      (∀ number ∈ refused log, ∀ incident, .client number incident ∉ log) ∧
      (∀ number, (admitted log).count number ≤ 1) ∧
      ∀ number ∈ admitted log,
        (returned log).count number = if number ∈
          server.clients.map ClientTask.number then 0 else 1 :=
  have run : Server.Reached .silent _ _ :=
    .cons (.accept rfl)
      (.cons (.only .start) (.cons (.only .failUpgrade) (.cons (.only .drop) .start)))
  connection_cap run

end SkfService
