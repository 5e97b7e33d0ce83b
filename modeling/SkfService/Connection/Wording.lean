import SkfService.Connection.JsonRpcSession
import SkfService.Wording.Branches

/-! Two connections whose clients only differ in the language they choose.

An environment decides what happens next and how the library and the host answer. It sees what is
asked of it, not what the session writes to its client. In the same environment the two connections
do the same, step by step, and write the same replies up to their messages. -/

set_option autoImplicit false

namespace SkfService

open Text Interaction Program

section frames

def Json.SameButString (one two : Json) : Prop :=
  one = two ∨ ∃ text text', one = .string text ∧ two = .string text'

/-- The same request, apart from the strings a `SetLanguage` is given. -/
inductive RpcRequest.SameButLanguage : RpcRequest → RpcRequest → Prop
  | same (req : RpcRequest) : SameButLanguage req req
  | language {req req' : RpcRequest} (method : req.method = "SetLanguage")
      (method' : req'.method = "SetLanguage")
      (params : List.Forall₂ Json.SameButString req.params req'.params) (id : req.id = req'.id)
      (apiVersion : req.apiVersion = req'.apiVersion) : SameButLanguage req req'

def SameFrame (ctx : SkfContext) (text text' : String) : Prop :=
  text = text' ∨ ∃ req req',
    ctx.platform.parseRequest text = .ok req ∧ ctx.platform.parseRequest text' = .ok req' ∧
    req.SameButLanguage req'

def requestId (ctx : SkfContext) (text : String) : Option Json :=
  match ctx.platform.parseRequest text with
  | .ok req => req.id
  | .error _ => none

variable {ctx : SkfContext} {text text' : String}

theorem SameFrame.id (frames : SameFrame ctx text text') :
    requestId ctx text = requestId ctx text' := by
  rcases frames with rfl | ⟨req, req', parsed, parsed', related⟩
  · rfl
  · simp only [requestId, parsed, parsed']
    cases related with
    | same => rfl
    | language _ _ _ id _ => exact id

theorem SetLanguage.respond_sameButString {params params' : Params} (lang lang' : Language)
    (values : List.Forall₂ Json.SameButString params.values params'.values)
    (id : params.id = params'.id) :
    (SetLanguage.respond ctx params lang).1.SameButMessage
      (SetLanguage.respond ctx params' lang').1 := by
  have strings : (params.str 0).isSome = (params'.str 0).isSome := by
    unfold Params.str Params.raw
    generalize params.values = given at values ⊢
    generalize params'.values = given' at values ⊢
    cases values with
    | nil => rfl
    | @cons one two _ _ first _ =>
      rcases first with rfl | ⟨text, text', rfl, rfl⟩
      · rfl
      · rfl
  unfold SetLanguage.respond
  cases found : params.str 0 with
  | some code =>
    rw [found] at strings
    obtain ⟨code', found'⟩ := Option.isSome_iff_exists.mp strings.symm
    rw [found']
    exact ⟨rfl, rfl, id⟩
  | none =>
    rw [found] at strings
    rw [Option.isSome_eq_false_iff.mp strings.symm |> Option.isNone_iff_eq_none.mp]
    exact ⟨rfl, rfl, id⟩

abbrev AnsweredAlike (one two : RpcResponse × Language) : Prop := one.1.SameButMessage two.1

theorem settled_reworded {p q : Handler RpcResponse} {after after' : Language}
    {lang lang' : Language} (reworded : p.SameButMessage q) :
    Alike AnsweredAlike Eq (settleBranch ((fun response => (response, after)) <$> p) (·, lang))
      (settleBranch ((fun response => (response, after')) <$> q) (·, lang')) := by
  unfold settleBranch
  rw [map_eq_pure_bind, map_eq_pure_bind]
  refine (reworded.bind fun one two related => .done ?_).recover fun exit exit' related => ?_
  · exact related
  · cases exit with
    | reply one =>
      cases exit' with
      | reply two => exact .done related
      | panic why => exact related.elim
    | panic why =>
      cases exit' with
      | reply two => exact related.elim
      | panic why' => exact .stop related

/-- The dispatcher asks for the same and answers the same, up to the message, in either language. -/
theorem handleRequest_reworded (frames : SameFrame ctx text text') (lang lang' : Language) :
    Alike AnsweredAlike Eq (handleRequest ctx text lang) (handleRequest ctx text' lang') := by
  have answered (req : RpcRequest) :
      Alike AnsweredAlike Eq (answer ctx req lang) (answer ctx req lang') := by
    unfold answer
    cases rejectedEarly ctx.platform req with
    | some rejection => exact .done (.refl _)
    | none =>
      cases Method.ofName req.method with
      | none => exact .done (.refl _)
      | some method => exact settled_reworded (branch_reworded ctx _ lang lang' method)
  rcases frames with rfl | ⟨req, req', parsed, parsed', related⟩
  · unfold handleRequest
    cases ctx.platform.parseRequest text with
    | error reason => exact .done (.refl _)
    | ok req => exact answered req
  · simp only [handleRequest, parsed, parsed']
    cases related with
    | same => exact answered req
    | language method method' params id version =>
      have early : rejectedEarly ctx.platform req = rejectedEarly ctx.platform req' := by
        simp only [rejectedEarly, unsupportedVersion, restrictedRejection, method, method', id,
          version]
      unfold answer
      rw [early, method, method']
      cases rejectedEarly ctx.platform req' with
      | some rejection => exact .done (.refl _)
      | none =>
        exact settled_reworded (.done (SetLanguage.respond_sameButString lang lang' params id))

end frames

section environment

/-- What an environment sees of a step: what it was asked and answered, but no text. -/
inductive Seen
  | received
  | performed (request : Nat) (event : Event Skf)
  | completed
  | expired
  | failed (why : Panic)

def Happening.seen : Happening → Seen
  | .received _ => .received
  | .performed request event => .performed request event
  | .completed _ => .completed
  | .expired => .expired
  | .failed why => .failed why

def Entry.seen (entry : Entry) : Instant × Seen := (entry.now, entry.happening.seen)

inductive Move
  | receive
  | perform (request : Nat)
  | settle
  | expire

/-- The clock, the schedule and every answer of the library and the host, as functions of what has
been seen so far. A call that never returns has no answer. -/
structure Environment where
  clock : List (Instant × Seen) → Instant
  move : List (Instant × Seen) → Move
  reply : List (Instant × Seen) → (op : Op) → Option op.Reply

def Environment.Answers (env : Environment) (past : List (Instant × Seen)) (event : Event Skf) :
    Prop :=
  (∃ op, event.op = .session op) ∨ some event.reply = env.reply past event.op

def Environment.Chooses (env : Environment) (past : List (Instant × Seen)) : Happening → Prop
  | .received _ => env.move past = .receive
  | .performed request event => env.move past = .perform request ∧ env.Answers past event
  | .completed _ => env.move past = .settle
  | .failed _ => env.move past = .settle
  | .expired => env.move past = .expire

def Environment.Permits (env : Environment) (past : List (Instant × Seen)) (entry : Entry) : Prop :=
  entry.now = env.clock past ∧ env.Chooses past entry.happening

def Environment.Drives (env : Environment) (log : List Entry) : Prop :=
  ∀ front entry back, log = front ++ entry :: back → env.Permits (front.map Entry.seen) entry

theorem Environment.Drives.last {env : Environment} {log : List Entry} {entry : Entry}
    (drives : env.Drives (log ++ [entry])) :
    env.Drives log ∧ env.Permits (log.map Entry.seen) entry := by
  constructor
  · intro front other back spelled
    apply drives front other (back ++ [entry])
    rw [spelled, List.append_assoc, List.cons_append]
  · exact drives log entry [] rfl

end environment

section agreement

def framesOf (log : List Entry) : List String :=
  log.filterMap fun entry => match entry.happening with
    | .received text => some text
    | _ => none

def interactions (log : List Entry) : List (Nat × Event Skf) :=
  log.filterMap fun entry => match entry.happening with
    | .performed request event => some (request, event)
    | _ => none

/-- The members of a reply that are not worded. -/
structure Members where
  error : Int32
  result : Json
  id : Option Json

def RpcResponse.members (response : RpcResponse) : Members :=
  ⟨response.error, response.result, response.id⟩

def timedOutReply (ctx : SkfContext) (text : String) : RpcResponse :=
  .err (-1) "Device operation timed out after 30s" (requestId ctx text)

/-- The members of what the client is sent at a step. The text for a task that failed has neither a
result nor an id. -/
def Transcript.told (ctx : SkfContext) (t : Transcript) : Happening → Option Members
  | .completed response => some response.members
  | .expired => t.running.map fun (text, _) => (timedOutReply ctx text).members
  | .failed _ => some ⟨-1, .null, none⟩
  | _ => none

def repliesFrom (ctx : SkfContext) : Transcript → List Entry → List Members
  | _, [] => []
  | t, entry :: rest =>
    (t.told ctx entry.happening).toList ++ repliesFrom ctx (t.note entry.happening) rest

def replies (ctx : SkfContext) (log : List Entry) : List Members := repliesFrom ctx ⟨[], none⟩ log

theorem repliesFrom_append (ctx : SkfContext) (t : Transcript) (log : List Entry) (entry : Entry) :
    repliesFrom ctx t (log ++ [entry]) = repliesFrom ctx t log ++
      ((log.foldl (fun t entry => t.note entry.happening) t).told ctx entry.happening).toList := by
  induction log generalizing t with
  | nil => simp [repliesFrom]
  | cons first rest ih => simp [repliesFrom, ih]

theorem replies_append (ctx : SkfContext) (log : List Entry) (entry : Entry) :
    replies ctx (log ++ [entry]) = replies ctx log ++
      ((transcript log).told ctx entry.happening).toList :=
  repliesFrom_append ctx ⟨[], none⟩ log entry

theorem RpcResponse.SameButMessage.members {one two : RpcResponse}
    (related : one.SameButMessage two) :
    one.members = two.members := by
  rw [RpcResponse.members, RpcResponse.members, related.error, related.result, related.id]

structure Task.Agrees (ctx : SkfContext) (one two : Task) : Prop where
  number : one.number = two.number
  frames : SameFrame ctx one.text two.text
  state : one.state = two.state
  rest : Alike AnsweredAlike Eq one.rest two.rest

inductive Holder.Agrees (ctx : SkfContext) : Holder → Holder → Prop
  | session {line line' : Line} (state : line.state = line'.state) :
      Agrees ctx (.session line) (.session line')
  | task {one two : Task} (tasks : one.Agrees ctx two) : Agrees ctx (.task one) (.task two)

/-- Two connections in the same situation, apart from the language of their sessions. -/
structure JsonRpcSession.Agrees (ctx : SkfContext) (one two : JsonRpcSession) : Prop where
  received : one.received = two.received
  holder : one.holder.Agrees ctx two.holder
  detached : List.Forall₂ (Task.Agrees ctx) one.detached two.detached

def JsonRpcSession.state (conn : JsonRpcSession) : SessionState :=
  match conn.holder with
  | .session line => line.state
  | .task task => task.state

variable {ctx : SkfContext} {ttl : Duration} {env : Environment} {past : List (Instant × Seen)}

theorem Holder.Agrees.state {one two : JsonRpcSession} (agrees : one.holder.Agrees ctx two.holder) :
    one.state = two.state := by
  obtain ⟨n, holder, detached⟩ := one
  obtain ⟨n', holder', detached'⟩ := two
  cases agrees with
  | session state => exact state
  | task tasks => exact tasks.state

/-- The session answers by its state and by the clock reading that comes with the answer. -/
theorem session_reply {limit : Instant} {state : SessionState} {op : SessionOp}
    {reply reply' : op.Reply} {now : Instant}
    (possible : (tracked limit).possible state (.session op) reply)
    (possible' : (tracked limit).possible state (.session op) reply')
    (timely : ∀ reading ∈ Op.reading (.session op) reply, reading = now)
    (timely' : ∀ reading ∈ Op.reading (.session op) reply', reading = now) : reply = reply' := by
  have clocks : op.clock reply = op.clock reply' := by
    cases op with
    | authorize key => exact (timely _ rfl).trans (timely' _ rfl).symm
    | grant key => exact (timely _ rfl).trans (timely' _ rfl).symm
    | _ => rfl
  have answered : (op.perform limit (op.clock reply) state).2 = reply := possible
  have answered' : (op.perform limit (op.clock reply') state).2 = reply' := possible'
  rw [← answered, ← answered', clocks]

/-- In one environment two tasks that agree perform the same interaction, and agree again. -/
theorem Task.Agrees.performs {one two after after' : Task} {now : Instant}
    {event event' : Event Skf} (agrees : one.Agrees ctx two)
    (performs : one.Performs ctx now event after) (performs' : two.Performs ctx now event' after')
    (answers : env.Answers past event) (answers' : env.Answers past event') :
    event = event' ∧ after.Agrees ctx after' := by
  obtain ⟨number, frames, state, rest⟩ := agrees
  cases performs with
  | @mk op next reply asks possible timely =>
  cases performs' with
  | @mk op' next' reply' asks' possible' timely' =>
  rw [asks] at rest
  obtain ⟨onward, spelled, goes⟩ := rest.asks
  obtain ⟨rfl, same⟩ := Program.call.inj (asks'.symm.trans spelled)
  cases same
  rw [← state] at possible'
  -- The operation is the same; so is its answer, whoever gives it.
  obtain rfl : reply = reply' := by
    rcases answers with ⟨sop, session⟩ | told
    · cases session
      exact session_reply possible possible' timely timely'
    · rcases answers' with ⟨sop, session⟩ | told'
      · cases session
        exact session_reply possible possible' timely timely'
      · exact Option.some.inj (told.trans told'.symm)
  exact ⟨rfl, number, frames, by rw [state], goes reply⟩

inductive Happening.Matches (ctx : SkfContext) : Happening → Happening → Prop
  | received {text text' : String} (frames : SameFrame ctx text text') :
      Matches ctx (.received text) (.received text')
  | performed (request : Nat) (event : Event Skf) :
      Matches ctx (.performed request event) (.performed request event)
  | completed {one two : RpcResponse} (related : one.SameButMessage two) :
      Matches ctx (.completed one) (.completed two)
  | expired : Matches ctx .expired .expired
  | failed (why : Panic) : Matches ctx (.failed why) (.failed why)

theorem numbers_agree {tasks tasks' : List Task}
    (agrees : List.Forall₂ (Task.Agrees ctx) tasks tasks') :
    tasks.map Task.number = tasks'.map Task.number := by
  induction agrees with
  | nil => rfl
  | cons first rest ih => rw [List.map_cons, List.map_cons, first.number, ih]

/-- A detached task is found by its number on both connections. -/
theorem detached_agrees {front back front' back' : List Task} {one two : Task}
    (agrees : List.Forall₂ (Task.Agrees ctx) (front ++ one :: back) (front' ++ two :: back'))
    (distinct : ((front ++ one :: back).map Task.number).Nodup) (same : one.number = two.number) :
    List.Forall₂ (Task.Agrees ctx) front front' ∧ one.Agrees ctx two ∧
      List.Forall₂ (Task.Agrees ctx) back back' := by
  -- Where the two splits differ, one number would stand at two places of the list.
  induction front generalizing front' with
  | nil =>
    cases front' with
    | nil =>
      cases agrees with
      | cons first rest => exact ⟨.nil, first, rest⟩
    | cons other front' =>
      cases agrees with
      | cons first rest =>
        simp only [List.nil_append, List.map_cons, List.nodup_cons, numbers_agree rest] at distinct
        exact absurd (by simp [same]) distinct.1
  | cons head front ih =>
    cases front' with
    | nil =>
      cases agrees with
      | cons first rest =>
        simp only [List.cons_append, List.map_cons, List.nodup_cons, first.number] at distinct
        exact absurd (by simp [same]) distinct.1
    | cons other front' =>
      cases agrees with
      | cons first rest =>
        simp only [List.cons_append, List.map_cons, List.nodup_cons] at distinct
        obtain ⟨before, here, behind⟩ := ih rest distinct.2
        exact ⟨.cons first before, here, behind⟩

/-- A detached task has an earlier number than the one that holds the session. -/
theorem Tracks.apart {t : Transcript} {n : Nat} {task late : Task} {detached : List Task}
    (tracks : Tracks ctx ttl t ⟨n, .task task, detached⟩) (member : late ∈ detached) :
    late.number ≠ task.number := by
  have earlier := (tracks.detached late member).bound
  have last : task.number = t.ended.length := tracks.holder.2.1
  omega

section steps

variable {one two after after' : JsonRpcSession} {now now' : Instant} {t t' : Transcript}

theorem JsonRpcSession.Agrees.receive {text text' : String} (agrees : one.Agrees ctx two)
    (frames : SameFrame ctx text text')
    (step : JsonRpcSession.Step ctx ttl one ⟨now, .received text⟩ after)
    (step' : JsonRpcSession.Step ctx ttl two ⟨now', .received text'⟩ after') :
    after.Agrees ctx after' := by
  obtain ⟨received, holder, detached⟩ := agrees
  cases step with
  | @receive n line =>
  cases step' with
  | @receive n' line' =>
  cases holder with
  | session state =>
  have tasks : Task.Agrees ctx ⟨n, text, line.state, handleRequest ctx text line.lang⟩
      ⟨n', text', line'.state, handleRequest ctx text' line'.lang⟩ :=
    ⟨received, frames, state, handleRequest_reworded frames _ _⟩
  exact ⟨congrArg (· + 1) received, .task tasks, detached⟩

/-- The task of one number performs on both connections, be it the one with the session or a
detached one. -/
theorem JsonRpcSession.Agrees.perform {request request' : Nat} {event event' : Event Skf}
    (agrees : one.Agrees ctx two) (tracks : Tracks ctx ttl t one) (tracks' : Tracks ctx ttl t' two)
    (step : JsonRpcSession.Step ctx ttl one ⟨now, .performed request event⟩ after)
    (step' : JsonRpcSession.Step ctx ttl two ⟨now, .performed request' event'⟩ after')
    (same : request = request') (answers : env.Answers past event)
    (answers' : env.Answers past event') :
    event = event' ∧ after.Agrees ctx after' := by
  obtain ⟨received, holder, detached⟩ := agrees
  cases step with
  -- A running task in one session cannot be a late one in the other: the numbers differ.
  | perform performs =>
    cases step' with
    | perform performs' =>
      cases holder with
      | task tasks =>
        obtain ⟨rfl, again⟩ := tasks.performs performs performs' answers answers'
        exact ⟨rfl, received, .task again, detached⟩
    | late performs' =>
      cases holder with
      | task tasks => exact absurd (same.symm.trans tasks.number) (tracks'.apart (by simp))
  | late performs =>
    cases step' with
    | perform performs' =>
      cases holder with
      | task tasks => exact absurd (same.trans tasks.number.symm) (tracks.apart (by simp))
    | late performs' =>
      obtain ⟨before, here, behind⟩ := detached_agrees detached tracks.distinct same
      obtain ⟨rfl, again⟩ := here.performs performs performs' answers answers'
      exact ⟨rfl, received, holder, List.rel_append before (.cons again behind)⟩

theorem JsonRpcSession.Agrees.complete {response response' : RpcResponse}
    (agrees : one.Agrees ctx two)
    (step : JsonRpcSession.Step ctx ttl one ⟨now, .completed response⟩ after)
    (step' : JsonRpcSession.Step ctx ttl two ⟨now', .completed response'⟩ after') :
    response.SameButMessage response' ∧ after.Agrees ctx after' := by
  obtain ⟨received, holder, detached⟩ := agrees
  cases step with
  | complete done =>
  cases step' with
  | complete done' =>
  cases holder with
  | task tasks =>
  have ends := tasks.rest
  rw [done, done'] at ends
  cases ends with
  | done related => exact ⟨related, received, .session tasks.state, detached⟩

/-- The frames of the requests that time out differ in the language they name at most, so their ids
are one. -/
theorem JsonRpcSession.Agrees.expire (agrees : one.Agrees ctx two) (tracks : Tracks ctx ttl t one)
    (tracks' : Tracks ctx ttl t' two) (step : JsonRpcSession.Step ctx ttl one ⟨now, .expired⟩ after)
    (step' : JsonRpcSession.Step ctx ttl two ⟨now', .expired⟩ after') :
    t.told ctx .expired = t'.told ctx .expired ∧ after.Agrees ctx after' := by
  obtain ⟨received, holder, detached⟩ := agrees
  cases step with
  | expire =>
  cases step' with
  | expire =>
  cases holder with
  | task tasks =>
  obtain ⟨-, -, line, trace, current, -⟩ := tracks.holder
  obtain ⟨-, -, line', trace', current', -⟩ := tracks'.holder
  refine ⟨?_, received, .session rfl, .cons tasks detached⟩
  simp only [Transcript.told, current, current', Option.map_some, timedOutReply,
    RpcResponse.members, RpcResponse.err, tasks.frames.id]

theorem JsonRpcSession.Agrees.fail {why why' : Panic} (agrees : one.Agrees ctx two)
    (step : JsonRpcSession.Step ctx ttl one ⟨now, .failed why⟩ after)
    (step' : JsonRpcSession.Step ctx ttl two ⟨now', .failed why'⟩ after') :
    why = why' ∧ after.Agrees ctx after' := by
  obtain ⟨received, holder, detached⟩ := agrees
  cases step with
  | fail unwound =>
  cases step' with
  | fail unwound' =>
  cases holder with
  | task tasks =>
  have ends := tasks.rest
  rw [unwound, unwound'] at ends
  cases ends with
  | stop related => exact ⟨related, received, .session rfl, detached⟩

theorem JsonRpcSession.Agrees.complete_fail {response : RpcResponse} {why : Panic}
    (agrees : one.Agrees ctx two)
    (step : JsonRpcSession.Step ctx ttl one ⟨now, .completed response⟩ after)
    (step' : JsonRpcSession.Step ctx ttl two ⟨now', .failed why⟩ after') : False := by
  obtain ⟨-, holder, -⟩ := agrees
  cases step with
  | complete done =>
  cases step' with
  | fail unwound =>
  cases holder with
  | task tasks =>
  have ends := tasks.rest
  rw [done, unwound] at ends
  cases ends

theorem JsonRpcSession.Agrees.fail_complete {response : RpcResponse} {why : Panic}
    (agrees : one.Agrees ctx two) (step : JsonRpcSession.Step ctx ttl one ⟨now, .failed why⟩ after)
    (step' : JsonRpcSession.Step ctx ttl two ⟨now', .completed response⟩ after') : False := by
  obtain ⟨-, holder, -⟩ := agrees
  cases step with
  | fail unwound =>
  cases step' with
  | complete done =>
  cases holder with
  | task tasks =>
  have ends := tasks.rest
  rw [unwound, done] at ends
  cases ends

end steps

/-- In one environment, connections that agree take the same step and agree again. -/
theorem JsonRpcSession.Agrees.step {one two after after' : JsonRpcSession} {entry entry' : Entry}
    {t t' : Transcript} (agrees : one.Agrees ctx two) (tracks : Tracks ctx ttl t one)
    (tracks' : Tracks ctx ttl t' two) (step : JsonRpcSession.Step ctx ttl one entry after)
    (step' : JsonRpcSession.Step ctx ttl two entry' after') (permits : env.Permits past entry)
    (permits' : env.Permits past entry')
    (frames : ∀ text text', entry.happening = .received text → entry'.happening = .received text' →
      SameFrame ctx text text') :
    entry.happening.Matches ctx entry'.happening ∧
      t.told ctx entry.happening = t'.told ctx entry'.happening ∧
      after.Agrees ctx after' := by
  obtain ⟨now, happening⟩ := entry
  obtain ⟨now', happening'⟩ := entry'
  obtain ⟨clock, chosen⟩ := permits
  obtain ⟨clock', chosen'⟩ := permits'
  obtain rfl : now' = now := clock'.trans clock.symm
  -- The environment chooses the same move for both, which leaves the pairs below.
  cases happening with
  | received text =>
    cases happening' with
    | received text' =>
      have same := frames text text' rfl rfl
      exact ⟨.received same, rfl, agrees.receive same step step'⟩
    | performed => cases chosen.symm.trans chosen'.1
    | completed | failed | expired => cases chosen.symm.trans chosen'
  | performed request event =>
    cases happening' with
    | performed request' event' =>
      have same : request = request' := Move.perform.inj (chosen.1.symm.trans chosen'.1)
      obtain ⟨rfl, again⟩ := agrees.perform tracks tracks' step step' same chosen.2 chosen'.2
      subst same
      exact ⟨.performed request event, rfl, again⟩
    | received | completed | failed | expired => cases chosen.1.symm.trans chosen'
  | completed response =>
    cases happening' with
    | completed response' =>
      obtain ⟨related, again⟩ := agrees.complete step step'
      exact ⟨.completed related, congrArg some related.members, again⟩
    | failed => exact (agrees.complete_fail step step').elim
    | performed => cases chosen.symm.trans chosen'.1
    | received | expired => cases chosen.symm.trans chosen'
  | failed why =>
    cases happening' with
    | failed why' =>
      obtain ⟨rfl, again⟩ := agrees.fail step step'
      exact ⟨.failed why, rfl, again⟩
    | completed => exact (agrees.fail_complete step step').elim
    | performed => cases chosen.symm.trans chosen'.1
    | received | expired => cases chosen.symm.trans chosen'
  | expired =>
    cases happening' with
    | expired => exact ⟨.expired, agrees.expire tracks tracks' step step'⟩
    | performed => cases chosen.symm.trans chosen'.1
    | received | completed | failed => cases chosen.symm.trans chosen'

theorem Happening.Matches.seen {one two : Happening} (same : one.Matches ctx two) :
    one.seen = two.seen := by
  cases same <;> rfl

structure Alongside (ctx : SkfContext) (log log' : List Entry) (conn conn' : JsonRpcSession) :
    Prop where
  seen : log.map Entry.seen = log'.map Entry.seen
  interactions : interactions log = interactions log'
  replies : replies ctx log = replies ctx log'
  agrees : conn.Agrees ctx conn'

theorem framesOf_append (log : List Entry) (entry : Entry) :
    framesOf (log ++ [entry]) = framesOf log ++ framesOf [entry] :=
  List.filterMap_append

theorem framesOf_received {entry : Entry} {text : String}
    (received : entry.happening = .received text) :
    framesOf [entry] = [text] := by
  simp [framesOf, received]

theorem interactions_append (log : List Entry) (entry : Entry) :
    interactions (log ++ [entry]) = interactions log ++ interactions [entry] :=
  List.filterMap_append

theorem Happening.Matches.interactions {entry entry' : Entry}
    (same : entry.happening.Matches ctx entry'.happening) :
    interactions [entry] = interactions [entry'] ∧
      (framesOf [entry]).length = (framesOf [entry']).length := by
  obtain ⟨now, one⟩ := entry
  obtain ⟨now', two⟩ := entry'
  cases same <;> exact ⟨rfl, rfl⟩

/-- Driven by one environment, two connections stay in step as far as their logs go. -/
theorem alongside {log log' : List Entry} {conn conn' : JsonRpcSession}
    (run : JsonRpcSession.Reached ctx ttl log conn)
    (run' : JsonRpcSession.Reached ctx ttl log' conn') (drives : env.Drives log)
    (drives' : env.Drives log') (long : log.length = log'.length)
    (frames : ∀ (k : Nat) (text text' : String), (framesOf log)[k]? = some text →
      (framesOf log')[k]? = some text' → SameFrame ctx text text') :
    Alongside ctx log log' conn conn' ∧ (framesOf log).length = (framesOf log').length := by
  induction run generalizing log' conn' with
  | start =>
    obtain rfl : log' = [] := List.length_eq_zero_iff.mp long.symm
    rw [run'.nil]
    exact ⟨⟨rfl, rfl, rfl, rfl, .session rfl, .nil⟩, rfl⟩
  | @next log entry before after earlier step ih =>
    rcases List.eq_nil_or_concat log' with rfl | ⟨log', entry', rfl⟩
    · simp at long
    rw [List.concat_eq_append] at run' drives' long frames ⊢
    -- Both runs are cut in front of their last steps, which are of one kind.
    obtain ⟨before', earlier', step'⟩ := run'.last_step
    obtain ⟨driven, permits⟩ := drives.last
    obtain ⟨driven', permits'⟩ := drives'.last
    simp only [List.length_append, List.length_singleton, Nat.add_right_cancel_iff] at long
    rw [framesOf_append, framesOf_append] at frames
    obtain ⟨so_far, counted⟩ := ih earlier' driven driven' long fun k text text' found found' => by
      refine frames k text text' ?_ ?_
      · rw [List.getElem?_append_left (List.getElem?_eq_some_iff.mp found).1]
        exact found
      · rw [List.getElem?_append_left (List.getElem?_eq_some_iff.mp found').1]
        exact found'
    rw [← so_far.seen] at permits'
    obtain ⟨same, told, agrees⟩ :=
      so_far.agrees.step (tracks_reached earlier) (tracks_reached earlier') step step'
      permits permits' fun text text' received received' => by
        refine frames (framesOf log).length text text' ?_ ?_
        · rw [framesOf_received received, List.getElem?_concat_length]
        · rw [framesOf_received received', counted, List.getElem?_concat_length]
    obtain ⟨interacted, one_more⟩ := same.interactions
    -- The environment sets the same clock for both.
    have instants : entry.now = entry'.now := permits.1.trans permits'.1.symm
    refine ⟨⟨?_, ?_, ?_, agrees⟩, ?_⟩
    · rw [List.map_append, List.map_append, so_far.seen, List.map_singleton, List.map_singleton,
        Entry.seen, Entry.seen, instants, same.seen]
    · rw [interactions_append, interactions_append, so_far.interactions, interacted]
    · rw [replies_append, replies_append, so_far.replies, told]
    · rw [framesOf_append, framesOf_append, List.length_append, List.length_append, counted,
        one_more]

/-- Two runs of one session in one environment, on the same frames up to the strings of
`SetLanguage`: they ask for the same in the same order, hold the same grants and handles, and send
replies with the same `error`, `result` and `id`. -/
theorem language_changes_messages_only (ctx : SkfContext) (ttl : Duration) (env : Environment)
    (log log' : List Entry) (conn conn' : JsonRpcSession)
    (run : JsonRpcSession.Reached ctx ttl log conn)
    (run' : JsonRpcSession.Reached ctx ttl log' conn') (drives : env.Drives log)
    (drives' : env.Drives log') (long : log.length = log'.length)
    (frames : List.Forall₂ (SameFrame ctx) (framesOf log) (framesOf log')) :
    interactions log = interactions log' ∧ replies ctx log = replies ctx log' ∧
      conn.state = conn'.state := by
  have in_step := (alongside run run' drives drives' long ?_).1
  · exact ⟨in_step.interactions, in_step.replies, in_step.agrees.holder.state⟩
  · intro k text text' found found'
    obtain ⟨bound, at_k⟩ := List.getElem?_eq_some_iff.mp found
    obtain ⟨bound', at_k'⟩ := List.getElem?_eq_some_iff.mp found'
    rw [← at_k, ← at_k']
    exact frames.get bound bound'

def greetings : SkfContext :=
  .serving [("chinese", ⟨"SetLanguage", [.string "CN"], some (.ofU32 1), none⟩),
    ("english", ⟨"SetLanguage", [.string "EN"], some (.ofU32 1), none⟩),
    ("list", ⟨"EnumDevice", [], some (.ofU32 2), none⟩)]

def unlisted : Event Skf :=
  ⟨.provider (.enumDevices greetings.provider true), some (.error (.Native 0x0A000023 "EnumDev"))⟩

def greeted (greeting message : String) : List Entry :=
  [⟨0, .received greeting⟩, ⟨0, .completed (.ok (.string "OK") (some (.ofU32 1)))⟩,
    ⟨0, .received "list"⟩,
    ⟨0, .performed 1 unlisted⟩,
    ⟨0, .completed (.err (codeAsI32 0x0A000023) message (some (.ofU32 2)))⟩]

/-- Two frames, each answered before the next; the second one calls the library. -/
def patient : Environment where
  clock _ := 0
  move past := match past.length with
    | 0 | 2 => .receive
    | 3 => .perform 1
    | _ => .settle
  reply
    | _, .provider (.enumDevices _ _) => some (some (.error (.Native 0x0A000023 "EnumDev")))
    | _, _ => none

theorem patient_greeted (greeting message : String) :
    patient.Drives (greeted greeting message) := by
  intro front entry back spelled
  rcases front with - | ⟨_, - | ⟨_, - | ⟨_, - | ⟨_, - | ⟨_, _⟩⟩⟩⟩⟩
  · cases spelled
    exact ⟨rfl, rfl⟩
  · cases spelled
    exact ⟨rfl, rfl⟩
  · cases spelled
    exact ⟨rfl, rfl⟩
  · cases spelled
    exact ⟨rfl, rfl, .inr rfl⟩
  · cases spelled
    exact ⟨rfl, rfl⟩
  · have lengths := congrArg List.length spelled
    simp [greeted] at lengths

/-- In Chinese and in English the failed listing is told alike. -/
theorem language_changes_messages_only_listing :
    interactions (greeted "chinese" "枚举设备获取大小失败") =
      interactions (greeted "english" "EnumDev failed size check") ∧
      replies greetings (greeted "chinese" "枚举设备获取大小失败") =
        replies greetings (greeted "english" "EnumDev failed size check") := by
  suffices all : _ ∧ _ ∧ SessionState.new 0 = SessionState.new 0 from ⟨all.1, all.2.1⟩
  refine language_changes_messages_only greetings 0 patient _ _ ⟨2, .session ⟨.new 0, .CN⟩, []⟩
    ⟨2, .session ⟨.new 0, .EN⟩, []⟩ ?_ ?_ (patient_greeted _ _) (patient_greeted _ _) rfl ?_
  · refine .cons (.receive "chinese") (.cons (.complete rfl) (.cons (.receive "list") ?_))
    refine .cons (.perform (.mk rfl trivial (by simp [Op.reading]))) ?_
    exact .cons (.complete rfl) .start
  · refine .cons (.receive "english") (.cons (.complete rfl) (.cons (.receive "list") ?_))
    refine .cons (.perform (.mk rfl trivial (by simp [Op.reading]))) ?_
    exact .cons (.complete rfl) .start
  · have strings : List.Forall₂ Json.SameButString [.string "CN"] [.string "EN"] :=
      .cons (.inr ⟨"CN", "EN", rfl, rfl⟩) .nil
    exact .cons (.inr ⟨_, _, rfl, rfl, .language rfl rfl strings rfl rfl⟩) (.cons (.inl rfl) .nil)

end agreement

end SkfService
