import SkfService.Interaction.Monitor
import SkfService.Dispatch.HandleRequest

/-! One request on one session: the session's operations are performed on its state, and everything
else is answered by the environment. -/

set_option autoImplicit false

namespace SkfService

open Interaction

def SessionOp.clock : (op : SessionOp) → op.Reply → Instant
  | .authorize _, (now, _) => now
  | .grant _, (now, _) => now
  | _, _ => 0

/-- A session state under the operations performed on it. -/
def tracked (limit : Instant) : Monitor Skf SessionState where
  allowed _ _ := True
  possible
    | state, .session op, reply => (op.perform limit (op.clock reply) state).2 = reply
    | _, _, _ => True
  advance
    | state, .session op, reply => (op.perform limit (op.clock reply) state).1
    | state, _, _ => state

/-- The state and the language a connection keeps between two requests. -/
structure Line where
  state : SessionState
  lang : Language

/-- A request that is answered: its interactions, its response and what it leaves of the session. -/
def Exchange (ctx : SkfContext) (before : Line) (text : String) (trace : List (Event Skf))
    (response : RpcResponse) (after : Line) : Prop :=
  (handleRequest ctx text before.lang).Finishes trace (.ok (response, after.lang)) ∧
    (tracked ctx.platform.lastInstant).Possible before.state trace ∧
      (tracked ctx.platform.lastInstant).follow before.state trace = after.state

def Unwinds (ctx : SkfContext) (before : Line) (text : String) (trace : List (Event Skf))
    (why : Panic) : Prop :=
  (handleRequest ctx text before.lang).Finishes trace (.error why) ∧
    (tracked ctx.platform.lastInstant).Possible before.state trace

/-- The method a request text reaches, with its parameters: none for a text that is no request, that
is rejected before its branch, or that names no method. -/
def reached (ctx : SkfContext) (text : String) : Option (Method × Params) :=
  match ctx.platform.parseRequest text with
  | .error _ => none
  | .ok req =>
    match rejectedEarly ctx.platform req with
    | some _ => none
    | none => (Method.ofName req.method).map fun method => (method, ⟨req.params, req.id⟩)

/-- A request that reaches a method runs the method's branch. -/
theorem handleRequest_reached {ctx : SkfContext} {text : String} {method : Method} {params : Params}
    (there : reached ctx text = some (method, params)) (lang : Language) :
    handleRequest ctx text lang = settleBranch
      ((fun response => (response, method.languageAfter ctx params lang)) <$> method.branch ctx
        params lang)
      (·, lang) := by
  unfold reached at there
  cases parsed : ctx.platform.parseRequest text with
  | error reason =>
    rw [parsed] at there
    cases there
  | ok req =>
    rw [parsed] at there
    cases early : rejectedEarly ctx.platform req with
    | some rejection =>
      simp only [early] at there
      cases there
    | none =>
      simp only [early, Option.map_eq_some_iff, Prod.mk.injEq] at there
      obtain ⟨found, named, rfl, rfl⟩ := there
      simp only [handleRequest, parsed, answer, early, named]

theorem handleRequest_unreached {ctx : SkfContext} {text : String}
    (nowhere : reached ctx text = none) (lang : Language) :
    ∃ response, handleRequest ctx text lang = .done (response, lang) ∧ response.error ≠ 0 ∧
      response.message.isSome := by
  unfold reached at nowhere
  cases parsed : ctx.platform.parseRequest text with
  | error reason => exact ⟨_, by rw [handleRequest, parsed], by simp, rfl⟩
  | ok req =>
    rw [parsed] at nowhere
    cases early : rejectedEarly ctx.platform req with
    | some rejection =>
      refine ⟨rejection, by simp only [handleRequest, parsed, answer, early], ?_⟩
      unfold rejectedEarly unsupportedVersion restrictedRejection at early
      -- An early refusal is of the version or of the restricted mode, each with a code and a text.
      rcases Option.or_eq_some_iff.mp early with version | ⟨-, restricted⟩
      · split at version
        · split at version
          · cases version
            exact ⟨by simp, rfl⟩
          · cases version
        · cases version
      · obtain ⟨method, -, refused⟩ := Option.bind_eq_some_iff.mp restricted
        split at refused
        · cases refused
          exact ⟨by simp, rfl⟩
        · cases refused
    | none =>
      simp only [early, Option.map_eq_none_iff] at nowhere
      exact ⟨.err (-3) ("Method " ++ req.method ++ " not found") req.id,
        by simp only [handleRequest, parsed, answer, early, nowhere], by simp, rfl⟩

section meets

variable {S : Type} {M : Monitor Skf S} {ret : RpcResponse → S → Prop} {exits : Exit → S → Prop}
  {s : S}

/-- What a branch meets, a request that reaches its method meets; an early reply counts as returned. -/
theorem meets_handleRequest {ctx : SkfContext} {text : String} {method : Method} {params : Params}
    {lang : Language} (there : reached ctx text = some (method, params))
    (met : (method.branch ctx params lang).Meets M ret
      (fun exit t => ∀ response, exit = .reply response → ret response t) s) :
    (handleRequest ctx text lang).Meets M (fun result => ret result.1) (fun _ _ => True) s := by
  rw [handleRequest_reached there, settleBranch, Program.meets_recover, map_eq_pure_bind,
    Program.meets_bind]
  refine met.mono (fun response t returned => returned) fun exit t left => ?_
  cases exit with
  | reply response => exact left response rfl
  | panic why => trivial

end meets

end SkfService
