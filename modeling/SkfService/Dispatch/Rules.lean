import SkfService.Dispatch.Device
import SkfService.Skf.Rules

/-! Finding a library asks for nothing but the host, so it is one step under any monitor that does
not watch the host. -/

set_option autoImplicit false

namespace SkfService

open Interaction Program Handler

/-- In this state the host may be asked, and nothing is learnt from it. -/
structure Unwatched {S : Type} (M : Monitor Skf S) (s : S) : Prop where
  allowed : ∀ host, M.allowed s (.host host)
  quiet : ∀ host reply, M.advance s (.host host) reply = s

namespace Unwatched

variable {S B : Type} {M : Monitor Skf S} {exits : Exit → S → Prop} {s : S} {ctx : SkfContext}
  {name : String}

theorem bind_host {op : HostOp} {k : op.Reply → Handler B} {ret : B → S → Prop}
    (unwatched : Unwatched M s)
    (goes : ∀ reply, M.possible s (.host op) reply → (k reply).Meets M ret exits s) :
    (host op >>= k).Meets M ret exits s := by
  refine bind_call (unwatched.allowed op) fun reply possible => ?_
  rw [unwatched.quiet op reply]
  exact goes reply possible

theorem meets_getApi {ret : Except String Library → S → Prop} (unwatched : Unwatched M s)
    (fails : ∀ reason, ret (.error reason) s) (found : ret (.ok ⟨name, none⟩) s) :
    (ctx.getApi name).Meets M ret exits s := by
  refine unwatched.bind_host fun cached _ => ?_
  cases cached with
  | true => exact found
  | false =>
    dsimp only
    split
    · exact fails _
    · refine unwatched.bind_host fun loaded _ => ?_
      cases loaded with
      | error reason => exact fails _
      | ok done => exact unwatched.bind_host fun _ _ => found

theorem meets_apiOr {failed : String → RpcResponse} {ret : Library → S → Prop}
    (unwatched : Unwatched M s) (fails : ∀ reason, exits (.reply (failed reason)) s)
    (found : ret ⟨name, none⟩ s) :
    (apiOr ctx name failed).Meets M ret exits s := by
  rw [apiOr, meets_bind]
  exact unwatched.meets_getApi (fun reason => fails reason) found

theorem meets_loadedApi {lang : Language} {id : Option Text.Json} {ret : Library → S → Prop}
    (unwatched : Unwatched M s)
    (fails : ∀ reason, exits (.reply (loadLibFailed (-1) reason lang id)) s)
    (unwinds : exits (.panic .libraryNotLoaded) s) (found : ret ⟨name, none⟩ s) :
    (loadedApi ctx name lang id).Meets M ret exits s := by
  refine bind_mapError (fun path _ => unwatched.bind_host fun loaded _ => ?_) fun reason _ =>
    fails reason
  cases loaded with
  | ok done => exact found
  | error reason => exact unwinds

theorem meets_resolveOr {failed : String → RpcResponse} {ret : Library → S → Prop}
    (unwatched : Unwatched M s) (fails : ∀ reason, exits (.reply (failed reason)) s)
    (default : name = ctx.config.default → ret ctx.provider s)
    (other : name ≠ ctx.config.default → ∀ gate, M.possible s (.host .newGate) gate →
      ret ⟨name, some gate⟩ s) :
    (resolveOr ctx name failed).Meets M ret exits s := by
  rw [resolveOr, meets_bind, SkfContext.resolve]
  split
  · next same => exact default same
  · next differs =>
    rw [meets_bind]
    refine unwatched.meets_getApi (fun reason => fails reason) ?_
    exact unwatched.bind_host fun gate possible => other differs gate possible

end Unwatched
end SkfService
