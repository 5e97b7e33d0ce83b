import SkfService.Interaction.Monitor
import SkfService.Skf.Interface

/-! Rules for the steps handlers are made of, under any monitor of their interactions. -/

set_option autoImplicit false

namespace SkfService.Handler

open Interaction Program

section rules

variable {S A B : Type} {M : Monitor Skf S} {ret : B → S → Prop} {exits : Exit → S → Prop} {s : S}

theorem bind_orReply {x : Except RpcResponse A} {k : A → Handler B}
    (goes : ∀ value, x = .ok value → (k value).Meets M ret exits s)
    (rejects : ∀ rejection, x = .error rejection → exits (.reply rejection) s) :
    (orReply x >>= k).Meets M ret exits s := by
  cases x with
  | ok value => exact goes value rfl
  | error rejection => exact rejects rejection rfl

theorem bind_mapError {x : Except String A} {rejection : String → RpcResponse} {k : A → Handler B}
    (goes : ∀ value, x = .ok value → (k value).Meets M ret exits s)
    (rejects : ∀ reason, x = .error reason → exits (.reply (rejection reason)) s) :
    (orReply (x.mapError rejection) >>= k).Meets M ret exits s := by
  cases x with
  | ok value => exact goes value rfl
  | error reason => exact rejects reason rfl

theorem bind_expect {x : Option A} {rejection : RpcResponse} {k : A → Handler B}
    (goes : ∀ value, x = some value → (k value).Meets M ret exits s)
    (rejects : x = none → exits (.reply rejection) s) :
    (expect x rejection >>= k).Meets M ret exits s := by
  cases x with
  | some value => exact goes value rfl
  | none => exact rejects rfl

theorem bind_unwrap {x : Option A} {why : Panic} {k : A → Handler B}
    (goes : ∀ value, x = some value → (k value).Meets M ret exits s)
    (unwinds : x = none → exits (.panic why) s) : (unwrap x why >>= k).Meets M ret exits s := by
  cases x with
  | some value => exact goes value rfl
  | none => exact unwinds rfl

theorem bind_settled {x : Attempt A} {k : Except ProviderError A → Handler B}
    (goes : ∀ result, x = some result → (k result).Meets M ret exits s)
    (unwinds : x = none → exits (.panic .callUnwound) s) :
    (settled x >>= k).Meets M ret exits s := by
  cases x with
  | some result => exact goes result rfl
  | none => exact unwinds rfl

theorem bind_call {op : Op} {k : Op.Reply op → Handler B} (allowed : M.allowed s op)
    (goes : ∀ reply, M.possible s op reply → (k reply).Meets M ret exits (M.advance s op reply)) :
    (Program.ask (I := Skf) op >>= k).Meets M ret exits s :=
  ⟨allowed, goes⟩

def hostOnly : Monitor Skf Unit where
  allowed _ op := ∃ host, op = .host host
  possible _ _ _ := True
  advance _ _ _ := ()

theorem bind_hostOnly {op : HostOp} {ret : B → Unit → Prop} {exits : Exit → Unit → Prop}
    {k : op.Reply → Handler B} (goes : ∀ reply, (k reply).Meets hostOnly ret exits ()) :
    (host op >>= k).Meets hostOnly ret exits () :=
  bind_call ⟨op, rfl⟩ fun reply _ => goes reply

/-- Under a monitor that lets the host be asked and learns nothing from it, such a program keeps the
state it starts in. -/
theorem meets_of_hostOnly {p : Handler B} {returned : B → Prop} {left : Exit → Prop}
    (met : p.Meets hostOnly (fun value _ => returned value) (fun exit _ => left exit) ())
    (allowed : ∀ host, M.allowed s (.host host))
    (quiet : ∀ host reply, M.advance s (.host host) reply = s) :
    p.Meets M (fun value t => returned value ∧ t = s) (fun exit t => left exit ∧ t = s) s := by
  refine met.simulate (fun _ t => t = s) ?_ ?_ rfl ?_ ?_
  · rintro _ _ _ rfl ⟨host, rfl⟩
    exact allowed host
  · rintro _ _ _ reply rfl ⟨host, rfl⟩ _
    exact ⟨trivial, quiet host reply⟩
  · exact fun _ _ _ same held => ⟨held, same⟩
  · exact fun _ _ _ same held => ⟨held, same⟩

end rules

end SkfService.Handler

namespace SkfService

def Settles (exit : Exit) : Prop := ∀ why, exit = .panic why → why = .callUnwound

theorem settles_reply (response : RpcResponse) : Settles (.reply response) := by
  intro why impossible
  cases impossible

theorem settles_panic_iff (why : Panic) : Settles (.panic why) ↔ why = .callUnwound := by
  constructor
  · intro settles
    exact settles why rfl
  · intro same other panicked
    cases panicked
    exact same

theorem settles_unwound : Settles (.panic .callUnwound) := (settles_panic_iff _).mpr rfl

end SkfService
