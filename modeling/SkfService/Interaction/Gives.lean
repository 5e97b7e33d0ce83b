import SkfService.Interaction.Program

/-! Programs whose value is settled by what the environment may reply. -/

set_option autoImplicit false

namespace Interaction.Program

variable {I : Signature} {E A B : Type} {fair : (op : I.Op) → I.Reply op → Prop}

/-- After every fair reply the program goes on to return the value. -/
def Gives (fair : (op : I.Op) → I.Reply op → Prop) (value : A) : Program I E A → Prop
  | .done returned => returned = value
  | .stop _ => False
  | .call op next => ∀ reply, fair op reply → Gives fair value (next reply)

@[simp] theorem gives_done {value : A} : (Program.done value : Program I E A).Gives fair value :=
  rfl

theorem gives_ask_bind {op : I.Op} {k : I.Reply op → Program I E B} {value : B}
    (each : ∀ reply, fair op reply → (k reply).Gives fair value) :
    (ask op >>= k).Gives fair value :=
  each

theorem gives_bind {p : Program I E A} {k : A → Program I E B} {middle : A} {value : B}
    (first : p.Gives fair middle) (then_ : (k middle).Gives fair value) :
    (p >>= k).Gives fair value := by
  induction p with
  | done returned =>
    rw [done_bind, first]
    exact then_
  | stop exit => exact first
  | call op next ih => exact fun reply possible => ih reply (first reply possible)

theorem gives_collect {step : A → Program I E (List B)} {items : List A} (found : A → List B)
    (each : ∀ item ∈ items, (step item).Gives fair (found item)) :
    (collect step items).Gives fair (items.flatMap found) := by
  induction items with
  | nil => exact gives_done
  | cons item items ih =>
    refine gives_bind (each item List.mem_cons_self) (gives_bind (ih fun other member => ?_) ?_)
    · exact each other (List.mem_cons_of_mem _ member)
    · exact gives_done

theorem Gives.finishes {p : Program I E A} {value : A} {trace : List (Event I)}
    {outcome : Except E A} (gives : p.Gives fair value) (ran : p.Finishes trace outcome)
    (honest : ∀ event ∈ trace, fair event.op event.reply) : outcome = .ok value := by
  unfold Finishes at ran
  generalize ended : ofOutcome outcome = last at ran
  induction ran with
  | refl =>
    subst ended
    cases outcome with
    | ok returned => exact congrArg Except.ok gives
    | error exit => cases gives
  | @step op next trace q reply rest ih =>
    have possible : fair op reply := honest _ List.mem_cons_self
    exact ih (gives reply possible) (fun event member =>
      honest event (List.mem_cons_of_mem _ member)) ended

end Interaction.Program
