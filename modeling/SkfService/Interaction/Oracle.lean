import SkfService.Interaction.Program

/-! Running a program against an environment that answers by what was asked of it before. -/

set_option autoImplicit false

namespace Interaction

/-- An environment: a reply to every operation after every history. -/
abbrev Oracle (I : Signature) := List (Event I) → (op : I.Op) → I.Reply op

namespace Program

variable {I : Signature} {E A B : Type}

def against (oracle : Oracle I) : Program I E A → List (Event I) → Except E A × List (Event I)
  | .done value, history => (.ok value, history)
  | .stop exit, history => (.error exit, history)
  | .call op next, history =>
    (next (oracle history op)).against oracle (history ++ [⟨op, oracle history op⟩])

variable {oracle : Oracle I} {history : List (Event I)}

@[simp] theorem against_done (value : A) :
    (Program.done value : Program I E A).against oracle history = (.ok value, history) := rfl

@[simp] theorem against_ask_bind (op : I.Op) (k : I.Reply op → Program I E B) :
    (ask op >>= k).against oracle history =
      (k (oracle history op)).against oracle (history ++ [⟨op, oracle history op⟩]) := rfl

theorem against_ite {c : Prop} [Decidable c] (p q : Program I E A) :
    (if c then p else q).against oracle history =
      if c then p.against oracle history else q.against oracle history := by
  split <;> rfl

end Program
end Interaction
