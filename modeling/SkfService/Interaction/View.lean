import SkfService.Interaction.Asks

/-! A program behind a view of its replies, and when it cannot tell the view from the replies. -/

set_option autoImplicit false

namespace Interaction

abbrev View (I : Signature) := (op : I.Op) → I.Reply op → I.Reply op

namespace Program

variable {I : Signature} {E A B : Type} {view : View I} {fair : (op : I.Op) → I.Reply op → Prop}

def viewing (view : View I) : Program I E A → Program I E A
  | .done value => .done value
  | .stop exit => .stop exit
  | .call op next => .call op fun reply => (next (view op reply)).viewing view

/-- After a fair reply the program goes on as it does on what is shown of it. -/
def Indistinct (view : View I) (fair : (op : I.Op) → I.Reply op → Prop) : Program I E A → Prop
  | .done _ => True
  | .stop _ => True
  | .call op next =>
    ∀ reply, (fair op reply → next (view op reply) = next reply) ∧ Indistinct view fair (next reply)

theorem indistinct_bind {p : Program I E A} {k : A → Program I E B} (first : p.Indistinct view fair)
    (then_ : ∀ value, (k value).Indistinct view fair) : (p >>= k).Indistinct view fair := by
  induction p with
  | done value => exact then_ value
  | stop exit => trivial
  | call op next ih =>
    intro reply
    obtain ⟨same, later⟩ := first reply
    refine ⟨fun honest => ?_, ih reply later⟩
    change (next (view op reply) >>= k) = next reply >>= k
    rw [same honest]

theorem indistinct_ite {c : Prop} [Decidable c] {p q : Program I E A} (yes : p.Indistinct view fair)
    (no : q.Indistinct view fair) : (if c then p else q).Indistinct view fair := by
  split
  · exact yes
  · exact no

theorem indistinct_collect {step : A → Program I E (List B)}
    (each : ∀ item, (step item).Indistinct view fair) (items : List A) :
    (collect step items).Indistinct view fair := by
  induction items with
  | nil => trivial
  | cons item items ih =>
    exact indistinct_bind (each item) fun _ => indistinct_bind ih fun _ => trivial

theorem Indistinct.finishes {p : Program I E A} {trace : List (Event I)} {outcome : Except E A}
    (indistinct : p.Indistinct view fair) (ran : p.Finishes trace outcome)
    (honest : ∀ event ∈ trace, fair event.op event.reply) :
    (p.viewing view).Finishes trace outcome := by
  unfold Finishes at ran
  generalize ended : ofOutcome outcome = last at ran
  induction ran with
  | refl =>
    subst ended
    cases outcome with
    | ok value => exact .refl _
    | error exit => exact .refl _
  | @step op next trace q reply rest ih =>
    obtain ⟨same, later⟩ := indistinct reply
    have behind := ih later (fun event member => honest event (List.mem_cons_of_mem _ member)) ended
    rw [← same (honest _ List.mem_cons_self)] at behind
    exact .step reply behind

end Program
end Interaction
