import SkfService.Interaction.Monitor

/-! Operations of one interface carried out by programs over another.

A monitor of the lower interface can be followed through the programs of an implementation one
operation at a time, in step with a monitor of the upper one. -/

set_option autoImplicit false

namespace Interaction

variable {I J : Signature} {S T E A : Type}

/-- A program over `J` for every operation of `I`. It always replies. -/
abbrev Implementation (I J : Signature) : Type := (op : I.Op) → Program J Empty (I.Reply op)

/-- The interactions above are carried out by those below, each by a complete run of its program. -/
inductive CarriedOut (impl : Implementation I J) : List (Event I) → List (Event J) → Prop
  | nil : CarriedOut impl [] []
  | cons {op : I.Op} {reply : I.Reply op} {inner : List (Event J)} {above : List (Event I)}
      {below : List (Event J)}
      (ran : (impl op).Finishes inner (.ok reply)) (rest : CarriedOut impl above below) :
      CarriedOut impl (⟨op, reply⟩ :: above) (inner ++ below)

def Program.implement (impl : Implementation I J) : Program I Empty A → Program J Empty A
  | .done value => .done value
  | .stop exit => .stop exit
  | .call op next => impl op >>= fun reply => (next reply).implement impl

namespace Implementation

/-- Each program keeps two monitors related, wherever its operation is allowed. -/
def InStep (impl : Implementation I J) (M : Monitor I S) (N : Monitor J T)
    (related : S → T → Prop) : Prop :=
  ∀ s t op, related s t → M.allowed s op →
    (impl op).Meets N (fun reply after =>
      M.possible s op reply ∧ related (M.advance s op reply) after)
      (fun _ _ => True) t

variable {impl : Implementation I J} {M : Monitor I S} {N : Monitor J T} {related : S → T → Prop}
  {ret : A → S → Prop} {exits : E → S → Prop} {p q : Program I E A} {s : S} {t : T}
  {above : List (Event I)} {below : List (Event J)}

/-- A program that meets the upper monitor is carried out in keeping with the lower one. -/
theorem InStep.carriedOut (inStep : impl.InStep M N related) (met : p.Meets M ret exits s)
    (here : related s t) (ran : p.Reaches above q) (carried : CarriedOut impl above below)
    (possible : N.Possible t below) :
    M.Possible s above ∧ N.Allows t below ∧ related (M.follow s above) (N.follow t below) := by
  induction ran generalizing s t below with
  | refl =>
    cases carried
    exact ⟨trivial, trivial, here⟩
  | step reply rest ih =>
    cases carried with
    | cons inner later =>
      -- The first stretch below is the run of this operation's program.
      obtain ⟨early, late⟩ := (N.possible_append _ _ _).mp possible
      obtain ⟨allowed, fair, after⟩ := (inStep s t _ here met.1).reaches inner early
      obtain ⟨possible, allows, last⟩ := ih (met.2 reply fair) after later late
      rw [N.follow_append, N.allows_append]
      exact ⟨⟨fair, possible⟩, ⟨allowed, allows⟩, last⟩

end Implementation
end Interaction
