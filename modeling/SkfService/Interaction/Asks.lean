import SkfService.Interaction.Monitor

/-! What a program may ask for.

`Asks P p` is a property of the tree of `p` alone: every operation on it has `P`, whatever the
replies. Against a monitor that is more than some programs need, and the other way round meeting a
monitor is the same as asking, along every possible run, only for what is allowed there. -/

set_option autoImplicit false

namespace Interaction.Program

variable {I : Signature} {S E F A B : Type} {P : I.Op → Prop}

def Asks (P : I.Op → Prop) : Program I E A → Prop
  | .done _ => True
  | .stop _ => True
  | .call op next => P op ∧ ∀ reply, Asks P (next reply)

@[simp] theorem asks_done (value : A) : (Program.done value : Program I E A).Asks P := trivial

@[simp] theorem asks_stop (exit : E) : (Program.stop exit : Program I E A).Asks P := trivial

theorem asks_call {op : I.Op} {next : I.Reply op → Program I E A} (here : P op)
    (later : ∀ reply, (next reply).Asks P) : (Program.call op next).Asks P :=
  ⟨here, later⟩

theorem asks_ask {op : I.Op} (here : P op) : (Program.ask op : Program I E (I.Reply op)).Asks P :=
  ⟨here, fun _ => trivial⟩

theorem asks_bind {p : Program I E A} {k : A → Program I E B} (first : p.Asks P)
    (then_ : ∀ value, (k value).Asks P) : (p >>= k).Asks P := by
  induction p with
  | done value => exact then_ value
  | stop exit => trivial
  | call op next ih => exact asks_call first.1 fun reply => ih reply (first.2 reply)

theorem asks_ite {c : Prop} [Decidable c] {p q : Program I E A} (yes : p.Asks P) (no : q.Asks P) :
    (if c then p else q).Asks P := by
  split
  · exact yes
  · exact no

theorem asks_ensuring {body : Program I E A} {release : Program I E Unit} (inside : body.Asks P)
    (after : release.Asks P) : (body.ensuring release).Asks P := by
  induction body with
  | done value => exact asks_bind after fun _ => trivial
  | stop exit => exact asks_bind after fun _ => trivial
  | call op next ih => exact asks_call inside.1 fun reply => ih reply (inside.2 reply)

theorem asks_recover {body : Program I E A} {handler : E → Program I F A} (inside : body.Asks P)
    (handled : ∀ exit, (handler exit).Asks P) : (body.recover handler).Asks P := by
  induction body with
  | done value => trivial
  | stop exit => exact handled exit
  | call op next ih => exact asks_call inside.1 fun reply => ih reply (inside.2 reply)

theorem asks_collect {step : A → Program I E (List B)} (each : ∀ item, (step item).Asks P)
    (items : List A) : (collect step items).Asks P := by
  induction items with
  | nil => trivial
  | cons item items ih => exact asks_bind (each item) fun _ => asks_bind ih fun _ => trivial

theorem Asks.mono {Q : I.Op → Prop} {p : Program I E A} (asks : p.Asks P)
    (weaker : ∀ op, P op → Q op) :
    p.Asks Q := by
  induction p with
  | done value => trivial
  | stop exit => trivial
  | call op next ih => exact asks_call (weaker op asks.1) fun reply => ih reply (asks.2 reply)

/-- Along a run a program asks for nothing else. -/
theorem Asks.of_reaches {p q : Program I E A} {trace : List (Event I)} (asks : p.Asks P)
    (ran : Reaches p trace q) : ∀ event ∈ trace, P event.op := by
  induction ran with
  | refl => simp
  | step reply rest ih =>
    intro event member
    rcases List.mem_cons.mp member with rfl | later
    · exact asks.1
    · exact ih (asks.2 reply) event later

variable {M : Monitor I S} {s : S}

/-- A program that only asks for what the monitor always allows meets it. -/
theorem Asks.meets {p : Program I E A} (asks : p.Asks P) (allowed : ∀ s op, P op → M.allowed s op) :
    p.Meets M (fun _ _ => True) (fun _ _ => True) s := by
  induction p generalizing s with
  | done value => trivial
  | stop exit => trivial
  | call op next ih => exact ⟨allowed s op asks.1, fun reply _ => ih reply (asks.2 reply)⟩

/-- A program that meets a monitor which expects any reply asks only for what that monitor ever
allows. -/
theorem asks_of_meets {p : Program I E A} {ret : A → S → Prop} {exits : E → S → Prop}
    (met : p.Meets M ret exits s) (possible : ∀ s op reply, M.possible s op reply)
    (allowed : ∀ s op, M.allowed s op → P op) : p.Asks P := by
  induction p generalizing s with
  | done value => trivial
  | stop exit => trivial
  | call op next ih =>
    exact asks_call (allowed s op met.1) fun reply => ih reply (met.2 reply (possible _ _ _))

/-- Meeting a monitor, whatever is returned, is asking only for allowed operations along every run
the environment can answer. -/
theorem meets_iff_asked {p : Program I E A} : p.Meets M (fun _ _ => True) (fun _ _ => True) s ↔
    ∀ trace op next, Reaches p trace (.call op next) → M.Possible s trace →
      M.allowed (M.follow s trace) op := by
  constructor
  · intro met trace op next reached possible
    exact (met.reaches reached possible).2.1
  · intro asked
    induction p generalizing s with
    | done value => trivial
    | stop exit => trivial
    | call op next ih =>
      refine ⟨asked [] op next (.refl _) trivial, fun reply possible => ih reply ?_⟩
      intro trace op' next' reached later
      exact asked (⟨op, reply⟩ :: trace) op' next' (.step reply reached) ⟨possible, later⟩

/-- Where anything may be asked for, meeting a monitor is leaving as it says at the end of every run
the environment can answer. -/
theorem meets_iff_leaves {exits : E → S → Prop} (allowed : ∀ s op, M.allowed s op)
    {p : Program I E A} :
    p.Meets M (fun _ _ => True) exits s ↔
      ∀ trace exit, M.Possible s trace → p.Finishes trace (.error exit) →
        exits exit (M.follow s trace) := by
  constructor
  · intro met trace exit possible ran
    exact met.stopped ran possible
  · intro left
    induction p generalizing s with
    | done value => trivial
    | stop exit => exact left [] exit trivial (.refl _)
    | call op next ih =>
      refine ⟨allowed s op, fun reply possible => ih reply ?_⟩
      intro trace exit later ran
      exact left (⟨op, reply⟩ :: trace) exit ⟨possible, later⟩ (.step reply ran)

end Interaction.Program
