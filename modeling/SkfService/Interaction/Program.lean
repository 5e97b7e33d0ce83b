import Mathlib.Data.List.Infix

/-! Programs that ask an environment for replies.

A program is the tree of its interactions: it returns a value, leaves early with an exit, or asks
for one operation and continues with whatever reply comes back. Everything the environment may do is
in the choice of replies, so a statement about all runs is a statement about all branches. -/

set_option autoImplicit false

namespace Interaction

/-- The operations a program may ask for, each with the type of its reply. -/
structure Signature where
  Op : Type
  Reply : Op → Type

structure Event (I : Signature) where
  op : I.Op
  reply : I.Reply op

inductive Program (I : Signature) (E A : Type) : Type
  | done (value : A)
  | stop (exit : E)
  | call (op : I.Op) (next : I.Reply op → Program I E A)

variable {I : Signature} {E F A B C : Type}

namespace Program

def bind : Program I E A → (A → Program I E B) → Program I E B
  | .done value, k => k value
  | .stop exit, _ => .stop exit
  | .call op next, k => .call op fun reply => (next reply).bind k

instance : Monad (Program I E) where
  pure := .done
  bind := bind

@[simp] theorem done_bind (value : A) (k : A → Program I E B) :
    (Program.done value : Program I E A) >>= k = k value := rfl

@[simp] theorem stop_bind (exit : E) (k : A → Program I E B) :
    (Program.stop exit : Program I E A) >>= k = .stop exit := rfl

@[simp] theorem call_bind (op : I.Op) (next : I.Reply op → Program I E A) (k : A → Program I E B) :
    Program.call op next >>= k = .call op fun reply => next reply >>= k := rfl

@[simp] theorem pure_eq_done (value : A) : (pure value : Program I E A) = .done value := rfl

theorem bind_done (p : Program I E A) : p >>= Program.done = p := by
  induction p with
  | done value => rfl
  | stop exit => rfl
  | call op next ih => simp only [call_bind, ih]

theorem bind_bind (p : Program I E A) (f : A → Program I E B) (g : B → Program I E C) :
    p >>= f >>= g = p >>= fun value => f value >>= g := by
  induction p with
  | done value => rfl
  | stop exit => rfl
  | call op next ih => simp only [call_bind, ih]

instance : LawfulMonad (Program I E) :=
  LawfulMonad.mk' _ (fun p => bind_done p) (fun _ _ => rfl) bind_bind

def ask (op : I.Op) : Program I E (I.Reply op) := .call op .done

@[simp] theorem ask_bind (op : I.Op) (k : I.Reply op → Program I E B) :
    ask op >>= k = .call op k := rfl

/-- Runs `release` on every way out of `body`, whether it returns or leaves early. -/
def ensuring (body : Program I E A) (release : Program I E Unit) : Program I E A :=
  match body with
  | .done value => release >>= fun _ => .done value
  | .stop exit => release >>= fun _ => .stop exit
  | .call op next => .call op fun reply => (next reply).ensuring release

/-- Continues an early exit with `handler`; a returned value is kept. -/
def recover (body : Program I E A) (handler : E → Program I F A) : Program I F A :=
  match body with
  | .done value => .done value
  | .stop exit => handler exit
  | .call op next => .call op fun reply => (next reply).recover handler

def collect (step : A → Program I E (List B)) : List A → Program I E (List B)
  | [] => .done []
  | item :: items => do
    let found ← step item
    let rest ← collect step items
    return found ++ rest

def ofOutcome : Except E A → Program I E A
  | .ok value => .done value
  | .error exit => .stop exit

/-- `Reaches p trace q`: after the interactions of `trace`, what remains of `p` is `q`. -/
inductive Reaches : Program I E A → List (Event I) → Program I E A → Prop
  | refl (p : Program I E A) : Reaches p [] p
  | step {op : I.Op} {next : I.Reply op → Program I E A} {trace : List (Event I)}
      {q : Program I E A}
      (reply : I.Reply op) (rest : Reaches (next reply) trace q) :
      Reaches (.call op next) (⟨op, reply⟩ :: trace) q

/-- A complete run: the interactions of `trace`, then the outcome. -/
def Finishes (p : Program I E A) (trace : List (Event I)) (outcome : Except E A) : Prop :=
  Reaches p trace (ofOutcome outcome)

theorem Reaches.trans {p q r : Program I E A} {front back : List (Event I)}
    (first : Reaches p front q) (second : Reaches q back r) : Reaches p (front ++ back) r := by
  induction first with
  | refl => exact second
  | step reply _ ih => exact .step reply (ih second)

theorem Reaches.cut {p q : Program I E A} {front back : List (Event I)}
    (ran : Reaches p (front ++ back) q) :
    ∃ rest, Reaches p front rest ∧ Reaches rest back q := by
  induction front generalizing p with
  | nil => exact ⟨p, .refl p, ran⟩
  | cons event front ih =>
    cases ran with
    | step reply ran =>
      obtain ⟨rest, before, after⟩ := ih ran
      exact ⟨rest, .step reply before, after⟩

/-- The replies determine what remains of a program. -/
theorem Reaches.unique {p q r : Program I E A} {trace : List (Event I)} (one : Reaches p trace q)
    (two : Reaches p trace r) : q = r := by
  induction one with
  | refl =>
    cases two
    rfl
  | step reply rest ih =>
    cases two with
    | step reply rest => exact ih rest

theorem reaches_done {value : A} {trace : List (Event I)} {q : Program I E A}
    (ran : Reaches (.done value) trace q) : trace = [] ∧ q = .done value := by
  cases ran
  exact ⟨rfl, rfl⟩

theorem finishes_ask_bind {op : I.Op} {k : I.Reply op → Program I E B} {reply : I.Reply op}
    {trace : List (Event I)} {outcome : Except E B}
    (ran : (ask op >>= k).Finishes (⟨op, reply⟩ :: trace) outcome) :
    (k reply).Finishes trace outcome := by
  cases ran with
  | step _ rest => exact rest

theorem finishes_bind {p : Program I E A} {k : A → Program I E B} {trace : List (Event I)}
    {value : B} (ran : (p >>= k).Finishes trace (.ok value)) :
    ∃ middle front back, trace = front ++ back ∧ p.Finishes front (.ok middle) ∧
      (k middle).Finishes back (.ok value) := by
  induction p generalizing trace with
  | done middle => exact ⟨middle, [], trace, rfl, .refl _, ran⟩
  | stop exit => cases ran
  | call op next ih =>
    cases ran with
    | step reply rest =>
      obtain ⟨middle, front, back, rfl, first, second⟩ := ih reply rest
      exact ⟨middle, _ :: front, back, rfl, .step reply first, second⟩

theorem Finishes.bind {p : Program I E A} {k : A → Program I E B} {front back : List (Event I)}
    {middle : A} {outcome : Except E B} (first : p.Finishes front (.ok middle))
    (second : (k middle).Finishes back outcome) :
    (p >>= k).Finishes (front ++ back) outcome := by
  induction p generalizing front with
  | done value =>
    cases first
    exact second
  | stop exit => cases first
  | call op next ih =>
    cases first with
    | step reply rest => exact .step reply (ih reply rest)

theorem finishes_collect {step : A → Program I E (List B)} {items : List A} {trace : List (Event I)}
    {found : List B} (ran : (collect step items).Finishes trace (.ok found)) {result : B}
    (member : result ∈ found) :
    ∃ item ∈ items, ∃ inner results,
      inner <:+: trace ∧ (step item).Finishes inner (.ok results) ∧ result ∈ results := by
  induction items generalizing trace found with
  | nil =>
    cases ran
    cases member
  | cons item items ih =>
    obtain ⟨results, front, back, rfl, first, later⟩ := finishes_bind ran
    obtain ⟨others, middle, rest, rfl, second, last⟩ := finishes_bind later
    cases last
    rcases List.mem_append.mp member with here | there
    · exact ⟨item, List.mem_cons_self, front, results, (List.prefix_append _ _).isInfix,
        first, here⟩
    · obtain ⟨other, inside, inner, collected, stretch, ended, held⟩ := ih second there
      refine ⟨other, List.mem_cons_of_mem _ inside, inner, collected, stretch.trans ?_, ended, held⟩
      exact List.infix_append' _ _ _

def execute {S : Type} (answer : S → (op : I.Op) → S × I.Reply op) :
    Program I E A → S → S × List (Event I) × Except E A
  | .done value, s => (s, [], .ok value)
  | .stop exit, s => (s, [], .error exit)
  | .call op next, s =>
    let (after, reply) := answer s op
    let (final, trace, outcome) := (next reply).execute answer after
    (final, ⟨op, reply⟩ :: trace, outcome)

theorem execute_finishes {S : Type} (answer : S → (op : I.Op) → S × I.Reply op) (p : Program I E A)
    (s : S) : Finishes p (p.execute answer s).2.1 (p.execute answer s).2.2 := by
  induction p generalizing s with
  | done value => exact .refl _
  | stop exit => exact .refl _
  | call op next ih => exact .step _ (ih _ _)

/-- Every run of a program against some environment ends: its interaction tree has no infinite
branch. -/
theorem finishes_total {S : Type} (answer : S → (op : I.Op) → S × I.Reply op) (s : S)
    (p : Program I E A) : ∃ trace outcome, Finishes p trace outcome :=
  ⟨_, _, execute_finishes answer p s⟩

end Program
end Interaction
