import SkfService.Interaction.Program

/-! Safety of a program against a monitor.

A monitor watches the interactions of a program. `allowed` says which operations the program may ask
for in a monitor state, `possible` which replies the environment may give, and `advance` what the
monitor remembers. `Meets` is the weakest precondition of a program: it asks only for allowed
operations whatever possible replies come back, and it leaves the monitor in a state that fits the
way the program ended. -/

set_option autoImplicit false

namespace Interaction

structure Monitor (I : Signature) (S : Type) where
  allowed : S → I.Op → Prop
  possible : S → (op : I.Op) → I.Reply op → Prop
  advance : S → (op : I.Op) → I.Reply op → S

variable {I : Signature} {S E F A B : Type}

namespace Monitor

def follow (M : Monitor I S) : S → List (Event I) → S
  | s, [] => s
  | s, event :: rest => M.follow (M.advance s event.op event.reply) rest

def Possible (M : Monitor I S) : S → List (Event I) → Prop
  | _, [] => True
  | s, event :: rest =>
    M.possible s event.op event.reply ∧ M.Possible (M.advance s event.op event.reply) rest

def Allows (M : Monitor I S) : S → List (Event I) → Prop
  | _, [] => True
  | s, event :: rest => M.allowed s event.op ∧ M.Allows (M.advance s event.op event.reply) rest

@[simp] theorem follow_append (M : Monitor I S) (s : S) (front back : List (Event I)) :
    M.follow s (front ++ back) = M.follow (M.follow s front) back := by
  induction front generalizing s with
  | nil => rfl
  | cons event rest ih => simpa only [List.cons_append, follow] using ih _

theorem possible_append (M : Monitor I S) (s : S) (front back : List (Event I)) :
    M.Possible s (front ++ back) ↔ M.Possible s front ∧ M.Possible (M.follow s front) back := by
  induction front generalizing s with
  | nil => simp [Possible, follow]
  | cons event rest ih => simp only [List.cons_append, Possible, follow, ih, and_assoc]

theorem allows_append (M : Monitor I S) (s : S) (front back : List (Event I)) :
    M.Allows s (front ++ back) ↔ M.Allows s front ∧ M.Allows (M.follow s front) back := by
  induction front generalizing s with
  | nil => simp [Allows, follow]
  | cons event rest ih => simp only [List.cons_append, Allows, follow, ih, and_assoc]

end Monitor

namespace Program

/-- The weakest precondition of `p`: `ret` holds where it returns, `exits` where it leaves early. -/
def Meets (M : Monitor I S) (ret : A → S → Prop) (exits : E → S → Prop) :
    Program I E A → S → Prop
  | .done value, s => ret value s
  | .stop exit, s => exits exit s
  | .call op next, s =>
    M.allowed s op ∧
      ∀ reply, M.possible s op reply → Meets M ret exits (next reply) (M.advance s op reply)

section rules

variable {M : Monitor I S} {ret : A → S → Prop} {exits : E → S → Prop} {s : S}

@[simp] theorem meets_done (value : A) :
    (Program.done value : Program I E A).Meets M ret exits s ↔ ret value s := Iff.rfl

@[simp] theorem meets_stop (exit : E) :
    (Program.stop exit : Program I E A).Meets M ret exits s ↔ exits exit s := Iff.rfl

theorem meets_call (op : I.Op) (next : I.Reply op → Program I E A) :
    (Program.call op next).Meets M ret exits s ↔
      M.allowed s op ∧
        ∀ reply, M.possible s op reply → (next reply).Meets M ret exits (M.advance s op reply) :=
  Iff.rfl

theorem meets_bind (p : Program I E B) (k : B → Program I E A) :
    (p >>= k).Meets M ret exits s ↔
      p.Meets M (fun value => (k value).Meets M ret exits) exits s := by
  induction p generalizing s with
  | done value => rfl
  | stop exit => rfl
  | call op next ih => simp only [call_bind, meets_call, ih]

theorem meets_ite {c : Prop} [Decidable c] {p q : Program I E A} (yes : c → p.Meets M ret exits s)
    (no : ¬c → q.Meets M ret exits s) : (if c then p else q).Meets M ret exits s := by
  split
  · next holds => exact yes holds
  · next fails => exact no fails

theorem Meets.mono {p : Program I E A} {ret' : A → S → Prop} {exits' : E → S → Prop}
    (met : p.Meets M ret exits s) (returns : ∀ value t, ret value t → ret' value t)
    (leaves : ∀ exit t, exits exit t → exits' exit t) : p.Meets M ret' exits' s := by
  induction p generalizing s with
  | done value => exact returns _ _ met
  | stop exit => exact leaves _ _ met
  | call op next ih => exact ⟨met.1, fun reply chance => ih reply (met.2 reply chance)⟩

/-- A body closed by `release` meets what both of its ways out meet after the release. -/
theorem meets_ensuring (p : Program I E A) (release : Program I E Unit) :
    (p.ensuring release).Meets M ret exits s ↔
      p.Meets M (fun value => release.Meets M (fun _ => ret value) exits)
        (fun exit => release.Meets M (fun _ => exits exit) exits) s := by
  induction p generalizing s with
  | done value => exact meets_bind _ _
  | stop exit => exact meets_bind _ _
  | call op next ih => simp only [ensuring, meets_call, ih]

theorem meets_recover (p : Program I F A) (handler : F → Program I E A) :
    (p.recover handler).Meets M ret exits s ↔
      p.Meets M ret (fun exit => (handler exit).Meets M ret exits) s := by
  induction p generalizing s with
  | done value => rfl
  | stop exit => rfl
  | call op next ih => simp only [recover, meets_call, ih]

theorem meets_collect (step : A → Program I E (List B)) (kept : S → Prop)
    {exits : E → S → Prop} (items : List A) (holds : kept s)
    (each : ∀ item ∈ items, ∀ t, kept t → (step item).Meets M (fun _ => kept) exits t) :
    (collect step items).Meets M (fun _ => kept) exits s := by
  induction items generalizing s with
  | nil => exact holds
  | cons item items ih =>
    rw [collect, meets_bind]
    refine (each item (by simp) s holds).mono (fun found t after => ?_) (fun _ _ left => left)
    rw [meets_bind]
    exact (ih after fun other member => each other (by simp [member])).mono
      (fun _ _ left => left) (fun _ _ left => left)

end rules

variable {M : Monitor I S} {ret : A → S → Prop} {exits : E → S → Prop} {s : S}

/-- Meeting a monitor is preserved by every step the environment can answer. -/
theorem Meets.reaches {p q : Program I E A} {trace : List (Event I)} (met : p.Meets M ret exits s)
    (reached : Reaches p trace q) (possible : M.Possible s trace) :
    M.Allows s trace ∧ q.Meets M ret exits (M.follow s trace) := by
  induction reached generalizing s with
  | refl => exact ⟨trivial, met⟩
  | step reply rest ih =>
    obtain ⟨allows, after⟩ := ih (met.2 reply possible.1) possible.2
    exact ⟨⟨met.1, allows⟩, after⟩

/-- A program that meets one monitor meets every monitor that allows as much and is told as much. -/
theorem Meets.simulate {T : Type} {N : Monitor I T} {ret' : A → T → Prop} {exits' : E → T → Prop}
    (related : S → T → Prop) (allowed : ∀ s t op, related s t → M.allowed s op → N.allowed t op)
    (step : ∀ s t op reply, related s t → M.allowed s op → N.possible t op reply →
      M.possible s op reply ∧ related (M.advance s op reply) (N.advance t op reply))
    {p : Program I E A} {t : T} (met : p.Meets M ret exits s) (here : related s t)
    (returns : ∀ value s t, related s t → ret value s → ret' value t)
    (leaves : ∀ exit s t, related s t → exits exit s → exits' exit t) :
    p.Meets N ret' exits' t := by
  induction p generalizing s t with
  | done value => exact returns _ _ _ here met
  | stop exit => exact leaves _ _ _ here met
  | call op next ih =>
    refine ⟨allowed _ _ _ here met.1, fun reply chance => ?_⟩
    obtain ⟨possible, after⟩ := step _ _ _ reply here met.1 chance
    exact ih reply (met.2 reply possible) after

theorem Meets.returned {p : Program I E A} {trace : List (Event I)} {value : A}
    (met : p.Meets M ret exits s) (ran : p.Finishes trace (.ok value))
    (possible : M.Possible s trace) : ret value (M.follow s trace) :=
  (met.reaches ran possible).2

theorem Meets.stopped {p : Program I E A} {trace : List (Event I)} {exit : E}
    (met : p.Meets M ret exits s) (ran : p.Finishes trace (.error exit))
    (possible : M.Possible s trace) : exits exit (M.follow s trace) :=
  (met.reaches ran possible).2

/-- Where every allowed operation has a possible reply, a program that asks for allowed ones has a
run. -/
theorem Meets.run {p : Program I E A} (met : p.Meets M ret exits s)
    (answered : ∀ s op, M.allowed s op → ∃ reply, M.possible s op reply) :
    ∃ trace outcome, p.Finishes trace outcome ∧ M.Possible s trace := by
  induction p generalizing s with
  | done value => exact ⟨[], .ok value, .refl _, trivial⟩
  | stop exit => exact ⟨[], .error exit, .refl _, trivial⟩
  | call op next ih =>
    obtain ⟨reply, possible⟩ := answered s op met.1
    obtain ⟨trace, outcome, ran, rest⟩ := ih reply (met.2 reply possible)
    exact ⟨⟨op, reply⟩ :: trace, outcome, .step reply ran, possible, rest⟩

end Program
end Interaction
