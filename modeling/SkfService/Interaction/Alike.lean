import SkfService.Interaction.Program

/-! Two programs that cannot be told apart by what they ask for.

`Alike` compares the interaction trees of two programs: as long as the replies are the same, so are
the operations, and where one program ends the other ends the same way. What they end with is
compared by two relations of the caller's choice. -/

set_option autoImplicit false

namespace Interaction

variable {I : Signature} {E F A B C D : Type}

namespace Program

/-- The same operations on the same replies, with related values and exits at the ends. -/
inductive Alike (values : A → B → Prop) (exits : E → F → Prop) :
    Program I E A → Program I F B → Prop
  | done {value : A} {value' : B} (related : values value value') :
      Alike values exits (.done value) (.done value')
  | stop {exit : E} {exit' : F} (related : exits exit exit') :
      Alike values exits (.stop exit) (.stop exit')
  | call (op : I.Op) {next : I.Reply op → Program I E A} {next' : I.Reply op → Program I F B}
      (goes : ∀ reply, Alike values exits (next reply) (next' reply)) :
      Alike values exits (.call op next) (.call op next')

namespace Alike

variable {values : A → B → Prop} {exits : E → F → Prop} {p : Program I E A} {q : Program I F B}

theorem refl {values : A → A → Prop} {exits : E → E → Prop} (value : ∀ a, values a a)
    (exit : ∀ e, exits e e) (p : Program I E A) : Alike values exits p p := by
  induction p with
  | done a => exact .done (value a)
  | stop e => exact .stop (exit e)
  | call op next ih => exact .call op ih

theorem bind {onward : C → D → Prop} {k : A → Program I E C} {k' : B → Program I F D}
    (alike : Alike values exits p q) (goes : ∀ a b, values a b → Alike onward exits (k a) (k' b)) :
    Alike onward exits (p >>= k) (q >>= k') := by
  induction alike with
  | done related => exact goes _ _ related
  | stop related => exact .stop related
  | call op _ ih => exact .call op ih

theorem ensuring {release : Program I E Unit} {release' : Program I F Unit}
    (alike : Alike values exits p q) (closes : Alike (fun _ _ => True) exits release release') :
    Alike values exits (p.ensuring release) (q.ensuring release') := by
  induction alike with
  | done related => exact closes.bind fun _ _ _ => .done related
  | stop related => exact closes.bind fun _ _ _ => .stop related
  | call op _ ih => exact .call op ih

theorem recover {E' F' : Type} {exits' : E' → F' → Prop} {handler : E → Program I E' A}
    {handler' : F → Program I F' B} (alike : Alike values exits p q)
    (handles : ∀ e f, exits e f → Alike values exits' (handler e) (handler' f)) :
    Alike values exits' (p.recover handler) (q.recover handler') := by
  induction alike with
  | done related => exact .done related
  | stop related => exact handles _ _ related
  | call op _ ih => exact .call op ih

theorem mono {values' : A → B → Prop} {exits' : E → F → Prop} (alike : Alike values exits p q)
    (value : ∀ a b, values a b → values' a b) (exit : ∀ e f, exits e f → exits' e f) :
    Alike values' exits' p q := by
  induction alike with
  | done related => exact .done (value _ _ related)
  | stop related => exact .stop (exit _ _ related)
  | call op _ ih => exact .call op ih

theorem asks {op : I.Op} {next : I.Reply op → Program I E A}
    (alike : Alike values exits (.call op next) q) :
    ∃ next', q = .call op next' ∧ ∀ reply, Alike values exits (next reply) (next' reply) := by
  cases alike with
  | call op goes => exact ⟨_, rfl, goes⟩

theorem returns {value : A} (alike : Alike values exits (.done value : Program I E A) q) :
    ∃ value', q = .done value' ∧ values value value' := by
  cases alike with
  | done related => exact ⟨_, rfl, related⟩

theorem leaves {exit : E} (alike : Alike values exits (.stop exit : Program I E A) q) :
    ∃ exit', q = .stop exit' ∧ exits exit exit' := by
  cases alike with
  | stop related => exact ⟨_, rfl, related⟩

end Alike
end Program
end Interaction
