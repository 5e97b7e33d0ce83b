import SkfService.Dispatch.Context

/-! The grammar of `%VAR%` references in a configured path, and the scanner that expands them. -/

set_option autoImplicit false

namespace SkfService

/-- What a pair of percent signs around `name` stands for. -/
def reference (env : String → Option String) (name : List Char) : List Char :=
  if name = [] then ['%']
  else match env (.ofList name) with
    | some value => value.toList
    | none => '%' :: name ++ ['%']

/-- One pass from left to right: every percent sign is paired with the next one to its right. A
substituted value is part of the result only and is never read. -/
inductive Expands (env : String → Option String) : List Char → List Char → Prop
  | plain {text : List Char} (none : '%' ∉ text) : Expands env text text
  | unpaired {before after : List Char} (first : '%' ∉ before) (last : '%' ∉ after) :
      Expands env (before ++ '%' :: after) (before ++ '%' :: after)
  | paired {before name rest expanded : List Char} (first : '%' ∉ before) (next : '%' ∉ name)
      (later : Expands env rest expanded) :
      Expands env (before ++ '%' :: (name ++ '%' :: rest))
        (before ++ (reference env name ++ expanded))

variable {env : String → Option String}

theorem expandChars_closed (env : String → Option String) (name rest : List Char) :
    expandChars env (some name) ('%' :: rest) =
      reference env name ++ expandChars env none rest := by
  rw [expandChars, if_pos rfl]
  rfl

/-- Outside of a reference the text is copied. -/
theorem expandChars_copies {before : List Char} (plain : '%' ∉ before) (rest : List Char) :
    expandChars env none (before ++ rest) = before ++ expandChars env none rest := by
  induction before with
  | nil => rfl
  | cons c before ih =>
    rw [List.mem_cons, not_or] at plain
    rw [List.cons_append, expandChars, if_neg (Ne.symm plain.1), ih plain.2]
    rfl

theorem expandChars_reads {name : List Char} (plain : '%' ∉ name) (seen rest : List Char) :
    expandChars env (some seen) (name ++ rest) = expandChars env (some (seen ++ name)) rest := by
  induction name generalizing seen with
  | nil => rw [List.nil_append, List.append_nil]
  | cons c name ih =>
    rw [List.mem_cons, not_or] at plain
    rw [List.cons_append, expandChars, if_neg (Ne.symm plain.1), ih plain.2, List.append_assoc,
      List.singleton_append]

theorem expandChars_opens (env : String → Option String) (rest : List Char) :
    expandChars env none ('%' :: rest) = expandChars env (some []) rest := by
  rw [expandChars, if_pos rfl]

theorem Expands.scanned {text expanded : List Char} (expands : Expands env text expanded) :
    expandChars env none text = expanded := by
  induction expands with
  | @plain text none =>
    have copied : expandChars env Option.none (text ++ []) =
        text ++ expandChars env Option.none [] := expandChars_copies none []
    rwa [List.append_nil, expandChars, List.append_nil] at copied
  | @unpaired before after first last =>
    have read : expandChars env (some []) (after ++ []) = expandChars env (some ([] ++ after)) [] :=
      expandChars_reads last [] []
    rw [List.append_nil, expandChars, List.nil_append] at read
    rw [expandChars_copies first, expandChars_opens, read]
  | @paired before name rest expanded first next later ih =>
    rw [expandChars_copies first, expandChars_opens, expandChars_reads next, List.nil_append,
      expandChars_closed, ih]

/-- A character in front changes nothing unless it is a percent sign. -/
theorem Expands.cons {text expanded : List Char} {c : Char} (plain : c ≠ '%')
    (expands : Expands env text expanded) :
    Expands env (c :: text) (c :: expanded) := by
  have outside {before : List Char} (first : '%' ∉ before) : '%' ∉ c :: before := by
    rw [List.mem_cons, not_or]
    exact ⟨plain.symm, first⟩
  cases expands with
  | plain none => exact .plain (outside none)
  | unpaired first last => exact .unpaired (outside first) last
  | paired first next later => exact .paired (outside first) next later

/-- The scanner's result is one of the grammar, also in the middle of a reference. -/
theorem expands_expandChars (env : String → Option String) (text : List Char) :
    Expands env text (expandChars env none text) ∧
      ∀ name,
        '%' ∉ name → Expands env ('%' :: (name ++ text)) (expandChars env (some name) text) := by
  have nothing : '%' ∉ ([] : List Char) := List.not_mem_nil
  -- On the text, outside a variable and inside one at once, for the scanner moves between both.
  induction text with
  | nil =>
    constructor
    · exact .plain nothing
    · intro name plain
      rw [List.append_nil]
      exact .unpaired nothing plain
  | cons c text ih =>
    by_cases percent : c = '%'
    · subst percent
      constructor
      · rw [expandChars_opens]
        exact ih.2 [] nothing
      · intro name plain
        rw [expandChars_closed]
        exact .paired nothing plain ih.1
    · constructor
      · rw [expandChars, if_neg percent]
        exact ih.1.cons percent
      · intro name plain
        have longer : '%' ∉ name ++ [c] := by
          rw [List.mem_append, List.mem_singleton, not_or]
          exact ⟨plain, Ne.symm percent⟩
        have read := ih.2 (name ++ [c]) longer
        rw [List.append_assoc, List.singleton_append] at read
        rw [expandChars, if_neg percent]
        exact read

/-- For every path and every environment the scanner's result is the one the grammar gives. -/
theorem expand_env_vars_iff (env : String → Option String) (path expanded : String) :
    expandEnvVars env path = expanded ↔ Expands env path.toList expanded.toList := by
  rw [expandEnvVars]
  constructor
  · rintro rfl
    rw [String.toList_ofList]
    exact (expands_expandChars env path.toList).1
  · intro expands
    rw [expands.scanned, String.ofList_toList]

example :
    expandEnvVars (fun name => if name = "X" then some "%Y%" else none) "a%%b/%X%/%Z%/%c" =
      "a%b/%Y%/%Z%/%c" := by
  decide

end SkfService
