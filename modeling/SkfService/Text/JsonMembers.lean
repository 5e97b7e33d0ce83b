import SkfService.Text.JsonScalars

/-! Members of an object by their names, and texts whose quotes are escaped. -/

set_option autoImplicit false

namespace Text

section members

def IsInteger (cs : List Char) : Prop :=
  isWhole (if cs.head? = some '-' then cs.tail else cs) = true

/-- The value of the last member under a name, as it is written. -/
def lastMember (name : String) (fields : List Field) : Option (List Char) :=
  (fields.filter fun field => decode .plain field.1 = some name.toList).getLast?.map Prod.snd

theorem lastMember_nil (name : String) : lastMember name [] = none := rfl

theorem lastMember_cons (name : String) (field : Field) (fields : List Field) :
    lastMember name (field :: fields) =
      (lastMember name fields).or
        (if decode .plain field.1 = some name.toList then some field.2 else none) := by
  unfold lastMember
  rw [List.filter_cons]
  split
  · next named =>
    rw [if_pos (of_decide_eq_true named), List.getLast?_cons]
    cases (fields.filter _).getLast? <;> rfl
  · next unnamed =>
    rw [if_neg (fun named => unnamed (decide_eq_true named)), Option.or_none]

theorem lastMember_other {name : String} {field : Field}
    (other : decode .plain field.1 ≠ some name.toList) (fields : List Field) :
    lastMember name (field :: fields) = lastMember name fields := by
  rw [lastMember_cons, if_neg other, Option.or_none]

theorem isInteger_decimal (n : Nat) : IsInteger (decimal n).toList := by
  rw [IsInteger, if_neg (decimal_head n), decimal, String.toList_ofList]
  exact toDigits_isWhole n

theorem isInteger_minus (n : Nat) : IsInteger ('-' :: (decimal n).toList) := by
  change isWhole (decimal n).toList = true
  rw [decimal, String.toList_ofList]
  exact toDigits_isWhole n

end members

section escaped

/-- Every quote is behind a backslash, as in a text that is written for debugging. -/
def Escaped (cs : List Char) : Prop :=
  ∀ before after, cs = before ++ quote :: after → before.getLast? = some backslash

theorem skipSpace_split (cs : List Char) :
    ∃ spaces, cs = spaces ++ skipSpace cs ∧ ∀ c ∈ spaces, isJsonSpace c = true :=
  ⟨cs.takeWhile isJsonSpace, List.takeWhile_append_dropWhile.symm,
    fun _ member => List.mem_takeWhile_imp member⟩

theorem skipSpace_append (cs tail : List Char) :
    skipSpace (cs ++ tail) =
      if skipSpace cs = [] then skipSpace tail else skipSpace cs ++ tail := by
  unfold skipSpace
  rw [List.dropWhile_append]
  cases cs.dropWhile isJsonSpace <;> rfl

/-- What is behind spaces and a comma is behind no backslash, so it is no quote. -/
theorem Escaped.unquoted {cs rest : List Char} (escaped : Escaped cs)
    (comma : skipSpace cs = ',' :: rest) : (skipSpace rest).head? ≠ some quote := by
  intro quoted
  obtain ⟨before, spelled, spaces⟩ := skipSpace_split cs
  obtain ⟨between, spelled', spaces'⟩ := skipSpace_split rest
  obtain ⟨after, quoted⟩ : ∃ after, skipSpace rest = quote :: after :=
    ⟨_, (List.eq_cons_of_mem_head? quoted)⟩
  have last := escaped (before ++ ',' :: between) after (by
    rw [spelled, comma, spelled', quoted]
    simp)
  have member := List.mem_of_getLast? last
  simp only [List.mem_append, List.mem_cons] at member
  rcases member with front | comma | behind
  · cases spaces _ front
  · cases comma
  · cases spaces' _ behind

theorem readKey_unquoted {cs : List Char} (unquoted : (skipSpace cs).head? ≠ some quote) :
    readKey (cs ++ [quote, quote, '}']) = none := by
  unfold readKey
  rw [skipSpace_append]
  cases found : skipSpace cs with
  | nil => rfl
  | cons c rest =>
    rw [found] at unquoted
    rw [if_neg (List.cons_ne_nil _ _)]
    dsimp only [List.cons_append]
    exact if_neg fun same => unquoted (congrArg some same)

end escaped

end Text
