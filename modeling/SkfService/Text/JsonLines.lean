import SkfService.Text.JsonReader

/-! Objects with one member to a line. -/

set_option autoImplicit false

namespace Text

def memberLine (member : String × Json) : List Char :=
  ' ' :: ' ' :: stringLiteral member.1 ++ ':' :: ' ' :: member.2.chars

def pretty (members : List (String × Json)) : List Char :=
  .ofNat 0x7B :: '\n' :: [',', '\n'].intercalate (members.map memberLine) ++ ['\n', .ofNat 0x7D]

section spaces

variable {fuel : Nat} {cs tail : List Char} {c : Char}

theorem skipSpace_space (space : isJsonSpace c = true) : skipSpace (c :: cs) = skipSpace cs :=
  List.dropWhile_cons_of_pos space

theorem readKey_space (space : isJsonSpace c = true) : readKey (c :: cs) = readKey cs := by
  rw [readKey, readKey, skipSpace_space space]

theorem skip_space (space : isJsonSpace c = true) :
    skip (fuel + 1) .value (c :: cs) = skip (fuel + 1) .value cs := by
  rw [skip, skip, skipSpace_space space]

theorem closed_newline : Closed ('\n' :: cs) := by
  intro c head
  cases head
  decide

theorem readFields_line (key : String) (value : Json) (closed : Closed tail)
    (enough : 2 * value.chars.length < fuel) :
    readFields (fuel + 1) ('\n' :: (memberLine (key, value) ++ tail)) =
      (readRest fuel tail).map fun fields =>
        (key.toList.flatMap escapeChar, value.chars) :: fields := by
  obtain ⟨c, rest, spelled, solid, -⟩ := value_head value
  have solid : skipSpace (' ' :: (value.chars ++ tail)) = value.chars ++ tail := by
    rw [skipSpace_space rfl, spelled, List.cons_append, skipSpace_cons solid]
  have inside : '\n' :: (memberLine (key, value) ++ tail) =
      '\n' :: ' ' :: ' ' :: (stringLiteral key ++ ':' :: ' ' :: (value.chars ++ tail)) := by
    simp [memberLine]
  cases fuel with
  | zero => exact absurd enough (Nat.not_lt_zero _)
  | succ fuel =>
    rw [inside, readFields, readKey_space rfl, readKey_space rfl, readKey_space rfl,
      readKey_spelled, Option.bind_some]
    dsimp only
    rw [skip_space rfl, (skips (fuel + 1)).1 value tail enough closed, Option.bind_some, solid,
      upTo_append]

theorem readFields_lines (members : List (String × Json)) (some : members ≠ [])
    (enough : 2 * ([',', '\n'].intercalate (members.map memberLine)).length < fuel) :
    readFields fuel ('\n' :: ([',', '\n'].intercalate (members.map memberLine) ++ ['\n', '}'])) =
      .some (members.map fun member => (member.1.toList.flatMap escapeChar, member.2.chars)) := by
  induction members generalizing fuel with
  | nil => exact absurd rfl some
  | cons member later ih =>
    obtain ⟨key, value⟩ := member
    -- Every line has a key and marks around its value, which leaves the reader fuel enough.
    have short : value.chars.length + 4 ≤ (memberLine (key, value)).length := by
      simp [memberLine, stringLiteral]
      omega
    obtain ⟨fuel, rfl⟩ : ∃ more, fuel = more + 2 := by
      refine ⟨fuel - 2, ?_⟩
      cases later with
      | nil =>
        simp only [List.map_cons, List.map_nil, List.intercalate_singleton] at enough
        omega
      | cons next others =>
        simp only [List.map_cons, List.intercalate_cons_cons, List.length_append] at enough
        omega
    cases later with
    | nil =>
      simp only [List.map_cons, List.map_nil, List.intercalate_singleton] at enough ⊢
      rw [readFields_line _ _ closed_newline (by omega)]
      rfl
    | cons next others =>
      simp only [List.map_cons, List.intercalate_cons_cons, List.length_append, List.length_cons,
        List.length_nil] at enough
      have rest := @ih fuel (List.cons_ne_nil _ _) (by simp only [List.map_cons]; omega)
      simp only [List.map_cons, List.intercalate_cons_cons, List.append_assoc, List.cons_append,
        List.nil_append] at rest ⊢
      rw [readFields_line _ _ (closed_cons (by simp)) (by omega)]
      change (readFields fuel _).map _ = _
      rw [rest]
      rfl

theorem readWith_members (unclosed : (skipSpace cs).head? ≠ some '}') :
    readWith fuel (.ofList ('{' :: cs)) = readFields fuel cs := by
  rw [readWith, String.toList_ofList, skipSpace_cons (by decide)]
  split
  · next inside opened =>
    cases opened
    split
    · next rest ended =>
      rw [ended] at unclosed
      exact absurd rfl unclosed
    · rfl
  · next other => exact absurd rfl (other cs)

/-- A text with its members on lines is read as its members, with fuel for all of its characters. -/
theorem readWith_pretty (members : List (String × Json)) (some : members ≠ [])
    (enough : 2 * (pretty members).length ≤ fuel) :
    readWith fuel (.ofList (pretty members)) =
      .some (members.map fun member => (member.1.toList.flatMap escapeChar, member.2.chars)) := by
  have spelled : pretty members = '{' :: '\n' ::
      ([',', '\n'].intercalate (members.map memberLine) ++ ['\n', '}']) := rfl
  have unclosed : (skipSpace ('\n' ::
      ([',', '\n'].intercalate (members.map memberLine) ++ ['\n', '}']))).head? ≠ .some '}' := by
    have quoted : (skipSpace
        ('\n' :: ([',', '\n'].intercalate (members.map memberLine) ++ ['\n', '}']))).head? =
          .some quote := by
      cases members with
      | nil => exact absurd rfl some
      | cons member later => cases later <;> rfl
    rw [quoted]
    decide
  rw [spelled] at enough ⊢
  simp only [List.length_cons, List.length_append] at enough
  rw [readWith_members unclosed]
  exact readFields_lines members some (by omega)

end spaces
end Text
