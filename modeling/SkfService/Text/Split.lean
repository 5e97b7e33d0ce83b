import SkfService.Text.Chars

/-! Joining pieces with a separator, and splitting them again into as many. -/

set_option autoImplicit false

namespace Text

section pieces

variable {separator : Char} {n : Nat} {piece rest : List Char}

theorem splitChars_cons (plain : separator ∉ piece) :
    splitChars separator (n + 2) (piece ++ separator :: rest) =
      piece :: splitChars separator (n + 1) rest := by
  have before : ∀ c ∈ piece, (c != separator) = true := by
    intro c member
    rw [bne_iff_ne]
    rintro rfl
    exact plain member
  rw [splitChars, List.dropWhile_append_of_pos before, List.takeWhile_append_of_pos before,
    List.dropWhile_cons_of_neg (by simp), List.takeWhile_cons_of_neg (by simp), List.append_nil]

/-- No piece but the last one has a separator. -/
theorem splitChars_plain (n : Nat) (cs : List Char) :
    ∀ piece ∈ (splitChars separator n cs).dropLast, separator ∉ piece := by
  induction n generalizing cs with
  | zero => simp [splitChars]
  | succ n ih =>
    cases n with
    | zero => simp [splitChars]
    | succ n =>
      rw [splitChars]
      split
      · simp
      · next rest found =>
        intro piece member
        have nonempty : splitChars separator (n + 1) rest ≠ [] := by
          cases n with
          | zero => simp [splitChars]
          | succ n =>
            rw [splitChars]
            split <;> simp
        rw [List.dropLast_cons_of_ne_nil nonempty, List.mem_cons] at member
        rcases member with rfl | later
        · intro inside
          have unequal := List.all_eq_true.mp List.all_takeWhile separator inside
          rw [bne_self_eq_false] at unequal
          cases unequal
        · exact ih rest piece later

/-- Joined pieces are split where they were joined, just when no piece but the last one has the
separator. -/
theorem splitChars_join_iff {pieces : List (List Char)} (some : pieces ≠ []) :
    splitChars separator pieces.length ([separator].intercalate pieces) = pieces ↔
      ∀ piece ∈ pieces.dropLast, separator ∉ piece := by
  constructor
  · intro same
    rw [← same]
    exact splitChars_plain _ _
  · intro plain
    induction pieces with
    | nil => exact absurd rfl some
    | cons piece pieces ih =>
      cases pieces with
      | nil => simp [splitChars, List.intercalate]
      | cons next later =>
        rw [List.dropLast_cons_of_ne_nil (List.cons_ne_nil _ _)] at plain
        have joined : [separator].intercalate (piece :: next :: later) =
            piece ++ separator :: [separator].intercalate (next :: later) := by
          simp [List.intercalate]
        rw [joined, List.length_cons, List.length_cons,
          splitChars_cons (plain piece List.mem_cons_self), ← List.length_cons]
        congr 1
        exact ih (List.cons_ne_nil _ _) fun other member =>
          plain other (List.mem_cons_of_mem _ member)

end pieces

theorem not_mem_of_splitOn {A : Type} [BEq A] [LawfulBEq A] {separator : A} {items : List A} :
    ∀ piece ∈ items.splitOn separator, separator ∉ piece := by
  induction items with
  | nil =>
    intro piece member
    rw [List.splitOn_nil, List.mem_singleton] at member
    subst member
    exact List.not_mem_nil
  | cons item items ih =>
    intro piece member
    rw [List.splitOn_cons_eq_if_modifyHead] at member
    split at member
    · rcases List.mem_cons.mp member with rfl | later
      · exact List.not_mem_nil
      · exact ih piece later
    · next differs =>
      cases pieces : items.splitOn separator with
      | nil => exact absurd pieces (List.splitOn_ne_nil _ _)
      | cons first rest =>
        rw [pieces] at ih member
        rw [List.modifyHead_cons] at member
        rcases List.mem_cons.mp member with rfl | later
        · intro inside
          rcases List.mem_cons.mp inside with rfl | deeper
          · exact differs BEq.rfl
          · exact ih first List.mem_cons_self deeper
        · exact ih piece (List.mem_cons_of_mem _ later)

end Text
