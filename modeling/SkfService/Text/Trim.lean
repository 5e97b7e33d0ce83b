import SkfService.Text.Chars
import Mathlib.Data.List.TakeWhile

/-! What trimming leaves. -/

set_option autoImplicit false

namespace Text

variable {cs front inner back : List Char}

theorem dropWhile_plain (plain : ∀ c ∈ cs, isWhitespace c = false) :
    cs.dropWhile isWhitespace = cs := by
  cases cs with
  | nil => rfl
  | cons c rest =>
    exact List.dropWhile_cons_of_neg
      (by simp only [plain c List.mem_cons_self, Bool.false_eq_true, not_false_eq_true])

/-- White space around a text without any is trimmed. -/
theorem trim_padded (ahead : ∀ c ∈ front, isWhitespace c = true)
    (plain : ∀ c ∈ inner, isWhitespace c = false) (behind : ∀ c ∈ back, isWhitespace c = true) :
    trim (.ofList (front ++ inner ++ back)) = .ofList inner := by
  have reversed : ∀ c ∈ inner.reverse, isWhitespace c = false :=
    fun c member => plain c (List.mem_reverse.mp member)
  have following : ∀ c ∈ back.reverse, isWhitespace c = true :=
    fun c member => behind c (List.mem_reverse.mp member)
  rw [trim, String.toList_ofList, List.append_assoc, List.dropWhile_append_of_pos ahead]
  cases inner with
  | nil =>
    rw [List.nil_append, List.dropWhile_eq_nil_iff.mpr behind]
    rfl
  | cons c rest =>
    have stays : (c :: rest ++ back).dropWhile isWhitespace = c :: rest ++ back := by
      rw [List.cons_append, List.dropWhile_cons_of_neg]
      simp only [plain c List.mem_cons_self, Bool.false_eq_true, not_false_eq_true]
    rw [stays, trimEndChars, List.reverse_append, List.dropWhile_append_of_pos following,
      dropWhile_plain reversed, List.reverse_reverse]

theorem trim_plain (plain : ∀ c ∈ cs, isWhitespace c = false) : trim (.ofList cs) = .ofList cs := by
  have none : ∀ c ∈ ([] : List Char), isWhitespace c = true := List.forall_mem_nil _
  have padded := trim_padded none plain none
  rwa [List.nil_append, List.append_nil] at padded

end Text
