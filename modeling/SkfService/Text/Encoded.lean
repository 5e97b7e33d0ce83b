import SkfService.Text.Utf8

/-! The bytes of a character, those of an ASCII text, and what is decoded from the bytes of a text. -/

set_option autoImplicit false

namespace Text

theorem utf8EncodeChar_bytes (c : Char) {byte : UInt8} (member : byte ∈ String.utf8EncodeChar c) :
    byte.toNat = c.toNat ∨ 128 ≤ byte.toNat := by
  have value : c.val.toNat = c.toNat := rfl
  have mod (n : Nat) : (UInt8.ofNat n).toNat = n % 256 := UInt8.toNat_ofNat'
  unfold String.utf8EncodeChar at member
  dsimp only at member
  rw [value] at member
  split at member
  · rw [List.mem_singleton.mp member, mod]
    left
    omega
  · right
    split at member
    · simp only [List.mem_cons, List.not_mem_nil, or_false] at member
      rcases member with rfl | rfl <;> (rw [mod]; omega)
    · split at member
      · simp only [List.mem_cons, List.not_mem_nil, or_false] at member
        rcases member with rfl | rfl | rfl <;> (rw [mod]; omega)
      · simp only [List.mem_cons, List.not_mem_nil, or_false] at member
        rcases member with rfl | rfl | rfl | rfl <;> (rw [mod]; omega)

theorem ascii_of_mem_utf8 {s : String} {byte : UInt8} (member : byte ∈ utf8 s)
    (ascii : byte.toNat < 128) :
    ∃ c ∈ s.toList, c.toNat = byte.toNat := by
  obtain ⟨c, inside, encoded⟩ := List.mem_flatMap.mp member
  rcases utf8EncodeChar_bytes c encoded with same | high
  · exact ⟨c, inside, same.symm⟩
  · omega

theorem utf8_ofList_ascii {cs : List Char} (ascii : ∀ c ∈ cs, c.toNat < 128) :
    utf8 (.ofList cs) = cs.map fun c => UInt8.ofNat c.toNat := by
  rw [utf8, String.toList_ofList]
  induction cs with
  | nil => rfl
  | cons c cs ih =>
    have single : String.utf8EncodeChar c = [UInt8.ofNat c.toNat] := by
      have small : c.val.toNat ≤ 0x7F := Nat.le_of_lt_succ (ascii c List.mem_cons_self)
      unfold String.utf8EncodeChar
      exact if_pos small
    rw [List.flatMap_cons, single,
      ih fun other member => ascii other (List.mem_cons_of_mem _ member)]
    rfl

section encoded

variable {b0 b1 b2 : UInt8}

theorem isContinuation_iff {byte : UInt8} :
    isContinuation byte = true ↔ 0x80 ≤ byte.toNat ∧ byte.toNat ≤ 0xBF := by
  rw [isContinuation, Bool.and_eq_true, decide_eq_true_eq, decide_eq_true_eq]
  exact Iff.rfl

theorem decodeFirst_one (b1 b2 b3 : UInt8) (first : b0.toNat ≤ 0x7F) :
    decodeFirst b0 b1 b2 b3 = (.ofNat b0.toNat, 1) := by
  have small : b0 < 0x80 := Nat.lt_succ_of_le first
  rw [decodeFirst, if_pos small]

theorem decodeFirst_two (b2 b3 : UInt8) (low : 0xC2 ≤ b0.toNat) (high : b0.toNat ≤ 0xDF)
    (second : isContinuation b1 = true) :
    decodeFirst b0 b1 b2 b3 = (.ofNat ((b0.toNat % 32) * 64 + payload b1), 2) := by
  have one : ¬b0 < 0x80 := fun (small : b0.toNat < 128) => by omega
  have two : (decide (0xC2 ≤ b0) && decide (b0 ≤ 0xDF)) = true := by
    rw [Bool.and_eq_true, decide_eq_true_eq, decide_eq_true_eq]
    exact ⟨low, high⟩
  rw [decodeFirst, if_neg one, if_pos two, if_pos second]

theorem decodeFirst_three (b3 : UInt8) (low : 0xE0 ≤ b0.toNat) (high : b0.toNat ≤ 0xEF)
    (second : secondOfThree b0 b1 = true) (third : isContinuation b2 = true) :
    decodeFirst b0 b1 b2 b3 =
      (.ofNat ((b0.toNat % 16) * 4096 + payload b1 * 64 + payload b2), 3) := by
  have one : ¬b0 < 0x80 := fun (small : b0.toNat < 128) => by omega
  have two : ¬(decide (0xC2 ≤ b0) && decide (b0 ≤ 0xDF)) = true := by
    rw [Bool.and_eq_true, decide_eq_true_eq, decide_eq_true_eq]
    intro range
    have above : b0.toNat ≤ 223 := range.2
    omega
  have three : (decide (0xE0 ≤ b0) && decide (b0 ≤ 0xEF)) = true := by
    rw [Bool.and_eq_true, decide_eq_true_eq, decide_eq_true_eq]
    exact ⟨low, high⟩
  rw [decodeFirst, if_neg one, if_neg two, if_pos three, second, third]
  rfl

theorem decodeFirst_four {b3 : UInt8} (low : 0xF0 ≤ b0.toNat) (high : b0.toNat ≤ 0xF4)
    (second : secondOfFour b0 b1 = true) (third : isContinuation b2 = true)
    (fourth : isContinuation b3 = true) :
    decodeFirst b0 b1 b2 b3 =
      (.ofNat ((b0.toNat % 8) * 262144 + payload b1 * 4096 + payload b2 * 64 + payload b3), 4) := by
  have one : ¬b0 < 0x80 := fun (small : b0.toNat < 128) => by omega
  have two : ¬(decide (0xC2 ≤ b0) && decide (b0 ≤ 0xDF)) = true := by
    rw [Bool.and_eq_true, decide_eq_true_eq, decide_eq_true_eq]
    intro range
    have above : b0.toNat ≤ 223 := range.2
    omega
  have three : ¬(decide (0xE0 ≤ b0) && decide (b0 ≤ 0xEF)) = true := by
    rw [Bool.and_eq_true, decide_eq_true_eq, decide_eq_true_eq]
    intro range
    have above : b0.toNat ≤ 239 := range.2
    omega
  have four : (decide (0xF0 ≤ b0) && decide (b0 ≤ 0xF4)) = true := by
    rw [Bool.and_eq_true, decide_eq_true_eq, decide_eq_true_eq]
    exact ⟨low, high⟩
  rw [decodeFirst, if_neg one, if_neg two, if_neg three, if_pos four, second, third, fourth]
  rfl

theorem secondOfThree_of {b0 b1 : UInt8} (continues : isContinuation b1 = true)
    (notEarly : b0.toNat = 0xE0 → 0xA0 ≤ b1.toNat)
    (notSurrogate : b0.toNat = 0xED → b1.toNat ≤ 0x9F) :
    secondOfThree b0 b1 = true := by
  obtain ⟨low, high⟩ := isContinuation_iff.mp continues
  unfold secondOfThree
  split
  · next early =>
    rw [beq_iff_eq] at early
    rw [Bool.and_eq_true, decide_eq_true_eq, decide_eq_true_eq]
    exact ⟨notEarly (congrArg UInt8.toNat early), high⟩
  split
  · next surrogate =>
    rw [beq_iff_eq] at surrogate
    rw [Bool.and_eq_true, decide_eq_true_eq, decide_eq_true_eq]
    exact ⟨low, notSurrogate (congrArg UInt8.toNat surrogate)⟩
  · exact continues

theorem secondOfFour_of {b0 b1 : UInt8} (continues : isContinuation b1 = true)
    (notEarly : b0.toNat = 0xF0 → 0x90 ≤ b1.toNat) (notLate : b0.toNat = 0xF4 → b1.toNat ≤ 0x8F) :
    secondOfFour b0 b1 = true := by
  obtain ⟨low, high⟩ := isContinuation_iff.mp continues
  unfold secondOfFour
  split
  · next early =>
    rw [beq_iff_eq] at early
    rw [Bool.and_eq_true, decide_eq_true_eq, decide_eq_true_eq]
    exact ⟨notEarly (congrArg UInt8.toNat early), high⟩
  split
  · next late =>
    rw [beq_iff_eq] at late
    rw [Bool.and_eq_true, decide_eq_true_eq, decide_eq_true_eq]
    exact ⟨low, notLate (congrArg UInt8.toNat late)⟩
  · exact continues

theorem continuation_ofNat (n : Nat) : isContinuation (UInt8.ofNat (n % 64 + 128)) = true ∧
    payload (UInt8.ofNat (n % 64 + 128)) = n % 64 ∧
      (UInt8.ofNat (n % 64 + 128)).toNat = n % 64 + 128 := by
  have value : (UInt8.ofNat (n % 64 + 128)).toNat = n % 64 + 128 := by
    rw [UInt8.toNat_ofNat']
    omega
  refine ⟨?_, ?_, value⟩
  · rw [isContinuation_iff, value]
    omega
  · rw [payload, value]
    omega

end encoded

/-- The bytes of a character are decoded to it, whatever follows them. -/
theorem decodeLossy_utf8EncodeChar (c : Char) (rest : List UInt8) :
    decodeLossy 0 (String.utf8EncodeChar c ++ rest) = c :: decodeLossy 0 rest := by
  have value : c.val.toNat = c.toNat := rfl
  have back : Char.ofNat c.toNat = c := Char.ofNat_toNat c
  have valid : c.toNat < 0xD800 ∨ 0xDFFF < c.toNat ∧ c.toNat < 0x110000 := c.valid
  have mod (n : Nat) : (UInt8.ofNat n).toNat = n % 256 := UInt8.toNat_ofNat'
  have cons (byte : UInt8) (bytes : List UInt8) : decodeLossy 0 (byte :: bytes) =
      (decodeFirst byte (bytes.getD 0 0) (bytes.getD 1 0) (bytes.getD 2 0)).1 ::
        decodeLossy ((decodeFirst byte (bytes.getD 0 0) (bytes.getD 1 0) (bytes.getD 2 0)).2 - 1)
          bytes := rfl
  unfold String.utf8EncodeChar
  dsimp only
  rw [value]
  generalize c.toNat = v at back valid
  subst back
  obtain ⟨continues, low, lowByte⟩ := continuation_ofNat v
  obtain ⟨continues', middle, middleByte⟩ := continuation_ofNat (v / 64)
  obtain ⟨continues'', high, highByte⟩ := continuation_ofNat (v / 4096)
  -- The four lengths of the encoder: the first byte tells the length and brings the high bits,
  -- every other byte brings six.
  split
  · next one =>
    have first : (UInt8.ofNat v).toNat = v := by
      rw [mod]
      omega
    rw [List.cons_append, cons, decodeFirst_one _ _ _ (by omega), first]
    rfl
  split
  · next two =>
    have first : (UInt8.ofNat (v / 64 % 32 + 192)).toNat = v / 64 + 192 := by
      rw [mod]
      omega
    rw [List.cons_append, cons, List.cons_append, List.getD_cons_zero,
      decodeFirst_two _ _ (by omega) (by omega) continues, first, low]
    have number : (v / 64 + 192) % 32 * 64 + v % 64 = v := by omega
    rw [number]
    rfl
  split
  · next three =>
    have first : (UInt8.ofNat (v / 4096 % 16 + 224)).toNat = v / 4096 + 224 := by
      rw [mod]
      omega
    have second : secondOfThree (UInt8.ofNat (v / 4096 % 16 + 224))
        (UInt8.ofNat (v / 64 % 64 + 128)) = true := by
      apply secondOfThree_of continues' <;> omega
    rw [List.cons_append, cons, List.cons_append, List.cons_append, List.getD_cons_zero,
      List.getD_cons_succ, List.getD_cons_zero,
      decodeFirst_three _ (by omega) (by omega) second continues, first, middle, low]
    have number : (v / 4096 + 224) % 16 * 4096 + v / 64 % 64 * 64 + v % 64 = v := by omega
    rw [number]
    rfl
  · have first : (UInt8.ofNat (v / 262144 % 8 + 240)).toNat = v / 262144 + 240 := by
      rw [mod]
      omega
    have second : secondOfFour (UInt8.ofNat (v / 262144 % 8 + 240))
        (UInt8.ofNat (v / 4096 % 64 + 128)) = true := by
      apply secondOfFour_of continues'' <;> omega
    rw [List.cons_append, cons, List.cons_append, List.cons_append, List.cons_append,
      List.getD_cons_zero, List.getD_cons_succ, List.getD_cons_zero, List.getD_cons_succ,
      List.getD_cons_succ, List.getD_cons_zero,
      decodeFirst_four (by omega) (by omega) second continues' continues, first, high, middle, low]
    have number : (v / 262144 + 240) % 8 * 262144 + v / 4096 % 64 * 4096 + v / 64 % 64 * 64 +
        v % 64 = v := by omega
    rw [number]
    rfl

/-- Nothing of a well-formed text is replaced. -/
theorem fromUtf8Lossy_utf8 (s : String) : fromUtf8Lossy (utf8 s) = s := by
  have decoded (cs : List Char) : decodeLossy 0 (cs.flatMap String.utf8EncodeChar) = cs := by
    induction cs with
    | nil => rfl
    | cons c cs ih => rw [List.flatMap_cons, decodeLossy_utf8EncodeChar, ih]
  rw [fromUtf8Lossy, utf8, decoded, String.ofList_toList]

end Text
