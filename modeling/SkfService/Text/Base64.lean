import Mathlib.Logic.Basic

/-! Base64 with the standard alphabet and required padding. -/

set_option autoImplicit false

namespace Text.Base64

def alphabet : List Char :=
  "ABCDEFGHIJKLMNOPQRSTUVWXYZabcdefghijklmnopqrstuvwxyz0123456789+/".toList

def digit (n : Nat) : Char := alphabet.getD n 'A'

def value (c : Char) : Option Nat := alphabet.idxOf? c

def encodeChars : List UInt8 → List Char
  | [] => []
  | [a] => [digit (a.toNat / 4), digit (a.toNat % 4 * 16), '=', '=']
  | [a, b] =>
    [digit (a.toNat / 4), digit (a.toNat % 4 * 16 + b.toNat / 16), digit (b.toNat % 16 * 4), '=']
  | a :: b :: c :: rest =>
    digit (a.toNat / 4) :: digit (a.toNat % 4 * 16 + b.toNat / 16) ::
      digit (b.toNat % 16 * 4 + c.toNat / 64) :: digit (c.toNat % 64) :: encodeChars rest

def encode (bytes : List UInt8) : String := .ofList (encodeChars bytes)

/-- One byte out of two digits; the unused bits have to be zero. -/
def decodeOne (a b : Char) : Option (List UInt8) := do
  let x ← value a
  let y ← value b
  if y % 16 = 0 then some [.ofNat (x * 4 + y / 16)] else none

def decodeTwo (a b c : Char) : Option (List UInt8) := do
  let x ← value a
  let y ← value b
  let z ← value c
  if z % 4 = 0 then some [.ofNat (x * 4 + y / 16), .ofNat (y % 16 * 16 + z / 4)] else none

def decodeThree (a b c d : Char) : Option (List UInt8) := do
  let x ← value a
  let y ← value b
  let z ← value c
  let w ← value d
  some [.ofNat (x * 4 + y / 16), .ofNat (y % 16 * 16 + z / 4), .ofNat (z % 4 * 64 + w)]

def decodeChars : List Char → Option (List UInt8)
  | [] => some []
  | [a, b, '=', '='] => decodeOne a b
  | [a, b, c, '='] => decodeTwo a b c
  | a :: b :: c :: d :: rest => do
    let front ← decodeThree a b c d
    let back ← decodeChars rest
    some (front ++ back)
  | _ => none

def decode (s : String) : Option (List UInt8) := decodeChars s.toList

theorem decodeChars_length_le {cs : List Char} {bytes : List UInt8}
    (decoded : decodeChars cs = some bytes) :
    4 * bytes.length ≤ 3 * cs.length := by
  -- Four characters yield three bytes at most, and fewer at the end.
  fun_induction decodeChars cs generalizing bytes with
  | case1 =>
    cases decoded
    exact Nat.le_refl _
  | case2 a b =>
    simp only [decodeOne, Option.bind_eq_bind, Option.bind_eq_some_iff] at decoded
    obtain ⟨x, -, y, -, found⟩ := decoded
    split at found
    · cases found
      simp
    · cases found
  | case3 a b c =>
    simp only [decodeTwo, Option.bind_eq_bind, Option.bind_eq_some_iff] at decoded
    obtain ⟨x, -, y, -, z, -, found⟩ := decoded
    split at found
    · cases found
      simp
    · cases found
  | case4 a b c d rest _ _ ih =>
    simp only [decodeThree, Option.bind_eq_bind, Option.bind_eq_some_iff,
      Option.some.injEq] at decoded
    obtain ⟨front, ⟨x, -, y, -, z, -, w, -, rfl⟩, back, found, rfl⟩ := decoded
    have shorter := ih found
    simp only [List.length_append, List.length_cons, List.length_nil]
    omega
  | case5 => cases decoded

theorem decode_length_le {s : String} {bytes : List UInt8} (decoded : decode s = some bytes) :
    4 * bytes.length ≤ 3 * s.toList.length := decodeChars_length_le decoded

theorem value_digit {n : Nat} (small : n < 64) : value (digit n) = some n := by
  have each : ∀ n : Fin 64, value (digit n) = some n.val := by decide +kernel
  exact each ⟨n, small⟩

theorem digit_ne {n : Nat} {c : Char} (small : n < 64) (outside : value c = none) :
    digit n ≠ c := by
  intro same
  have inside := value_digit small
  rw [same, outside] at inside
  cases inside

theorem padding_outside : value '=' = none := by decide

theorem decodeChars_four {a b c d : Char} {rest : List Char} (unpadded : d ≠ '=') :
    decodeChars (a :: b :: c :: d :: rest) = (do
      let front ← decodeThree a b c d
      let back ← decodeChars rest
      some (front ++ back)) := by
  rw [decodeChars]
  · intro _ padded
    exact absurd padded unpadded
  · intro padded
    exact absurd padded unpadded

theorem byte_eq {byte : UInt8} {n : Nat} (same : n % 256 = byte.toNat) : UInt8.ofNat n = byte := by
  apply UInt8.toNat.inj
  rw [UInt8.toNat_ofNat']
  exact same

theorem decodeChars_encodeChars (bytes : List UInt8) :
    decodeChars (encodeChars bytes) = some bytes := by
  -- By the length of the last group: nothing, one byte, two bytes, or three and more.
  fun_induction encodeChars bytes with
  | case1 => rfl
  | case2 a =>
    have bound := a.toNat_lt
    have whole : UInt8.ofNat (a.toNat / 4 * 4 + a.toNat % 4 * 16 / 16) = a := byte_eq (by omega)
    have padding : a.toNat % 4 * 16 % 16 = 0 := Nat.mul_mod_left _ _
    rw [decodeChars, decodeOne, value_digit (by omega), value_digit (by omega)]
    simp only [Option.bind_eq_bind, Option.bind_some, padding, if_true, whole]
  | case3 a b =>
    have boundA := a.toNat_lt
    have boundB := b.toNat_lt
    have first : UInt8.ofNat (a.toNat / 4 * 4 + (a.toNat % 4 * 16 + b.toNat / 16) / 16) = a :=
      byte_eq (by omega)
    have second :
        UInt8.ofNat ((a.toNat % 4 * 16 + b.toNat / 16) % 16 * 16 + b.toNat % 16 * 4 / 4) = b :=
      byte_eq (by omega)
    have padding : b.toNat % 16 * 4 % 4 = 0 := Nat.mul_mod_left _ _
    rw [decodeChars, decodeTwo, value_digit (by omega), value_digit (by omega),
      value_digit (by omega)]
    simp only [Option.bind_eq_bind, Option.bind_some, padding, if_true, first, second]
    -- The third digit is no padding, or the text would be read as the shorter group.
    intro padded
    exact absurd padded (digit_ne (by omega) padding_outside)
  | case4 a b c rest ih =>
    have boundA := a.toNat_lt
    have boundB := b.toNat_lt
    have boundC := c.toNat_lt
    have first : UInt8.ofNat (a.toNat / 4 * 4 + (a.toNat % 4 * 16 + b.toNat / 16) / 16) = a :=
      byte_eq (by omega)
    have second : UInt8.ofNat ((a.toNat % 4 * 16 + b.toNat / 16) % 16 * 16 +
        (b.toNat % 16 * 4 + c.toNat / 64) / 4) = b :=
      byte_eq (by omega)
    have third : UInt8.ofNat ((b.toNat % 16 * 4 + c.toNat / 64) % 4 * 64 + c.toNat % 64) = c :=
      byte_eq (by omega)
    rw [decodeChars_four (digit_ne (by omega) padding_outside), decodeThree, value_digit (by omega),
      value_digit (by omega), value_digit (by omega), value_digit (by omega), ih]
    simp only [Option.bind_eq_bind, Option.bind_some, first, second, third]
    rfl

theorem decode_encode (bytes : List UInt8) : decode (encode bytes) = some bytes := by
  rw [decode, encode, String.toList_ofList]
  exact decodeChars_encodeChars bytes

theorem digit_mem (n : Nat) : digit n ∈ alphabet := by
  rw [digit, List.getD_eq_getElem?_getD]
  cases found : alphabet[n]? with
  | some c => exact List.mem_of_getElem? found
  | none => decide

theorem mem_encodeChars {bytes : List UInt8} {c : Char} (member : c ∈ encodeChars bytes) :
    c ∈ '=' :: alphabet := by
  have digits (n : Nat) : digit n ∈ '=' :: alphabet := List.mem_cons_of_mem _ (digit_mem n)
  have padding : '=' ∈ '=' :: alphabet := List.mem_cons_self
  -- The last group is filled up with padding, and only that one.
  fun_induction encodeChars bytes with
  | case1 => cases member
  | case2 a =>
    simp only [List.mem_cons, List.not_mem_nil, or_false] at member
    rcases member with rfl | rfl | rfl | rfl
    · exact digits _
    · exact digits _
    · exact padding
    · exact padding
  | case3 a b =>
    simp only [List.mem_cons, List.not_mem_nil, or_false] at member
    rcases member with rfl | rfl | rfl | rfl
    · exact digits _
    · exact digits _
    · exact digits _
    · exact padding
  | case4 a b c rest ih =>
    simp only [List.mem_cons] at member
    rcases member with rfl | rfl | rfl | rfl | later
    · exact digits _
    · exact digits _
    · exact digits _
    · exact digits _
    · exact ih later

theorem not_mem_encodeChars {c : Char} (outside : c ∉ '=' :: alphabet) (bytes : List UInt8) :
    c ∉ encodeChars bytes :=
  fun member => outside (mem_encodeChars member)

theorem encodeChars_ascii {bytes : List UInt8} : ∀ c ∈ encodeChars bytes, c.toNat < 128 := by
  have each : ('=' :: alphabet).all (fun c => decide (c.toNat < 128)) = true := by decide
  intro c member
  exact of_decide_eq_true (List.all_eq_true.mp each c (mem_encodeChars member))

/-- Every three bytes, the last ones padded, are four characters. -/
theorem length_encodeChars (bytes : List UInt8) :
    (encodeChars bytes).length = (bytes.length + 2) / 3 * 4 := by
  fun_induction encodeChars bytes with
  | case1 => rfl
  | case2 a => simp
  | case3 a b => simp
  | case4 a b c rest ih =>
    simp only [List.length_cons, ih]
    omega

theorem newline_not_mem_encodeChars (bytes : List UInt8) : '\n' ∉ encodeChars bytes :=
  not_mem_encodeChars (by decide) bytes

example : encode [104, 105] = "aGk=" ∧ decode "aGVsbG8=" = some [104, 101, 108, 108, 111] := by
  decide

end Text.Base64
