import Mathlib.Data.List.Infix

/-! String operations as total functions on character lists. -/

set_option autoImplicit false

namespace Text

/-- The Unicode `White_Space` property. -/
def isWhitespace (c : Char) : Bool :=
  let n := c.toNat
  (0x09 ≤ n && n ≤ 0x0D) || n == 0x20 || n == 0x85 || n == 0xA0 || n == 0x1680 ||
    (0x2000 ≤ n && n ≤ 0x200A) || n == 0x2028 || n == 0x2029 || n == 0x202F || n == 0x205F ||
      n == 0x3000

def trimEndChars (strip : Char → Bool) (cs : List Char) : List Char :=
  (cs.reverse.dropWhile strip).reverse

def trim (s : String) : String :=
  .ofList (trimEndChars isWhitespace (s.toList.dropWhile isWhitespace))

def trimEndMatches (c : Char) (s : String) : String := .ofList (trimEndChars (· == c) s.toList)

def toAsciiLowercase (s : String) : String := .ofList (s.toList.map Char.toLower)

def eqIgnoreAsciiCase (s t : String) : Bool :=
  s.toList.map Char.toLower == t.toList.map Char.toLower

def split (separator : Char) (s : String) : List String :=
  (s.toList.splitOn separator).map .ofList

/-- At most `n` pieces; the last one keeps the separators that are left. -/
def splitChars (separator : Char) : Nat → List Char → List (List Char)
  | 0, _ => []
  | 1, cs => [cs]
  | n + 2, cs =>
    match cs.dropWhile (· != separator) with
    | [] => [cs]
    | _ :: rest => cs.takeWhile (· != separator) :: splitChars separator (n + 1) rest

def splitn (n : Nat) (separator : Char) (s : String) : List String :=
  (splitChars separator n s.toList).map .ofList

def splitOnce (separator : Char) (s : String) : Option (String × String) :=
  match s.toList.dropWhile (· != separator) with
  | [] => none
  | _ :: rest => some (.ofList (s.toList.takeWhile (· != separator)), .ofList rest)

def contains (needle s : String) : Bool := s.toList.tails.any needle.toList.isPrefixOf

/-- Replaces non-overlapping copies of `needle` from the left, skipping `skip` characters first. -/
def replaceChars (needle new : List Char) : Nat → List Char → List Char
  | _, [] => []
  | skip + 1, _ :: cs => replaceChars needle new skip cs
  | 0, c :: cs =>
    if needle.isPrefixOf (c :: cs) then new ++ replaceChars needle new (needle.length - 1) cs
    else c :: replaceChars needle new 0 cs

def replace (needle new s : String) : String :=
  .ofList (replaceChars needle.toList new.toList 0 s.toList)

def after (needle s : String) : Option String :=
  (s.toList.tails.find? needle.toList.isPrefixOf).map fun rest => .ofList (rest.drop needle.length)

def splitPairChars (first second : Char) : List Char → List Char → List (List Char)
  | piece, [] => [piece.reverse]
  | piece, [c] => [(c :: piece).reverse]
  | piece, c :: d :: cs =>
    if c == first && d == second then piece.reverse :: splitPairChars first second [] cs
    else splitPairChars first second (c :: piece) (d :: cs)

def splitPair (first second : Char) (s : String) : List String :=
  (splitPairChars first second [] s.toList).map .ofList

def hexDigit (upper : Bool) (n : Nat) : Char :=
  if n % 16 < 10 then .ofNat (48 + n % 16) else .ofNat ((if upper then 55 else 87) + n % 16)

/-- The lowest `width` hexadecimal digits, most significant first. -/
def hexDigits (upper : Bool) : Nat → Nat → List Char
  | 0, _ => []
  | width + 1, n => hexDigits upper width (n / 16) ++ [hexDigit upper n]

def hexWidth (n : Nat) : Nat := Nat.log2 n / 4 + 1

/-- The format `{:08X}`. -/
def hex8 (code : UInt32) : String := .ofList (hexDigits true 8 code.toNat)

/-- The format `{:#X}`. -/
def hexPlain (code : UInt32) : String :=
  "0x" ++ .ofList (hexDigits true (hexWidth code.toNat) code.toNat)

/-- The format `{:02X}` on every byte. -/
def hexBytesUpper (bytes : List UInt8) : String :=
  .ofList (bytes.flatMap fun byte => hexDigits true 2 byte.toNat)

/-- The format `{:02x}` on every byte. -/
def hexBytes (bytes : List UInt8) : String :=
  .ofList (bytes.flatMap fun byte => hexDigits false 2 byte.toNat)

def decimal (n : Nat) : String := .ofList (Nat.toDigits 10 n)

def decimalInt (n : Int) : String :=
  match n with
  | .ofNat n => decimal n
  | .negSucc n => "-" ++ decimal (n + 1)

example :
    hex8 0x0A00002E = "0A00002E" ∧ hexPlain 0x0A00002E = "0xA00002E" ∧ hexPlain 0 = "0x0" := by
  decide

example : splitn 5 '/' "GM/dev/app/c/a/b" = ["GM", "dev", "app", "c", "a/b"] := by decide

end Text
