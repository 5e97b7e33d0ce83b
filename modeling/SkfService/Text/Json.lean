import SkfService.Text.Chars

/-! JSON values. -/

set_option autoImplicit false

namespace Text

def isWhole (cs : List Char) : Bool :=
  match cs with
  | [] => false
  | ['0'] => true
  | c :: rest => '1' ≤ c && c ≤ '9' && rest.all Char.isDigit

def isDigits (cs : List Char) : Bool := !cs.isEmpty && cs.all Char.isDigit

def isExponent (cs : List Char) : Bool :=
  match cs with
  | 'e' :: '-' :: rest | 'e' :: '+' :: rest | 'e' :: rest => isDigits rest
  | _ => false

def isFloat (cs : List Char) : Bool :=
  let body := if cs.head? == some '-' then cs.tail else cs
  let whole := body.takeWhile Char.isDigit
  let rest := body.dropWhile Char.isDigit
  isWhole whole &&
    match rest with
    | '.' :: fraction =>
      isDigits (fraction.takeWhile Char.isDigit) &&
        (fraction.dropWhile Char.isDigit == [] || isExponent (fraction.dropWhile Char.isDigit))
    | rest => isExponent rest

structure FloatLiteral where
  chars : List Char
  formed : isFloat chars = true

/-- A number as the wire format keeps it apart. -/
inductive Number
  | unsigned (value : UInt64)
  | negative (magnitude : { n : UInt64 // 0 < n })
  | float (literal : FloatLiteral)

inductive Json
  | null
  | bool (value : Bool)
  | number (value : Number)
  | string (value : String)
  | array (items : List Json)
  | object (members : List (String × Json))

namespace Json

def asStr : Json → Option String
  | .string value => some value
  | _ => none

def asBool : Json → Option Bool
  | .bool value => some value
  | _ => none

def asU64 : Json → Option UInt64
  | .number (.unsigned value) => some value
  | _ => none

def isNull : Json → Bool
  | .null => true
  | _ => false

def member (key : String) : Json → Option Json
  | .object members => members.lookup key
  | _ => none

def ofU32 (value : UInt32) : Json := .number (.unsigned value.toUInt64)

/-- Inserts or overwrites one member, keeping the keys in order. -/
def insertMember (key : String) (value : Json) : List (String × Json) → List (String × Json)
  | [] => [(key, value)]
  | (other, held) :: rest =>
    if key < other then (key, value) :: (other, held) :: rest
    else if key = other then (key, value) :: rest
    else (other, held) :: insertMember key value rest

theorem lookup_insertMember (key other : String) (value : Json) (members : List (String × Json)) :
    (insertMember key value members).lookup other = if other =
      key then some value else members.lookup other := by
  induction members with
  | nil =>
    by_cases same : other = key
    · simp [insertMember, same]
    · simp only [insertMember, List.lookup_cons, List.lookup_nil, beq_eq_false_iff_ne.mpr same,
        if_neg same]
  | cons entry rest ih =>
    obtain ⟨held, old⟩ := entry
    rw [insertMember]
    split
    · by_cases same : other = key
      · simp [same]
      · simp only [List.lookup_cons, beq_eq_false_iff_ne.mpr same, if_neg same]
    · split
      · next overwritten =>
        subst overwritten
        by_cases same : other = key
        · simp [same]
        · simp only [List.lookup_cons, beq_eq_false_iff_ne.mpr same, if_neg same]
      · next differs =>
        by_cases here : other = held
        · subst here
          simp [Ne.symm differs]
        · simp only [List.lookup_cons, beq_eq_false_iff_ne.mpr here, ih]

def ofFields (fields : List (String × Json)) : Json :=
  .object (fields.foldl (fun members field => insertMember field.1 field.2 members) [])

def strings (values : List String) : Json := .array (values.map .string)

end Json

end Text
