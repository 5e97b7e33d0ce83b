import SkfService.Asn1.Octets

/-! Distinguished encoding of trees of elements, and a strict parser: low tag numbers, the shortest
lengths and integers, and nothing left over. -/

set_option autoImplicit false

namespace Asn1

/-- A tag with a number below 31, which fits in the identifier octet. -/
structure Tag where
  tagClass : Fin 4
  number : Fin 31
deriving DecidableEq

namespace Tag

def integer : Tag := ⟨0, 2⟩
def bitString : Tag := ⟨0, 3⟩
def null : Tag := ⟨0, 5⟩
def objectIdentifier : Tag := ⟨0, 6⟩
def utf8String : Tag := ⟨0, 12⟩
def sequence : Tag := ⟨0, 16⟩
def set : Tag := ⟨0, 17⟩
def printableString : Tag := ⟨0, 19⟩
def context (number : Fin 31) : Tag := ⟨2, number⟩
def context0 : Tag := .context ⟨0, by decide⟩

def octet (tag : Tag) (constructed : Bool) : UInt8 :=
  .ofNat (64 * tag.tagClass.val + 32 * constructed.toNat + tag.number.val)

def read (octet : UInt8) : Option (Tag × Bool) :=
  if low : octet.toNat % 32 < 31 then
    have small : octet.toNat / 64 < 4 := Nat.div_lt_of_lt_mul octet.toNat_lt
    some (⟨⟨octet.toNat / 64, small⟩, ⟨octet.toNat % 32, low⟩⟩, octet.toNat / 32 % 2 == 1)
  else none

theorem octet_toNat (tag : Tag) (constructed : Bool) :
    (tag.octet constructed).toNat = 64 * tag.tagClass.val + 32 * constructed.toNat +
      tag.number.val := by
  have classBound := tag.tagClass.isLt
  have numberBound := tag.number.isLt
  have formBound := constructed.toNat_le
  apply UInt8.toNat_ofNat_of_lt'
  change _ < 256
  omega

theorem read_octet (tag : Tag) (constructed : Bool) :
    read (tag.octet constructed) = some (tag, constructed) := by
  have classBound := tag.tagClass.isLt
  have numberBound := tag.number.isLt
  have formBound := constructed.toNat_le
  have number : (tag.octet constructed).toNat % 32 = tag.number.val := by
    rw [octet_toNat]
    omega
  have tagClass : (tag.octet constructed).toNat / 64 = tag.tagClass.val := by
    rw [octet_toNat]
    omega
  have form : ((tag.octet constructed).toNat / 32 % 2 == 1) = constructed := by
    have bit : (tag.octet constructed).toNat / 32 % 2 = constructed.toNat := by
      rw [octet_toNat]
      omega
    rw [bit]
    cases constructed <;> rfl
  unfold read
  rw [dif_pos (by omega)]
  simp only [number, tagClass, form]

theorem octet_read {octet : UInt8} {tag : Tag} {constructed : Bool}
    (found : read octet = some (tag, constructed)) :
    tag.octet constructed = octet := by
  unfold read at found
  split at found
  · next low =>
    cases found
    have bound := octet.toNat_lt
    apply UInt8.toNat.inj
    rw [octet_toNat]
    have form : (octet.toNat / 32 % 2 == 1).toNat = octet.toNat / 32 % 2 := by
      rcases Nat.mod_two_eq_zero_or_one (octet.toNat / 32) with even | odd
      · rw [even]
        rfl
      · rw [odd]
        rfl
    rw [form]
    dsimp only
    omega
  · cases found

end Tag

/-- A length: one octet below 128, else the number of octets and the shortest octets. -/
def lengthOctets (n : Nat) : List UInt8 :=
  if n < 128 then [.ofNat n] else .ofNat (128 + (octets n).length) :: octets n

/-- The length form reserves the count 127. -/
def Definite (n : Nat) : Prop := (octets n).length < 127

/-- Reads a length and refuses the indefinite form, leading zeros, and a long form that could be
short. -/
def readLength : List UInt8 → Option (Nat × List UInt8)
  | [] => none
  | first :: rest =>
    if first.toNat < 128 then some (first.toNat, rest)
    else
      let count := first.toNat - 128
      if count < 127 ∧ count ≤ rest.length ∧ rest.head? ≠ some 0 ∧
        128 ≤ bigEndian (rest.take count) then
        some (bigEndian (rest.take count), rest.drop count)
      else none

theorem readLength_lengthOctets {n : Nat} (definite : Definite n) (rest : List UInt8) :
    readLength (lengthOctets n ++ rest) = some (n, rest) := by
  unfold lengthOctets
  split
  · next small =>
    have value : (UInt8.ofNat n).toNat = n := UInt8.toNat_ofNat_of_lt' (by change n < 256; omega)
    simp only [List.singleton_append, readLength, value, if_pos small]
  · next large =>
    unfold Definite at definite
    have first : (UInt8.ofNat (128 + (octets n).length)).toNat = 128 + (octets n).length := by
      apply UInt8.toNat_ofNat_of_lt'
      change _ < 256
      omega
    have count : 128 + (octets n).length - 128 = (octets n).length := Nat.add_sub_cancel_left _ _
    have some : octets n ≠ [] := by
      intro empty
      have zero := bigEndian_octets n
      rw [empty, bigEndian_nil] at zero
      omega
    have head : (octets n ++ rest).head? ≠ .some 0 := by
      rw [List.head?_append_of_ne_nil _ some]
      exact octets_head n
    have number : bigEndian ((octets n ++ rest).take (octets n).length) = n := by
      rw [List.take_left, bigEndian_octets]
    simp only [List.cons_append, readLength, first, count, number, List.drop_left,
      List.length_append]
    rw [if_neg (by omega), if_pos ⟨definite, by omega, head, by omega⟩]

theorem lengthOctets_readLength {bytes rest : List UInt8} {n : Nat}
    (found : readLength bytes = some (n, rest)) :
    bytes = lengthOctets n ++ rest ∧ Definite n := by
  cases bytes with
  | nil => cases found
  | cons first tail =>
    simp only [readLength] at found
    split at found
    · next small =>
      simp only [Option.some.injEq, Prod.mk.injEq] at found
      obtain ⟨rfl, rfl⟩ := found
      unfold lengthOctets Definite
      rw [if_pos small, UInt8.ofNat_toNat]
      refine ⟨rfl, ?_⟩
      rcases Nat.eq_zero_or_pos first.toNat with zero | positive
      · rw [zero]
        decide
      · rw [octets_of_lt (by omega) positive, List.length_singleton]
        decide
    · next large =>
      split at found
      · next conditions =>
        obtain ⟨count, enough, head, long⟩ := conditions
        simp only [Option.some.injEq, Prod.mk.injEq] at found
        obtain ⟨rfl, rfl⟩ := found
        -- The long form does not start with a zero octet, and so its octets are the shortest.
        have headKept : (tail.take (first.toNat - 128)).head? ≠ some 0 := by
          rw [List.head?_take]
          split
          · intro impossible
            cases impossible
          · exact head
        have digits := octets_bigEndian headKept
        have width : (tail.take (first.toNat - 128)).length = first.toNat - 128 :=
          List.length_take_of_le enough
        have restored : 128 + (first.toNat - 128) = first.toNat := by omega
        unfold lengthOctets Definite
        rw [if_neg (by omega), digits, width, restored, UInt8.ofNat_toNat]
        refine ⟨?_, count⟩
        rw [List.cons_append, List.take_append_drop]
      · cases found

def element (tag : Tag) (constructed : Bool) (content : List UInt8) : List UInt8 :=
  tag.octet constructed :: (lengthOctets content.length ++ content)

def readElement : List UInt8 → Option ((Tag × Bool) × List UInt8 × List UInt8)
  | [] => none
  | identifier :: bytes => do
    let tag ← Tag.read identifier
    let (n, rest) ← readLength bytes
    if n ≤ rest.length then some (tag, rest.take n, rest.drop n) else none

theorem readElement_element (tag : Tag) (constructed : Bool) {content : List UInt8}
    (definite : Definite content.length) (rest : List UInt8) :
    readElement (element tag constructed content ++ rest) =
      some ((tag, constructed), content, rest) := by
  simp only [element, List.cons_append, List.append_assoc, readElement, Tag.read_octet,
    Option.bind_eq_bind, Option.bind_some, readLength_lengthOctets definite, List.length_append,
    Nat.le_add_right, if_true, List.take_left, List.drop_left]

theorem element_readElement {bytes content rest : List UInt8} {tag : Tag} {constructed : Bool}
    (found : readElement bytes = some ((tag, constructed), content, rest)) :
    bytes = element tag constructed content ++ rest ∧ Definite content.length := by
  cases bytes with
  | nil => cases found
  | cons identifier tail =>
    simp only [readElement, Option.bind_eq_bind, Option.bind_eq_some_iff] at found
    obtain ⟨read, tagRead, ⟨n, after⟩, lengthRead, found⟩ := found
    dsimp only at found
    split at found
    · next enough =>
      cases found
      obtain ⟨rfl, definite⟩ := lengthOctets_readLength lengthRead
      have width : (after.take n).length = n := List.length_take_of_le enough
      rw [width]
      refine ⟨?_, definite⟩
      rw [element, width, Tag.octet_read tagRead, List.cons_append, List.append_assoc,
        List.take_append_drop]
    · cases found

def minimalInteger : List UInt8 → Bool
  | [] => false
  | [_] => true
  | first :: second :: _ => !(first == 0 && second < 0x80) && !(first == 0xFF && 0x80 ≤ second)

/-- Whether the first octet counts unused bits of the last one, and these are zero. -/
def properBits : List UInt8 → Bool
  | [] => false
  | unused :: bits =>
    unused < 8 && (bits.getLast?.getD 0).toNat % 2 ^ unused.toNat == 0 &&
      (bits != [] || unused == 0)

/-- Whether primitive contents are the canonical ones of their universal type. Object identifiers
and the character sets of strings are left to their readers. -/
def proper (tag : Tag) (content : List UInt8) : Bool :=
  if tag = .integer then minimalInteger content
  else if tag = .bitString then properBits content
  else if tag = .null then content == []
  else true

inductive Node
  | primitive (tag : Tag) (content : List UInt8)
  | constructed (tag : Tag) (items : List Node)

mutual

def Node.encode : Node → List UInt8
  | .primitive tag content => element tag false content
  | .constructed tag items => element tag true (encodeAll items)

def encodeAll : List Node → List UInt8
  | [] => []
  | node :: nodes => node.encode ++ encodeAll nodes

end

mutual

def Node.Each (P : Tag → Bool → List UInt8 → Prop) : Node → Prop
  | .primitive tag content => P tag false content
  | .constructed tag items => P tag true (encodeAll items) ∧ EachOf P items

def EachOf (P : Tag → Bool → List UInt8 → Prop) : List Node → Prop
  | [] => True
  | node :: nodes => node.Each P ∧ EachOf P nodes

end

def ProperContent (tag : Tag) (constructed : Bool) (content : List UInt8) : Prop :=
  constructed = false → proper tag content = true

/-- An element whose length has an encoding and whose contents are those of its type. -/
def Canonical (tag : Tag) (constructed : Bool) (content : List UInt8) : Prop :=
  Definite content.length ∧ ProperContent tag constructed content

def nodeOf (tag : Tag) (constructed : Bool) (content : List UInt8) (items : Option (List Node)) :
    Option Node :=
  if constructed then items.map (.constructed tag)
  else if proper tag content then some (.primitive tag content)
  else none

/-- Reads elements to the end of the bytes, at most `fuel` in a row or inside each other. -/
def readAll : Nat → List UInt8 → Option (List Node)
  | _, [] => some []
  | 0, _ :: _ => none
  | fuel + 1, byte :: bytes => do
    let ((tag, constructed), content, rest) ← readElement (byte :: bytes)
    let node ← nodeOf tag constructed content (readAll fuel content)
    let nodes ← readAll fuel rest
    some (node :: nodes)

def decode (bytes : List UInt8) : Option Node := do
  let nodes ← readAll bytes.length bytes
  match nodes with
  | [node] => some node
  | _ => none

/-- The encodings of the elements in a row, each as it stands in the bytes. -/
def splitAll : Nat → List UInt8 → Option (List (List UInt8))
  | _, [] => some []
  | 0, _ :: _ => none
  | fuel + 1, byte :: bytes => do
    let (_, _, rest) ← readElement (byte :: bytes)
    let later ← splitAll fuel rest
    some ((byte :: bytes).take ((byte :: bytes).length - rest.length) :: later)

def elements (bytes : List UInt8) : Option (List (List UInt8)) := do
  let ((_, constructed), content, rest) ← readElement bytes
  if constructed ∧ rest = [] then splitAll content.length content else none

def Node.Short (limit : Nat) (node : Node) : Prop :=
  node.Each fun _ _ content => content.length < limit

def Node.Proper (node : Node) : Prop := node.Each ProperContent

theorem element_length (tag : Tag) (constructed : Bool) (content : List UInt8) :
    content.length + 2 ≤ (element tag constructed content).length := by
  have positive : 0 < (lengthOctets content.length).length := by
    unfold lengthOctets
    split
    · exact Nat.one_pos
    · exact Nat.succ_pos _
  simp only [element, List.length_cons, List.length_append]
  omega

theorem Node.encode_eq (node : Node) (canonical : node.Each Canonical) :
    ∃ tag form content, node.encode = element tag form content ∧ Definite content.length := by
  cases node with
  | primitive tag content => exact ⟨tag, false, content, rfl, canonical.1⟩
  | constructed tag items => exact ⟨tag, true, encodeAll items, rfl, canonical.1.1⟩

theorem Node.encode_length (node : Node) : 2 ≤ node.encode.length := by
  cases node with
  | primitive tag content =>
    exact Nat.le_trans (Nat.le_add_left _ _) (element_length tag false content)
  | constructed tag items =>
    exact Nat.le_trans (Nat.le_add_left _ _) (element_length tag true (encodeAll items))

theorem readAll_element (fuel : Nat) {tag : Tag} {constructed : Bool} {content : List UInt8}
    (definite : Definite content.length) (rest : List UInt8) :
    readAll (fuel + 1) (element tag constructed content ++ rest) = (do
      let node ← nodeOf tag constructed content (readAll fuel content)
      let nodes ← readAll fuel rest
      some (node :: nodes)) := by
  have read := readElement_element tag constructed definite rest
  rw [element, List.cons_append] at read ⊢
  rw [readAll, read]
  rfl

section each

variable {P Q R : Tag → Bool → List UInt8 → Prop}

theorem eachOf_append {front back : List Node} :
    EachOf P (front ++ back) ↔ EachOf P front ∧ EachOf P back := by
  induction front with
  | nil => exact (iff_of_eq (true_and _)).symm
  | cons node rest ih => rw [List.cons_append, EachOf, EachOf, ih, and_assoc]

mutual

theorem Node.Each.both
    (both : ∀ tag form content, P tag form content → Q tag form content → R tag form content) :
    (node : Node) → node.Each P → node.Each Q → node.Each R
  | .primitive tag content, first, second => both tag false content first second
  | .constructed tag items, first, second =>
    ⟨both tag true (encodeAll items) first.1 second.1, EachOf.both both items first.2 second.2⟩

theorem EachOf.both
    (both : ∀ tag form content, P tag form content → Q tag form content → R tag form content) :
    (nodes : List Node) → EachOf P nodes → EachOf Q nodes → EachOf R nodes
  | [], _, _ => trivial
  | node :: nodes, first, second =>
    ⟨Node.Each.both both node first.1 second.1, EachOf.both both nodes first.2 second.2⟩

end

mutual

/-- No contents are longer than the whole encoding. -/
theorem Node.short_of_length (limit : Nat) :
    (node : Node) → node.encode.length ≤ limit → node.Short limit
  | .primitive tag content, bounded => by
    have shorter := element_length tag false content
    rw [Node.encode] at bounded
    exact Nat.lt_of_lt_of_le (by omega) bounded
  | .constructed tag items, bounded => by
    have shorter := element_length tag true (encodeAll items)
    rw [Node.encode] at bounded
    exact ⟨by omega, shortOf_length limit items (by omega)⟩

theorem shortOf_length (limit : Nat) : (nodes : List Node) → (encodeAll nodes).length ≤ limit →
    EachOf (fun _ _ content => content.length < limit) nodes
  | [], _ => trivial
  | node :: nodes, bounded => by
    rw [encodeAll, List.length_append] at bounded
    exact ⟨node.short_of_length limit (by omega), shortOf_length limit nodes (by omega)⟩

end

theorem definite_of_lt {n : Nat} (bounded : n < 65536) : Definite n := by
  unfold Definite
  rcases Nat.eq_zero_or_pos n with rfl | positive
  · decide
  by_cases small : n < 256
  · rw [octets_of_lt small positive, List.length_singleton]
    decide
  · rw [octets_two (by omega) bounded]
    exact Nat.lt_of_le_of_lt (Nat.le_refl 2) (by decide)

theorem Node.proper_constructed {tag : Tag} {items : List Node}
    (inside : EachOf ProperContent items) :
    (Node.constructed tag items).Proper := by
  refine ⟨?_, inside⟩
  intro impossible
  cases impossible

theorem Node.canonical {node : Node} (isProper : node.Proper) (short : node.Short 65536) :
    node.Each Canonical :=
  Node.Each.both (fun _ _ _ shortest bounded => ⟨definite_of_lt bounded, shortest⟩) node
    isProper short

end each

/-- Reading recovers canonical trees, with fuel for every octet. -/
theorem readAll_encodeAll (fuel : Nat) (nodes : List Node) (canonical : EachOf Canonical nodes)
    (enough : (encodeAll nodes).length ≤ fuel) : readAll fuel (encodeAll nodes) = some nodes := by
  -- On the fuel, for the reader goes into a constructed node and past it with the same one.
  induction fuel generalizing nodes with
  | zero =>
    cases nodes with
    | nil => rfl
    | cons node rest =>
      have impossible := node.encode_length
      rw [encodeAll, List.length_append] at enough
      omega
  | succ fuel ih =>
    cases nodes with
    | nil => rfl
    | cons node rest =>
      obtain ⟨here, later⟩ := canonical
      rw [encodeAll, List.length_append] at enough
      cases node with
      | primitive tag content =>
        obtain ⟨definite, shortest⟩ := here
        have shorter := element_length tag false content
        rw [Node.encode] at enough
        have readRest := ih rest later (by omega)
        rw [encodeAll, Node.encode, readAll_element fuel definite, readRest, nodeOf,
          if_neg Bool.false_ne_true, if_pos (shortest rfl)]
        rfl
      | constructed tag items =>
        obtain ⟨⟨definite, -⟩, inside⟩ := here
        have shorter := element_length tag true (encodeAll items)
        rw [Node.encode] at enough
        have readRest := ih rest later (by omega)
        have readItems := ih items inside (by omega)
        rw [encodeAll, Node.encode, readAll_element fuel definite, readRest, readItems, nodeOf,
          if_pos rfl]
        rfl

/-- The octets that are read are the canonical encoding of what was read. -/
theorem encodeAll_readAll (fuel : Nat) {bytes : List UInt8} {nodes : List Node}
    (found : readAll fuel bytes = some nodes) :
    bytes = encodeAll nodes ∧ EachOf Canonical nodes := by
  induction fuel generalizing bytes nodes with
  | zero =>
    cases bytes with
    | nil =>
      cases found
      exact ⟨rfl, trivial⟩
    | cons byte rest => cases found
  | succ fuel ih =>
    cases bytes with
    | nil =>
      cases found
      exact ⟨rfl, trivial⟩
    | cons byte rest =>
      simp only [readAll, Option.bind_eq_bind, Option.bind_eq_some_iff, Option.some.injEq] at found
      obtain ⟨⟨⟨tag, constructed⟩, content, after⟩, first, node, body, nodes, readRest, rfl⟩ :=
        found
      obtain ⟨shape, definite⟩ := element_readElement first
      obtain ⟨rfl, laterCanonical⟩ := ih readRest
      rw [shape]
      simp only [nodeOf] at body
      split at body
      · next form =>
        subst form
        rw [Option.map_eq_some_iff] at body
        obtain ⟨items, readItems, rfl⟩ := body
        -- A constructed node is read with the same fuel as what follows it.
        obtain ⟨rfl, inside⟩ := ih readItems
        exact ⟨rfl, ⟨⟨definite, fun impossible => by cases impossible⟩, inside⟩, laterCanonical⟩
      · next form =>
        rw [Bool.not_eq_true] at form
        subst form
        split at body
        · next shortest =>
          cases body
          exact ⟨rfl, ⟨definite, fun _ => shortest⟩, laterCanonical⟩
        · cases body

/-- The parser accepts the canonical encodings and nothing else. -/
theorem decode_eq_some_iff (bytes : List UInt8) (node : Node) :
    decode bytes = some node ↔ bytes = node.encode ∧ node.Each Canonical := by
  constructor
  · intro found
    simp only [decode, Option.bind_eq_bind, Option.bind_eq_some_iff] at found
    obtain ⟨nodes, read, single⟩ := found
    obtain ⟨rfl, canonical⟩ := encodeAll_readAll _ read
    split at single
    · cases single
      exact ⟨List.append_nil _, canonical.1⟩
    · cases single
  · rintro ⟨rfl, canonical⟩
    have whole : encodeAll [node] = node.encode := List.append_nil _
    have read :=
      readAll_encodeAll node.encode.length [node] ⟨canonical, trivial⟩
        (Nat.le_of_eq (by rw [whole]))
    rw [whole] at read
    rw [decode, read]
    rfl

theorem splitAll_encodeAll (fuel : Nat) (nodes : List Node) (canonical : EachOf Canonical nodes)
    (enough : (encodeAll nodes).length ≤ fuel) :
    splitAll fuel (encodeAll nodes) = some (nodes.map Node.encode) := by
  induction nodes generalizing fuel with
  | nil => cases fuel <;> rfl
  | cons node rest ih =>
    obtain ⟨tag, form, content, shape, definite⟩ := node.encode_eq canonical.1
    have read := readElement_element tag form definite (encodeAll rest)
    have shorter := element_length tag form content
    rw [encodeAll, List.length_append] at enough
    rw [← shape] at read shorter
    cases fuel with
    | zero => omega
    | succ fuel =>
      have later := ih fuel canonical.2 (by omega)
      rw [encodeAll, List.map_cons]
      generalize front : node.encode = encoding at read shorter
      cases encoding with
      | nil => cases shorter
      | cons byte bytes =>
        have width : (byte :: bytes ++ encodeAll rest).length - (encodeAll rest).length =
            (byte :: bytes).length := by
          rw [List.length_append, Nat.add_sub_cancel]
        rw [List.cons_append] at read width ⊢
        rw [splitAll, read]
        simp only [Option.bind_eq_bind, Option.bind_some, later, width]
        rw [← List.cons_append, List.take_left]

/-- The elements inside of an encoding are the encodings of its items. -/
theorem elements_encode {tag : Tag} {items : List Node}
    (canonical : (Node.constructed tag items).Each Canonical) :
    elements (Node.constructed tag items).encode = some (items.map Node.encode) := by
  obtain ⟨⟨definite, -⟩, inside⟩ := canonical
  have read := readElement_element tag true definite []
  rw [List.append_nil] at read
  rw [Node.encode, elements, read]
  exact splitAll_encodeAll _ items inside (Nat.le_refl _)

/-- No canonical encoding is the front of another one. -/
theorem encode_prefix {node other : Node} {rest tail : List UInt8} (canonical : node.Each Canonical)
    (otherCanonical : other.Each Canonical) (same : node.encode ++ rest = other.encode ++ tail) :
    node = other ∧ rest = tail := by
  obtain ⟨tag, form, content, shape, definite⟩ := node.encode_eq canonical
  obtain ⟨otherTag, otherForm, otherContent, otherShape, otherDefinite⟩ :=
    other.encode_eq otherCanonical
  have read := readElement_element tag form definite rest
  have otherRead := readElement_element otherTag otherForm otherDefinite tail
  rw [← shape, same, otherShape, otherRead] at read
  simp only [Option.some.injEq, Prod.mk.injEq] at read
  obtain ⟨⟨rfl, rfl⟩, rfl, rfl⟩ := read
  have decoded := (decode_eq_some_iff node.encode node).mpr ⟨rfl, canonical⟩
  have otherDecoded := (decode_eq_some_iff other.encode other).mpr ⟨rfl, otherCanonical⟩
  rw [shape, ← otherShape, otherDecoded] at decoded
  exact ⟨(Option.some.inj decoded).symm, rfl⟩

end Asn1
