import SkfService.Crypto.Encoding

/-! Trees of values built with the DER helpers: a strict decoder reads back the tree that was
written. -/

set_option autoImplicit false

namespace SkfService

open Asn1

/-- A tree of values; `I` is what an integer leaf holds. -/
inductive DerTree (I : Type)
  | sequence (items : List (DerTree I))
  | set (items : List (DerTree I))
  | context0 (items : List (DerTree I))
  | bitString (content : List UInt8)
  | oid (oidBytes : List UInt8)
  | utf8String (s : String)
  | printableString (s : String)
  | integer (value : I)

inductive DerInteger
  | small (val : UInt8) (inRange : val < 128)
  | bytes (bytes : List UInt8) (nonempty : bytes ≠ [])

def DerInteger.value : DerInteger → Nat
  | .small val _ => val.toNat
  | .bytes content _ => bigEndian content

def DerInteger.encode : DerInteger → Option (List UInt8)
  | .small val _ => some (derSmallInteger val)
  | .bytes content _ => derEncodeInteger content

namespace DerTree

variable {I J : Type}

mutual

def map (f : I → J) : DerTree I → DerTree J
  | .sequence items => .sequence (mapAll f items)
  | .set items => .set (mapAll f items)
  | .context0 items => .context0 (mapAll f items)
  | .bitString content => .bitString content
  | .oid oidBytes => .oid oidBytes
  | .utf8String s => .utf8String s
  | .printableString s => .printableString s
  | .integer value => .integer (f value)

def mapAll (f : I → J) : List (DerTree I) → List (DerTree J)
  | [] => []
  | tree :: trees => tree.map f :: mapAll f trees

end

mutual

def encode : DerTree DerInteger → Option (List UInt8)
  | .sequence items => (encodeAll items).map derSequence
  | .set items => (encodeAll items).map derSet
  | .context0 items => (encodeAll items).map fun parts => derContext0 parts.flatten
  | .bitString content => some (derBitString content)
  | .oid oidBytes => some (derOid oidBytes)
  | .utf8String s => some (derUtf8String s)
  | .printableString s => some (derPrintableString s)
  | .integer value => value.encode

def encodeAll : List (DerTree DerInteger) → Option (List (List UInt8))
  | [] => some []
  | tree :: trees => do
    let first ← tree.encode
    let rest ← encodeAll trees
    some (first :: rest)

end

mutual

def node : DerTree Nat → Node
  | .sequence items => .constructed .sequence (nodes items)
  | .set items => .constructed .set (nodes items)
  | .context0 items => .constructed .context0 (nodes items)
  | .bitString content => bits content
  | .oid oidBytes => .primitive .objectIdentifier oidBytes
  | .utf8String s => .primitive .utf8String (Text.utf8 s)
  | .printableString s => .primitive .printableString (Text.utf8 s)
  | .integer value => natural value

def nodes : List (DerTree Nat) → List Node
  | [] => []
  | tree :: trees => tree.node :: nodes trees

end

def leafOf (tag : Tag) (content : List UInt8) : Option (DerTree Nat) :=
  if tag = .integer then (naturalOf (.primitive tag content)).map .integer
  else if tag = .bitString then if content.head? =
    some 0 then some (.bitString content.tail) else none
  else if tag = .objectIdentifier then some (.oid content)
  else if tag = .utf8String then (Text.fromUtf8 content).map .utf8String
  else if tag = .printableString then (Text.fromUtf8 content).map .printableString
  else none

mutual

def ofNode : Node → Option (DerTree Nat)
  | .primitive tag content => leafOf tag content
  | .constructed tag items => do
    let trees ← ofNodes items
    if tag = .sequence then some (.sequence trees)
    else if tag = .set then some (.set trees)
    else if tag = .context0 then some (.context0 trees)
    else none

def ofNodes : List Node → Option (List (DerTree Nat))
  | [] => some []
  | node :: nodes => do
    let tree ← ofNode node
    let trees ← ofNodes nodes
    some (tree :: trees)

end

/-- A strict decoder of trees. -/
def decode (bytes : List UInt8) : Option (DerTree Nat) := do
  let node ← Asn1.decode bytes
  ofNode node

/-- What a tree of helper calls says, its integers by their values. -/
def said (tree : DerTree DerInteger) : DerTree Nat := tree.map DerInteger.value

/-- Every content that the helpers wrap is at most 65535 bytes long. -/
def Small (tree : DerTree DerInteger) : Prop := ∀ n ∈ derLengths tree.said.node, n ≤ 65535

section writing

theorem DerInteger.encode_eq (value : DerInteger) :
    value.encode = some (derWrite (natural value.value)) := by
  cases value with
  | small val inRange =>
    have each : ∀ n : Fin 128,
        some (derSmallInteger (.ofNat n)) = some (derWrite (natural n)) := by decide
    have found := each ⟨val.toNat, inRange⟩
    rw [UInt8.ofNat_toNat] at found
    exact found
  | bytes content nonempty => exact derEncodeInteger_write nonempty

mutual

theorem encode_eq : (tree : DerTree DerInteger) → tree.encode = some (derWrite tree.said.node)
  | .sequence items => by
    rw [encode, encodeAll_eq items, Option.map_some, derSequence_write]
    rfl
  | .set items => by
    rw [encode, encodeAll_eq items, Option.map_some, derSet_write]
    rfl
  | .context0 items => by
    rw [encode, encodeAll_eq items, Option.map_some, flatten_derWrite]
    rfl
  | .bitString _ => rfl
  | .oid _ => rfl
  | .utf8String _ => rfl
  | .printableString _ => rfl
  | .integer value => DerInteger.encode_eq value

theorem encodeAll_eq : (trees : List (DerTree DerInteger)) →
    encodeAll trees = some ((nodes (mapAll DerInteger.value trees)).map derWrite)
  | [] => rfl
  | tree :: trees => by
    rw [encodeAll, encode_eq tree, encodeAll_eq trees]
    rfl

end

end writing

section reading

mutual

theorem ofNode_node : (tree : DerTree Nat) → ofNode tree.node = some tree
  | .sequence items => by
    rw [node, ofNode, ofNodes_nodes items]
    rfl
  | .set items => by
    rw [node, ofNode, ofNodes_nodes items]
    rfl
  | .context0 items => by
    rw [node, ofNode, ofNodes_nodes items]
    rfl
  | .bitString _ => rfl
  | .oid _ => rfl
  | .utf8String s => by
    have read := Text.fromUtf8_utf8 s
    simp [node, ofNode, leafOf, read, Tag.integer, Tag.bitString, Tag.objectIdentifier,
      Tag.utf8String]
  | .printableString s => by
    have read := Text.fromUtf8_utf8 s
    simp [node, ofNode, leafOf, read, Tag.integer, Tag.bitString, Tag.objectIdentifier,
      Tag.utf8String, Tag.printableString]
  | .integer value => by
    have read := naturalOf_natural value
    rw [natural] at read
    rw [node, natural, ofNode, leafOf, if_pos rfl, read]
    rfl

theorem ofNodes_nodes : (trees : List (DerTree Nat)) → ofNodes (nodes trees) = some trees
  | [] => rfl
  | tree :: trees => by
    rw [nodes, ofNodes, ofNode_node tree, ofNodes_nodes trees]
    rfl

end

mutual

theorem node_proper : (tree : DerTree Nat) → tree.node.Proper
  | .sequence items => Node.proper_constructed (nodes_proper items)
  | .set items => Node.proper_constructed (nodes_proper items)
  | .context0 items => Node.proper_constructed (nodes_proper items)
  | .bitString content => bits_proper content
  | .oid _ => fun _ => rfl
  | .utf8String _ => fun _ => rfl
  | .printableString _ => fun _ => rfl
  | .integer value => natural_proper value

theorem nodes_proper : (trees : List (DerTree Nat)) → EachOf ProperContent (nodes trees)
  | [] => trivial
  | tree :: trees => ⟨node_proper tree, nodes_proper trees⟩

end

theorem Small.short {tree : DerTree DerInteger} (small : tree.Small) : tree.said.node.Short 65536 :=
  short_of_derLengths _ fun n member => Nat.lt_succ_of_le (small n member)

theorem Small.canonical {tree : DerTree DerInteger} (small : tree.Small) :
    tree.said.node.Each Canonical :=
  Node.canonical (node_proper _) small.short

theorem Small.encode {tree : DerTree DerInteger} (small : tree.Small) :
    tree.encode = some tree.said.node.encode := by
  rw [encode_eq, derWrite_eq _ small.short]

theorem Small.decode {tree : DerTree DerInteger} (small : tree.Small) :
    decode tree.said.node.encode = some tree.said := by
  have read := (decode_eq_some_iff tree.said.node.encode tree.said.node).mpr ⟨rfl, small.canonical⟩
  rw [DerTree.decode, read]
  exact ofNode_node _

end reading

/-- A tree is read back from what the helpers wrote for it, and what they write for two trees starts
the same only where the trees say the same. -/
theorem der_tree_round_trip {tree other : DerTree DerInteger} (small : tree.Small)
    (otherSmall : other.Small) :
    ∃ der otherDer,
      tree.encode = some der ∧ other.encode = some otherDer ∧ decode der = some tree.said ∧
      (der = otherDer → tree.said = other.said) ∧
      ∀ rest tail, der ++ rest = otherDer ++ tail → tree.said = other.said ∧ rest = tail := by
  refine ⟨_, _, small.encode, otherSmall.encode, small.decode, ?_, ?_⟩
  · intro same
    have read := small.decode
    rw [same, otherSmall.decode] at read
    exact (Option.some.inj read).symm
  · intro rest tail same
    obtain ⟨sameNode, sameRest⟩ := encode_prefix small.canonical otherSmall.canonical same
    have read := ofNode_node tree.said
    rw [sameNode, ofNode_node] at read
    exact ⟨(Option.some.inj read).symm, sameRest⟩

/-- A key in a sequence next to an empty set: a sign bit to pad and a zero to strip. -/
def sample : DerTree DerInteger :=
  .sequence [.integer (.bytes [0x00, 0x80] (by decide)), .integer (.small 5 (by decide)), .set [],
    .context0 [.bitString [0xFF], .oid [0x2A], .utf8String "a", .printableString "b"]]

theorem sample_small : sample.Small := by
  unfold Small
  decide

def cousin : DerTree DerInteger :=
  .sequence [.integer (.bytes [0x00, 0x80] (by decide)), .integer (.small 5 (by decide)), .set [],
    .context0 [.bitString [0xFF], .oid [0x2A], .utf8String "a", .printableString "c"]]

theorem cousin_small : cousin.Small := by
  unfold Small
  decide

/-- Each tree is read back as its own. -/
theorem der_tree_round_trip_cousins :
    ∃ der otherDer, sample.encode = some der ∧ cousin.encode = some otherDer ∧
      decode der = some sample.said ∧ (der = otherDer → sample.said = cousin.said) ∧
        ∀ rest tail, der ++ rest = otherDer ++ tail → sample.said = cousin.said ∧ rest = tail :=
  der_tree_round_trip sample_small cousin_small

end DerTree
end SkfService
