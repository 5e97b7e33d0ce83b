import SkfService.Asn1.Pkcs10
import SkfService.Crypto.Der

/-! The DER helpers write trees of elements: what they write for any tree, and that it is the
encoding of the tree as long as no content reaches 65536 bytes. -/

set_option autoImplicit false

namespace SkfService

open Asn1

mutual

def derWrite : Node → List UInt8
  | .primitive tag content => derWrap (tag.octet false) content
  | .constructed tag items => derWrap (tag.octet true) (derWriteAll items)

def derWriteAll : List Node → List UInt8
  | [] => []
  | node :: nodes => derWrite node ++ derWriteAll nodes

end

mutual

/-- The content lengths the helpers encode while they write a tree. -/
def derLengths : Node → List Nat
  | .primitive _ content => [content.length]
  | .constructed _ items => derLengthsAll items ++ [(derWriteAll items).length]

def derLengthsAll : List Node → List Nat
  | [] => []
  | node :: nodes => derLengths node ++ derLengthsAll nodes

end

section lengths

theorem derEncodeLength_eq {n : Nat} (small : n < 65536) : derEncodeLength n = lengthOctets n := by
  unfold derEncodeLength lengthOctets
  split
  · rfl
  · split
    · next large medium =>
      rw [octets_of_lt medium (by omega), List.length_singleton]
      rfl
    · next large notMedium =>
      rw [octets_two (by omega) small, List.length_cons, List.length_singleton]
      rfl

/-- The length of an element, as the helpers write it, from the length of its contents. -/
def headed (n : Nat) : Nat := if n < 128 then n + 2 else if n < 256 then n + 3 else n + 4

theorem derWrap_length (tag : UInt8) (content : List UInt8) :
    (derWrap tag content).length = headed content.length := by
  rw [derWrap, List.cons_append, List.length_cons, List.length_append]
  unfold derEncodeLength headed
  split
  · rw [List.length_singleton]
    omega
  · split
    · rw [List.length_cons, List.length_singleton]
      omega
    · rw [List.length_cons, List.length_cons, List.length_singleton]
      omega

/-- A header takes at most four bytes. -/
theorem derWrap_length_le (tag : UInt8) (content : List UInt8) :
    (derWrap tag content).length ≤ content.length + 4 := by
  rw [derWrap_length]
  unfold headed
  split
  · omega
  · split <;> omega

/-- Above 65535 the header states another length, so what is written is no element with these tags. -/
theorem derWrap_ne_element (tag : Tag) (constructed : Bool) {content other : List UInt8}
    (large : 65536 ≤ content.length) (definite : Definite other.length) :
    derWrap (tag.octet constructed) content ≠ element tag constructed other := by
  intro same
  have lengths := congrArg List.length same
  rw [derWrap, element, derEncodeLength, if_neg (by omega), if_neg (by omega)] at same
  rw [derWrap_length, headed, if_neg (by omega), if_neg (by omega)] at lengths
  simp only [element, List.length_cons, List.length_append] at lengths
  simp only [List.cons_append, List.cons.injEq, true_and] at same
  unfold lengthOctets at same lengths
  split at same
  · next short =>
    -- The short form would be the octet of the long form.
    simp only [if_pos short, List.length_singleton] at lengths
    omega
  · next long =>
    rw [if_neg long, List.length_cons] at lengths
    simp only [List.cons_append, List.cons.injEq] at same
    have first := congrArg UInt8.toNat same.1
    have bounded := bigEndian_lt (octets other.length)
    unfold Definite at definite
    rw [UInt8.toNat_ofNat_of_lt' (by change 128 + _ < 256; omega)] at first
    have count : (octets other.length).length = 2 := by
      change 130 = _ at first
      omega
    rw [bigEndian_octets, count] at bounded
    omega

theorem derWrap_eq (tag : Tag) (constructed : Bool) {content : List UInt8}
    (small : content.length < 65536) :
    derWrap (tag.octet constructed) content = element tag constructed content := by
  rw [derWrap, element, derEncodeLength_eq small]
  rfl

mutual

theorem derWrite_eq : (node : Node) → node.Short 65536 → derWrite node = node.encode
  | .primitive tag content, short => by
    rw [derWrite, Node.encode]
    exact derWrap_eq tag false short
  | .constructed tag items, short => by
    rw [derWrite, Node.encode, derWriteAll_eq items short.2]
    exact derWrap_eq tag true short.1

theorem derWriteAll_eq :
    (nodes : List Node) → EachOf (fun _ _ content => content.length < 65536) nodes →
    derWriteAll nodes = encodeAll nodes
  | [], _ => rfl
  | node :: nodes, short => by
    rw [derWriteAll, encodeAll, derWrite_eq node short.1, derWriteAll_eq nodes short.2]

end

mutual

/-- Lengths that fit the encoder are the lengths of the tree. -/
theorem short_of_derLengths : (node : Node) → (∀ n ∈ derLengths node, n < 65536) → node.Short 65536
  | .primitive tag content, small => small content.length (List.mem_singleton_self _)
  | .constructed tag items, small => by
    simp only [derLengths, List.mem_append, List.mem_singleton] at small
    have inside := shortOf_derLengths items fun n member => small n (.inl member)
    have whole := small _ (.inr rfl)
    rw [derWriteAll_eq items inside] at whole
    exact ⟨whole, inside⟩

theorem shortOf_derLengths : (nodes : List Node) → (∀ n ∈ derLengthsAll nodes, n < 65536) →
    EachOf (fun _ _ content => content.length < 65536) nodes
  | [], _ => trivial
  | node :: nodes, small => by
    simp only [derLengthsAll, List.mem_append] at small
    exact ⟨short_of_derLengths node fun n member => small n (.inl member),
      shortOf_derLengths nodes fun n member => small n (.inr member)⟩

end

mutual

theorem derLengths_lt : (node : Node) → ∀ n ∈ derLengths node, n < (derWrite node).length
  | .primitive tag content, n, member => by
    rw [derLengths, List.mem_singleton] at member
    rw [member, derWrite, derWrap, List.cons_append, List.length_cons, List.length_append]
    omega
  | .constructed tag items, n, member => by
    rw [derWrite, derWrap, List.cons_append, List.length_cons, List.length_append]
    simp only [derLengths, List.mem_append, List.mem_singleton] at member
    rcases member with inside | whole
    · have below := derLengthsAll_lt items n inside
      omega
    · omega

theorem derLengthsAll_lt :
    (nodes : List Node) → ∀ n ∈ derLengthsAll nodes, n < (derWriteAll nodes).length
  | node :: nodes, n, member => by
    simp only [derLengthsAll, List.mem_append] at member
    rw [derWriteAll, List.length_append]
    rcases member with here | later
    · have below := derLengths_lt node n here
      omega
    · have below := derLengthsAll_lt nodes n later
      omega

end

mutual

theorem derLengths_small : (node : Node) → node.Short 65536 → ∀ n ∈ derLengths node, n < 65536
  | .primitive tag content, short, n, member => by
    rw [derLengths, List.mem_singleton] at member
    rw [member]
    exact short
  | .constructed tag items, short, n, member => by
    simp only [derLengths, List.mem_append, List.mem_singleton] at member
    rcases member with inside | whole
    · exact derLengthsAll_small items short.2 n inside
    · rw [whole, derWriteAll_eq items short.2]
      exact short.1

theorem derLengthsAll_small :
    (nodes : List Node) → EachOf (fun _ _ content => content.length < 65536) nodes →
    ∀ n ∈ derLengthsAll nodes, n < 65536
  | node :: nodes, short, n, member => by
    simp only [derLengthsAll, List.mem_append] at member
    rcases member with here | later
    · exact derLengths_small node short.1 n here
    · exact derLengthsAll_small nodes short.2 n later

end

/-- What is no longer than 65536 bytes has lengths that fit. -/
theorem short_of_derWrite {node : Node} (small : (derWrite node).length ≤ 65536) :
    node.Short 65536 := by
  apply short_of_derLengths
  intro n member
  exact Nat.lt_of_lt_of_le (derLengths_lt node n member) small

end lengths

section helpers

theorem flatten_derWrite (items : List Node) :
    (items.map derWrite).flatten = derWriteAll items := by
  induction items with
  | nil => rfl
  | cons item rest ih => rw [List.map_cons, List.flatten_cons, ih, derWriteAll]

theorem derSequence_write (items : List Node) :
    derSequence (items.map derWrite) = derWrite (.constructed .sequence items) := by
  rw [derSequence, flatten_derWrite]
  rfl

theorem derSet_write (items : List Node) :
    derSet (items.map derWrite) = derWrite (.constructed .set items) := by
  rw [derSet, flatten_derWrite]
  rfl

/-- Leading zeros stripped and the sign bit padded, an unsigned array is the integer of its value. -/
theorem derEncodeInteger_write {bytes : List UInt8} (some : bytes ≠ []) :
    derEncodeInteger bytes = .some (derWrite (natural (bigEndian bytes))) := by
  have head : (bytes.dropWhile (· == 0)).head? ≠ .some 0 := by
    intro zero
    have found := List.head?_dropWhile_not (· == (0 : UInt8)) bytes
    rw [zero] at found
    cases found
  rw [derEncodeInteger, if_neg some, natural, derWrite, derWrap, naturalOctets,
    ← bigEndian_dropWhile bytes, octets_bigEndian head]
  cases bytes.dropWhile (· == 0) with
  | nil => rfl
  | cons first rest => rfl

theorem naturalOctets_length (bytes : List UInt8) :
    (naturalOctets (bigEndian bytes)).length ≤ bytes.length + 1 := by
  have head : (bytes.dropWhile (· == 0)).head? ≠ some 0 := by
    intro zero
    have found := List.head?_dropWhile_not (· == (0 : UInt8)) bytes
    rw [zero] at found
    cases found
  have shorter := (List.dropWhile_sublist (· == (0 : UInt8)) (l := bytes)).length_le
  rw [naturalOctets, ← bigEndian_dropWhile bytes, octets_bigEndian head]
  split
  · rw [List.length_cons]
    omega
  · omega

end helpers

end SkfService
