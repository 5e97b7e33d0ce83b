import SkfService.Interaction.Asks
import SkfService.Provider.Buffers

/-! The native container's symmetric cipher, and whether its output buffer has room for what a
cipher may write. -/

set_option autoImplicit false

namespace SkfService

open Interaction Program

def SYM_BUF_LEN : Nat := 64 * 1024

inductive Direction
  | encrypt
  | decrypt
  deriving DecidableEq

/-- One call of `SKF_EncryptData` or `SKF_DecryptData`: `room` bytes lie behind the output pointer,
and `capacity` is what the vendor is told of them. -/
structure CipherCall where
  direction : Direction
  raw : Nat
  algId : ULONG
  data : List UInt8
  dataLen : ULONG
  param : BlockCipherParam
  room : Nat
  capacity : ULONG

def Ciphers : Signature := ⟨CipherCall, fun _ => Filled⟩

namespace NativeContainer

/-- The buffer is cut to the reported size; a size beyond the buffer leaves it as it is. -/
def written (room : Nat) (name : String) (answer : Filled) : Except ProviderError (List UInt8) :=
  if answer.ret ≠ SAR_OK then .error (.fromNative answer.ret name)
  else .ok ((answer.memory.take room).take answer.size.toNat)

def call (direction : Direction) (container : Container) (algId : ULONG) (iv : List UInt8)
    (padding : ULONG) (data : List UInt8) : CipherCall :=
  ⟨direction, container.raw, algId, data, .ofNat data.length, blockCipherParam iv padding,
    SYM_BUF_LEN,
    .ofNat SYM_BUF_LEN⟩

def cipher (direction : Direction) (name : String) (container : Container) (algId : ULONG)
    (iv : List UInt8) (padding : ULONG) (data : List UInt8) :
    Program Ciphers Empty (Except ProviderError (List UInt8)) := do
  let answer ← Program.ask (I := Ciphers) (call direction container algId iv padding data)
  return written SYM_BUF_LEN name answer

def encrypt : Container → ULONG → List UInt8 → ULONG → List UInt8 →
    Program Ciphers Empty (Except ProviderError (List UInt8)) := cipher .encrypt "EncryptData"

def decrypt : Container → ULONG → List UInt8 → ULONG → List UInt8 →
    Program Ciphers Empty (Except ProviderError (List UInt8)) := cipher .decrypt "DecryptData"

end NativeContainer

/-- The longest output a cipher with blocks of 16 bytes may have: a whole block of padding, or none
taken away. -/
def Direction.longest : Direction → Nat → Nat
  | .encrypt, length => (length / 16 + 1) * 16
  | .decrypt, length => length

structure CipherCall.HasRoom (call : CipherCall) : Prop where
  room : call.direction.longest call.data.length ≤ call.room
  told : call.direction.longest call.data.length ≤ call.capacity.toNat

/-- A vendor that has an output to give, and refuses a buffer it does not fit in with a code of its
own. -/
def giving (output : List UInt8) (refusal : ULONG) (call : CipherCall) : Filled :=
  if output.length ≤ call.capacity.toNat then
    ⟨SAR_OK, .ofNat output.length, output ++ List.replicate (call.room - output.length) 0⟩
  else ⟨refusal, .ofNat output.length, List.replicate call.room 0⟩

/-- Every legal output comes back whole, whatever code the vendor would refuse it with. -/
def Serves (direction : Direction) (length : Nat)
    (p : Program Ciphers Empty (Except ProviderError (List UInt8))) : Prop :=
  ∀ output refusal, output.length ≤ direction.longest length → refusal ≠ SAR_OK →
    ∀ trace outcome, (∀ event ∈ trace, event.reply = giving output refusal event.op) →
      p.Finishes trace (.ok outcome) → outcome = .ok output

namespace NativeContainer

variable {direction : Direction} {name : String} {container : Container} {algId padding : ULONG}
  {iv data output : List UInt8}

theorem capacity_eq : (UInt32.ofNat SYM_BUF_LEN).toNat = SYM_BUF_LEN := by decide

theorem cipher_hasRoom_iff :
    (cipher direction name container algId iv padding data).Asks CipherCall.HasRoom ↔
    direction.longest data.length ≤ SYM_BUF_LEN := by
  constructor
  · intro asks
    exact asks.1.room
  · intro fits
    refine ⟨⟨fits, ?_⟩, fun answer => trivial⟩
    dsimp only [call]
    rwa [capacity_eq]

/-- What the vendor gives is returned whole if it fits the buffer, and is an error otherwise. -/
theorem cipher_giving {refusal : ULONG} (refuses : refusal ≠ SAR_OK) {trace : List (Event Ciphers)}
    {outcome : Except ProviderError (List UInt8)}
    (answers : ∀ event ∈ trace, event.reply = giving output refusal event.op)
    (ran : (cipher direction name container algId iv padding data).Finishes trace (.ok outcome)) :
    outcome = if output.length ≤ SYM_BUF_LEN then .ok output
      else .error (.fromNative refusal name) := by
  unfold cipher at ran
  cases ran with
  | step answer ended =>
    have given := answers _ List.mem_cons_self
    dsimp only [call] at given
    subst given
    cases ended
    by_cases fits : output.length ≤ SYM_BUF_LEN
    · have told : output.length ≤ (UInt32.ofNat SYM_BUF_LEN).toNat := by rwa [capacity_eq]
      have size : (UInt32.ofNat output.length).toNat = output.length := by
        apply UInt32.toNat_ofNat_of_lt
        exact Nat.lt_of_le_of_lt fits (by decide)
      rw [if_pos fits, giving, if_pos told, written, if_neg (by simp)]
      dsimp only
      rw [size, List.take_take, Nat.min_eq_left fits, List.take_left']
      rfl
    · have told : ¬output.length ≤ (UInt32.ofNat SYM_BUF_LEN).toNat := by rwa [capacity_eq]
      rw [if_neg fits, giving, if_neg told, written, if_pos refuses]

theorem cipher_answered (answer : CipherCall → Filled) : ∃ trace outcome,
    (∀ event ∈ trace, event.reply = answer event.op) ∧
      (cipher direction name container algId iv padding data).Finishes trace (.ok outcome) := by
  let asked := call direction container algId iv padding data
  refine ⟨[⟨asked, answer asked⟩], written SYM_BUF_LEN name (answer asked), ?_, .step _ (.refl _)⟩
  intro event member
  rw [List.mem_singleton.mp member]

theorem cipher_serves_iff :
    Serves direction data.length (cipher direction name container algId iv padding data) ↔
      direction.longest data.length ≤ SYM_BUF_LEN := by
  constructor
  · intro serves
    by_contra long
    have length : (List.replicate (direction.longest data.length) (0 : UInt8)).length =
        direction.longest data.length :=
      List.length_replicate
    have refuses : (1 : ULONG) ≠ SAR_OK := by decide
    obtain ⟨trace, outcome, answers, ran⟩ : ∃ trace outcome,
        (∀ event ∈ trace,
          event.reply = giving (List.replicate (direction.longest data.length) 0) 1 event.op) ∧
          (cipher direction name container algId iv padding data).Finishes trace (.ok outcome) :=
      cipher_answered _
    have whole := serves _ _ (Nat.le_of_eq length) refuses trace outcome answers ran
    have refused := cipher_giving refuses answers ran
    rw [length, if_neg long, whole] at refused
    cases refused
  · intro fits output refusal legal refuses trace outcome answers ran
    rw [cipher_giving refuses answers ran, if_pos (Nat.le_trans legal fits)]

end NativeContainer

end SkfService
