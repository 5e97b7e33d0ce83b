import SkfService.Dispatch.Scopes
import SkfService.Protocol.PayloadGuard
import SkfService.Provider.Ciphers

/-! The payload guard admits more than the output buffer of a symmetric cipher holds. -/

set_option autoImplicit false

namespace SkfService

open Text Interaction Program Handler

def Enciphers (data : List UInt8) : Op → Prop
  | .provider (.encrypt _ _ _ _ handed) | .provider (.decrypt _ _ _ _ handed) => handed = data
  | _ => True

theorem scopes_enciphers (data : List UInt8) (op : Op) (scope : op.scopes = true) :
    Enciphers data op := by
  unfold Enciphers
  split
  · cases scope
  · cases scope
  · trivial

section requests

variable {ctx : SkfContext} {params : Params} {lang : Language} {dataB64 : String}
  {data : List UInt8}

theorem keeps_setSymmKey (container : Container) (symKey : Option (List UInt8)) (id : Option Json) :
    Keeps (Enciphers data) (setSymmKey container symKey lang id) := by
  cases symKey with
  | none => trivial
  | some keyBytes =>
    apply meets_ite
    · intro _
      trivial
    · intro _
      apply bind_call
      · trivial
      · intro reply _
        apply (watching_scoped (scopes_enciphers data)).bind_settled
        · intro e
          trivial
        · intro done
          trivial

/-- Whatever a cipher is called on is what the request's data decode to. -/
theorem keeps_withSymmetricKey {missingData invalidData : String}
    {cipher : Container → List UInt8 → ULONG → List UInt8 → Handler RpcResponse}
    (given : params.str 1 = some dataB64) (decodes : Params.Decodes dataB64 data)
    (ciphers : ∀ container iv padding, Keeps (Enciphers data) (cipher container iv padding data)) :
    Keeps (Enciphers data) (withSymmetricKey ctx params lang missingData invalidData cipher) := by
  have scope := watching_scoped (scopes_enciphers data)
  apply scope.bind_requiredStr
  intro certKey _
  apply scope.bind_requiredStr
  intro encoded same
  apply scope.bind_requiredStr
  intro ivB64 _
  apply bind_orReply
  · intro symKey _
    apply scope.bind_certKeyNames
    intro names
    apply scope.bind_decode
    intro dataBytes decoded
    -- The same parameter is decoded, so that these are the bytes in question.
    have exact_ : dataBytes = data := by
      rw [given, Option.some.injEq] at same
      subst same
      exact Option.some.inj (decoded.2.symm.trans decodes.2)
    subst exact_
    apply scope.bind_decode
    intro ivBytes _
    apply scope.bind_resolve
    intro library
    apply scope.withGrantedContainer
    intro container
    rw [meets_bind]
    apply (keeps_setSymmKey container symKey params.id).mono
    · intro _ _ _
      exact ciphers container ivBytes _
    · intro _ _ _
      trivial
  · intro _ _
    trivial

theorem keeps_encryptData (given : params.str 1 = some dataB64)
    (decodes : Params.Decodes dataB64 data) :
    Keeps (Enciphers data) (EncryptData.handle ctx params lang) := by
  apply keeps_withSymmetricKey given decodes
  intro container iv padding
  apply bind_call
  · exact rfl
  · intro reply _
    apply (watching_scoped (scopes_enciphers data)).bind_settled
    · intro e
      trivial
    · intro done
      trivial

theorem keeps_decryptData (given : params.str 1 = some dataB64)
    (decodes : Params.Decodes dataB64 data) :
    Keeps (Enciphers data) (DecryptData.handle ctx params lang) := by
  apply keeps_withSymmetricKey given decodes
  intro container iv padding
  apply bind_call
  · exact rfl
  · intro reply _
    apply (watching_scoped (scopes_enciphers data)).bind_settled
    · intro e
      trivial
    · intro done
      trivial

end requests

/-- Whatever the container, the algorithm and the parameters: the call has room for every legal
output of the data, and every such output is returned whole. -/
def Roomy (direction : Direction)
    (cipher : Container → ULONG → List UInt8 → ULONG → List UInt8 →
      Program Ciphers Empty (Except ProviderError (List UInt8))) (data : List UInt8) : Prop :=
  ∀ container algId iv padding, (cipher container algId iv padding data).Asks CipherCall.HasRoom ∧
    Serves direction data.length (cipher container algId iv padding data)

theorem roomy_iff (direction : Direction) (name : String) (data : List UInt8) :
    Roomy direction (NativeContainer.cipher direction name) data ↔
      direction.longest data.length ≤ SYM_BUF_LEN := by
  constructor
  · intro roomy
    have library : Library := ⟨"", none⟩
    exact NativeContainer.cipher_hasRoom_iff.mp (roomy ⟨⟨⟨library, "", 0⟩, "", 0⟩, "", 0⟩ 0 [] 0).1
  · intro fits container algId iv padding
    exact ⟨NativeContainer.cipher_hasRoom_iff.mpr fits, NativeContainer.cipher_serves_iff.mpr fits⟩

theorem encrypt_roomy_iff (data : List UInt8) :
    Roomy .encrypt NativeContainer.encrypt data ↔ data.length < SYM_BUF_LEN := by
  rw [NativeContainer.encrypt, roomy_iff, Direction.longest, SYM_BUF_LEN]
  omega

theorem decrypt_roomy_iff (data : List UInt8) :
    Roomy .decrypt NativeContainer.decrypt data ↔ data.length ≤ SYM_BUF_LEN := by
  rw [NativeContainer.decrypt, roomy_iff, Direction.longest]

/-- Of the data the guard admits, those are encrypted and decrypted with room enough that are
shorter than the output buffer, or for decryption as long as it; and nothing but the admitted data
is ever encrypted or decrypted. -/
theorem cipher_room_iff {params : Params} {dataB64 : String} {data : List UInt8}
    (given : params.str 1 = some dataB64) (decodes : Params.Decodes dataB64 data) :
    (Roomy .encrypt NativeContainer.encrypt data ↔ data.length < SYM_BUF_LEN) ∧
    (Roomy .decrypt NativeContainer.decrypt data ↔ data.length ≤ SYM_BUF_LEN) ∧
    ∀ ctx lang trace rest container algId iv padding handed,
      (Reaches (EncryptData.handle ctx params lang) trace rest → ∀ event ∈ trace,
        event.op = Op.provider (.encrypt container algId iv padding handed) → handed = data) ∧
      (Reaches (DecryptData.handle ctx params lang) trace rest → ∀ event ∈ trace,
        event.op = Op.provider (.decrypt container algId iv padding handed) → handed = data) := by
  refine ⟨encrypt_roomy_iff data, decrypt_roomy_iff data, ?_⟩
  intro ctx lang trace rest container algId iv padding handed
  constructor
  · intro ran event member same
    have keeps : Keeps (Enciphers data) (EncryptData.handle ctx params lang) :=
      keeps_encryptData given decodes
    have enciphers := keeps.asks.of_reaches ran event member
    rw [same] at enciphers
    exact enciphers
  · intro ran event member same
    have keeps : Keeps (Enciphers data) (DecryptData.handle ctx params lang) :=
      keeps_decryptData given decodes
    have enciphers := keeps.asks.of_reaches ran event member
    rw [same] at enciphers
    exact enciphers

/-- As many bytes as the output buffer has, which is a quarter of what the guard admits. -/
def fullBuffer : List UInt8 := List.replicate SYM_BUF_LEN 0

theorem fullBuffer_decodes : Params.Decodes (Base64.encode fullBuffer) fullBuffer := by
  refine ⟨?_, Base64.decode_encode _⟩
  rw [utf8_encode_length, fullBuffer, List.length_replicate]
  decide

theorem full_buffer_lacks_room : ¬∀ (params : Params) (dataB64 : String) (data : List UInt8),
    params.str 1 = some dataB64 → Params.Decodes dataB64 data →
      Roomy .encrypt NativeContainer.encrypt data := by
  intro roomy
  have room :=
    roomy ⟨[.null, .string (Base64.encode fullBuffer)], none⟩ _ fullBuffer rfl fullBuffer_decodes
  rw [encrypt_roomy_iff, fullBuffer, List.length_replicate] at room
  exact Nat.lt_irrefl _ room

theorem cipher_room_full : ¬Roomy .encrypt NativeContainer.encrypt fullBuffer ∧
    Roomy .decrypt NativeContainer.decrypt fullBuffer := by
  have room :=
    @cipher_room_iff ⟨[.null, .string (Base64.encode fullBuffer)], none⟩ _ _ rfl fullBuffer_decodes
  have length : fullBuffer.length = SYM_BUF_LEN := List.length_replicate
  rw [length] at room
  exact ⟨fun roomy => Nat.lt_irrefl _ (room.1.mp roomy), room.2.1.mpr (Nat.le_refl _)⟩

end SkfService
