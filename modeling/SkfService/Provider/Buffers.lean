import SkfService.Crypto.Der
import SkfService.Skf.Interface

/-! The byte buffers that cross into a vendor library.

A buffer is handed over as a bare pointer. What the vendor reads behind it is fixed either by a
length that is passed with it or by the structure the vendor takes the pointer for. -/

set_option autoImplicit false

namespace SkfService

structure BlockCipherParam where
  iv : List UInt8
  ivLen : ULONG
  paddingType : ULONG
  feedBitLen : ULONG
  ivLength : iv.length = 32

/-- The declared length is that of the whole IV; what is copied is at most the array. -/
def blockCipherParam (iv : List UInt8) (padding : ULONG) : BlockCipherParam :=
  ⟨fitted 32 iv, .ofNat iv.length, padding, 0, fitted_length _ _⟩

def BlockCipherParam.declared (param : BlockCipherParam) : List UInt8 :=
  param.iv.take param.ivLen.toNat

/-- `ECCCIPHERBLOB`: two coordinates, a hash, a length and one byte, aligned to four. -/
def ECCCIPHERBLOB_SIZE : Nat := 64 + 64 + 32 + 4 + 1 + 3

/-- `ENVELOPEDKEYBLOB`: a version, an algorithm, a length, the encrypted private key, the public key
and the cipher blob. -/
def ENVELOPEDKEYBLOB_SIZE : Nat := 4 + 4 + 4 + 64 + ECCPUBLICKEYBLOB_SIZE + ECCCIPHERBLOB_SIZE

/-- The bytes behind a pointer, and how many of them the vendor is told. -/
structure Buffer where
  held : Nat
  told : Nat

namespace Buffer

def sized (length : Nat) : Buffer := ⟨length, (UInt32.ofNat length).toNat⟩

def laidOut (bytes : List UInt8) (size : Nat) : Buffer := ⟨bytes.length, size⟩

def ofParam (param : BlockCipherParam) : Buffer := ⟨param.iv.length, param.ivLen.toNat⟩

def Sound (buffer : Buffer) : Prop := buffer.told ≤ buffer.held

@[simp] theorem sized_sound (length : Nat) : (sized length).Sound := by
  have wraps : (UInt32.ofNat length).toNat = length % 4294967296 := UInt32.toNat_ofNat'
  rw [Sound, sized, wraps]
  exact Nat.mod_le _ _

@[simp] theorem laidOut_sound_iff (bytes : List UInt8) (size : Nat) :
    (laidOut bytes size).Sound ↔ size ≤ bytes.length := Iff.rfl

end Buffer

/-- The length of an IV that 32 bits can hold is declared as it is. -/
theorem blockCipherParam_ivLen {iv : List UInt8} (padding : ULONG)
    (small : iv.length < 4294967296) :
    (blockCipherParam iv padding).ivLen.toNat = iv.length := by
  have wraps : (UInt32.ofNat iv.length).toNat = iv.length % 4294967296 := UInt32.toNat_ofNat'
  rw [blockCipherParam, wraps]
  exact Nat.mod_eq_of_lt small

theorem ofParam_sound_iff {iv : List UInt8} (padding : ULONG) (small : iv.length < 4294967296) :
    (Buffer.ofParam (blockCipherParam iv padding)).Sound ↔ iv.length ≤ 32 := by
  rw [Buffer.Sound, Buffer.ofParam, blockCipherParam_ivLen padding small, BlockCipherParam.ivLength]

/-- The vendor finds the whole IV in the array unless it is longer than the array. -/
theorem declared_eq_iff {iv : List UInt8} (padding : ULONG) (small : iv.length < 4294967296) :
    (blockCipherParam iv padding).declared = iv ↔ iv.length ≤ 32 := by
  rw [BlockCipherParam.declared, blockCipherParam_ivLen padding small]
  constructor
  · intro same
    have lengths := congrArg List.length same
    rw [List.length_take, BlockCipherParam.ivLength] at lengths
    omega
  · intro short
    simp only [blockCipherParam, fitted, List.take_of_length_le short, List.take_left']

/-- The buffers a call of the provider traits hands over. The key of `beginDigestWithKey` is a blob
of the provider's own. -/
def ProviderOp.buffers : ProviderOp → List Buffer
  | .random _ len => [.sized len]
  | .beginDigest _ _ id | .beginDigestWithKey _ _ id _ => [.sized id.length]
  | .importCertificate _ _ cert => [.sized cert.length]
  | .signEcc _ data | .signRsa _ data | .update _ data => [.sized data.length]
  | .setSymmKey _ _ key => [.sized key.length]
  | .encrypt _ _ iv padding data | .decrypt _ _ iv padding data =>
    [.sized data.length, .ofParam (blockCipherParam iv padding)]
  | _ => []

/-- The buffers a direct call hands over, apart from names and the dispatcher's own output buffers. -/
def VendorOp.buffers : VendorOp → List Buffer
  | .importEccKeyPair _ blob => [.laidOut blob ENVELOPEDKEYBLOB_SIZE]
  | .importRsaKeyPair _ _ wrapKey encKey => [.sized wrapKey.length, .sized encKey.length]
  | .digest _ data _ => [.sized data.length]
  | .transmit _ command _ => [.sized command.length]
  | .eccVerify _ key data signature =>
    [.laidOut key ECCPUBLICKEYBLOB_SIZE, .sized data.length,
      .laidOut signature ECCSIGNATUREBLOB_SIZE]
  | .rsaVerify _ key data signature =>
    [.laidOut key RSAPUBLICKEYBLOB_SIZE, .sized data.length, .sized signature.length]
  | _ => []

def Op.buffers : Op → List Buffer
  | .provider op => op.buffers
  | .vendor op => op.buffers
  | _ => []

def Op.Covered (op : Op) : Prop := ∀ buffer ∈ op.buffers, buffer.Sound

/-- The calls with a pointer to a structure, where a length can be wrong. -/
def Op.structured : Op → Bool
  | .provider (.encrypt ..) | .provider (.decrypt ..) => true
  | .vendor (.importEccKeyPair ..) | .vendor (.eccVerify ..) | .vendor (.rsaVerify ..) => true
  | _ => false

theorem Op.covered_of_unstructured {op : Op} (plain : op.structured = false) : op.Covered := by
  intro buffer member
  cases op with
  | session op => cases member
  | host op => cases member
  | provider op =>
    cases op with
    | encrypt | decrypt => cases plain
    | random | beginDigest | beginDigestWithKey | importCertificate | signEcc | signRsa | update
    | setSymmKey =>
      rw [List.mem_singleton.mp member]
      exact Buffer.sized_sound _
    | _ => cases member
  | vendor op =>
    cases op with
    | importEccKeyPair | eccVerify | rsaVerify => cases plain
    | importRsaKeyPair =>
      rcases List.mem_pair.mp member with rfl | rfl
      · exact Buffer.sized_sound _
      · exact Buffer.sized_sound _
    | digest | transmit =>
      rw [List.mem_singleton.mp member]
      exact Buffer.sized_sound _
    | _ => cases member

def Op.payload : Op → List (List UInt8)
  | .provider (.beginDigest _ _ id) => [id]
  | .provider (.importCertificate _ _ cert) => [cert]
  | .provider (.signEcc _ data) | .provider (.signRsa _ data) | .provider (.update _ data) => [data]
  | .provider (.setSymmKey _ _ key) => [key]
  | .provider (.encrypt _ _ iv padding data) | .provider (.decrypt _ _ iv padding data) =>
    [data, (blockCipherParam iv padding).declared]
  | .vendor (.importEccKeyPair _ blob) => [blob]
  | .vendor (.importRsaKeyPair _ _ wrapKey encKey) => [encKey, wrapKey]
  | .vendor (.digest _ data _) => [data]
  | .vendor (.transmit _ command _) => [command]
  | .vendor (.eccVerify _ key data signature) | .vendor (.rsaVerify _ key data signature) =>
    [key, data, signature]
  | _ => []

end SkfService
