import SkfService.Machine.Layout
import SkfService.Provider.Buffers

/-! The structures of the vendor interface, as their declarations lay them out. -/

set_option autoImplicit false

namespace SkfService

open Machine

def ulong (name : String) : Field := ⟨name, .u32⟩

def byteArray (name : String) (n : Nat) : Field := ⟨name, .array .u8 n⟩

def ECCPUBLICKEYBLOB : List Field :=
  [ulong "BitLen", byteArray "XCoordinate" 64, byteArray "YCoordinate" 64]

def RSAPUBLICKEYBLOB : List Field :=
  [ulong "AlgID", ulong "BitLen", byteArray "Modulus" 256, byteArray "PublicExponent" 4]

/-- The last field stands for as many bytes as the length before it says. -/
def ECCCIPHERBLOB : List Field :=
  [byteArray "XCoordinate" 64, byteArray "YCoordinate" 64, byteArray "Hash" 32, ulong "CipherLen",
    byteArray "Cipher" 1]

def ENVELOPEDKEYBLOB : List Field :=
  [ulong "Version", ulong "ulSymmAlgID", ulong "ulBits", byteArray "cbEncryptedPriKey" 64,
    ⟨"PubKey", Layout.struct ECCPUBLICKEYBLOB⟩, ⟨"ECCCipherBlob", Layout.struct ECCCIPHERBLOB⟩]

theorem layout_sizes : (Layout.struct ECCPUBLICKEYBLOB).size = ECCPUBLICKEYBLOB_SIZE ∧
    (Layout.struct RSAPUBLICKEYBLOB).size = RSAPUBLICKEYBLOB_SIZE ∧
    (Layout.struct ECCCIPHERBLOB).size = ECCCIPHERBLOB_SIZE ∧
    (Layout.struct ENVELOPEDKEYBLOB).size = ENVELOPEDKEYBLOB_SIZE := by decide

def leValue (bytes : List UInt8) : UInt32 :=
  .ofNat (bytes.foldr (fun byte rest => byte.toNat + 256 * rest) 0)

theorem leValue_leBytes (value : UInt32) : leValue (leBytes value) = value := by
  have byte (n : Nat) : (UInt8.ofNat n).toNat = n % 256 := UInt8.toNat_ofNat'
  have small := value.toNat_lt
  rw [leValue, leBytes, ← UInt32.toNat_inj, UInt32.toNat_ofNat']
  simp only [List.foldr_cons, List.foldr_nil, byte]
  omega

def EccPublicKeyBlob.read (bytes : List UInt8) (whole : ECCPUBLICKEYBLOB_SIZE ≤ bytes.length) :
    EccPublicKeyBlob where
  bitLen := leValue (Layout.read ECCPUBLICKEYBLOB "BitLen" bytes)
  xCoordinate := Layout.read ECCPUBLICKEYBLOB "XCoordinate" bytes
  yCoordinate := Layout.read ECCPUBLICKEYBLOB "YCoordinate" bytes
  xLength := Layout.length_read rfl (Nat.le_trans (by decide) whole)
  yLength := Layout.length_read rfl whole

def RsaPublicKeyBlob.read (bytes : List UInt8) (whole : RSAPUBLICKEYBLOB_SIZE ≤ bytes.length) :
    RsaPublicKeyBlob where
  algId := leValue (Layout.read RSAPUBLICKEYBLOB "AlgID" bytes)
  bitLen := leValue (Layout.read RSAPUBLICKEYBLOB "BitLen" bytes)
  modulus := Layout.read RSAPUBLICKEYBLOB "Modulus" bytes
  publicExponent := Layout.read RSAPUBLICKEYBLOB "PublicExponent" bytes
  modulusLength := Layout.length_read rfl (Nat.le_trans (by decide) whole)
  exponentLength := Layout.length_read rfl whole

attribute [ext] EccPublicKeyBlob RsaPublicKeyBlob

namespace EccPublicKeyBlob

def fields (blob : EccPublicKeyBlob) : List (Field × List UInt8) :=
  [(ulong "BitLen", leBytes blob.bitLen), (byteArray "XCoordinate" 64, blob.xCoordinate),
    (byteArray "YCoordinate" 64, blob.yCoordinate)]

theorem exact_fields (blob : EccPublicKeyBlob) : Layout.Exact blob.fields := by
  intro item member
  rcases List.mem_cons.mp member with rfl | member
  · rfl
  · rcases List.mem_cons.mp member with rfl | none
    · exact blob.xLength
    · cases none

theorem structBytes_eq (blob : EccPublicKeyBlob) : blob.structBytes = Layout.write blob.fields := by
  have write : Layout.write blob.fields =
    [] ++ (leBytes blob.bitLen ++ ([] ++ (blob.xCoordinate ++ ([] ++ (blob.yCoordinate ++ []))))) :=
      rfl
  rw [write, structBytes]
  simp only [List.nil_append, List.append_nil, List.append_assoc]

theorem read_structBytes (blob : EccPublicKeyBlob)
    (whole : ECCPUBLICKEYBLOB_SIZE ≤ blob.structBytes.length) :
    read blob.structBytes whole = blob := by
  have names : (ECCPUBLICKEYBLOB.map Field.name).Nodup := by decide
  have kept (field : Field) (value : List UInt8) (member : (field, value) ∈ blob.fields)
      (size : value.length = field.type.size) :
      Layout.read ECCPUBLICKEYBLOB field.name blob.structBytes = value := by
    rw [structBytes_eq]
    exact (Layout.read_write blob.exact_fields names rfl List.prefix_rfl member).2 size
  apply EccPublicKeyBlob.ext
  · have bitLen := kept (ulong "BitLen") (leBytes blob.bitLen) (by simp [fields]) rfl
    exact (congrArg leValue bitLen).trans (leValue_leBytes _)
  · exact kept (byteArray "XCoordinate" 64) _ (by simp [fields]) blob.xLength
  · exact kept (byteArray "YCoordinate" 64) _ (by simp [fields]) blob.yLength

end EccPublicKeyBlob

namespace RsaPublicKeyBlob

def fields (blob : RsaPublicKeyBlob) : List (Field × List UInt8) :=
  [(ulong "AlgID", leBytes blob.algId), (ulong "BitLen", leBytes blob.bitLen),
    (byteArray "Modulus" 256, blob.modulus), (byteArray "PublicExponent" 4, blob.publicExponent)]

theorem exact_fields (blob : RsaPublicKeyBlob) : Layout.Exact blob.fields := by
  intro item member
  rcases List.mem_cons.mp member with rfl | member
  · rfl
  · rcases List.mem_cons.mp member with rfl | member
    · rfl
    · rcases List.mem_cons.mp member with rfl | none
      · exact blob.modulusLength
      · cases none

theorem structBytes_eq (blob : RsaPublicKeyBlob) : blob.structBytes = Layout.write blob.fields := by
  have write :
      Layout.write blob.fields = [] ++ (leBytes blob.algId ++ ([] ++ (leBytes blob.bitLen ++
    ([] ++ (blob.modulus ++ ([] ++ (blob.publicExponent ++ []))))))) := rfl
  rw [write, structBytes]
  simp only [List.nil_append, List.append_nil, List.append_assoc]

theorem read_structBytes (blob : RsaPublicKeyBlob)
    (whole : RSAPUBLICKEYBLOB_SIZE ≤ blob.structBytes.length) :
    read blob.structBytes whole = blob := by
  have names : (RSAPUBLICKEYBLOB.map Field.name).Nodup := by decide
  have kept (field : Field) (value : List UInt8) (member : (field, value) ∈ blob.fields)
      (size : value.length = field.type.size) :
      Layout.read RSAPUBLICKEYBLOB field.name blob.structBytes = value := by
    rw [structBytes_eq]
    exact (Layout.read_write blob.exact_fields names rfl List.prefix_rfl member).2 size
  apply RsaPublicKeyBlob.ext
  · have algId := kept (ulong "AlgID") (leBytes blob.algId) (by simp [fields]) rfl
    exact (congrArg leValue algId).trans (leValue_leBytes _)
  · have bitLen := kept (ulong "BitLen") (leBytes blob.bitLen) (by simp [fields]) rfl
    exact (congrArg leValue bitLen).trans (leValue_leBytes _)
  · exact kept (byteArray "Modulus" 256) _ (by simp [fields]) blob.modulusLength
  · exact kept (byteArray "PublicExponent" 4) _ (by simp [fields]) blob.exponentLength

end RsaPublicKeyBlob

/-- `ECCCIPHERBLOB` with as many bytes of the cipher as its length says. -/
structure EccCipherBlob where
  xCoordinate : List UInt8
  yCoordinate : List UInt8
  hash : List UInt8
  cipherLen : UInt32
  cipher : List UInt8

structure EnvelopedKeyBlob where
  version : UInt32
  symmAlgId : UInt32
  bits : UInt32
  encryptedPriKey : List UInt8
  pubKey : EccPublicKeyBlob
  cipherBlob : EccCipherBlob

def EccCipherBlob.read (bytes : List UInt8) : EccCipherBlob :=
  let cipherLen := leValue (Layout.read ECCCIPHERBLOB "CipherLen" bytes)
  { xCoordinate := Layout.read ECCCIPHERBLOB "XCoordinate" bytes
    yCoordinate := Layout.read ECCCIPHERBLOB "YCoordinate" bytes
    hash := Layout.read ECCCIPHERBLOB "Hash" bytes
    cipherLen := cipherLen
    cipher := (bytes.drop (Layout.offsetOf ECCCIPHERBLOB "Cipher")).take cipherLen.toNat }

theorem length_pubKey {bytes : List UInt8} (whole : ENVELOPEDKEYBLOB_SIZE ≤ bytes.length) :
    ECCPUBLICKEYBLOB_SIZE ≤ (Layout.read ENVELOPEDKEYBLOB "PubKey" bytes).length := by
  have placed : Layout.place ENVELOPEDKEYBLOB "PubKey" = (76, Layout.struct ECCPUBLICKEYBLOB) := rfl
  have inside : 76 + ECCPUBLICKEYBLOB_SIZE ≤ bytes.length := Nat.le_trans (by decide) whole
  exact Nat.le_of_eq (Layout.length_read placed inside).symm

def EnvelopedKeyBlob.read (bytes : List UInt8) (whole : ENVELOPEDKEYBLOB_SIZE ≤ bytes.length) :
    EnvelopedKeyBlob where
  version := leValue (Layout.read ENVELOPEDKEYBLOB "Version" bytes)
  symmAlgId := leValue (Layout.read ENVELOPEDKEYBLOB "ulSymmAlgID" bytes)
  bits := leValue (Layout.read ENVELOPEDKEYBLOB "ulBits" bytes)
  encryptedPriKey := Layout.read ENVELOPEDKEYBLOB "cbEncryptedPriKey" bytes
  pubKey := .read (Layout.read ENVELOPEDKEYBLOB "PubKey" bytes) (length_pubKey whole)
  cipherBlob := .read (bytes.drop (Layout.offsetOf ENVELOPEDKEYBLOB "ECCCipherBlob"))

attribute [ext] EccCipherBlob EnvelopedKeyBlob

namespace EccCipherBlob

def fields (blob : EccCipherBlob) : List (Field × List UInt8) :=
  [(byteArray "XCoordinate" 64, blob.xCoordinate), (byteArray "YCoordinate" 64, blob.yCoordinate),
    (byteArray "Hash" 32, blob.hash), (ulong "CipherLen", leBytes blob.cipherLen),
    (byteArray "Cipher" 1, blob.cipher)]

structure Sized (blob : EccCipherBlob) : Prop where
  x : blob.xCoordinate.length = 64
  y : blob.yCoordinate.length = 64
  hash : blob.hash.length = 32
  cipher : blob.cipher.length = blob.cipherLen.toNat

variable {blob : EccCipherBlob}

theorem exact_fields (sized : blob.Sized) : Layout.Exact blob.fields := by
  intro item member
  simp only [fields, List.dropLast, List.mem_cons, List.not_mem_nil, or_false] at member
  rcases member with rfl | rfl | rfl | rfl
  · exact sized.x
  · exact sized.y
  · exact sized.hash
  · rfl

theorem read_write {bytes : List UInt8} (sized : blob.Sized)
    (begins : Layout.write blob.fields <+: bytes) :
    read bytes = blob := by
  have names : (ECCCIPHERBLOB.map Field.name).Nodup := by decide
  have kept (field : Field) (value : List UInt8) (member : (field, value) ∈ blob.fields)
      (size : value.length = field.type.size) :
      Layout.read ECCCIPHERBLOB field.name bytes = value :=
    (Layout.read_write (exact_fields sized) names rfl begins member).2 size
  have length : leValue (Layout.read ECCCIPHERBLOB "CipherLen" bytes) = blob.cipherLen := by
    have number := kept (ulong "CipherLen") (leBytes blob.cipherLen) (by simp [fields]) rfl
    exact (congrArg leValue number).trans (leValue_leBytes _)
  have cipher : (byteArray "Cipher" 1, blob.cipher) ∈ blob.fields := by simp [fields]
  apply EccCipherBlob.ext
  · exact kept (byteArray "XCoordinate" 64) _ (by simp [fields]) sized.x
  · exact kept (byteArray "YCoordinate" 64) _ (by simp [fields]) sized.y
  · exact kept (byteArray "Hash" 32) _ (by simp [fields]) sized.hash
  · exact length
  · dsimp only [read]
    rw [length, ← sized.cipher]
    exact (List.prefix_iff_eq_take.mp
      (Layout.read_write (exact_fields sized) names rfl begins cipher).1).symm

end EccCipherBlob

namespace EnvelopedKeyBlob

def fields (blob : EnvelopedKeyBlob) : List (Field × List UInt8) :=
  [(ulong "Version", leBytes blob.version), (ulong "ulSymmAlgID", leBytes blob.symmAlgId),
    (ulong "ulBits", leBytes blob.bits), (byteArray "cbEncryptedPriKey" 64, blob.encryptedPriKey),
    (⟨"PubKey", Layout.struct ECCPUBLICKEYBLOB⟩, blob.pubKey.structBytes),
    (⟨"ECCCipherBlob", Layout.struct ECCCIPHERBLOB⟩, Layout.write blob.cipherBlob.fields)]

variable {blob : EnvelopedKeyBlob}

theorem exact_fields (wrapped : blob.encryptedPriKey.length = 64) : Layout.Exact blob.fields := by
  intro item member
  simp only [fields, List.dropLast, List.mem_cons, List.not_mem_nil, or_false] at member
  rcases member with rfl | rfl | rfl | rfl | rfl
  · rfl
  · rfl
  · rfl
  · exact wrapped
  · exact eccPublicKeyBlob_size _

/-- What is written field by field is read at the declared offsets. -/
theorem read_write (wrapped : blob.encryptedPriKey.length = 64) (sized : blob.cipherBlob.Sized)
    (whole : ENVELOPEDKEYBLOB_SIZE ≤ (Layout.write blob.fields).length) :
    read (Layout.write blob.fields) whole = blob := by
  have names : (ENVELOPEDKEYBLOB.map Field.name).Nodup := by decide
  have kept (field : Field) (value : List UInt8) (member : (field, value) ∈ blob.fields) :=
    Layout.read_write (exact_fields wrapped) names rfl List.prefix_rfl member
  have number (name : String) (value : UInt32)
      (member : (ulong name, leBytes value) ∈ blob.fields) :
      leValue (Layout.read ENVELOPEDKEYBLOB name (Layout.write blob.fields)) = value :=
    (congrArg leValue ((kept (ulong name) _ member).2 rfl)).trans (leValue_leBytes _)
  have pubKey :=
    (kept ⟨"PubKey", Layout.struct ECCPUBLICKEYBLOB⟩ blob.pubKey.structBytes (by simp [fields])).2
    (eccPublicKeyBlob_size _)
  have cipherBlob :=
    (kept ⟨"ECCCipherBlob", Layout.struct ECCCIPHERBLOB⟩ (Layout.write blob.cipherBlob.fields)
    (by simp [fields])).1
  apply EnvelopedKeyBlob.ext
  · exact number "Version" _ (by simp [fields])
  · exact number "ulSymmAlgID" _ (by simp [fields])
  · exact number "ulBits" _ (by simp [fields])
  · exact (kept (byteArray "cbEncryptedPriKey" 64) _ (by simp [fields])).2 wrapped
  · dsimp only [read]
    simp only [pubKey]
    exact blob.pubKey.read_structBytes _
  · exact EccCipherBlob.read_write sized cipherBlob

end EnvelopedKeyBlob

end SkfService
