import SkfService.Payload.Branches
import SkfService.Payload.Plain

/-! Whether the buffers of a request are as long as the vendor is told.

Two branches can fall short. `ImportKeyPair` passes a decoded text as an `ENVELOPEDKEYBLOB` without
looking at its length, and the symmetric branches declare the length of the IV they were sent while
the array behind it holds 32 bytes. -/

set_option autoImplicit false

namespace SkfService

open Text Interaction Program Handler

variable {ctx : SkfContext} {s : SessionState} {params : Params} {lang : Language}

def Arises (ctx : SkfContext) (before : SessionState) (trace : List (Event Skf)) : Prop :=
  (setting ctx fun _ => True).Possible before trace

theorem arises_iff (good : Op → Prop) (trace : List (Event Skf)) :
    Arises ctx s trace ↔ (setting ctx good).Possible s trace := by
  induction trace generalizing s with
  | nil => rfl
  | cons event rest ih => exact and_congr_right fun _ => ih

def AsksOnly (good : Op → Prop) (ctx : SkfContext) (text : String) (lang : Language)
    (before : SessionState) : Prop :=
  ∀ trace op next, Reaches (handleRequest ctx text lang) trace (.call op next) →
    Arises ctx before trace → good op

/-- A request asks only for what is good when it reaches no branch, or when its branch does. -/
theorem asksOnly_iff (good : Op → Prop) (text : String) : AsksOnly good ctx text lang s ↔
    ∀ method params, reached ctx text = some (method, params) →
      Hands ctx good (method.branch ctx params lang) s (fun _ _ => True) := by
  have watched : AsksOnly good ctx text lang s ↔
      (handleRequest ctx text lang).Meets (setting ctx good) (fun _ _ => True)
        (fun _ _ => True) s := by
    rw [meets_iff_asked]
    simp only [AsksOnly, arises_iff good]
    rfl
  rw [watched]
  cases there : reached ctx text with
  | none =>
    obtain ⟨response, same, -⟩ := handleRequest_unreached there lang
    simp [same]
  | some found =>
    obtain ⟨method, params⟩ := found
    rw [handleRequest_reached there, settleBranch, meets_recover, map_eq_pure_bind, meets_bind]
    constructor
    · intro met method' params' same
      cases same
      exact met.mono (fun _ _ _ => trivial) fun _ _ _ => trivial
    · intro met
      refine (met method params rfl).mono (fun _ _ _ => trivial) fun exit t _ => ?_
      cases exit with
      | reply response => trivial
      | panic why => trivial

theorem covered_indifferent : Indifferent Op.Covered := by
  intro op nothing
  apply Op.covered_of_unstructured
  cases op with
  | session op => rfl
  | host op => rfl
  | provider op =>
    cases op with
    | encrypt | decrypt => cases nothing
    | _ => rfl
  | vendor op =>
    cases op with
    | importEccKeyPair | eccVerify | rsaVerify => cases nothing
    | _ => rfl

/-- The key blob of an `ImportKeyPair` request that gets as far as the import is too short. -/
def ShortBlob (ctx : SkfContext) (s : SessionState) (params : Params) : Prop :=
  ∃ request : KeyPairRequest, request.Reads ctx params ∧ ctx.Configured request.provName ∧
    Opens s request.provName request.devName request.appName request.contName ∧
      request.isEcc = true ∧
      request.encKeyPair.length < ENVELOPEDKEYBLOB_SIZE

/-- The IV of a request that gets as far as its cipher does not fit. -/
def LongIv (ctx : SkfContext) (s : SessionState) (params : Params) : Prop :=
  ∃ dataB64 ivB64 symKey data iv library provName devName appName contName,
    params.str 1 = some dataB64 ∧ params.str 2 = some ivB64 ∧ Brings params symKey ∧
      Params.Decodes dataB64 data ∧ Params.Decodes ivB64 iv ∧
        Keyed ctx s params library provName devName appName contName ∧
          (∀ key ∈ symKey, key.length = 16) ∧ 32 < iv.length

def Underfed (ctx : SkfContext) (s : SessionState) (params : Params) : Method → Prop
  | .ImportKeyPair => ShortBlob ctx s params
  | .EncryptData | .DecryptData => LongIv ctx s params
  | _ => False

theorem covered_importKeyPair :
    Hands ctx Op.Covered (ImportKeyPair.handle ctx params lang) s (fun _ _ => True) ↔
      ¬ShortBlob ctx s params := by
  rw [hands_importKeyPair covered_indifferent]
  constructor
  · rintro met ⟨request, reads, configured, opens, curve, short⟩
    have blob := (met request reads configured opens 0 0 0).1 curve _ (List.mem_singleton.mpr rfl)
    rw [Buffer.laidOut_sound_iff] at blob
    omega
  · intro fits request reads configured opens device application container
    refine ⟨fun curve buffer member => ?_, fun _ wrapKey _ => Op.covered_of_unstructured rfl⟩
    rw [List.mem_singleton.mp member, Buffer.laidOut_sound_iff]
    by_contra short
    exact fits ⟨request, reads, configured, opens, curve, by omega⟩

/-- The data of a cipher call is told as it is, so the IV decides. -/
theorem cipher_covered_iff {op : Op} {data iv : List UInt8} {padding : ULONG} {encoded : String}
    (buffers : op.buffers = [.sized data.length, .ofParam (blockCipherParam iv padding)])
    (decodes : Params.Decodes encoded iv) : op.Covered ↔ iv.length ≤ 32 := by
  have small := decodes.length_le
  have limit : iv.length < 4294967296 := by
    simp only [MAX_PAYLOAD_BYTES] at small
    omega
  simp only [Op.Covered, buffers, List.forall_mem_cons, Buffer.sized_sound,
    ofParam_sound_iff padding limit, List.not_mem_nil, false_implies, implies_true, and_true,
    true_and]

theorem covered_encryptData :
    Hands ctx Op.Covered (EncryptData.handle ctx params lang) s (fun _ _ => True) ↔
      ¬LongIv ctx s params := by
  rw [hands_encryptData covered_indifferent]
  constructor
  · rintro met ⟨dataB64, ivB64, symKey, data, iv, library, provName, devName, appName, contName, d,
      i, brings,
      decodes, decodes', keyed, sixteen, long⟩
    have fits := (cipher_covered_iff rfl decodes').mp
      (met dataB64 d ivB64 i symKey brings data decodes iv decodes' library _ _ _ _ keyed 0 0 0
        sixteen).2
    omega
  · intro fits dataB64 d ivB64 i symKey brings data decodes iv decodes' library provName devName
      appName contName
      keyed device application container sixteen
    refine ⟨fun _ _ => Op.covered_of_unstructured rfl, (cipher_covered_iff rfl decodes').mpr ?_⟩
    by_contra long
    exact fits ⟨dataB64, ivB64, symKey, data, iv, library, provName, devName, appName, contName, d,
      i, brings,
      decodes, decodes', keyed, sixteen, by omega⟩

theorem covered_decryptData :
    Hands ctx Op.Covered (DecryptData.handle ctx params lang) s (fun _ _ => True) ↔
      ¬LongIv ctx s params := by
  rw [hands_decryptData covered_indifferent]
  constructor
  · rintro met ⟨dataB64, ivB64, symKey, data, iv, library, provName, devName, appName, contName, d,
      i, brings,
      decodes, decodes', keyed, sixteen, long⟩
    have fits := (cipher_covered_iff rfl decodes').mp
      (met dataB64 d ivB64 i symKey brings data decodes iv decodes' library _ _ _ _ keyed 0 0 0
        sixteen).2
    omega
  · intro fits dataB64 d ivB64 i symKey brings data decodes iv decodes' library provName devName
      appName contName
      keyed device application container sixteen
    refine ⟨fun _ _ => Op.covered_of_unstructured rfl, (cipher_covered_iff rfl decodes').mpr ?_⟩
    by_contra long
    exact fits ⟨dataB64, ivB64, symKey, data, iv, library, provName, devName, appName, contName, d,
      i, brings,
      decodes, decodes', keyed, sixteen, by omega⟩

/-- The checked branches cut their structures out of buffers that are long enough. -/
theorem covered_eccVerify :
    Hands ctx Op.Covered (ECCVerify.handle ctx params lang) s (fun _ _ => True) := by
  rw [hands_eccVerify covered_indifferent]
  intro devName _ pubKeyB64 _ dataB64 _ sigB64 _ key _ data _ signature _ keyLong
    signatureLong _ _ raw
  simp only [Op.Covered, Op.buffers, VendorOp.buffers, List.forall_mem_cons,
    Buffer.laidOut_sound_iff, Buffer.sized_sound, List.length_take_of_le keyLong,
    List.length_take_of_le signatureLong, Nat.le_refl, List.not_mem_nil, false_implies,
    implies_true, and_true]

theorem covered_rsaVerify :
    Hands ctx Op.Covered (RSAVerify.handle ctx params lang) s (fun _ _ => True) := by
  rw [hands_rsaVerify covered_indifferent]
  intro provName _ devName _ pubKeyB64 _ dataB64 _ sigB64 _ key _ keyLong data _ signature _ _ _ raw
  simp only [Op.Covered, Op.buffers, VendorOp.buffers, List.forall_mem_cons,
    Buffer.laidOut_sound_iff, Buffer.sized_sound, List.length_take_of_le keyLong, Nat.le_refl,
    List.not_mem_nil, false_implies, implies_true, and_true]

theorem covered_plain {p : Handler RpcResponse} (plain : Plain p) :
    Hands ctx Op.Covered p s (fun _ _ => True) :=
  plain.meets fun _ _ unstructured => Op.covered_of_unstructured unstructured

theorem covered_branch (method : Method) :
    Hands ctx Op.Covered (method.branch ctx params lang) s (fun _ _ => True) ↔
      ¬Underfed ctx s params method := by
  by_cases decoding : method.decoding = true
  · cases method with
    | ImportKeyPair => exact covered_importKeyPair
    | EncryptData => exact covered_encryptData
    | DecryptData => exact covered_decryptData
    | ECCVerify => exact iff_of_true covered_eccVerify not_false
    | RSAVerify => exact iff_of_true covered_rsaVerify not_false
    -- Bytes without a declared structure are covered whatever their length is.
    | SignData =>
      refine iff_of_true ((hands_signData covered_indifferent).mpr ?_) not_false
      intros
      exact ⟨Op.covered_of_unstructured rfl, Op.covered_of_unstructured rfl⟩
    | RSASignData =>
      refine iff_of_true ((hands_rsaSignData covered_indifferent).mpr ?_) not_false
      intros
      exact Op.covered_of_unstructured rfl
    | ImportCertificate =>
      refine iff_of_true ((hands_importCertificate covered_indifferent).mpr ?_) not_false
      intros
      exact Op.covered_of_unstructured rfl
    | Digest =>
      refine iff_of_true ((hands_digest covered_indifferent).mpr ?_) not_false
      intros
      exact Op.covered_of_unstructured rfl
    | Transmit =>
      refine iff_of_true ((hands_transmit covered_indifferent).mpr ?_) not_false
      intros
      exact Op.covered_of_unstructured rfl
    | DigestInit =>
      refine iff_of_true ((hands_digestInit covered_indifferent).mpr ?_) not_false
      intros
      exact Op.covered_of_unstructured rfl
    | DigestUpdate =>
      refine iff_of_true ((hands_digestUpdate covered_indifferent).mpr ?_) not_false
      intros
      exact Op.covered_of_unstructured rfl
    | _ => cases decoding
  · -- The other branches have no condition to meet.
    have unconditional : ¬Underfed ctx s params method := by
      intro underfed
      cases method with
      | ImportKeyPair | EncryptData | DecryptData => exact decoding rfl
      | _ => exact underfed
    exact iff_of_true (covered_plain (plain_branch (Bool.eq_false_iff.mpr decoding))) unconditional

/-- In every run of a request, from any session state, every buffer the vendor is given is as long
as it is told, unless the request brings a key blob or an IV of the wrong length. -/
theorem buffers_cover_iff (ctx : SkfContext) (text : String) (lang : Language)
    (before : SessionState) :
    AsksOnly Op.Covered ctx text lang before ↔
      ∀ method params, reached ctx text = some (method, params) →
        ¬Underfed ctx before params method := by
  rw [asksOnly_iff]
  simp only [covered_branch]

def loggedIn : SessionState :=
  ⟨⟨(∅ : AList fun _ : AuthKey => Grant).insert ⟨"GM3000", "K1", "A"⟩ ⟨60⟩, 60⟩, .new⟩

def threeBytes : List Json :=
  [.string "GM3000", .string "K1", .string "A", .string "C", .string "SM2", .string "AAAA"]

theorem loggedIn_opens : Opens loggedIn "GM3000" "K1" "A" "C" where
  device := by decide
  application := by decide
  granted := ⟨⟨60⟩, AList.lookup_insert _, by decide⟩
  container := by decide

/-- The vendor takes three bytes for an `ENVELOPEDKEYBLOB`. -/
theorem three_byte_blob_passed : ¬AsksOnly Op.Covered
    (.serving [("import", ⟨"ImportKeyPair", threeBytes, some (.ofU32 1), none⟩)]) "import" .EN
      loggedIn := by
  rw [asksOnly_iff]
  intro covered
  refine (covered_branch .ImportKeyPair).mp
    (covered .ImportKeyPair ⟨threeBytes, some (.ofU32 1)⟩ rfl)
    ⟨⟨"GM3000", "K1", "A", "C", true, SGD_SM4_ECB, [0, 0, 0], ""⟩, ?_, rfl, loggedIn_opens, rfl,
      by decide⟩
  exact ⟨by decide, rfl, rfl, rfl, ⟨"SM2", rfl, by decide⟩, ⟨"AAAA", rfl, by decide⟩, rfl, rfl⟩

end SkfService
