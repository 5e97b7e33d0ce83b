import SkfService.Payload.Lengths

/-! Whether the vendor is given exactly what a base64 parameter stands for.

A branch that decodes a parameter may drop a part of the bytes, replace a text that does not decode,
or go on with more than the payload limit; each such request is a condition on its parameters. -/

set_option autoImplicit false

namespace SkfService

open Text Interaction Program Handler

def Op.setsKey : Op → Bool
  | .provider (.setSymmKey ..) => true
  | _ => false

/-- The parameters whose bytes a call of the branch hands over, in the order of `Op.payload`. -/
def Method.positions (method : Method) (op : Op) : List Nat :=
  match method with
  | .EncryptData | .DecryptData => if op.setsKey then [4] else [1, 2]
  | .SignData | .RSASignData | .DigestUpdate => [1]
  | .Digest | .Transmit => [2]
  | .DigestInit => [3]
  | .ImportCertificate => [5]
  | .ImportKeyPair => [5, 6]
  | .ECCVerify | .RSAVerify => [2, 3, 4]
  | _ => []

def Method.handed (method : Method) (op : Op) : List (Nat × List UInt8) :=
  (method.positions op).zip op.payload

/-- A certificate text with a PEM marker is no base64. -/
def Method.Base64Typed (method : Method) (encoded : String) : Prop :=
  method = .ImportCertificate → contains "-----BEGIN" encoded = false

/-- The bytes are those of the parameter, and no more of them than a request may bring. -/
def Exact (method : Method) (params : Params) (index : Nat) (bytes : List UInt8) : Prop :=
  ∀ encoded, params.str index = some encoded → method.Base64Typed encoded →
    Base64.decode encoded = some bytes ∧ bytes.length ≤ MAX_PAYLOAD_BYTES

def HandsExactly (method : Method) (params : Params) (op : Op) : Prop :=
  ∀ entry ∈ method.handed op, Exact method params entry.1 entry.2

variable {ctx : SkfContext} {s : SessionState} {params : Params} {lang : Language} {method : Method}

theorem handsExactly_indifferent (method : Method) (params : Params) :
    Indifferent (HandsExactly method params) := by
  intro op nothing entry member
  rw [Method.handed, nothing, List.zip_nil_right] at member
  cases member

theorem exact_iff {index : Nat} {encoded : String} {bytes handed : List UInt8}
    (given : params.str index = some encoded) (typed : method.Base64Typed encoded)
    (decoded : Base64.decode encoded = some bytes) :
    Exact method params index handed ↔ handed = bytes ∧ bytes.length ≤ MAX_PAYLOAD_BYTES := by
  constructor
  · intro exactly
    obtain ⟨same, short⟩ := exactly encoded given typed
    rw [decoded, Option.some.injEq] at same
    rw [same]
    exact ⟨rfl, short⟩
  · rintro ⟨rfl, short⟩ encoded' given' -
    rw [given, Option.some.injEq] at given'
    rw [← given']
    exact ⟨decoded, short⟩

theorem exact_absent {index : Nat} (absent : params.str index = none) (bytes : List UInt8) :
    Exact method params index bytes := by
  intro encoded given
  rw [absent] at given
  cases given

theorem base64Typed_of_ne (other : method ≠ .ImportCertificate) (encoded : String) :
    method.Base64Typed encoded :=
  fun same => absurd same other

/-- The requests whose branch hands over something else than what a parameter stands for. -/
def Spoiled (ctx : SkfContext) (s : SessionState) (params : Params) : Method → Prop
  | .SignData | .RSASignData => ∃ encoded data library provName devName appName contName,
    params.str 1 = some encoded ∧ Params.Decodes encoded data ∧
      Keyed ctx s params library provName devName appName contName ∧ MAX_PAYLOAD_BYTES < data.length
  | .EncryptData | .DecryptData =>
    ∃ dataB64 ivB64 symKey data iv library provName devName appName contName,
      params.str 1 = some dataB64 ∧ params.str 2 = some ivB64 ∧ Brings params symKey ∧
        Params.Decodes dataB64 data ∧ Params.Decodes ivB64 iv ∧
          Keyed ctx s params library provName devName appName contName ∧
            (∀ key ∈ symKey, key.length = 16) ∧
            (MAX_PAYLOAD_BYTES < data.length ∨ 32 < iv.length)
  | .ImportCertificate => ∃ devName appName contName signFlag encoded cert library,
    params.str 1 = some devName ∧ params.str 2 = some appName ∧ params.str 3 = some contName ∧
      params.bool 4 = some signFlag ∧ params.str 5 = some encoded ∧
        contains "-----BEGIN" encoded = false ∧
        Params.Decodes encoded cert ∧ ctx.Resolves
          (params.optionalStr 0 ctx.config.default) library ∧
          Opens s (params.optionalStr 0 ctx.config.default) devName appName contName ∧
            MAX_PAYLOAD_BYTES < cert.length
  | .ImportKeyPair =>
    ∃ request : KeyPairRequest, request.Reads ctx params ∧ ctx.Configured request.provName ∧
    Opens s request.provName request.devName request.appName request.contName ∧
      (request.isEcc = true ∧ MAX_PAYLOAD_BYTES < request.encKeyPair.length ∨
        request.isEcc = false ∧ ∃ wrapKey, Base64.decode request.wrapKey = some wrapKey ∧
          (MAX_PAYLOAD_BYTES < request.encKeyPair.length ∨ MAX_PAYLOAD_BYTES < wrapKey.length))
  | .Digest => ∃ provName devName encoded algId data,
    params.str 0 = some provName ∧ params.str 1 = some devName ∧ params.str 2 = some encoded ∧
      digestAlgorithm (ctx.platform.toUppercase (params.optionalStr 3 "SM3")) = some algId ∧
        Base64.decode encoded = some data ∧ ctx.Configured provName ∧ NulFree devName ∧
          MAX_PAYLOAD_BYTES < data.length
  | .ECCVerify => ∃ devName pubKeyB64 dataB64 sigB64 key data signature,
    params.str 1 = some devName ∧ params.str 2 = some pubKeyB64 ∧ params.str 3 = some dataB64 ∧
      params.str 4 = some sigB64 ∧ Base64.decode pubKeyB64 = some key ∧
        Base64.decode dataB64 = some data ∧
        Base64.decode sigB64 = some signature ∧ ECCPUBLICKEYBLOB_SIZE ≤ key.length ∧
          ECCSIGNATUREBLOB_SIZE ≤ signature.length ∧ ctx.Configured (defaulted ctx params) ∧
            NulFree devName ∧
            (ECCPUBLICKEYBLOB_SIZE < key.length ∨ MAX_PAYLOAD_BYTES < data.length ∨
              ECCSIGNATUREBLOB_SIZE < signature.length)
  | .RSAVerify => ∃ provName devName pubKeyB64 dataB64 sigB64 key data signature,
    params.str 0 = some provName ∧ params.str 1 = some devName ∧ params.str 2 = some pubKeyB64 ∧
      params.str 3 = some dataB64 ∧ params.str 4 = some sigB64 ∧
        Base64.decode pubKeyB64 = some key ∧
        Base64.decode dataB64 = some data ∧ Base64.decode sigB64 = some signature ∧
          RSAPUBLICKEYBLOB_SIZE ≤ key.length ∧ ctx.Configured provName ∧ NulFree devName ∧
            (RSAPUBLICKEYBLOB_SIZE < key.length ∨ MAX_PAYLOAD_BYTES < data.length ∨
              MAX_PAYLOAD_BYTES < signature.length)
  | .Transmit => ∃ provName devName encoded command,
    params.str 0 = some provName ∧ params.str 1 = some devName ∧ params.str 2 = some encoded ∧
      Base64.decode encoded = some command ∧ ctx.Configured provName ∧ NulFree devName ∧
        MAX_PAYLOAD_BYTES < command.length
  | .DigestInit => ∃ devName encoded,
    params.str 0 = some ctx.config.default ∧ params.str 1 = some devName ∧ NulFree devName ∧
      params.str 3 = some encoded ∧ ∀ id, Base64.decode encoded = some id →
        MAX_PAYLOAD_BYTES < id.length
  | .DigestUpdate => ∃ handle encoded data digest,
    params.str 0 = some handle ∧ params.str 1 = some encoded ∧ Base64.decode encoded = some data ∧
      s.handles.digest handle = .ok digest ∧ MAX_PAYLOAD_BYTES < data.length
  | _ => False

theorem handsExactly_one {op : Op} {index : Nat} {encoded : String} {bytes : List UInt8}
    (carries : method.handed op = [(index, bytes)]) (given : params.str index = some encoded)
    (typed : method.Base64Typed encoded) (decoded : Base64.decode encoded = some bytes) :
    HandsExactly method params op ↔ bytes.length ≤ MAX_PAYLOAD_BYTES := by
  rw [HandsExactly, carries, List.forall_mem_singleton, exact_iff given typed decoded]
  exact and_iff_right rfl

theorem exactly_transmit :
    Hands ctx (HandsExactly .Transmit params) (Transmit.handle ctx params lang) s
      (fun _ _ => True) ↔ ¬Spoiled ctx s params .Transmit := by
  rw [hands_transmit (handsExactly_indifferent _ _)]
  constructor
  · rintro met ⟨provName, devName, encoded, command, p, d, e, decoded, configured, noNul, long⟩
    have short := (handsExactly_one rfl e (base64Typed_of_ne (by decide) _) decoded).mp
      (met provName p devName d encoded e command decoded configured noNul 0)
    omega
  · intro fine provName p devName d encoded e command decoded configured noNul raw
    refine (handsExactly_one rfl e (base64Typed_of_ne (by decide) _) decoded).mpr ?_
    by_contra long
    exact fine ⟨provName, devName, encoded, command, p, d, e, decoded, configured, noNul, by omega⟩

theorem exactly_digest : Hands ctx (HandsExactly .Digest params) (Digest.handle ctx params lang) s
    (fun _ _ => True) ↔ ¬Spoiled ctx s params .Digest := by
  rw [hands_digest (handsExactly_indifferent _ _)]
  constructor
  · rintro met ⟨provName, devName, encoded, algId, data, p, d, e, a, decoded, configured,
      noNul, long⟩
    have short := (handsExactly_one rfl e (base64Typed_of_ne (by decide) _) decoded).mp
      (met provName p devName d encoded e algId a data decoded configured noNul 0 0)
    omega
  · intro fine provName p devName d encoded e algId a data decoded configured noNul device hash
    refine (handsExactly_one rfl e (base64Typed_of_ne (by decide) _) decoded).mpr ?_
    by_contra long
    exact fine ⟨provName, devName, encoded, algId, data, p, d, e, a, decoded, configured,
      noNul, by omega⟩

theorem exactly_digestUpdate : Hands ctx (HandsExactly .DigestUpdate params)
    (DigestUpdate.handle ctx params lang) s (fun _ _ => True) ↔
      ¬Spoiled ctx s params .DigestUpdate := by
  rw [hands_digestUpdate (handsExactly_indifferent _ _)]
  constructor
  · rintro met ⟨handle, encoded, data, digest, h, e, decoded, found, long⟩
    have short := (handsExactly_one rfl e (base64Typed_of_ne (by decide) _) decoded).mp
      (met handle h encoded e data decoded digest found)
    omega
  · intro fine handle h encoded e data decoded digest found
    refine (handsExactly_one rfl e (base64Typed_of_ne (by decide) _) decoded).mpr ?_
    by_contra long
    exact fine ⟨handle, encoded, data, digest, h, e, decoded, found, by omega⟩

theorem exactly_signData :
    Hands ctx (HandsExactly .SignData params) (SignData.handle ctx params lang) s
      (fun _ _ => True) ↔ ¬Spoiled ctx s params .SignData := by
  rw [hands_signData (handsExactly_indifferent _ _)]
  constructor
  · rintro met ⟨encoded, data, library, provName, devName, appName, contName, e, decodes,
      keyed, long⟩
    have short := (handsExactly_one rfl e (base64Typed_of_ne (by decide) _) decodes.2).mp
      (met encoded e data decodes library _ _ _ _ keyed 0 0 0).1
    omega
  · intro fine encoded e data decodes library provName devName appName contName keyed device
      application container
    have short : data.length ≤ MAX_PAYLOAD_BYTES := by
      by_contra long
      exact fine ⟨encoded, data, library, provName, devName, appName, contName, e, decodes,
        keyed, by omega⟩
    exact ⟨(handsExactly_one rfl e (base64Typed_of_ne (by decide) _) decodes.2).mpr short,
      (handsExactly_one rfl e (base64Typed_of_ne (by decide) _) decodes.2).mpr short⟩

theorem exactly_rsaSignData :
    Hands ctx (HandsExactly .RSASignData params) (RSASignData.handle ctx params lang) s
      (fun _ _ => True) ↔ ¬Spoiled ctx s params .RSASignData := by
  rw [hands_rsaSignData (handsExactly_indifferent _ _)]
  constructor
  · rintro met ⟨encoded, data, library, provName, devName, appName, contName, e, decodes,
      keyed, long⟩
    have short := (handsExactly_one rfl e (base64Typed_of_ne (by decide) _) decodes.2).mp
      (met encoded e data decodes library _ _ _ _ keyed 0 0 0)
    omega
  · intro fine encoded e data decodes library provName devName appName contName keyed device
      application container
    refine (handsExactly_one rfl e (base64Typed_of_ne (by decide) _) decodes.2).mpr ?_
    by_contra long
    exact fine ⟨encoded, data, library, provName, devName, appName, contName, e, decodes,
      keyed, by omega⟩

theorem decodeCertificate_ok_iff {errorText : DecodeErrorText} {encoded : String}
    {cert : List UInt8} (plain : contains "-----BEGIN" encoded = false) :
    decodeCertificate errorText encoded = .ok cert ↔ Base64.decode encoded = some cert := by
  rw [decodeCertificate, plain]
  exact decodeBase64_ok_iff

theorem exactly_importCertificate : Hands ctx (HandsExactly .ImportCertificate params)
    (ImportCertificate.handle ctx params lang) s (fun _ _ => True) ↔
      ¬Spoiled ctx s params .ImportCertificate := by
  rw [hands_importCertificate (handsExactly_indifferent _ _)]
  constructor
  · rintro met ⟨devName, appName, contName, signFlag, encoded, cert, library, d, a, c, f, e, plain,
      decodes, resolves,
      opens, long⟩
    have short := (handsExactly_one rfl e (fun _ => plain) decodes.2).mp
      (met devName d appName a contName c signFlag f encoded e decodes.1 cert
        ((decodeCertificate_ok_iff plain).mpr decodes.2) library resolves opens 0 0 0)
    omega
  · intro fine devName d appName a contName c signFlag f encoded e limited cert decoded library
      resolves opens device
      application container entry member encoded' given typed
    rw [List.mem_singleton.mp member] at given ⊢
    rw [e, Option.some.injEq] at given
    subst given
    rw [decodeCertificate_ok_iff (typed rfl)] at decoded
    refine ⟨decoded, ?_⟩
    by_contra long
    exact fine ⟨devName, appName, contName, signFlag, encoded, cert, library, d, a, c, f, e,
      typed rfl,
      ⟨limited, decoded⟩, resolves, opens, Nat.lt_of_not_le long⟩

/-- A cipher call hands over its data whole, and of the IV what fits the array. -/
theorem cipher_exactly_iff {op : Op} {dataB64 ivB64 : String} {data iv : List UInt8}
    {padding : ULONG} (other : method ≠ .ImportCertificate)
    (carries : method.handed op = [(1, data), (2, (blockCipherParam iv padding).declared)])
    (d : params.str 1 = some dataB64) (i : params.str 2 = some ivB64)
    (decodes : Params.Decodes dataB64 data) (decodes' : Params.Decodes ivB64 iv) :
    HandsExactly method params op ↔ data.length ≤ MAX_PAYLOAD_BYTES ∧ iv.length ≤ 32 := by
  have small := decodes'.length_le
  simp only [MAX_PAYLOAD_BYTES] at small
  have fits : (blockCipherParam iv padding).declared = iv ↔ iv.length ≤ 32 :=
    declared_eq_iff padding (by omega)
  rw [HandsExactly, carries, List.forall_mem_cons, List.forall_mem_singleton]
  dsimp only
  rw [exact_iff d (base64Typed_of_ne other _) decodes.2,
    exact_iff i (base64Typed_of_ne other _) decodes'.2, fits]
  simp only [true_and, MAX_PAYLOAD_BYTES]
  omega

/-- A key of sixteen bytes is handed over whole. -/
theorem key_exactly {op : Op} {symKey : Option (List UInt8)} (other : method ≠ .ImportCertificate)
    (carries : ∀ key ∈ symKey, method.handed op = [(4, key)]) (brings : Brings params symKey)
    (sixteen : ∀ key ∈ symKey, key.length = 16) (brought : symKey.isSome) :
    HandsExactly method params op := by
  cases symKey with
  | none => cases brought
  | some key =>
    obtain ⟨encoded, given, decodes⟩ := brings
    refine (handsExactly_one (carries key rfl) given (base64Typed_of_ne other _) decodes.2).mpr ?_
    rw [sixteen key rfl]
    decide

theorem exactly_encryptData :
    Hands ctx (HandsExactly .EncryptData params) (EncryptData.handle ctx params lang) s
      (fun _ _ => True) ↔ ¬Spoiled ctx s params .EncryptData := by
  rw [hands_encryptData (handsExactly_indifferent _ _)]
  constructor
  · rintro met ⟨dataB64, ivB64, symKey, data, iv, library, provName, devName, appName, contName, d,
      i, brings,
      decodes, decodes', keyed, sixteen, wrong⟩
    have fine := (cipher_exactly_iff (by decide) rfl d i decodes decodes').mp
      (met dataB64 d ivB64 i symKey brings data decodes iv decodes' library _ _ _ _ keyed 0 0 0
        sixteen).2
    omega
  · intro fine dataB64 d ivB64 i symKey brings data decodes iv decodes' library provName devName
      appName contName
      keyed device application container sixteen
    refine ⟨fun key brought => key_exactly (by decide) (fun key' same => ?_) brings sixteen ?_,
      (cipher_exactly_iff (by decide) rfl d i decodes decodes').mpr ?_⟩
    · rw [Option.mem_unique brought same]
      rfl
    · exact Option.isSome_iff_exists.mpr ⟨key, brought⟩
    · by_contra wrong
      exact fine ⟨dataB64, ivB64, symKey, data, iv, library, provName, devName, appName, contName,
        d, i, brings,
        decodes, decodes', keyed, sixteen, by omega⟩

theorem exactly_decryptData :
    Hands ctx (HandsExactly .DecryptData params) (DecryptData.handle ctx params lang) s
      (fun _ _ => True) ↔ ¬Spoiled ctx s params .DecryptData := by
  rw [hands_decryptData (handsExactly_indifferent _ _)]
  constructor
  · rintro met ⟨dataB64, ivB64, symKey, data, iv, library, provName, devName, appName, contName, d,
      i, brings,
      decodes, decodes', keyed, sixteen, wrong⟩
    have fine := (cipher_exactly_iff (by decide) rfl d i decodes decodes').mp
      (met dataB64 d ivB64 i symKey brings data decodes iv decodes' library _ _ _ _ keyed 0 0 0
        sixteen).2
    omega
  · intro fine dataB64 d ivB64 i symKey brings data decodes iv decodes' library provName devName
      appName contName
      keyed device application container sixteen
    refine ⟨fun key brought => key_exactly (by decide) (fun key' same => ?_) brings sixteen ?_,
      (cipher_exactly_iff (by decide) rfl d i decodes decodes').mpr ?_⟩
    · rw [Option.mem_unique brought same]
      rfl
    · exact Option.isSome_iff_exists.mpr ⟨key, brought⟩
    · by_contra wrong
      exact fine ⟨dataB64, ivB64, symKey, data, iv, library, provName, devName, appName, contName,
        d, i, brings,
        decodes, decodes', keyed, sixteen, by omega⟩

theorem verify_exactly_iff {op : Op} {pubKeyB64 dataB64 sigB64 : String}
    {key data signature handedKey handedSignature : List UInt8}
    (other : method ≠ .ImportCertificate)
    (carries : method.handed op = [(2, handedKey), (3, data), (4, handedSignature)])
    (k : params.str 2 = some pubKeyB64) (d : params.str 3 = some dataB64)
    (g : params.str 4 = some sigB64) (key_ : Base64.decode pubKeyB64 = some key)
    (data_ : Base64.decode dataB64 = some data) (sig_ : Base64.decode sigB64 = some signature) :
    HandsExactly method params op ↔ (handedKey = key ∧ key.length ≤ MAX_PAYLOAD_BYTES) ∧
      data.length ≤ MAX_PAYLOAD_BYTES ∧ handedSignature = signature ∧
        signature.length ≤ MAX_PAYLOAD_BYTES := by
  have typed := base64Typed_of_ne other
  rw [HandsExactly, carries, List.forall_mem_cons, List.forall_mem_cons, List.forall_mem_singleton]
  dsimp only
  rw [exact_iff k (typed _) key_, exact_iff d (typed _) data_, exact_iff g (typed _) sig_, eq_self,
    true_and]

theorem exactly_eccVerify :
    Hands ctx (HandsExactly .ECCVerify params) (ECCVerify.handle ctx params lang) s
      (fun _ _ => True) ↔ ¬Spoiled ctx s params .ECCVerify := by
  rw [hands_eccVerify (handsExactly_indifferent _ _)]
  constructor
  · rintro met ⟨devName, pubKeyB64, dataB64, sigB64, key, data, signature, n, k, d, g, key_, data_,
      sig_, enough,
      enough', configured, noNul, wrong⟩
    have fine :=
      (verify_exactly_iff (by decide) rfl k d g key_ data_ sig_).mp
        (met devName n pubKeyB64 k dataB64 d
      sigB64 g key key_ data data_ signature sig_ enough enough' configured noNul 0)
    rw [List.take_eq_self_iff, List.take_eq_self_iff] at fine
    omega
  · intro fine devName n pubKeyB64 k dataB64 d sigB64 g key key_ data data_ signature sig_ enough
      enough' configured
      noNul raw
    refine (verify_exactly_iff (by decide) rfl k d g key_ data_ sig_).mpr ?_
    rw [List.take_eq_self_iff, List.take_eq_self_iff]
    by_contra wrong
    refine fine ⟨devName, pubKeyB64, dataB64, sigB64, key, data, signature, n, k, d, g, key_, data_,
      sig_, enough,
      enough', configured, noNul, ?_⟩
    simp only [ECCPUBLICKEYBLOB_SIZE, ECCSIGNATUREBLOB_SIZE, MAX_PAYLOAD_BYTES] at wrong ⊢
    omega

theorem exactly_rsaVerify :
    Hands ctx (HandsExactly .RSAVerify params) (RSAVerify.handle ctx params lang) s
      (fun _ _ => True) ↔ ¬Spoiled ctx s params .RSAVerify := by
  rw [hands_rsaVerify (handsExactly_indifferent _ _)]
  constructor
  · rintro met ⟨provName, devName, pubKeyB64, dataB64, sigB64, key, data, signature, p, n, k, d, g,
      key_, data_, sig_,
      enough, configured, noNul, wrong⟩
    have fine :=
      (verify_exactly_iff (by decide) rfl k d g key_ data_ sig_).mp
        (met provName p devName n pubKeyB64 k
      dataB64 d sigB64 g key key_ enough data data_ signature sig_ configured noNul 0)
    rw [List.take_eq_self_iff] at fine
    omega
  · intro fine provName p devName n pubKeyB64 k dataB64 d sigB64 g key key_ enough data data_
      signature sig_ configured
      noNul raw
    refine (verify_exactly_iff (by decide) rfl k d g key_ data_ sig_).mpr ?_
    rw [List.take_eq_self_iff]
    by_contra wrong
    refine fine ⟨provName, devName, pubKeyB64, dataB64, sigB64, key, data, signature, p, n, k, d, g,
      key_, data_, sig_,
      enough, configured, noNul, ?_⟩
    simp only [RSAPUBLICKEYBLOB_SIZE, MAX_PAYLOAD_BYTES, true_and] at wrong ⊢
    omega

theorem exactly_digestInit :
    Hands ctx (HandsExactly .DigestInit params) (DigestInit.handle ctx params lang) s
      (fun _ _ => True) ↔ ¬Spoiled ctx s params .DigestInit := by
  rw [hands_digestInit (handsExactly_indifferent _ _)]
  constructor
  · rintro met ⟨devName, encoded, p, d, noNul, e, wrong⟩
    have fine := met devName d p noNul 0 (3, _) (List.mem_singleton.mpr rfl) encoded e
      (base64Typed_of_ne (by decide) _)
    have long := wrong _ fine.1
    omega
  · intro fine devName d p noNul device entry member encoded e _
    rw [List.mem_singleton.mp member] at e ⊢
    have given : params.optionalStr 3 "" = encoded := by
      rw [Params.optionalStr, e, Option.getD_some]
    simp only [given]
    by_contra wrong
    refine fine ⟨devName, encoded, p, d, noNul, e, fun id decoded => ?_⟩
    rw [decoded, Option.getD_some] at wrong
    exact Nat.lt_of_not_le fun short => wrong ⟨rfl, short⟩

/-- A wrapping key that is not there decodes to nothing, which is short enough. -/
theorem wrapKey_exactly_iff {wrapKey : List UInt8}
    (decoded : Base64.decode ((params.str 6).getD "") = some wrapKey) :
    Exact .ImportKeyPair params 6 wrapKey ↔ wrapKey.length ≤ MAX_PAYLOAD_BYTES := by
  cases given : params.str 6 with
  | none =>
    rw [given, Option.getD_none] at decoded
    cases decoded
    exact iff_of_true (exact_absent given _) (by decide)
  | some encoded =>
    rw [given, Option.getD_some] at decoded
    rw [exact_iff given (base64Typed_of_ne (by decide) _) decoded]
    exact and_iff_right rfl

theorem exactly_importKeyPair : Hands ctx (HandsExactly .ImportKeyPair params)
    (ImportKeyPair.handle ctx params lang) s (fun _ _ => True) ↔
      ¬Spoiled ctx s params .ImportKeyPair := by
  rw [hands_importKeyPair (handsExactly_indifferent _ _)]
  -- For RSA two parameters must fit, for ECC the key pair alone.
  have imports {request : KeyPairRequest} (reads : request.Reads ctx params)
      (container : Container) :
      request.Imports (HandsExactly .ImportKeyPair params) container ↔
        (request.isEcc = true → request.encKeyPair.length ≤ MAX_PAYLOAD_BYTES) ∧
          (request.isEcc = false → ∀ wrapKey, Base64.decode request.wrapKey = some wrapKey →
            request.encKeyPair.length ≤ MAX_PAYLOAD_BYTES ∧
              wrapKey.length ≤ MAX_PAYLOAD_BYTES) := by
    obtain ⟨encoded, given, decoded⟩ := reads.key
    have typed := @base64Typed_of_ne .ImportKeyPair (by decide) encoded
    refine and_congr (forall_congr' fun _ => handsExactly_one rfl given typed decoded)
      (forall_congr' fun _ => forall_congr' fun wrapKey => forall_congr' fun wrapped => ?_)
    rw [reads.wrap] at wrapped
    have carries :
        Method.handed .ImportKeyPair (.vendor (.importRsaKeyPair container request.sm4AlgId wrapKey
        request.encKeyPair)) = [(5, request.encKeyPair), (6, wrapKey)] := rfl
    rw [HandsExactly, carries, List.forall_mem_cons, List.forall_mem_singleton]
    dsimp only
    rw [exact_iff given typed decoded, wrapKey_exactly_iff wrapped, eq_self, true_and]
  constructor
  · rintro met ⟨request, reads, configured, opens, wrong⟩
    obtain ⟨curve, rsa⟩ := (imports reads _).mp (met request reads configured opens 0 0 0)
    rcases wrong with ⟨ecc, long⟩ | ⟨other, wrapKey, wrapped, long⟩
    · have short := curve ecc
      omega
    · have short := rsa other wrapKey wrapped
      omega
  · intro fine request reads configured opens device application container
    refine (imports reads _).mpr ⟨fun ecc => ?_, fun other wrapKey wrapped => ?_⟩
    · by_contra long
      exact fine ⟨request, reads, configured, opens, .inl ⟨ecc, by omega⟩⟩
    · by_contra long
      exact fine ⟨request, reads, configured, opens, .inr ⟨other, wrapKey, wrapped, by omega⟩⟩

theorem handsExactly_of_other (other : method.decoding = false) (op : Op) :
    HandsExactly method params op := by
  intro entry member
  have none : method.positions op = [] := by
    cases method with
    | SignData | RSASignData | EncryptData | DecryptData | ImportCertificate | ImportKeyPair
    | Digest | ECCVerify | RSAVerify | Transmit | DigestInit | DigestUpdate => cases other
    | _ => rfl
  rw [Method.handed, none, List.zip_nil_left] at member
  cases member

theorem exactly_branch (method : Method) : Hands ctx (HandsExactly method params)
    (method.branch ctx params lang) s (fun _ _ => True) ↔ ¬Spoiled ctx s params method := by
  by_cases decoding : method.decoding = true
  · cases method with
    | SignData => exact exactly_signData
    | RSASignData => exact exactly_rsaSignData
    | EncryptData => exact exactly_encryptData
    | DecryptData => exact exactly_decryptData
    | ImportCertificate => exact exactly_importCertificate
    | ImportKeyPair => exact exactly_importKeyPair
    | Digest => exact exactly_digest
    | ECCVerify => exact exactly_eccVerify
    | RSAVerify => exact exactly_rsaVerify
    | Transmit => exact exactly_transmit
    | DigestInit => exact exactly_digestInit
    | DigestUpdate => exact exactly_digestUpdate
    | _ => cases decoding
  · have other : method.decoding = false := Bool.eq_false_iff.mpr decoding
    have unconditional : ¬Spoiled ctx s params method := by
      intro spoiled
      cases method with
      | SignData | RSASignData | EncryptData | DecryptData | ImportCertificate | ImportKeyPair
      | Digest | ECCVerify | RSAVerify | Transmit | DigestInit | DigestUpdate => cases other
      | _ => exact spoiled
    refine iff_of_true ?_ unconditional
    exact (plain_branch other).meets fun _ op _ => handsExactly_of_other other op

end SkfService
