import SkfService.Dispatch.HandleRequest
import SkfService.Payload.Setting

/-! What each branch that decodes base64 hands over, and when it gets that far. -/

set_option autoImplicit false

namespace SkfService

open Text Interaction Program Handler

variable {ctx : SkfContext} {good : Op → Prop} {s : SessionState} {params : Params}
  {lang : Language} (indifferent : Indifferent good)

include indifferent

theorem hands_transmit : Hands ctx good (Transmit.handle ctx params lang) s (fun _ _ => True) ↔
    ∀ provName, params.str 0 = some provName → ∀ devName, params.str 1 = some devName →
      ∀ encoded, params.str 2 = some encoded → ∀ command, Base64.decode encoded = some command →
        ctx.Configured provName → NulFree devName → ∀ raw,
          good (.vendor (.transmit ⟨⟨provName, none⟩, devName, raw⟩ command 4096)) := by
  simp only [Transmit.handle, requiredNames, decodedOr, hands_bind, hands_requiredStr,
    hands_decodeBase64, hands_loadedApi indifferent, hands_connectDev indifferent,
    hands_withConnected indifferent, hands_ite, hands_pure, ite_self, implies_true, and_true]

theorem hands_eccVerify : Hands ctx good (ECCVerify.handle ctx params lang) s (fun _ _ => True) ↔
    ∀ devName, params.str 1 = some devName → ∀ pubKeyB64, params.str 2 = some pubKeyB64 →
      ∀ dataB64, params.str 3 = some dataB64 → ∀ sigB64, params.str 4 = some sigB64 →
        ∀ key, Base64.decode pubKeyB64 = some key → ∀ data, Base64.decode dataB64 = some data →
          ∀ signature, Base64.decode sigB64 = some signature →
            ECCPUBLICKEYBLOB_SIZE ≤ key.length → ECCSIGNATUREBLOB_SIZE ≤ signature.length →
              ctx.Configured (defaulted ctx params) → NulFree devName → ∀ raw,
                good (.vendor (.eccVerify ⟨⟨defaulted ctx params, none⟩, devName, raw⟩
                  (key.take ECCPUBLICKEYBLOB_SIZE) data
                    (signature.take ECCSIGNATUREBLOB_SIZE))) := by
  simp only [ECCVerify.handle, decodedOr, hands_bind, hands_requiredStr, hands_decodeBase64,
    hands_apiOr indifferent, hands_connectDev indifferent, hands_withConnected indifferent,
    hands_ite, hands_pure, hands_reply, implies_true, and_true, if_true_left, Nat.not_lt]

theorem hands_rsaVerify : Hands ctx good (RSAVerify.handle ctx params lang) s (fun _ _ => True) ↔
    ∀ provName, params.str 0 = some provName → ∀ devName, params.str 1 = some devName →
      ∀ pubKeyB64, params.str 2 = some pubKeyB64 → ∀ dataB64, params.str 3 = some dataB64 →
        ∀ sigB64, params.str 4 = some sigB64 → ∀ key, Base64.decode pubKeyB64 = some key →
          RSAPUBLICKEYBLOB_SIZE ≤ key.length → ∀ data, Base64.decode dataB64 = some data →
            ∀ signature, Base64.decode sigB64 = some signature →
              ctx.Configured provName → NulFree devName → ∀ raw,
                good (.vendor (.rsaVerify ⟨⟨provName, none⟩, devName, raw⟩
                  (key.take RSAPUBLICKEYBLOB_SIZE) data signature)) := by
  simp only [RSAVerify.handle, requiredNames, decodedOr, hands_bind, hands_requiredStr,
    hands_decodeBase64, hands_loadedApi indifferent, hands_connectDev indifferent,
    hands_withConnected indifferent, hands_ite, hands_pure, hands_reply, implies_true, and_true,
    if_true_left, Nat.not_lt]

theorem hands_digest : Hands ctx good (Digest.handle ctx params lang) s (fun _ _ => True) ↔
    ∀ provName, params.str 0 = some provName → ∀ devName, params.str 1 = some devName →
      ∀ encoded, params.str 2 = some encoded →
        ∀ algId,
          digestAlgorithm (ctx.platform.toUppercase (params.optionalStr 3 "SM3")) = some algId →
          ∀ data, Base64.decode encoded = some data → ctx.Configured provName → NulFree devName →
            ∀ device hash,
              good (.vendor (.digest ⟨⟨⟨provName, none⟩, devName, device⟩, hash⟩ data 64)) := by
  have started (device : Device) (algId : ULONG) (t : SessionState)
      (ret : ULONG × Nat → SessionState → Prop) :
      Hands ctx good (vendor (.digestInit device algId)) t ret ↔ ∀ code raw, ret (code, raw) t := by
    rw [hands_vendor]
    exact ⟨fun met code raw => met.2 (code, raw), fun goes =>
      ⟨indifferent _ rfl, fun answer => goes _ _⟩⟩
  have digested (hash : Digest) (data : List UInt8) (t : SessionState) :
      Hands ctx good (vendor (.digest hash data 64)) t (fun _ _ => True) ↔
        good (.vendor (.digest hash data 64)) :=
    hands_vendor_last _
  simp only [Digest.handle, decodedOr, hands_bind, hands_requiredStr, hands_decodeBase64,
    hands_expect, hands_apiOr indifferent, hands_connectDev indifferent, started, digested,
    hands_ite, hands_pure, hands_disConnectDev indifferent, ite_self, if_true_right]
  -- The code of the start decides whether the data is handed over; any reply may accept.
  constructor
  · intro met provName p devName d encoded e algId a data decoded configured noNul device hash
    exact met provName p devName d encoded e algId a data decoded configured noNul device
      SAR_OK hash rfl
  · intro met provName p devName d encoded e algId a data decoded configured noNul device
      code hash _
    exact met provName p devName d encoded e algId a data decoded configured noNul device hash

theorem hands_importCertificate :
    Hands ctx good (ImportCertificate.handle ctx params lang) s (fun _ _ => True) ↔
      ∀ devName, params.str 1 = some devName → ∀ appName, params.str 2 = some appName →
        ∀ contName, params.str 3 = some contName → ∀ signFlag, params.bool 4 = some signFlag →
          ∀ certStr, params.str 5 = some certStr → (utf8 certStr).length ≤ MAX_ENCODED_BYTES →
            ∀ cert, decodeCertificate ctx.platform.base64Error certStr = .ok cert →
              ∀ library, ctx.Resolves (params.optionalStr 0 ctx.config.default) library →
                Opens s (params.optionalStr 0 ctx.config.default) devName appName contName →
                  ∀ device application container, good (.provider (.importCertificate
                    ⟨⟨⟨library, devName, device⟩, appName, application⟩, contName, container⟩
                      signFlag cert)) := by
  have imported (container : Container) (signFlag : Bool) (cert : List UInt8) (t : SessionState) :
      Hands ctx good (provider (.importCertificate container signFlag cert)) t (fun _ _ => True) ↔
        good (.provider (.importCertificate container signFlag cert)) := hands_provider_last _
  simp only [ImportCertificate.handle, containerNames, hands_bind, hands_requiredStr, hands_expect,
    hands_checkPayloadLen, hands_mapError, hands_pure, hands_resolveOr indifferent, hands_settled,
    hands_withGrantedContainer indifferent, implies_true, imported]

omit indifferent in
theorem hands_certKeyNames {ret : String × String × String × String → SessionState → Prop}
    (certKey : String) :
    Hands ctx good (certKeyNames ctx params certKey) s ret ↔
      ∀ parts, splitCertKey certKey 4 = some parts →
        ret (ctx.normalizeAlias (parts.getD 0 ""), parts.getD 1 "", parts.getD 2 "",
          parts.getD 3 "") s := by
  rw [certKeyNames, hands_bind, hands_expect]
  rfl

structure Keyed (ctx : SkfContext) (s : SessionState) (params : Params) (library : Library)
    (provName devName appName contName : String) : Prop where
  named : ∃ certKey parts, params.str 0 = some certKey ∧ splitCertKey certKey 4 = some parts ∧
    provName = ctx.normalizeAlias (parts.getD 0 "") ∧ devName = parts.getD 1 "" ∧
      appName = parts.getD 2 "" ∧
      contName = parts.getD 3 ""
  resolves : ctx.Resolves provName library
  opens : Opens s provName devName appName contName

theorem hands_withSigningContainer (sign : Container → List UInt8 → Handler RpcResponse) :
    Hands ctx good (withSigningContainer ctx params sign) s (fun _ _ => True) ↔
      ∀ encoded, params.str 1 = some encoded → ∀ data, Params.Decodes encoded data →
        ∀ library provName devName appName contName,
          Keyed ctx s params library provName devName appName contName →
            ∀ device application container,
            Hands ctx good
              (sign ⟨⟨⟨library, devName, device⟩, appName, application⟩, contName, container⟩ data)
                s
              (fun _ _ => True) := by
  simp only [withSigningContainer, hands_bind, hands_requiredStr, hands_certKeyNames, hands_decode,
    hands_resolveOr indifferent, hands_withGrantedContainer indifferent]
  constructor
  · rintro met encoded d data decodes library provName devName appName contName
      ⟨named, resolves, opens⟩
    obtain ⟨certKey, parts, c, split, rfl, rfl, rfl, rfl⟩ := named
    exact met certKey c encoded d parts split data decodes library resolves opens
  · intro met certKey c encoded d parts split data decodes library resolves opens
    exact met encoded d data decodes library _ _ _ _
      ⟨⟨certKey, parts, c, split, rfl, rfl, rfl, rfl⟩, resolves, opens⟩

theorem hands_signData : Hands ctx good (SignData.handle ctx params lang) s (fun _ _ => True) ↔
    ∀ encoded, params.str 1 = some encoded → ∀ data, Params.Decodes encoded data →
      ∀ library provName devName appName contName,
        Keyed ctx s params library provName devName appName contName →
          ∀ device application container,
          good (.provider (.signEcc
            ⟨⟨⟨library, devName, device⟩, appName, application⟩, contName, container⟩ data)) ∧
          good (.provider (.signRsa
            ⟨⟨⟨library, devName, device⟩, appName, application⟩, contName, container⟩ data)) := by
  have queried (container : Container) (t : SessionState)
      (ret : Attempt UInt32 → SessionState → Prop) :
      Hands ctx good (provider (.containerType container)) t ret ↔ ∀ found, ret found t := by
    rw [hands_provider]
    exact ⟨fun met found => met.2 found trivial, fun goes =>
      ⟨indifferent _ rfl, fun found _ => goes found⟩⟩
  have formatted (sig : List UInt8) (t : SessionState) :
      Hands ctx good (signatureDer sig) t (fun _ _ => True) := by
    simp only [signatureDer, hands_bind, hands_unwrap, hands_pure, implies_true]
  rw [SignData.handle, hands_withSigningContainer indifferent]
  -- A container type of 2 leads to the ECC call and every other to the RSA call, so that each can
  -- be reached.
  constructor
  · intro met encoded e data decodes library provName devName appName contName keyed device
      application container
    have asked :=
      met encoded e data decodes library provName devName appName contName keyed device
        application container
    rw [hands_bind, queried] at asked
    constructor
    · exact (asked (some (.ok 2))).1
    · exact (asked (some (.ok 1))).1
  · intro met encoded e data decodes library provName devName appName contName keyed device
      application container
    obtain ⟨ecc, rsa⟩ :=
      met encoded e data decodes library provName devName appName contName keyed device
        application container
    rw [hands_bind, queried]
    intro found
    rw [hands_bind, hands_settled]
    rintro result rfl
    apply meets_ite
    · intro _
      rw [← Hands, hands_bind, hands_provider]
      refine ⟨ecc, fun signed _ => ?_⟩
      rw [hands_bind, hands_settled]
      rintro outcome rfl
      cases outcome with
      | ok sig =>
        exact (hands_bind _ _).mpr
          ((formatted sig s).mono (fun _ _ _ => trivial) fun _ _ _ => trivial)
      | error e => trivial
    · intro _
      rw [← Hands, hands_bind, hands_provider]
      refine ⟨rsa, fun signed _ => ?_⟩
      rw [hands_bind, hands_settled]
      exact fun _ _ => trivial

theorem hands_rsaSignData :
    Hands ctx good (RSASignData.handle ctx params lang) s (fun _ _ => True) ↔
      ∀ encoded, params.str 1 = some encoded → ∀ data, Params.Decodes encoded data →
        ∀ library provName devName appName contName,
          Keyed ctx s params library provName devName appName contName →
            ∀ device application container,
            good (.provider (.signRsa
              ⟨⟨⟨library, devName, device⟩, appName, application⟩, contName, container⟩ data)) := by
  have signed (container : Container) (data : List UInt8) (t : SessionState) :
      Hands ctx good (provider (.signRsa container data)) t (fun _ _ => True) ↔
        good (.provider (.signRsa container data)) := hands_provider_last _
  simp only [RSASignData.handle, hands_withSigningContainer indifferent, hands_bind, hands_settled,
    hands_pure, implies_true, signed]

def Brings (params : Params) : Option (List UInt8) → Prop
  | none => params.str 4 = none
  | some key => ∃ encoded, params.str 4 = some encoded ∧ Params.Decodes encoded key

omit indifferent in
theorem hands_noKey {ret : Option (List UInt8) → SessionState → Prop}
    (given : params.str 4 = none) :
    Hands ctx good (orReply (.ok none)) s ret ↔ ∀ symKey, Brings params symKey → ret symKey s := by
  rw [hands_orReply]
  refine forall_congr' fun symKey => ?_
  cases symKey <;> simp [Brings, given]

omit indifferent in
theorem hands_someKey {ret : Option (List UInt8) → SessionState → Prop} {encoded : String}
    (given : params.str 4 = some encoded) (errorText : DecodeErrorText) (message : String) :
    Hands ctx good (orReply ((params.decode errorText encoded message).map some)) s ret ↔
      ∀ symKey, Brings params symKey → ret symKey s := by
  have decoded (key : List UInt8) := @Params.decode_ok_iff params errorText encoded message key
  rw [hands_orReply]
  refine forall_congr' fun symKey => ?_
  cases outcome : params.decode errorText encoded message with
  | error rejection => cases symKey <;> simp [Brings, given, ← decoded, outcome, Except.map]
  | ok bytes => cases symKey <;> simp [Brings, given, ← decoded, outcome, Except.map]

omit indifferent in
theorem hands_setSymmKey {ret : Unit → SessionState → Prop} (container : Container)
    (symKey : Option (List UInt8)) (id : Option Json) :
    Hands ctx good (setSymmKey container symKey lang id) s ret ↔
      ((∀ key ∈ symKey, key.length = 16) →
        (∀ key ∈ symKey, good (.provider (.setSymmKey container SGD_SM4_CBC key))) ∧ ret () s) := by
  cases symKey with
  | none => simp [setSymmKey]
  | some key =>
    simp only [Option.mem_def, Option.some.injEq, forall_eq']
    rw [setSymmKey]
    by_cases sixteen : key.length = 16
    · rw [if_neg (by simpa using sixteen), hands_bind, hands_provider]
      simp only [sixteen, forall_const]
      refine and_congr_right fun _ => ?_
      constructor
      · intro met
        exact met (some (.ok ())) trivial
      · intro held reply _
        rw [hands_bind, hands_settled]
        rintro result rfl
        cases result with
        | ok done => exact held
        | error e => trivial
    · rw [if_pos sixteen]
      exact ⟨fun _ given => absurd given sixteen, fun _ => trivial⟩

theorem hands_withSymmetricKey (missingData invalidData : String)
    (cipher : Container → List UInt8 → ULONG → List UInt8 → Handler RpcResponse) :
    Hands ctx good (withSymmetricKey ctx params lang missingData invalidData cipher) s
      (fun _ _ => True) ↔
      ∀ dataB64, params.str 1 = some dataB64 → ∀ ivB64, params.str 2 = some ivB64 →
        ∀ symKey, Brings params symKey → ∀ data, Params.Decodes dataB64 data →
          ∀ iv, Params.Decodes ivB64 iv → ∀ library provName devName appName contName,
            Keyed ctx s params library provName devName appName contName →
              ∀ device application container,
              (∀ key ∈ symKey, key.length = 16) →
                (∀ key ∈ symKey, good (.provider (.setSymmKey
                  ⟨⟨⟨library, devName, device⟩, appName, application⟩, contName, container⟩
                    SGD_SM4_CBC key))) ∧
                Hands ctx good (cipher
                  ⟨⟨⟨library, devName, device⟩, appName, application⟩, contName, container⟩ iv
                  (params.optionalU64 3 1).toUInt32 data) s (fun _ _ => True) := by
  -- The parameters are read in the order of the source: a key that is brought along is decoded
  -- before the certificate key is split.
  have shape : Hands ctx good (withSymmetricKey ctx params lang missingData invalidData cipher) s
      (fun _ _ => True) ↔
      ∀ certKey, params.str 0 = some certKey → ∀ dataB64, params.str 1 = some dataB64 →
        ∀ ivB64, params.str 2 = some ivB64 → ∀ symKey, Brings params symKey →
          Hands ctx good (certKeyNames ctx params certKey >>= fun names =>
            orReply (params.decode ctx.platform.base64Error dataB64 invalidData) >>= fun data =>
            orReply (params.decode ctx.platform.base64Error ivB64 "Invalid base64 IV") >>= fun iv =>
            resolveOr ctx names.1 (loadFailed · params.id) >>= fun library =>
            withGrantedContainer library names.1 names.2.1 names.2.2.1 names.2.2.2 params.id
              fun container =>
              setSymmKey container symKey lang params.id >>= fun _ =>
                cipher container iv (params.optionalU64 3 1).toUInt32 data) s
                  (fun _ _ => True) := by
    rw [withSymmetricKey, hands_bind, hands_requiredStr]
    refine forall_congr' fun certKey => forall_congr' fun _ => ?_
    rw [hands_bind, hands_requiredStr]
    refine forall_congr' fun dataB64 => forall_congr' fun _ => ?_
    rw [hands_bind, hands_requiredStr]
    refine forall_congr' fun ivB64 => forall_congr' fun _ => ?_
    dsimp only
    rw [hands_bind]
    cases given : params.str 4 with
    | none => exact hands_noKey given
    | some encoded => exact hands_someKey given _ _
  simp only [shape, hands_bind, hands_certKeyNames, hands_decode, hands_resolveOr indifferent,
    hands_withGrantedContainer indifferent, hands_setSymmKey]
  constructor
  · rintro met dataB64 d ivB64 i symKey brings data decodes iv decodes' library provName devName
      appName contName
      ⟨⟨certKey, parts, c, split, rfl, rfl, rfl, rfl⟩, resolves, opens⟩
    exact met certKey c dataB64 d ivB64 i symKey brings parts split data decodes iv decodes' library
      resolves opens
  · intro met certKey c dataB64 d ivB64 i symKey brings parts split data decodes iv decodes' library
      resolves opens
    exact met dataB64 d ivB64 i symKey brings data decodes iv decodes' library _ _ _ _
      ⟨⟨certKey, parts, c, split, rfl, rfl, rfl, rfl⟩, resolves, opens⟩

theorem hands_encryptData :
    Hands ctx good (EncryptData.handle ctx params lang) s (fun _ _ => True) ↔
      ∀ dataB64, params.str 1 = some dataB64 → ∀ ivB64, params.str 2 = some ivB64 →
        ∀ symKey, Brings params symKey → ∀ data, Params.Decodes dataB64 data →
          ∀ iv, Params.Decodes ivB64 iv → ∀ library provName devName appName contName,
            Keyed ctx s params library provName devName appName contName →
              ∀ device application container,
              (∀ key ∈ symKey, key.length = 16) →
                (∀ key ∈ symKey, good (.provider (.setSymmKey
                  ⟨⟨⟨library, devName, device⟩, appName, application⟩, contName, container⟩
                    SGD_SM4_CBC key))) ∧
                good (.provider (.encrypt
                  ⟨⟨⟨library, devName, device⟩, appName, application⟩, contName, container⟩
                    SGD_SM4_CBC iv
                  (params.optionalU64 3 1).toUInt32 data)) := by
  have encrypted (container : Container) (iv data : List UInt8) (padding : ULONG)
      (t : SessionState) :
      Hands ctx good (provider (.encrypt container SGD_SM4_CBC iv padding data)) t
        (fun _ _ => True) ↔
        good (.provider (.encrypt container SGD_SM4_CBC iv padding data)) := hands_provider_last _
  simp only [EncryptData.handle, hands_withSymmetricKey indifferent, hands_bind, hands_settled,
    hands_pure, implies_true, encrypted]

theorem hands_decryptData :
    Hands ctx good (DecryptData.handle ctx params lang) s (fun _ _ => True) ↔
      ∀ dataB64, params.str 1 = some dataB64 → ∀ ivB64, params.str 2 = some ivB64 →
        ∀ symKey, Brings params symKey → ∀ data, Params.Decodes dataB64 data →
          ∀ iv, Params.Decodes ivB64 iv → ∀ library provName devName appName contName,
            Keyed ctx s params library provName devName appName contName →
              ∀ device application container,
              (∀ key ∈ symKey, key.length = 16) →
                (∀ key ∈ symKey, good (.provider (.setSymmKey
                  ⟨⟨⟨library, devName, device⟩, appName, application⟩, contName, container⟩
                    SGD_SM4_CBC key))) ∧
                good (.provider (.decrypt
                  ⟨⟨⟨library, devName, device⟩, appName, application⟩, contName, container⟩
                    SGD_SM4_CBC iv
                  (params.optionalU64 3 1).toUInt32 data)) := by
  have decrypted (container : Container) (iv data : List UInt8) (padding : ULONG)
      (t : SessionState) :
      Hands ctx good (provider (.decrypt container SGD_SM4_CBC iv padding data)) t
        (fun _ _ => True) ↔
        good (.provider (.decrypt container SGD_SM4_CBC iv padding data)) := hands_provider_last _
  simp only [DecryptData.handle, hands_withSymmetricKey indifferent, hands_bind, hands_settled,
    hands_pure, implies_true, decrypted]

structure KeyPairRequest.Reads (ctx : SkfContext) (params : Params) (request : KeyPairRequest) :
    Prop where
  provider : request.provName = defaulted ctx params
  device : params.str 1 = some request.devName
  application : params.str 2 = some request.appName
  container : params.str 3 = some request.contName
  algorithm : ∃ alg, params.str 4 = some alg ∧
    request.isEcc = (eqIgnoreAsciiCase alg "SM2" || eqIgnoreAsciiCase alg "ECC")
  key : ∃ encoded, params.str 5 = some encoded ∧ Base64.decode encoded = some request.encKeyPair
  wrap : request.wrapKey = (params.str 6).getD ""
  mode : SUPPORTED_SM4 (params.str 7) = some request.sm4AlgId

omit indifferent in
theorem hands_read {ret : KeyPairRequest → SessionState → Prop} :
    Hands ctx good (KeyPairRequest.read ctx params lang) s ret ↔
      ∀ request, request.Reads ctx params → ret request s := by
  simp only [KeyPairRequest.read, hands_bind, hands_requiredStr, hands_expect, hands_decodeBase64,
    hands_pure]
  constructor
  · rintro met ⟨_, devName, appName, contName, _, sm4AlgId, encKeyPair, _⟩
      ⟨rfl, device, application, container, ⟨alg, algorithm, rfl⟩, ⟨encoded, key, decodes⟩,
        rfl, mode⟩
    exact met devName device appName application contName container alg algorithm encoded key
      sm4AlgId mode
      encKeyPair decodes
  · intro met devName device appName application contName container alg algorithm encoded key
      sm4AlgId mode
      encKeyPair decodes
    exact met _ ⟨rfl, device, application, container, ⟨alg, algorithm, rfl⟩,
      ⟨encoded, key, decodes⟩, rfl, mode⟩

def KeyPairRequest.Imports (good : Op → Prop) (request : KeyPairRequest) (container : Container) :
    Prop :=
  (request.isEcc = true → good (.vendor (.importEccKeyPair container request.encKeyPair))) ∧
    (request.isEcc = false → ∀ wrapKey, Base64.decode request.wrapKey = some wrapKey →
      good (.vendor (.importRsaKeyPair container request.sm4AlgId wrapKey request.encKeyPair)))

theorem hands_intoContainer (request : KeyPairRequest) (container : Container) (id : Option Json) :
    Hands ctx good (ImportKeyPair.intoContainer ctx request container id) s (fun _ _ => True) ↔
      request.Imports good container := by
  have released {ret : Unit → SessionState → Prop} (t : SessionState) :
      Hands ctx good (closeContainer container >>= fun _ =>
        closeApplication container.application >>= fun _ =>
        disConnectDev container.application.device) t ret ↔ ret () t := by
    rw [hands_bind, hands_closeContainer indifferent, hands_bind,
      hands_closeApplication indifferent, hands_disConnectDev indifferent]
  have finished (ret : ULONG) (t : SessionState) : Hands ctx good
      ((closeContainer container >>= fun _ => closeApplication container.application >>= fun _ =>
        disConnectDev container.application.device) >>= fun _ =>
          if ret = SAR_OK then pure (RpcResponse.ok (.bool true) id)
          else pure (RpcResponse.err (codeAsI32 ret) (failedAs "ImportKeyPair" ret) id)) t
            (fun _ _ => True) := by
    rw [hands_bind, released]
    exact meets_ite (fun _ => trivial) fun _ => trivial
  rw [ImportKeyPair.intoContainer, KeyPairRequest.Imports]
  -- The wrapped key is decoded for RSA only, when the container is open already.
  cases curve : request.isEcc with
  | true =>
    simp only [forall_const, reduceCtorEq, false_implies, and_true, if_true]
    rw [hands_bind, hands_vendor]
    exact and_iff_left fun ret => finished ret s
  | false =>
    simp only [false_implies, true_and, forall_const, Bool.false_eq_true, if_false]
    rw [decodeBase64]
    cases decoded : Base64.decode request.wrapKey with
    | none =>
      simp only [reduceCtorEq, false_implies, implies_true, iff_true]
      rw [hands_bind, released]
      trivial
    | some wrapKey =>
      simp only [Option.some.injEq, forall_eq']
      rw [hands_bind, hands_vendor]
      exact and_iff_left fun ret => finished ret s

theorem hands_importKeyPair :
    Hands ctx good (ImportKeyPair.handle ctx params lang) s (fun _ _ => True) ↔
      ∀ request : KeyPairRequest, request.Reads ctx params → ctx.Configured request.provName →
        Opens s request.provName request.devName request.appName request.contName →
          ∀ device application container, request.Imports good
            ⟨⟨⟨⟨request.provName, none⟩, request.devName, device⟩, request.appName, application⟩,
              request.contName, container⟩ := by
  -- Without a grant the branch closes what it opened, and no bytes are handed over.
  have unauthorized (application : Application) (t : SessionState) :
      Hands ctx good (ImportKeyPair.unauthorized application params.id) t (fun _ _ => True) := by
    simp only [ImportKeyPair.unauthorized, hands_bind, hands_closeApplication indifferent,
      hands_disConnectDev indifferent, hands_pure]
  have intoApplication (request : KeyPairRequest) (application : Application) :
      Hands ctx good (ImportKeyPair.intoApplication ctx request application params.id) s
        (fun _ _ => True) ↔
        (s.Granted ⟨request.provName, request.devName, request.appName⟩ → NulFree request.contName →
          ∀ raw, request.Imports good ⟨application, request.contName, raw⟩) := by
    rw [ImportKeyPair.intoApplication, hands_authorize indifferent _ _ _ (fun _ => rfl)
      fun _ _ t => unauthorized application t]
    refine forall_congr' fun _ => (hands_bind (cString request.contName) _).trans ?_
    rw [hands_cString]
    refine forall_congr' fun noNul => ?_
    rw [hands_bind, hands_vendor]
    constructor
    · intro met raw
      exact (hands_intoContainer indifferent request _ params.id).mp (met.2 (SAR_OK, raw))
    · refine fun goes => ⟨indifferent _ rfl, fun answer => ?_⟩
      apply meets_ite
      · intro _
        exact (hands_intoContainer indifferent request _ params.id).mpr (goes answer.2)
      · intro _
        rw [← Hands, hands_bind, hands_closeApplication indifferent, hands_bind,
          hands_disConnectDev indifferent]
        trivial
  simp only [ImportKeyPair.handle, hands_bind, hands_read, hands_apiOr indifferent,
    hands_connectDev indifferent, hands_openApp indifferent, intoApplication]
  constructor
  · intro met request reads configured opens device application container
    exact met request reads configured opens.device device opens.application application
      opens.granted
      opens.container container
  · intro met request reads configured free device free' application granted free'' container
    exact met request reads configured ⟨free, free', granted, free''⟩ device application container

/-- On the default alias the bytes go to one call of the provider; what comes behind takes none of
them. -/
theorem hands_onDefault (devName : String) (algId : ULONG) (idBytes : List UInt8) :
    Hands ctx good (DigestInit.onDefault ctx devName algId idBytes lang params.id) s
      (fun _ _ => True) ↔
      (NulFree devName → ∀ device,
        good (.provider (.beginDigest ⟨ctx.provider, devName, device⟩ algId idBytes))) := by
  have closed (device : Device) (t : SessionState) (ret : Unit → SessionState → Prop)
      (held : ret () t) :
      Hands ctx good (provider (.close (.device device))) t ret := by
    rw [hands_provider]
    exact ⟨indifferent _ rfl, fun _ _ => held⟩
  have issued (op : SessionOp) (t : SessionState) (ret : op.Reply → SessionState → Prop)
      (held : ∀ reply t, ret reply t) : Hands ctx good (session op) t ret := by
    rw [hands_session]
    exact ⟨indifferent _ rfl, fun _ _ => held _ _⟩
  rw [DigestInit.onDefault, hands_bind, hands_provider]
  constructor
  · intro met noNul device
    exact (met.2 (some (.ok device)) fun _ => noNul).1
  · refine fun goes => ⟨indifferent _ rfl, fun opened real => ?_⟩
    rw [hands_bind, hands_settled]
    rintro result rfl
    cases result with
    | error e => trivial
    | ok raw =>
      dsimp only
      rw [hands_bind, hands_provider]
      refine ⟨goes (real rfl) raw, fun begun _ => ?_⟩
      cases begun with
      | none => exact (hands_bind _ _).mpr (closed _ _ _ trivial)
      | some begun =>
        cases begun with
        | ok hash =>
          dsimp only
          rw [hands_bind]
          refine issued _ _ _ fun handle t => ?_
          rw [hands_bind]
          exact issued _ _ _ fun _ _ => trivial
        | error e => exact (hands_bind _ _).mpr (closed _ _ _ trivial)

/-- On another alias the branch calls the symbol table, with a name and no bytes. -/
theorem hands_onOther (provName devName : String) :
    Hands ctx good (DigestInit.onOther ctx provName devName lang params.id) s
      (fun _ _ => True) := by
  rw [DigestInit.onOther, hands_bind, hands_apiOr indifferent]
  intro _
  rw [hands_bind, hands_cString]
  intro noNul
  rw [hands_bind, hands_vendor]
  refine ⟨indifferent _ rfl, fun answer => ?_⟩
  apply meets_ite
  · intro _
    rw [← Hands, hands_bind, hands_disConnectDev indifferent]
    trivial
  · exact fun _ => trivial

theorem hands_digestInit : Hands ctx good (DigestInit.handle ctx params lang) s (fun _ _ => True) ↔
    ∀ devName, params.str 1 = some devName → params.str 0 = some ctx.config.default →
      NulFree devName →
      ∀ device, good (.provider (.beginDigest ⟨ctx.provider, devName, device⟩
        (params.optionalU64 2 SGD_SM3.toUInt64).toUInt32
          ((Base64.decode (params.optionalStr 3 "")).getD []))) := by
  simp only [DigestInit.handle, requiredNames, hands_bind, hands_requiredStr, hands_pure, hands_ite,
    hands_onDefault indifferent, hands_onOther indifferent, if_true_right]
  constructor
  · intro met devName d default noNul device
    exact met ctx.config.default default devName d rfl noNul device
  · rintro met _ default devName d rfl noNul device
    exact met devName d default noNul device

theorem hands_digestUpdate :
    Hands ctx good (DigestUpdate.handle ctx params lang) s (fun _ _ => True) ↔
      ∀ handle, params.str 0 = some handle → ∀ encoded, params.str 1 = some encoded →
        ∀ data, Base64.decode encoded = some data → ∀ digest, s.handles.digest handle = .ok digest →
          good (.provider (.update digest data)) := by
  have looked (handle : String) (ret : Except HandleError Digest → SessionState → Prop) :
      Hands ctx good (session (.digest handle)) s ret ↔ ret (s.handles.digest handle) s := by
    rw [hands_session]
    constructor
    · intro met
      exact met.2 (s.handles.digest handle) rfl
    · intro held
      refine ⟨indifferent _ rfl, fun reply found => ?_⟩
      rw [← found]
      exact held
  simp only [DigestUpdate.handle, hands_bind, hands_expect, hands_decodeBase64, looked]
  refine forall_congr' fun handle =>
    forall_congr' fun _ => forall_congr' fun encoded => forall_congr' fun _ =>
    forall_congr' fun data => forall_congr' fun _ => ?_
  -- Only a handle that the session holds leads to the provider.
  cases s.handles.digest handle with
  | error reason => simp
  | ok digest =>
    simp only [Except.ok.injEq, forall_eq']
    rw [hands_bind, hands_provider]
    refine and_iff_left fun updated _ => ?_
    rw [hands_bind, hands_settled]
    rintro result rfl
    cases result with
    | ok done => trivial
    | error e => trivial

end SkfService
