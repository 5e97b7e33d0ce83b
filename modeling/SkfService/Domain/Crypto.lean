import SkfService.Domain.Keys

/-! Signing, symmetric encryption and certificate requests. -/

set_option autoImplicit false

namespace SkfService

open Text Interaction Handler

def certKeyNames (ctx : SkfContext) (params : Params) (certKey : String) :
    Handler (String × String × String × String) := do
  let parts ← expect (splitCertKey certKey 4)
    (.err (-2) "Invalid certKey format, expected: provider/device/app/container[/serial]" params.id)
  return (ctx.normalizeAlias (parts.getD 0 ""), parts.getD 1 "", parts.getD 2 "", parts.getD 3 "")

/-- The DER signature of a 128-byte `r||s`, with the halves kept whole. -/
def signatureDer (sig : List UInt8) : Handler (List UInt8) := do
  let r ← unwrap (slice sig 0 64) .outOfRange
  let rDer ← unwrap (derEncodeInteger r) .outOfRange
  let s ← unwrap (slice sig 64 128) .outOfRange
  let sDer ← unwrap (derEncodeInteger s) .outOfRange
  let seqLen := rDer.length + sDer.length
  let header := if seqLen < 128 then [0x30, .ofNat seqLen] else [0x30, 0x81, .ofNat seqLen]
  return header ++ rDer ++ sDer

def withSigningContainer (ctx : SkfContext) (params : Params)
    (sign : Container → List UInt8 → Handler RpcResponse) : Handler RpcResponse := do
  let certKey ← orReply (params.requiredStr 0 "Missing certKey param")
  let dataB64 ← orReply (params.requiredStr 1 "Missing data param")
  let (provName, devName, appName, contName) ← certKeyNames ctx params certKey
  let dataBytes ← orReply (params.decode ctx.platform.base64Error dataB64 "Invalid base64 data")
  let library ← resolveOr ctx provName (loadFailed · params.id)
  withGrantedContainer library provName devName appName contName params.id fun container =>
    sign container dataBytes

/-- Params `[certKey, dataBase64]`. A container whose type cannot be read counts as RSA. -/
def SignData.handle (ctx : SkfContext) (params : Params) (lang : Language) : Handler RpcResponse :=
  withSigningContainer ctx params fun container dataBytes => do
    let queried ← settled (← provider (.containerType container))
    let contType := match queried with
      | .ok found => found
      | .error _ => 1
    let message := failedIn lang "签名失败" "SignData"
    if contType = 2 then
      match ← settled (← provider (.signEcc container dataBytes)) with
      | .ok sig =>
        let der ← signatureDer sig
        return .ok (.string (Base64.encode der)) params.id
      | .error e => return nativeFailure e message params.id
    else
      let outcome ← settled (← provider (.signRsa container dataBytes))
      return concluded outcome (fun sig => .string (Base64.encode sig)) message params.id

/-- Params `[certKey, dataBase64]`. -/
def RSASignData.handle (ctx : SkfContext) (params : Params) (lang : Language) :
    Handler RpcResponse :=
  withSigningContainer ctx params fun container dataBytes => do
    let outcome ← settled (← provider (.signRsa container dataBytes))
    return concluded outcome (fun sig => .string (Base64.encode sig))
      (failedIn lang "RSA签名失败" "RSASignData") params.id

def setSymmKey (container : Container) (symKey : Option (List UInt8)) (lang : Language)
    (id : Option Json) : Handler Unit := do
  match symKey with
  | none => return ()
  | some keyBytes =>
    if keyBytes.length ≠ 16 then reply (.err (-2) "SM4 key must be 16 bytes" id)
    else
      match ← settled (← provider (.setSymmKey container SGD_SM4_CBC keyBytes)) with
      | .ok () => return ()
      | .error e => reply (nativeFailure e (failedIn lang "设置对称密钥失败" "SetSymmKey") id)

/-- Params `[certKey, data, iv, paddingType, symKey?]`: what `EncryptData` and `DecryptData` do
around their cipher call, with their own texts for the data parameter. -/
def withSymmetricKey (ctx : SkfContext) (params : Params) (lang : Language)
    (missingData invalidData : String)
    (cipher : Container → List UInt8 → ULONG → List UInt8 → Handler RpcResponse) :
    Handler RpcResponse := do
  let errorText := ctx.platform.base64Error
  let certKey ← orReply (params.requiredStr 0 "Missing certKey param")
  let dataB64 ← orReply (params.requiredStr 1 missingData)
  let ivB64 ← orReply (params.requiredStr 2 "Missing IV param")
  let paddingType := (params.optionalU64 3 1).toUInt32
  let symKey ← orReply (match params.str 4 with
    | some encoded => (params.decode errorText encoded "Invalid base64 symKey").map some
    | none => .ok none)
  let (provName, devName, appName, contName) ← certKeyNames ctx params certKey
  let dataBytes ← orReply (params.decode errorText dataB64 invalidData)
  let ivBytes ← orReply (params.decode errorText ivB64 "Invalid base64 IV")
  let library ← resolveOr ctx provName (loadFailed · params.id)
  withGrantedContainer library provName devName appName contName params.id fun container => do
    setSymmKey container symKey lang params.id
    cipher container ivBytes paddingType dataBytes

def EncryptData.handle (ctx : SkfContext) (params : Params) (lang : Language) :
    Handler RpcResponse :=
  withSymmetricKey ctx params lang "Missing data param" "Invalid base64 data"
    fun container ivBytes paddingType dataBytes => do
      let outcome ← settled
        (← provider (.encrypt container SGD_SM4_CBC ivBytes paddingType dataBytes))
      let result (encrypted : List UInt8) : Json := .ofFields
        [("encryptedData", .string (Base64.encode encrypted)), ("algorithm", .string "SM4-CBC")]
      return concluded outcome result (failedIn lang "EncryptData失败" "EncryptData") params.id

def DecryptData.handle (ctx : SkfContext) (params : Params) (lang : Language) :
    Handler RpcResponse :=
  withSymmetricKey ctx params lang "Missing encryptedData param" "Invalid base64 encrypted data"
    fun container ivBytes paddingType encryptedBytes => do
      let outcome ← settled
        (← provider (.decrypt container SGD_SM4_CBC ivBytes paddingType encryptedBytes))
      let result (decrypted : List UInt8) : Json := .ofFields
        [("data", .string (Base64.encode decrypted)), ("algorithm", .string "SM4-CBC")]
      return concluded outcome result (failedIn lang "DecryptData失败" "DecryptData") params.id

namespace CreatePKCS10

/-- The container name a request without one gets: eight random bytes, or the clock's microseconds. -/
def chooseName (device : Device) (requested : String) : Handler String := do
  if requested ≠ "" then return requested
  else
    match ← settled (← provider (.random device 8)) with
    | .ok randBytes =>
      let first ← unwrap (slice randBytes 0 8) .outOfRange
      return hexBytesUpper first
    | .error _ =>
      -- Without random bytes from the device, eight digits of the clock make the name.
      let nanos ← unwrap (← host .systemTime) .clockBeforeEpoch
      return "CSR" ++ decimal (nanos / 1000 % 100000000)

/-- Creates the container. When that fails and the name came from the request, an existing one is
opened instead. -/
def obtainContainer (application : Application) (requested contName : String) (id : Option Json) :
    Handler Container := do
  let message := failedAs "Create/OpenContainer"
  match ← settled (← provider (.createContainer application contName)) with
  | .ok raw => return ⟨application, contName, raw⟩
  | .error e =>
    -- Only a container that the client named may be there already.
    if requested ≠ "" then
      match ← settled (← provider (.openContainer application contName)) with
      | .ok raw => return ⟨application, contName, raw⟩
      | .error e => reply (nativeFailure e message id)
    else reply (nativeFailure e message id)

/-- The generated key: its SPKI and, for SM2, the public key that goes into the digest. -/
def generateKey (container : Container) (isEcc : Bool) (keyLength : UInt32) (id : Option Json) :
    Handler (List UInt8 × Option EccPublicKey) := do
  if isEcc then
    match ← settled (← provider (.genEccKeyPair container SGD_SM2_1)) with
    | .ok key => return (buildSm2Spki (eccBlob key), some key)
    | .error e => reply (nativeFailure e (failedAs "GenECCKeyPair") id)
  else
    match ← settled (← provider (.genRsaKeyPair container keyLength)) with
    | .ok key =>
      let spki ← unwrap (buildRsaSpki (rsaBlob key)) .outOfRange
      return (spki, none)
    | .error e => reply (nativeFailure e (failedAs "GenRSAKeyPair") id)

/-- The SM2 user identifier, the bytes of `1234567812345678`. -/
def userId : List UInt8 := utf8 "1234567812345678"

/-- Starts the digest of the request; SM2 mixes the public key in. -/
def beginDigest (device : Device) (eccKey : Option EccPublicKey) (id : Option Json) :
    Handler Digest := do
  let begun ← match eccKey with
    | some key => settled (← provider (.beginDigestWithKey device SGD_SM3 userId key))
    | none => settled (← provider (.beginDigest device 0x00000004 []))
  match begun with
  | .ok raw => return ⟨device, raw⟩
  | .error e => reply (nativeFailure e (failedAs "DigestInit") id)

def digestTbs (digest : Digest) (tbs : List UInt8) (id : Option Json) : Handler (List UInt8) := do
  match ← settled (← provider (.update digest tbs)) with
  | .error e => reply (nativeFailure e (failedAs "Digest") id)
  | .ok () =>
    match ← settled (← provider (.finalize digest)) with
    | .ok hash => return hash
    | .error e => reply (nativeFailure e (failedAs "Digest") id)

/-- The DER `DigestInfo` header of SHA-256. -/
def sha256DigestInfo : List UInt8 :=
  [0x30, 0x31, 0x30, 0x0d, 0x06, 0x09, 0x60, 0x86, 0x48, 0x01, 0x65, 0x03, 0x04, 0x02, 0x01, 0x05,
    0x00, 0x04, 0x20]

/-- Signs the digest; SM2 halves are right-aligned in 64 bytes, RSA signs a `DigestInfo`. -/
def signDigest (container : Container) (isEcc : Bool) (hash : List UInt8) (id : Option Json) :
    Handler (List UInt8) := do
  if isEcc then
    match ← settled (← provider (.signEcc container hash)) with
    | .ok sig =>
      let r ← unwrap (slice sig 32 64) .outOfRange
      let rDer ← unwrap (derEncodeInteger r) .outOfRange
      let s ← unwrap (slice sig 96 128) .outOfRange
      let sDer ← unwrap (derEncodeInteger s) .outOfRange
      return derSequence [rDer, sDer]
    | .error e => reply (nativeFailure e (failedAs "ECCSignData") id)
  else
    match ← settled (← provider (.signRsa container (sha256DigestInfo ++ hash))) with
    | .ok sig => return sig
    | .error e => reply (nativeFailure e (failedAs "RSASignData") id)

def signatureAlgorithm (isEcc : Bool) : List UInt8 :=
  if isEcc then derSequence [derOid OID_SM3_WITH_SM2]
  else derSequence [derOid OID_SHA256_WITH_RSA, [0x05, 0x00]]

/-- Breaks after every 64th character; `column` counts the characters of the current line. -/
def wrapColumns (column : Nat) : List Char → List Char
  | [] => []
  | c :: cs =>
    if column + 1 = 64 then c :: '\n' :: wrapColumns 0 cs else c :: wrapColumns (column + 1) cs

def pemOf (csrDer : List UInt8) : String :=
  let body :=
    "-----BEGIN CERTIFICATE REQUEST-----\n".toList ++ wrapColumns 0 (Base64.encode csrDer).toList
  let ended := if body.getLast? = some '\n' then body else body ++ ['\n']
  .ofList (ended ++ "-----END CERTIFICATE REQUEST-----".toList)

/-- The certification request information: version, subject, key and no attributes. -/
def tbsOf (ctx : SkfContext) (subject : String) (spki : List UInt8) : List UInt8 :=
  derSequence [derSmallInteger 0, buildSubjectDn ctx.platform.toUppercase subject, spki,
    derContext0 []]

/-- What happens with the container open: key, digest, signature, and the debug copy of the request. -/
def withKey (ctx : SkfContext) (device : Device) (container : Container) (subject keyType : String)
    (keyLength : UInt32) (id : Option Json) : Handler RpcResponse := do
  let isEcc := keyType = "SM2" || keyType = "ECC"
  let (spki, eccKey) ← generateKey container isEcc keyLength id
  let tbs := tbsOf ctx subject spki
  let digest ← beginDigest device eccKey id
  let requestBody : Handler RpcResponse := do
    let hash ← digestTbs digest tbs id
    let sigBits ← signDigest container isEcc hash id
    let csrDer := derSequence [tbs, signatureAlgorithm isEcc, derBitString sigBits]
    let pem := pemOf csrDer
    -- A copy for debugging; whether it was written does not matter.
    let _written ← host (.writeFile (ctx.platform.tempFile "last_generated.csr") (utf8 pem))
    return .ok (.ofFields [("pem", .string pem), ("container", .string container.name),
      ("keyType", .string keyType), ("keyLength", .ofU32 keyLength)]) id
  requestBody.ensuring (provider (.close (.digest digest)))

/-- The reply to an application that does not open; this handler keeps the device's grants. -/
def applicationFailed (id : Option Json) (e : ProviderError) : Handler Application :=
  reply (nativeFailure e (failedAs "OpenApp") id)

/-- Params `[provider, device, app, subject, keyType, keyLength, container]`. -/
def handle (ctx : SkfContext) (params : Params) (_lang : Language) : Handler RpcResponse := do
  let provName := ctx.normalizeAlias (params.optionalStr 0 "")
  let devName ← orReply (params.requiredStr 1 "Missing deviceName")
  let appName ← orReply (params.requiredStr 2 "Missing appName")
  let subject ← orReply (params.requiredStr 3 "Missing subject")
  let keyType := ctx.platform.toUppercase (params.optionalStr 4 "SM2")
  let keyLength := (params.optionalU64 5 256).toUInt32
  let requested := params.optionalStr 6 ""
  let library ← resolveOr ctx provName (loadFailed · params.id)
  withDevice library provName devName params.id fun device =>
    withApplication device appName (applicationFailed params.id) fun application => do
      requireAuthorized provName devName appName (notLoggedIn params.id)
      let contName ← chooseName device requested
      let container ← obtainContainer application requested contName params.id
      (withKey ctx device container subject keyType keyLength params.id).ensuring
        (provider (.close (.container container)))

end CreatePKCS10
end SkfService
