import SkfService.Dispatch.Direct

/-! The demonstration certificate authority: it runs `openssl` on temporary files and wraps a
generated key for the token. It touches neither a library nor the session. -/

set_option autoImplicit false

namespace SkfService.IssueCertificate

open Text Interaction Handler

/-- The subject line of `openssl req -subject` as an `openssl -subj` argument, when there is one. -/
def formattedSubject (stdout : String) : Option String := do
  let tail ← after "subject=" stdout
  let part := trim tail
  if part = "" then none
  else
    let items := (splitPair ',' ' ' part).filter (· ≠ "")
    let formatted := String.join (items.map ("/" ++ ·))
    if formatted = "" then none else some formatted

/-- The coordinates of an uncompressed point of at least 65 bytes. -/
def signPubXy (pkData : List UInt8) : Option (List UInt8 × List UInt8) :=
  if 65 ≤ pkData.length ∧ pkData.head? = some 0x04 then
    some ((pkData.drop 1).take 32, (pkData.drop 33).take 32)
  else none

/-- The DER bytes of a request: PEM markers and line ends are stripped, and a body that does not
decode counts as empty. -/
def csrDer (csrStr : String) (csrBytes : List UInt8) : List UInt8 :=
  if contains "-----BEGIN" csrStr then
    let unwrapped := replace "-----END NEW CERTIFICATE REQUEST-----" ""
      (replace "-----BEGIN NEW CERTIFICATE REQUEST-----" ""
        (replace "-----END CERTIFICATE REQUEST-----" ""
          (replace "-----BEGIN CERTIFICATE REQUEST-----" "" csrStr)))
    let b64 : String := .ofList (unwrapped.toList.filter fun c => c != '\n' && c != '\r')
    (Base64.decode b64).getD []
  else csrBytes

def rsaRequestArgs (keyPath csrPath subject : String) : List String :=
  ["req", "-new", "-newkey", "rsa:2048", "-nodes", "-keyout", keyPath, "-out", csrPath,
    "-subj", subject]

def signArgs (csrPath caCrtPath caKeyPath crtPath : String) : List String :=
  ["x509", "-req", "-in", csrPath, "-CA", caCrtPath, "-CAkey", caKeyPath, "-CAcreateserial",
    "-out", crtPath,
    "-days", "3650"]

def removeFiles : List String → Handler Unit
  | [] => .done ()
  | path :: rest => do
    host (.removeFile path)
    removeFiles rest

/-- Bytes right-aligned in `n`; more than `n` of them underflow and panic. -/
def rightAligned (n : Nat) (bytes : List UInt8) : Option (List UInt8) :=
  if bytes.length ≤ n then some (List.replicate (n - bytes.length) 0 ++ bytes) else none

/-- `ENVELOPEDKEYBLOB`: the wrapped private key, its public key and the SM2 cipher of the session
key. -/
def envelopedKeyBlob (encryptedKey encPubX encPubY cipher : List UInt8) : Option (List UInt8) := do
  let (c1x, c1y, c3, c2) :=
    if 112 ≤ cipher.length then
      (cipher.take 32, (cipher.drop 32).take 32, (cipher.drop 64).take 32, (cipher.drop 96).take 16)
    else (List.replicate 32 0, List.replicate 32 0, List.replicate 32 0, List.replicate 16 0)
  let x ← rightAligned 64 encPubX
  let y ← rightAligned 64 encPubY
  let cx ← rightAligned 64 c1x
  let cy ← rightAligned 64 c1y
  some (leBytes 1 ++ leBytes SGD_SM4_ECB ++ leBytes 256 ++ encryptedKey ++ leBytes 256 ++ x ++ y ++
    cx ++ cy ++
    fitted 32 c3 ++ leBytes (.ofNat c2.length) ++ c2)

structure Paths where
  csr : String
  crt : String
  caKey : String
  caCrt : String
  pubKey : String
  dummyCsr : String
  dummyKey : String

def Paths.all (paths : Paths) : List String :=
  [paths.csr, paths.pubKey, paths.dummyCsr, paths.dummyKey, paths.crt]

def encryptionKey (signPub : List UInt8 × List UInt8) (encPub encSk : List UInt8) :
    Handler String := do
  let encPubX := if 64 ≤ encPub.length then encPub.take 32 else List.replicate 32 0
  let encPubY := if 64 ≤ encPub.length then (encPub.drop 32).take 32 else List.replicate 32 0
  let sessionKey ← host (.randomFill 16)
  let plainSk ← unwrap (rightAligned 64 encSk) .outOfRange
  let wrapped ← host (.sm4EncryptEcb sessionKey plainSk)
  let encryptedKey ← unwrap (slice wrapped 0 64) .outOfRange
  let cipher ← host (.sm2Encrypt (hexBytes signPub.1 ++ hexBytes signPub.2) sessionKey)
  let blob ← unwrap (envelopedKeyBlob encryptedKey encPubX encPubY cipher) .outOfRange
  return Base64.encode blob

def doubleCertificate (ctx : SkfContext) (paths : Paths) (reqId subject signCertPem : String)
    (signPub : List UInt8 × List UInt8) (id : Option Json) : Handler RpcResponse := do
  let file (stem extension : String) : String := ctx.platform.tempFile (stem ++ reqId ++ extension)
  let (encSkHex, encPkHex) ← host .sm2GenKeypair
  let encPub ← unwrap (hexToBytes encPkHex) .outOfRange
  let encSk ← unwrap (hexToBytes encSkHex) .outOfRange
  let encPubX := if 64 ≤ encPub.length then encPub.take 32 else List.replicate 32 0
  let encPubY := if 64 ≤ encPub.length then (encPub.drop 32).take 32 else List.replicate 32 0
  let encPubPem := file "enc_pub_" ".pem"
  let encCrt := file "enc_" ".crt"
  let encKeyDer := file "enc_raw_" ".bin"
  let tmpKey := file "tmpkey_" ".pem"
  let _written ← host (.writeFile encKeyDer (0x04 :: (encPubX ++ encPubY)))
  let _generated ← host (.openssl ["ecparam", "-name", "SM2", "-genkey", "-noout", "-out", tmpKey])
  let _converted ← host (.openssl ["ec", "-in", tmpKey, "-pubout", "-out", encPubPem])
  removeFiles [encKeyDer, tmpKey]
  let dummy2Csr := file "dummy2_" ".csr"
  let dummy2Key := file "dummy2_" ".key"
  let _requested ← host (.openssl (rsaRequestArgs dummy2Key dummy2Csr subject))
  let _signed ← host (.openssl (signArgs dummy2Csr paths.caCrt paths.caKey encCrt))
  let encCertPem := (← host (.readFile encCrt)).getD ""
  let encPriKey ← encryptionKey signPub encPub encSk
  removeFiles (paths.all ++ [encPubPem, encCrt, dummy2Csr, dummy2Key])
  return .ok (.ofFields [("certificate", .string signCertPem), ("certificate2", .string encCertPem),
    ("encPriKey", .string encPriKey), ("sessKey", .string ""), ("alg", .string "SM2"),
    ("double", .bool true)]) id

def signCertificate (paths : Paths) (subject : String) (id : Option Json) : Handler String := do
  let present ← host (.pathExists paths.caKey)
  if present then pure ()
  else
    let _made ← host
      (.openssl ["req", "-x509", "-newkey", "rsa:2048", "-keyout", paths.caKey, "-out",
      paths.caCrt, "-days", "3650", "-nodes", "-subj", "/CN=SKF Demo CA"])
  let _extracted ← host (.openssl ["req", "-in", paths.csr, "-pubkey", "-noout", "-vfyopt",
    "distid:1234567812345678", "-out", paths.pubKey])
  let _requested ← host (.openssl (rsaRequestArgs paths.dummyKey paths.dummyCsr subject))
  let output ← host (.openssl
    (signArgs paths.dummyCsr paths.caCrt paths.caKey paths.crt ++ ["-force_pubkey", paths.pubKey]))
  match output with
  | .ok out =>
    if out.success then return (← host (.readFile paths.crt)).getD ""
    else
      removeFiles paths.all
      reply (.err (-5) ("OpenSSL sign failed: " ++ fromUtf8Lossy out.stderr) id)
  | .error reason =>
    removeFiles paths.all
    reply (.err (-6) ("Failed to run OpenSSL: " ++ reason) id)

/-- Params `[csr, double?]`, the request in PEM or base64. -/
def handle (ctx : SkfContext) (params : Params) : Handler RpcResponse := do
  let csrStr ← expect (params.str 0) (.err (-2) "Missing CSR param" params.id)
  let double := (params.bool 1).getD false
  let csrBytes ← orReply (if contains "-----BEGIN" csrStr then .ok (utf8 csrStr)
    else (decodeBase64 ctx.platform.base64Error csrStr).mapError fun reason =>
      .err (-3) ("Invalid base64: " ++ reason) params.id)
  let nanos ← unwrap (← host .systemTime) .clockBeforeEpoch
  let reqId := decimal nanos
  let file (stem extension : String) : String := ctx.platform.tempFile (stem ++ reqId ++ extension)
  let paths : Paths := ⟨file "req_" ".csr", file "cert_" ".crt", ctx.platform.tempFile "skf_ca.key",
    ctx.platform.tempFile "skf_ca.crt", file "pub_" ".pem", file "dummy_" ".csr",
    file "dummy_" ".key"⟩
  match ← host (.writeFile paths.csr csrBytes) with
  | .error reason => return .err (-4) ("Failed to write CSR to disk: " ++ reason) params.id
  | .ok () =>
    let subjectOutput ← host (.openssl ["req", "-in", paths.csr, "-noout", "-subject"])
    let subject := match subjectOutput with
      | .ok out => (formattedSubject (fromUtf8Lossy out.stdout)).getD "/CN=SKF Generated Cert"
      | .error _ => "/CN=SKF Generated Cert"
    let signPub := (ctx.platform.parseCsrKey (csrDer csrStr csrBytes)).bind signPubXy
    let signCertPem ← signCertificate paths subject params.id
    if double then
      match signPub with
      | some signPub => doubleCertificate ctx paths reqId subject signCertPem signPub params.id
      | none =>
        removeFiles paths.all
        return .err (-7) "Failed to extract sign public key from CSR" params.id
    else
      removeFiles paths.all
      return .ok (.ofFields [("certificate", .string signCertPem), ("double", .bool false)])
        params.id

end SkfService.IssueCertificate
