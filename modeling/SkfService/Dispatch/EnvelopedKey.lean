import SkfService.Crypto.HexText
import SkfService.Dispatch.HostOnly
import SkfService.Skf.Layouts

/-! The wrapped encryption key of a second certificate, as the token reads it. -/

set_option autoImplicit false

namespace SkfService.IssueCertificate

open Text Interaction Program Handler Machine

def padded (bytes : List UInt8) : List UInt8 := List.replicate 32 0 ++ bytes

theorem rightAligned_padded {bytes : List UInt8} (short : bytes.length = 32) :
    rightAligned 64 bytes = some (padded bytes) := by
  rw [rightAligned, short]
  rfl

theorem length_padded {bytes : List UInt8} (short : bytes.length = 32) :
    (padded bytes).length = 64 := by
  rw [padded, List.length_append, List.length_replicate, short]

/-- The key under its public key `x`, `y`, with the cipher of the session key: a point, a hash and
16 bytes. -/
structure Wraps (wrapped x y cipher : List UInt8) (blob : EnvelopedKeyBlob) : Prop where
  version : blob.version = 1
  symmAlgId : blob.symmAlgId = SGD_SM4_ECB
  bits : blob.bits = 256
  encryptedPriKey : blob.encryptedPriKey = wrapped
  bitLen : blob.pubKey.bitLen = 256
  xCoordinate : blob.pubKey.xCoordinate = padded x
  yCoordinate : blob.pubKey.yCoordinate = padded y
  cipherBlob : blob.cipherBlob =
    ⟨padded (cipher.take 32), padded ((cipher.drop 32).take 32), (cipher.drop 64).take 32, 16,
    (cipher.drop 96).take 16⟩

theorem envelopedKeyBlob_read {wrapped x y cipher : List UInt8}
    (wrappedLength : wrapped.length = 64) (xLength : x.length = 32) (yLength : y.length = 32)
    (cipherLength : cipher.length = 112) :
    ∃ bytes, envelopedKeyBlob wrapped x y cipher = some bytes ∧ bytes.length = 388 ∧
      ∀ whole, Wraps wrapped x y cipher (.read bytes whole) := by
  -- The four pieces that are cut from the ciphertext of 112 bytes.
  have part (start n : Nat) (inside : start + n ≤ 112) :
      ((cipher.drop start).take n).length = n := by
    rw [List.length_take, List.length_drop, cipherLength]
    omega
  have hash : fitted 32 ((cipher.drop 64).take 32) = (cipher.drop 64).take 32 := by
    rw [fitted, List.take_take, part 64 32 (by decide)]
    exact List.append_nil _
  let cipherBlob : EccCipherBlob := ⟨padded (cipher.take 32), padded ((cipher.drop 32).take 32),
    (cipher.drop 64).take 32, 16, (cipher.drop 96).take 16⟩
  let blob : EnvelopedKeyBlob := ⟨1, SGD_SM4_ECB, 256, wrapped,
    ⟨256, padded x, padded y, length_padded xLength, length_padded yLength⟩, cipherBlob⟩
  have sized : cipherBlob.Sized :=
    ⟨length_padded (part 0 32 (by decide)), length_padded (part 32 32 (by decide)),
      part 64 32 (by decide),
      part 96 16 (by decide)⟩
  -- The fields one behind the other, each with the padding in front of it, which is empty
  -- throughout.
  have written : Layout.write blob.fields = [] ++
      (leBytes 1 ++ ([] ++ (leBytes SGD_SM4_ECB ++ ([] ++ (leBytes 256 ++
      ([] ++ (wrapped ++
        ([] ++ (leBytes 256 ++ padded x ++ padded y ++ ([] ++ (Layout.write cipherBlob.fields ++
        []))))))))))) := rfl
  have inner : Layout.write cipherBlob.fields = [] ++ (padded (cipher.take 32) ++ ([] ++
      (padded ((cipher.drop 32).take 32) ++
        ([] ++ ((cipher.drop 64).take 32 ++ ([] ++ (leBytes 16 ++
        ([] ++ ((cipher.drop 96).take 16 ++ []))))))))) := rfl
  have first : rightAligned 64 (cipher.take 32) = some (padded (cipher.take 32)) :=
    rightAligned_padded (part 0 32 (by decide))
  have second := rightAligned_padded (part 32 32 (by decide))
  have built : envelopedKeyBlob wrapped x y cipher = some (Layout.write blob.fields) := by
    rw [envelopedKeyBlob, if_pos (Nat.le_of_eq cipherLength.symm), written, inner]
    dsimp only
    rw [rightAligned_padded xLength, rightAligned_padded yLength, first, second, hash,
      part 96 16 (by decide)]
    simp only [Option.bind_eq_bind, Option.bind_some, List.nil_append, List.append_nil,
      List.append_assoc]
    rfl
  have length : (Layout.write blob.fields).length = 388 := by
    have four (value : UInt32) : (leBytes value).length = 4 := rfl
    have head := length_padded (part 0 32 (by decide))
    rw [List.drop_zero] at head
    rw [written, inner]
    simp only [List.length_append, List.length_nil, four, wrappedLength, length_padded xLength,
      length_padded yLength, head, length_padded (part 32 32 (by decide)), part 64 32 (by decide),
      part 96 16 (by decide)]
  refine ⟨_, built, length, fun whole => ?_⟩
  rw [EnvelopedKeyBlob.read_write wrappedLength sized whole]
  exact ⟨rfl, rfl, rfl, rfl, rfl, rfl, rfl, rfl⟩

structure Ciphers where
  keys : Option (String × String)
  wrapped : List UInt8
  cipher : List UInt8

def Renders (n : Nat) (hex : String) : Prop :=
  ∃ bytes, bytes.length = n ∧ Rendering bytes hex.toList

namespace Ciphers

/-- The lengths the cipher library keeps to. -/
def Promised : (op : Op) → op.Reply → Prop
  | .host .sm2GenKeypair, (encSkHex, encPkHex) => Renders 32 encSkHex ∧ Renders 64 encPkHex
  | .host (.sm4EncryptEcb _ _), wrapped => 64 ≤ List.length wrapped
  | .host (.sm2Encrypt _ _), cipher => List.length cipher = 112
  | _, _ => True

def advance (s : Ciphers) : (op : Op) → op.Reply → Ciphers
  | .host .sm2GenKeypair, keys => { s with keys := some keys }
  | .host (.sm4EncryptEcb _ _), wrapped => { s with wrapped := wrapped }
  | .host (.sm2Encrypt _ _), cipher => { s with cipher := cipher }
  | _, _ => s

def Carried (s : Ciphers) (response : RpcResponse) : Prop :=
  ∃ (encSkHex encPkHex : String) (encSk encPub bytes : List UInt8),
    s.keys = some (encSkHex, encPkHex) ∧
    Rendering encSk encSkHex.toList ∧ encSk.length = 32 ∧ Rendering encPub encPkHex.toList ∧
    encPub.length = 64 ∧
    response.result.member "encPriKey" = some (.string (Base64.encode bytes)) ∧ bytes.length = 388 ∧
    ∀ whole, Wraps (s.wrapped.take 64) (encPub.take 32) ((encPub.drop 32).take 32) s.cipher
      (.read bytes whole)

end Ciphers

def smcrypto : Monitor Skf Ciphers where
  allowed _ op := ∃ host, op = .host host
  possible _ := Ciphers.Promised
  advance := Ciphers.advance

section meets

variable {A : Type} {ret : A → Ciphers → Prop} {exits : Exit → Ciphers → Prop} {s : Ciphers}

theorem bind_quiet {op : HostOp} {k : op.Reply → Handler A}
    (quiet : ∀ reply, s.advance (.host op) reply = s)
    (goes : ∀ reply, (k reply).Meets smcrypto ret exits s) :
    (host op >>= k).Meets smcrypto ret exits s := by
  refine bind_call ⟨_, rfl⟩ fun reply _ => ?_
  have same : smcrypto.advance s (.host op) reply = s := quiet reply
  rw [same]
  exact goes reply

theorem bind_removed {paths : List String} {k : Unit → Handler A}
    (goes : (k ()).Meets smcrypto ret exits s) :
    (removeFiles paths >>= k).Meets smcrypto ret exits s := by
  induction paths with
  | nil => exact goes
  | cons path rest ih =>
    rw [removeFiles, bind_bind]
    exact bind_quiet (fun _ => rfl) fun _ => ih

theorem hexToBytes_renders {bytes : List UInt8} {hex : String}
    (rendering : Rendering bytes hex.toList) :
    hexToBytes hex = some bytes := by
  have whole :=
    @hexToBytes_rendering bytes hex.toList rendering [] [] (List.forall_mem_nil _)
      (List.forall_mem_nil _)
  rwa [List.nil_append, List.append_nil, String.ofList_toList] at whole

/-- With the promised lengths no short-input branch is taken and no slice fails. -/
theorem bind_encryptionKey_smcrypto {signPub : List UInt8 × List UInt8} {encPub encSk : List UInt8}
    {k : String → Handler A} (secret : encSk.length = 32) (point : encPub.length = 64)
    (goes : ∀ wrapped cipher bytes, bytes.length = 388 → (∀ whole, Wraps (wrapped.take 64)
      (encPub.take 32) ((encPub.drop 32).take 32) cipher (.read bytes whole)) →
        (k (Base64.encode bytes)).Meets smcrypto ret exits ⟨s.keys, wrapped, cipher⟩) :
    (encryptionKey signPub encPub encSk >>= k).Meets smcrypto ret exits s := by
  have wide : 64 ≤ encPub.length := Nat.le_of_eq point.symm
  have half (start : Nat) (inside : start + 32 ≤ 64) :
      ((encPub.drop start).take 32).length = 32 := by
    rw [List.length_take, List.length_drop, point]
    omega
  rw [meets_bind, encryptionKey, if_pos wide, if_pos wide, rightAligned_padded secret]
  refine bind_quiet (fun _ => rfl) fun sessionKey => bind_call ⟨_, rfl⟩ fun wrapped long => ?_
  have enough : 64 ≤ List.length wrapped := long
  have sliced : slice wrapped 0 64 = some (List.take 64 wrapped) := if_pos ⟨Nat.zero_le _, enough⟩
  rw [sliced]
  refine bind_call ⟨_, rfl⟩ fun cipher length => ?_
  obtain ⟨bytes, built, size, wraps⟩ :=
    envelopedKeyBlob_read (List.length_take_of_le enough) (half 0 (by decide))
    (half 32 (by decide)) length
  rw [List.drop_zero] at built wraps
  rw [built]
  exact goes wrapped cipher bytes size wraps

theorem encPriKey_member (signCertPem encCertPem encPriKey : String) :
    (Json.ofFields [("certificate", .string signCertPem), ("certificate2", .string encCertPem),
      ("encPriKey", .string encPriKey), ("sessKey", .string ""), ("alg", .string "SM2"),
      ("double", .bool true)]).member "encPriKey" = some (.string encPriKey) := by
  simp only [Json.ofFields, Json.member, List.foldl_cons, List.foldl_nil, Json.lookup_insertMember]
  simp

-- Unfolding the decoder of a key that is not known leads nowhere.
attribute [local irreducible] hexToBytes in
theorem meets_doubleCertificate_smcrypto {ctx : SkfContext} {paths : Paths}
    {reqId subject signCertPem : String} {signPub : List UInt8 × List UInt8} {id : Option Json} :
    (doubleCertificate ctx paths reqId subject signCertPem signPub id).Meets smcrypto
      (fun response t => t.Carried response) (fun _ _ => False) s := by
  unfold doubleCertificate
  refine bind_call ⟨_, rfl⟩ fun keys promised => ?_
  obtain ⟨encSkHex, encPkHex⟩ := keys
  obtain ⟨⟨encSk, secret, secretText⟩, encPub, point, pointText⟩ := promised
  dsimp only
  rw [hexToBytes_renders pointText, hexToBytes_renders secretText]
  refine bind_quiet (fun _ => rfl) fun _ =>
    bind_quiet (fun _ => rfl) fun _ => bind_quiet (fun _ => rfl) fun _ => ?_
  refine bind_removed (bind_quiet (fun _ => rfl) fun _ => bind_quiet (fun _ => rfl) fun _ => ?_)
  refine bind_quiet (fun _ => rfl) fun _ =>
    bind_encryptionKey_smcrypto secret point fun wrapped cipher bytes size wraps => ?_
  exact bind_removed ⟨encSkHex, encPkHex, encSk, encPub, bytes, rfl, secretText, secret,
    pointText, point,
    encPriKey_member _ _ _, size, wraps⟩

def Unmade (exit : Exit) (s : Ciphers) : Prop := s.keys = none ∧ exit ≠ .panic .outOfRange

theorem bind_signCertificate_smcrypto {paths : Paths} {subject : String} {id : Option Json}
    {k : String → Handler A} (unmade : s.keys = none)
    (goes : ∀ pem, (k pem).Meets smcrypto ret Unmade s) :
    (signCertificate paths subject id >>= k).Meets smcrypto ret Unmade s := by
  have rejected (response : RpcResponse) : Unmade (.reply response) s := ⟨unmade, Exit.noConfusion⟩
  rw [meets_bind, signCertificate]
  refine bind_quiet (fun _ => rfl) fun present =>
    meets_ite (fun _ => ?_) fun _ => bind_quiet (fun _ => rfl) fun _ => ?_
  all_goals
    refine bind_quiet (fun _ => rfl) fun _ =>
      bind_quiet (fun _ => rfl) fun _ => bind_quiet (fun _ => rfl) fun output => ?_
    cases output with
    | error reason => exact bind_removed (rejected _)
    | ok out =>
      exact meets_ite (fun _ => bind_quiet (fun _ => rfl) fun _ => goes _) fun _ =>
        bind_removed (rejected _)

end meets

theorem meets_handle_smcrypto {ctx : SkfContext} {params : Params} {s : Ciphers}
    (unmade : s.keys = none) :
    (handle ctx params).Meets smcrypto (fun response t => t.keys ≠ none → t.Carried response)
      Unmade s := by
  have rejected (response : RpcResponse) : Unmade (.reply response) s := ⟨unmade, Exit.noConfusion⟩
  have plain (response : RpcResponse) : s.keys ≠ none → s.Carried response :=
    fun made => absurd unmade made
  unfold handle
  refine bind_expect (fun csrStr _ => ?_) fun _ => rejected _
  refine bind_orReply (fun csrBytes _ => ?_) fun rejection _ => rejected _
  refine bind_quiet (fun _ => rfl) fun clock => bind_unwrap (fun nanos _ => ?_) fun _ => ?_
  · refine bind_quiet (fun _ => rfl) fun written => ?_
    cases written with
    | error reason => exact plain _
    | ok done =>
      refine bind_quiet (fun _ => rfl) fun subjectOutput =>
        bind_signCertificate_smcrypto unmade fun pem => ?_
      refine meets_ite (fun _ => ?_) fun _ => bind_removed (plain _)
      split
      · exact meets_doubleCertificate_smcrypto.mono (fun _ _ carried _ => carried)
          fun _ _ impossible => impossible.elim
      · exact bind_removed (plain _)
  · refine ⟨unmade, ?_⟩
    intro impossible
    cases impossible

/-- Once the keys are made, the request is answered with the wrapped key the token reads, and no run
ends in a slice out of range. -/
theorem enveloped_key_layout {ctx : SkfContext} {params : Params} {trace : List (Event Skf)}
    {outcome : Except Exit RpcResponse} (ran : (handle ctx params).Finishes trace outcome)
    (promised : smcrypto.Possible ⟨none, [], []⟩ trace) :
    outcome ≠ .error (.panic .outOfRange) ∧
    ((smcrypto.follow ⟨none, [], []⟩ trace).keys ≠ none →
      ∃ response,
        outcome = .ok response ∧ (smcrypto.follow ⟨none, [], []⟩ trace).Carried response) := by
  have met := @meets_handle_smcrypto ctx params ⟨none, [], []⟩ rfl
  cases outcome with
  | ok response =>
    refine ⟨?_, fun made => ⟨response, rfl, met.returned ran promised made⟩⟩
    intro impossible
    cases impossible
  | error exit =>
    obtain ⟨unmade, inside⟩ := met.stopped ran promised
    refine ⟨?_, fun made => absurd unmade made⟩
    intro same
    cases same
    exact inside rfl

namespace Doubled

def ctx : SkfContext :=
  { SkfContext.serving [] with
    platform := { (SkfContext.serving []).platform with
      parseCsrKey := fun _ => some (0x04 :: List.replicate 64 7) } }

def params : Params := ⟨[.string "AA==", .bool true], none⟩

def file (stem extension : String) : String :=
  ctx.platform.tempFile (stem ++ decimal 7 ++ extension)

def paths : Paths := ⟨file "req_" ".csr", file "cert_" ".crt", ctx.platform.tempFile "skf_ca.key",
  ctx.platform.tempFile "skf_ca.crt", file "pub_" ".pem", file "dummy_" ".csr",
  file "dummy_" ".key"⟩

def subject : String := "/CN=SKF Generated Cert"

def ran (args : List String) : Event Skf := ⟨.host (.openssl args), .ok ⟨true, [], []⟩⟩

def signed : List (Event Skf) :=
  [⟨.host .systemTime, some 7⟩, ⟨.host (.writeFile paths.csr [0]), .ok ()⟩,
    ran ["req", "-in", paths.csr, "-noout", "-subject"], ⟨.host (.pathExists paths.caKey), true⟩,
    ran ["req", "-in", paths.csr, "-pubkey", "-noout", "-vfyopt", "distid:1234567812345678", "-out",
      paths.pubKey],
    ran (rsaRequestArgs paths.dummyKey paths.dummyCsr subject),
    ran (signArgs paths.dummyCsr paths.caCrt paths.caKey paths.crt ++
      ["-force_pubkey", paths.pubKey]),
    ⟨.host (.readFile paths.crt), some ""⟩]

theorem reaches : Reaches (handle ctx params) signed
    (doubleCertificate ctx paths (decimal 7) subject ""
      (List.replicate 32 7, List.replicate 32 7) none) :=
  .step _ (.step _ (.step _ (.step _ (.step _ (.step _ (.step _ (.step _ (.refl _))))))))

theorem renders_zeros (n : Nat) : Renders n (.ofList (List.replicate (2 * n) '0')) := by
  refine ⟨List.replicate n 0, List.length_replicate, ?_⟩
  rw [String.toList_ofList]
  induction n with
  | zero => exact .nil
  | succ n ih =>
    have digit : hexValue '0' = some ((0 : UInt8).toNat / 16) := by decide
    exact .cons digit digit ih

theorem promised_host (op : HostOp) : ∃ reply, Ciphers.Promised (.host op) reply := by
  cases op with
  | sm2GenKeypair => exact ⟨(_, _), renders_zeros 32, renders_zeros 64⟩
  | sm4EncryptEcb => exact ⟨List.replicate 64 0, Nat.le_of_eq List.length_replicate.symm⟩
  | sm2Encrypt => exact ⟨List.replicate 112 0, List.length_replicate⟩
  | readCache | pathExists => exact ⟨true, trivial⟩
  | writeCache | removeFile => exact ⟨(), trivial⟩
  | loadLibrary | writeFile => exact ⟨.ok (), trivial⟩
  | newGate => exact ⟨0, trivial⟩
  | systemTime | readFile => exact ⟨none, trivial⟩
  | openssl => exact ⟨.error "", trivial⟩
  | randomFill => exact ⟨[], trivial⟩

end Doubled

/-- A request for two certificates is answered with such a key. -/
theorem enveloped_key_layout_doubled : ∃ trace response,
    (handle Doubled.ctx Doubled.params).Finishes trace (.ok response) ∧
      (smcrypto.follow ⟨none, [], []⟩ trace).Carried response := by
  have met :=
    @meets_doubleCertificate_smcrypto ⟨none, [], []⟩ Doubled.ctx Doubled.paths
      (decimal 7) Doubled.subject ""
    (List.replicate 32 7, List.replicate 32 7) none
  -- From the signed request on the run exists, for the crypto service keeps its promises.
  obtain ⟨rest, outcome, finished, promised⟩ := met.run fun s op asked => by
    obtain ⟨host, rfl⟩ := asked
    exact Doubled.promised_host host
  have possible : smcrypto.Possible ⟨none, [], []⟩ (Doubled.signed ++ rest) := by
    rw [Monitor.possible_append]
    exact ⟨⟨trivial, trivial, trivial, trivial, trivial, trivial, trivial, trivial, trivial⟩,
      promised⟩
  have followed : smcrypto.follow ⟨none, [], []⟩ (Doubled.signed ++ rest) =
      smcrypto.follow ⟨none, [], []⟩ rest := by
    rw [Monitor.follow_append]
    rfl
  have made : (smcrypto.follow ⟨none, [], []⟩ (Doubled.signed ++ rest)).keys ≠ none := by
    rw [followed]
    cases outcome with
    | ok response =>
      obtain ⟨encSkHex, encPkHex, encSk, encPub, bytes, keys, -⟩ := met.returned finished promised
      rw [keys]
      exact Option.some_ne_none _
    | error exit => exact (met.stopped finished promised).elim
  obtain ⟨response, rfl, carried⟩ :=
    (enveloped_key_layout (Doubled.reaches.trans finished) possible).2 made
  exact ⟨Doubled.signed ++ rest, response, Doubled.reaches.trans finished, carried⟩

end SkfService.IssueCertificate
