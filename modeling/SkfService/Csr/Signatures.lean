import SkfService.Csr.Runs
import SkfService.Interaction.Once

/-! SM2 signatures: `SignData` writes its own sequence header around the two integers, and
certificate requests use the helpers on the lower halves. -/

set_option autoImplicit false

namespace SkfService

open Text Asn1 Interaction Program Handler

section encoding

variable {sig : List UInt8}

theorem derEncodeInteger_length {bytes der : List UInt8}
    (written : derEncodeInteger bytes = some der) :
    der.length ≤ bytes.length + 5 := by
  by_cases empty : bytes = []
  · rw [derEncodeInteger, if_pos empty] at written
    cases written
  · rw [derEncodeInteger_write empty, Option.some.injEq] at written
    have octets := naturalOctets_length bytes
    have header := derWrap_length_le (Tag.octet .integer false) (naturalOctets (bigEndian bytes))
    rw [← written, natural, derWrite]
    omega

theorem halves_length (full : sig.length = 128) :
    (sig.take 64).length = 64 ∧ (sig.drop 64).length = 64 := by
  rw [List.length_take, List.length_drop]
  omega

/-- The hand-written header is that of the sequence: one length octet, which is never cut. -/
theorem signatureDer_eq (full : sig.length = 128) :
    ∃ rDer sDer,
      derEncodeInteger (sig.take 64) = some rDer ∧ derEncodeInteger (sig.drop 64) = some sDer ∧
      rDer.length + sDer.length < 256 ∧ signatureDer sig = .done (derSequence [rDer, sDer]) ∧
      derSequence [rDer, sDer] =
        (pair (bigEndian (sig.take 64)) (bigEndian (sig.drop 64))).encode := by
  obtain ⟨rLength, sLength⟩ := halves_length full
  obtain ⟨rDer, sDer, rWritten, sWritten, written⟩ :=
    pair_write (List.ne_nil_of_length_pos (by rw [rLength]; decide))
      (List.ne_nil_of_length_pos (by rw [sLength]; decide))
      (by rw [rLength, sLength]; decide)
  have rBound := derEncodeInteger_length rWritten
  have sBound := derEncodeInteger_length sWritten
  have rCut : slice sig 0 64 = some (sig.take 64) := if_pos ⟨Nat.zero_le _, by omega⟩
  have sCut : slice sig 64 128 = some (sig.drop 64) := by
    rw [slice, if_pos ⟨by decide, by omega⟩, ← full, List.take_length]
  refine ⟨rDer, sDer, rWritten, sWritten, by omega, ?_, written⟩
  have joined : [rDer, sDer].flatten.length = rDer.length + sDer.length := by
    rw [List.flatten_cons, List.flatten_cons, List.flatten_nil, List.append_nil, List.length_append]
  rw [signatureDer, rCut, sCut, derSequence, derWrap, joined, derEncodeLength]
  simp only [unwrap, done_bind, rWritten, sWritten]
  split
  · simp
  · rw [if_pos (by omega)]
    simp

/-- With zeros in front of both halves, a certificate request has the same signature. -/
theorem signDigest_eq (full : sig.length = 128)
    (rZero : (sig.take 64).take 32 = List.replicate 32 0)
    (sZero : (sig.drop 64).take 32 = List.replicate 32 0) {rDer sDer : List UInt8}
    (rWritten : derEncodeInteger (sig.take 64) = some rDer)
    (sWritten : derEncodeInteger (sig.drop 64) = some sDer) (container : Container)
    (hash : List UInt8) (id : Option Json) :
    (CreatePKCS10.signDigest container true hash id).Finishes
      [⟨.provider (.signEcc container hash), some (.ok sig)⟩] (.ok (derSequence [rDer, sDer])) := by
  obtain ⟨rLength, sLength⟩ := halves_length full
  have rAligned : RightAligned (sig.take 64) := ⟨rLength, rZero⟩
  have sAligned : RightAligned (sig.drop 64) := ⟨sLength, sZero⟩
  -- Both encodings are those of the values, and the values lie in the lower halves.
  have lower {array der : List UInt8} (aligned : RightAligned array)
      (written : derEncodeInteger array = some der) :
      derEncodeInteger (array.drop 32) = some der := by
    have some : array ≠ [] := List.ne_nil_of_length_pos (by rw [aligned.1]; decide)
    have someLower : array.drop 32 ≠ [] :=
      List.ne_nil_of_length_pos (by rw [aligned.tail_length]; decide)
    rw [derEncodeInteger_write someLower, aligned.value, ← derEncodeInteger_write some]
    exact written
  have rCut : slice sig 32 64 = some ((sig.take 64).drop 32) := if_pos ⟨by decide, by omega⟩
  have sCut : slice sig 96 128 = some ((sig.drop 64).drop 32) := by
    rw [slice, if_pos ⟨by decide, by omega⟩, ← full, List.take_length, List.drop_drop]
  apply Reaches.step
  dsimp only [Program.bind, settled]
  simp only [done_bind, rCut, sCut, unwrap, lower rAligned rWritten, lower sAligned sWritten]
  exact Reaches.refl _

end encoding

section runs

def Op.eccSignature : (op : Op) → op.Reply → Option (List UInt8)
  | .provider (.signEcc _ _), some (.ok sig) => some sig
  | _, _ => none

def signing : Monitor Skf (Option (List UInt8)) := once Op.eccSignature

def Unsigned (exit : Exit) (s : Option (List UInt8)) : Prop := s = none ∨ ∃ why, exit = .panic why

def Signed (response : RpcResponse) (s : Option (List UInt8)) : Prop :=
  ∀ sig, s = some sig → sig.length = 128 → ∃ rDer sDer, derEncodeInteger (sig.take 64) = some rDer ∧
    derEncodeInteger (sig.drop 64) = some sDer ∧
    response.result = .string (Base64.encode (derSequence [rDer, sDer]))

theorem signed_none (response : RpcResponse) : Signed response none := by
  intro sig impossible
  cases impossible

theorem signing_scoped : Scoped signing Unsigned none where
  allowed t op scopes := by
    right
    intro reply
    cases op with
    | provider op => cases op <;> first | rfl | cases scopes
    | session | host => rfl
    | vendor => cases scopes
  quiet t op reply scopes := by
    apply once.advance_quiet
    cases op with
    | provider op => cases op <;> first | rfl | cases scopes
    | session | host => rfl
    | vendor => cases scopes
  refuses _ _ := .inl rfl
  panics why := .inr ⟨why, rfl⟩

theorem signing_signData (ctx : SkfContext) (params : Params) (lang : Language) :
    (SignData.handle ctx params lang).Meets signing Signed Unsigned none := by
  apply signing_scoped.withSigningContainer
  intro container dataBytes
  refine bind_call (.inl rfl) fun queried _ => bind_settled (fun found _ => ?_) fun _ => .inl rfl
  have unsigned : signing.advance none (.provider (.containerType container)) queried = none := rfl
  rw [unsigned]
  dsimp only
  refine meets_ite (fun _ => ?_) fun _ => ?_
  · refine bind_call (.inl rfl) fun reply _ =>
      bind_settled (fun result settled => ?_) fun _ => .inr ⟨_, rfl⟩
    subst settled
    cases result with
    | error e => exact signed_none _
    | ok sig =>
      -- Nothing is claimed of a reply of another length.
      by_cases full : sig.length = 128
      · obtain ⟨rDer, sDer, rWritten, sWritten, -, written, -⟩ := signatureDer_eq full
        simp only [written, done_bind]
        intro other same _
        cases same
        exact ⟨rDer, sDer, rWritten, sWritten, rfl⟩
      · rw [meets_bind, signatureDer]
        refine bind_unwrap (fun r _ =>
          bind_unwrap (fun rDer _ => bind_unwrap (fun s _ => bind_unwrap (fun sDer _ => ?_)
          fun _ =>
            .inr ⟨_, rfl⟩) fun _ => .inr ⟨_, rfl⟩) fun _ => .inr ⟨_, rfl⟩) fun _ => .inr ⟨_, rfl⟩
        intro other same length
        cases same
        exact absurd length full
  · refine bind_call (.inl rfl) fun reply _ =>
      bind_settled (fun result _ => ?_) fun _ => .inr ⟨_, rfl⟩
    exact signed_none _

/-- `SignData` returns the sequence of the two integers; a strict decoder reads the halves back, and
with zeros in front of both halves it is the signature of a certificate request. -/
theorem sign_data_encoding {ctx : SkfContext} {params : Params} {lang : Language}
    {trace : List (Event Skf)} {response : RpcResponse} {container : Container}
    {data sig : List UInt8} (ran : Yields (SignData.handle ctx params lang) trace response)
    (signed : (⟨.provider (.signEcc container data), some (.ok sig)⟩ : Event Skf) ∈ trace)
    (full : sig.length = 128) :
    ∃ rDer sDer,
      derEncodeInteger (sig.take 64) = some rDer ∧ derEncodeInteger (sig.drop 64) = some sDer ∧
      response.result = .string (Base64.encode (derSequence [rDer, sDer])) ∧
        rDer.length + sDer.length < 256 ∧
      readPair (derSequence [rDer, sDer]) = some
        (bigEndian (sig.take 64), bigEndian (sig.drop 64)) ∧
      ((sig.take 64).take 32 = List.replicate 32 0 → (sig.drop 64).take 32 = List.replicate 32 0 →
        ∀ container hash id, (CreatePKCS10.signDigest container true hash id).Finishes
          [⟨.provider (.signEcc container hash), some (.ok sig)⟩]
            (.ok (derSequence [rDer, sDer]))) := by
  have met := signing_signData ctx params lang
  obtain ⟨rDer, sDer, rWritten, sWritten, small, -, encoded⟩ := signatureDer_eq full
  have returned : response.result = .string (Base64.encode (derSequence [rDer, sDer])) := by
    rcases ran with ended | early
    · obtain ⟨allows, held⟩ := met.reaches ended (once.possible _ _)
      obtain ⟨r, s, rSame, sSame, result⟩ := held sig (once.follow_of_mem allows signed rfl) full
      rw [rWritten, Option.some.injEq] at rSame
      rw [sWritten, Option.some.injEq] at sSame
      rw [rSame, sSame]
      exact result
    · obtain ⟨allows, left⟩ := met.reaches early (once.possible _ _)
      rw [signing, once.follow_of_mem allows signed rfl] at left
      rcases left with impossible | ⟨why, impossible⟩ <;> cases impossible
  -- The two integers are small enough for the reader, which takes content of up to 65536 bytes.
  have short : (pair (bigEndian (sig.take 64)) (bigEndian (sig.drop 64))).encode.length ≤
      65536 := by
    have joined := derWrap_length_le 0x30 [rDer, sDer].flatten
    rw [List.flatten_cons, List.flatten_cons, List.flatten_nil, List.append_nil,
      List.length_append] at joined
    rw [← encoded, derSequence, List.flatten_cons, List.flatten_cons, List.flatten_nil,
      List.append_nil]
    omega
  refine ⟨rDer, sDer, rWritten, sWritten, returned, small, ?_, ?_⟩
  · rw [encoded]
    exact readPair_encode short
  · intro rZero sZero container hash id
    exact signDigest_eq full rZero sZero rWritten sWritten container hash id

end runs

namespace Signing

/-! A signature of two small numbers, returned by the default library. -/

def device : Device := ⟨⟨"GM3000", some 0⟩, "dev", 1⟩
def container : Container := ⟨⟨device, "app", 2⟩, "c1", 3⟩
def sig : List UInt8 := List.replicate 63 0 ++ 5 :: (List.replicate 63 0 ++ [200])
def params : Params := ⟨[.string "GM3000/dev/app/c1", .string "AQ=="], none⟩

def trace : List (Event Skf) :=
  [⟨.provider (.openDevice ⟨"GM3000", some 0⟩ "dev"), some (.ok 1)⟩,
    ⟨.provider (.openApplication device "app"), some (.ok 2)⟩,
    ⟨.session (.authorize ⟨"GM3000", "dev", "app"⟩), (0, .ok ())⟩,
    ⟨.provider (.openContainer ⟨device, "app", 2⟩ "c1"), some (.ok 3)⟩,
    ⟨.provider (.containerType container), some (.ok 2)⟩,
    ⟨.provider (.signEcc container [1]), some (.ok sig)⟩,
    ⟨.provider (.close (.container container)), ()⟩,
    ⟨.provider (.close (.application ⟨device, "app", 2⟩)), ()⟩,
    ⟨.provider (.close (.device device)), ()⟩]

theorem full : sig.length = 128 := by simp [sig]

theorem ran : Yields (SignData.handle (.serving []) params .EN) trace
    (.ok (.string (Base64.encode [0x30, 7, 2, 1, 5, 2, 2, 0, 200])) none) := by
  have names : certKeyNames (.serving []) params "GM3000/dev/app/c1" =
      .done ("GM3000", "dev", "app", "c1") := by
    have parts : splitCertKey "GM3000/dev/app/c1" 4 = some ["GM3000", "dev", "app", "c1"] := by
      decide
    rw [certKeyNames, parts]
    rfl
  have decoded : params.decode (SkfContext.serving []).platform.base64Error "AQ=="
      "Invalid base64 data" = .ok [1] :=
    Params.decode_ok_iff.mpr ⟨by decide, by decide +kernel⟩
  -- The second number has its high bit set, so that it gets a leading zero.
  obtain ⟨rDer, sDer, rWritten, sWritten, -, written, -⟩ := signatureDer_eq full
  have r : derEncodeInteger (sig.take 64) = some [2, 1, 5] := by decide
  have s : derEncodeInteger (sig.drop 64) = some [2, 2, 0, 200] := by decide
  obtain rfl := Option.some.inj (rWritten.symm.trans r)
  obtain rfl := Option.some.inj (sWritten.symm.trans s)
  refine .inl ?_
  unfold trace SignData.handle withSigningContainer
  have certKey : params.requiredStr 0 "Missing certKey param" = .ok "GM3000/dev/app/c1" := rfl
  have dataB64 : params.requiredStr 1 "Missing data param" = .ok "AQ==" := rfl
  simp only [certKey, dataB64, orReply, done_bind, names, decoded]
  apply Reaches.step
  apply Reaches.step
  apply Reaches.step
  apply Reaches.step
  apply Reaches.step
  apply Reaches.step
  dsimp only [Program.bind, Handler.settled]
  simp only [done_bind, written]
  apply Reaches.step
  apply Reaches.step
  apply Reaches.step
  exact Reaches.refl _
end Signing

theorem sign_data_encoding_small :
    ∃ rDer sDer, derEncodeInteger (Signing.sig.take 64) = some rDer ∧
      derEncodeInteger (Signing.sig.drop 64) = some sDer ∧
      (RpcResponse.ok (.string (Base64.encode [0x30, 7, 2, 1, 5, 2, 2, 0, 200])) none).result =
        .string (Base64.encode (derSequence [rDer, sDer])) ∧
      readPair (derSequence [rDer, sDer]) = some
        (bigEndian (Signing.sig.take 64), bigEndian (Signing.sig.drop 64)) := by
  obtain ⟨rDer, sDer, r, s, returned, -, read, -⟩ := sign_data_encoding Signing.ran
    (.tail _ (.tail _ (.tail _ (.tail _ (.tail _ (.head _)))))) Signing.full
  exact ⟨rDer, sDer, r, s, returned, read⟩

end SkfService
