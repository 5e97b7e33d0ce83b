import SkfService.Interaction.Program
import SkfService.Protocol.Params

/-! The payload guard in front of the base64 decoder: what it admits, and that nothing else is ever
decoded. -/

set_option autoImplicit false

namespace SkfService

open Text Interaction

/-- The base64 decoder as it is called: an encoded text, and its bytes or what is wrong with it. -/
def Decoder : Signature := ⟨String, fun _ => Except String (List UInt8)⟩

namespace Params

/-- `decode_base64` up to its call of the decoder, and after it. -/
def decoding (params : Params) (encoded message : String) :
    Program Decoder Empty (Except RpcResponse (List UInt8)) := do
  match params.checkPayloadLen encoded with
  | .error rejection => return .error rejection
  | .ok () =>
    match ← Program.ask (I := Decoder) encoded with
    | .ok bytes => return .ok bytes
    | .error reason => return .error (params.reject (message ++ ": " ++ reason))

variable {params : Params} {errorText : DecodeErrorText} {encoded message : String}
  {bytes : List UInt8}

theorem decode_of_finishes {trace : List (Event Decoder)}
    {outcome : Except RpcResponse (List UInt8)}
    (ran : (params.decoding encoded message).Finishes trace (.ok outcome))
    (answers : ∀ event ∈ trace, event.reply = decodeBase64 errorText event.op) :
    params.decode errorText encoded message = outcome := by
  unfold decoding at ran
  unfold decode
  cases passed : params.checkPayloadLen encoded with
  | error rejection =>
    rw [passed] at ran
    cases ran
    rfl
  | ok done =>
    rw [passed] at ran
    cases ran with
    | step answer ended =>
      have decoded : answer = decodeBase64 errorText encoded := answers _ List.mem_cons_self
      cases answer with
      | ok bytes =>
        cases ended
        simp only [bind, Except.bind, ← decoded]
      | error reason =>
        cases ended
        simp only [bind, Except.bind, ← decoded]

end Params

theorem utf8_encode_length (bytes : List UInt8) :
    (utf8 (Base64.encode bytes)).length = (bytes.length + 2) / 3 * 4 := by
  rw [utf8_length_ascii, Base64.encode, String.toList_ofList, Base64.length_encodeChars]
  rw [Base64.encode, String.toList_ofList]
  exact Base64.encodeChars_ascii

/-- Everything up to the payload limit is decoded to what was encoded, at most two bytes more than
the limit are ever decoded, and a longer text is refused before the decoder is called. -/
theorem payload_guard_tight (params : Params) (errorText : DecodeErrorText) (message : String) :
    (∀ bytes : List UInt8, bytes.length ≤ MAX_PAYLOAD_BYTES →
      params.decode errorText (Base64.encode bytes) message = .ok bytes) ∧
    (∀ encoded bytes, params.decode errorText encoded message = .ok bytes →
      bytes.length ≤ MAX_PAYLOAD_BYTES + 2) ∧
    ∀ encoded, MAX_ENCODED_BYTES < (utf8 encoded).length → ∃ rejection,
      params.decoding encoded message = .done (.error rejection) ∧
        params.decode errorText encoded message = .error rejection := by
  refine ⟨fun bytes small => ?_, fun encoded bytes decoded => ?_, fun encoded large => ?_⟩
  · apply Params.decode_ok_iff.mpr
    refine ⟨?_, Base64.decode_encode bytes⟩
    rw [utf8_encode_length]
    simp only [MAX_ENCODED_BYTES, MAX_PAYLOAD_BYTES] at small ⊢
    omega
  · exact (Params.decode_ok_iff.mp decoded).length_le
  · have refused : ∃ rejection, params.checkPayloadLen encoded = .error rejection :=
      ⟨_, if_pos large⟩
    obtain ⟨rejection, refused⟩ := refused
    refine ⟨rejection, ?_, ?_⟩
    · rw [Params.decoding, refused]
      rfl
    · rw [Params.decode, refused]
      rfl

end SkfService
