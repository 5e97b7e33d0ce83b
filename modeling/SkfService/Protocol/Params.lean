import SkfService.Protocol.Rpc
import SkfService.Text.Base64
import SkfService.Text.Utf8

/-! Positional parameters of one request. A rejected parameter is answered with code -2 and the
request's own id. -/

set_option autoImplicit false

namespace SkfService

open Text

def MAX_PAYLOAD_BYTES : Nat := 256 * 1024

def MAX_ENCODED_BYTES : Nat := MAX_PAYLOAD_BYTES / 3 * 4 + 4

/-- What the base64 decoder reports for a text it refuses. -/
abbrev DecodeErrorText := String → String

def decodeBase64 (errorText : DecodeErrorText) (encoded : String) : Except String (List UInt8) :=
  match Base64.decode encoded with
  | some bytes => .ok bytes
  | none => .error (errorText encoded)

structure Params where
  values : List Json
  id : Option Json

namespace Params

def raw (params : Params) (index : Nat) : Option Json := params.values[index]?

def str (params : Params) (index : Nat) : Option String := (params.raw index).bind Json.asStr

def u64 (params : Params) (index : Nat) : Option UInt64 := (params.raw index).bind Json.asU64

def bool (params : Params) (index : Nat) : Option Bool := (params.raw index).bind Json.asBool

def reject (params : Params) (message : String) : RpcResponse := .err (-2) message params.id

def requiredStr (params : Params) (index : Nat) (message : String) : Except RpcResponse String :=
  match params.str index with
  | some value => .ok value
  | none => .error (params.reject message)

def optionalStr (params : Params) (index : Nat) (fallback : String) : String :=
  (params.str index).getD fallback

def optionalU64 (params : Params) (index : Nat) (fallback : UInt64) : UInt64 :=
  (params.u64 index).getD fallback

def checkPayloadLen (params : Params) (encoded : String) : Except RpcResponse Unit :=
  if (utf8 encoded).length > MAX_ENCODED_BYTES then
    .error
      (params.reject ("Payload too large: " ++ decimal (utf8 encoded).length ++ " bytes (limit " ++
      decimal MAX_PAYLOAD_BYTES ++ ")"))
  else .ok ()

def decode (params : Params) (errorText : DecodeErrorText) (encoded message : String) :
    Except RpcResponse (List UInt8) := do
  params.checkPayloadLen encoded
  match decodeBase64 errorText encoded with
  | .ok bytes => .ok bytes
  | .error reason => .error (params.reject (message ++ ": " ++ reason))

def Decodes (encoded : String) (bytes : List UInt8) : Prop :=
  (utf8 encoded).length ≤ MAX_ENCODED_BYTES ∧ Base64.decode encoded = some bytes

theorem decode_ok_iff {params : Params} {errorText : DecodeErrorText} {encoded message : String}
    {bytes : List UInt8} :
    params.decode errorText encoded message = .ok bytes ↔ Decodes encoded bytes := by
  unfold decode checkPayloadLen decodeBase64 Decodes
  by_cases large : (utf8 encoded).length > MAX_ENCODED_BYTES
  · simp [large, bind, Except.bind, Nat.not_le.mpr large]
  · rw [if_neg large]
    cases decoded : Base64.decode encoded <;> simp [bind, Except.bind, Nat.le_of_not_lt large]

/-- The length limit lets through two bytes more than the payload limit. -/
theorem Decodes.length_le {encoded : String} {bytes : List UInt8}
    (decodes : Decodes encoded bytes) :
    bytes.length ≤ MAX_PAYLOAD_BYTES + 2 := by
  have short := decodes.1
  have chars := length_le_utf8 encoded
  have shrinks := Base64.decode_length_le decodes.2
  simp only [MAX_ENCODED_BYTES, MAX_PAYLOAD_BYTES] at short ⊢
  omega

/-- Every rejection of a parameter carries the request's id. -/
theorem requiredStr_error {params : Params} {index : Nat} {message : String}
    {rejection : RpcResponse} (rejected : params.requiredStr index message = .error rejection) :
    rejection.id = params.id := by
  unfold requiredStr at rejected
  split at rejected
  · cases rejected
  · cases rejected
    rfl

theorem checkPayloadLen_error {params : Params} {encoded : String} {rejection : RpcResponse}
    (rejected : params.checkPayloadLen encoded = .error rejection) : rejection.id = params.id := by
  unfold checkPayloadLen at rejected
  split at rejected
  · cases rejected
    rfl
  · cases rejected

theorem decode_error {params : Params} {errorText : DecodeErrorText} {encoded message : String}
    {rejection : RpcResponse}
    (rejected : params.decode errorText encoded message = .error rejection) :
    rejection.id = params.id := by
  unfold decode at rejected
  cases guarded : params.checkPayloadLen encoded with
  | error early =>
    rw [guarded] at rejected
    cases rejected
    exact checkPayloadLen_error guarded
  | ok checked =>
    rw [guarded] at rejected
    cases decoded : decodeBase64 errorText encoded with
    | ok bytes => simp [decoded, bind, Except.bind] at rejected
    | error reason =>
      simp only [decoded, bind, Except.bind, Except.error.injEq] at rejected
      rw [← rejected]
      rfl

end Params
end SkfService
