import SkfService.Csr.Runs
import SkfService.Dispatch.Device
import SkfService.Domain.Keys
import SkfService.Payload.Setting
import SkfService.Skf.Layouts

/-! A generated public key, sent back for a verification. -/

set_option autoImplicit false

namespace SkfService

open Text Interaction Program Handler

theorem Native.fitted_x (key : EccPublicKey) : (fitted 64 key.x).length = 64 := fitted_length _ _

theorem Native.fitted_y (key : EccPublicKey) : (fitted 64 key.y).length = 64 := fitted_length _ _

/-- The blob the provider itself builds for a digest with a public key. -/
def Native.eccBlob (key : EccPublicKey) : EccPublicKeyBlob :=
  ⟨key.bitLen, fitted 64 key.x, fitted 64 key.y, Native.fitted_x key, Native.fitted_y key⟩

section generated

variable {ctx : SkfContext} {params : Params} {lang : Language}
  {ret : RpcResponse → List (Event Skf) → Prop}

theorem meets_generateKeyPair {fallback : UInt64}
    {generate : Container → ULONG → Handler RpcResponse}
    (inside : ∀ container number,
      (generate container number).Meets drafting ret (fun exit _ => Fruitless exit) []) :
    (generateKeyPair ctx params lang fallback generate).Meets drafting ret
      (fun exit _ => Fruitless exit) [] := by
  have scope := drafting_scoped []
  unfold generateKeyPair
  dsimp only
  refine scope.bind_requiredStr fun providerName _ => ?_
  rw [containerNames, bind_bind]
  refine scope.bind_requiredStr fun devName _ => ?_
  rw [bind_bind]
  refine scope.bind_requiredStr fun appName _ => ?_
  rw [bind_bind]
  refine scope.bind_requiredStr fun contName _ => ?_
  rw [pure_bind, meets_bind]
  apply scope.unwatched.meets_resolveOr
  · intro reason
    exact scope.refuses _ rfl
  · intro _
    exact scope.withGrantedContainer fun container => inside container _
  · intro _ gate _
    exact scope.withGrantedContainer fun container => inside container _

end generated

section verified

variable {ctx : SkfContext} {params : Params} {lang : Language} {good : Op → Prop}
  {refusal : String}

def SaysElse (refusal : String) (exit : Exit) : Prop :=
  ∀ response, exit = .reply response → response.message ≠ some refusal

theorem saysElse_panic (why : Panic) : SaysElse refusal (.panic why) := by
  intro response impossible
  cases impossible

theorem saysElse_err {code : Int32} {message : String} {id : Option Json}
    (different : message ≠ refusal) :
    SaysElse refusal (.reply (.err code message id)) := by
  intro response same
  cases same
  intro told
  exact different (Option.some.inj told)

theorem append_ne {front back text : String} (apart : ¬front.toList <+: text.toList) :
    front ++ back ≠ text := by
  rintro rfl
  apply apart
  rw [String.toList_append]
  exact List.prefix_append _ _

def Op.verifies : Op → Bool
  | .vendor (.eccVerify _ _ _ _) | .vendor (.rsaVerify _ _ _ _) => true
  | _ => false

structure Spared (good : Op → Prop) (refusal : String) : Prop where
  other : ∀ op : Op, op.verifies = false → good op
  invalid : ¬"Invalid base64 ".toList <+: refusal.toList
  unloaded : ¬"Load Lib Failed: ".toList <+: refusal.toList
  unloadedCn : ¬"加载库失败: ".toList <+: refusal.toList
  unconnected : ¬"ConnectDev".toList <+: refusal.toList

namespace Spared

variable {A : Type} {ret : A → Unit → Prop}

theorem unwatched (spared : Spared good refusal) : Unwatched (watching good) () :=
  ⟨fun host => spared.other (.host host) rfl, fun _ _ => rfl⟩

theorem bind_requiredStr {index : Nat} {message : String} {k : String → Handler A}
    (different : message ≠ refusal)
    (goes : ∀ value, params.str index = some value →
      (k value).Meets (watching good) ret (fun exit _ => SaysElse refusal exit) ()) :
    (orReply (params.requiredStr index message) >>= k).Meets (watching good) ret
      (fun exit _ => SaysElse refusal exit) () := by
  unfold Params.requiredStr
  cases given : params.str index with
  | some value => exact goes value given
  | none => exact saysElse_err different

theorem bind_decodedOr (spared : Spared good refusal) {encoded label : String} {id : Option Json}
    {k : List UInt8 → Handler A}
    (goes : ∀ bytes, Base64.decode encoded = some bytes →
      (k bytes).Meets (watching good) ret (fun exit _ => SaysElse refusal exit) ()) :
    (decodedOr ctx encoded label id >>= k).Meets (watching good) ret
      (fun exit _ => SaysElse refusal exit) () := by
  refine bind_mapError (fun bytes decoded => goes bytes (decodeBase64_ok_iff.mp decoded))
    fun reason _ => ?_
  apply saysElse_err
  rw [String.append_assoc, String.append_assoc]
  exact append_ne spared.invalid

theorem bind_connectDev (spared : Spared good refusal) {api : Library} {provName devName : String}
    {id : Option Json} {k : Device → Handler A}
    (goes : ∀ device,
      (k device).Meets (watching good) ret (fun exit _ => SaysElse refusal exit) ()) :
    (connectDev api provName devName id >>= k).Meets (watching good) ret
      (fun exit _ => SaysElse refusal exit) () := by
  rw [meets_bind, connectDev, cString]
  refine bind_unwrap (fun cDev _ => ?_) fun _ => saysElse_panic _
  refine bind_call (spared.other (.vendor (.connectDev api cDev)) rfl) fun answer _ => ?_
  refine meets_ite (fun _ => goes _) fun _ => ?_
  refine bind_call (spared.other (.session (.invalidateDevice provName devName)) rfl)
    fun removed _ => ?_
  apply saysElse_err
  rw [failedAs, String.append_assoc]
  exact append_ne spared.unconnected

theorem bind_withConnected (spared : Spared good refusal) {device : Device} {op : VendorOp}
    {k : op.Reply → Handler A} (fine : good (.vendor op))
    (goes : ∀ reply, (k reply).Meets (watching good) ret (fun exit _ => SaysElse refusal exit) ()) :
    (withConnected device (vendor op) >>= k).Meets (watching good) ret
      (fun exit _ => SaysElse refusal exit) () := by
  rw [meets_bind, withConnected]
  refine bind_call fine fun reply _ => ?_
  exact bind_call (spared.other (.vendor (.disConnectDev device)) rfl) fun _ _ => goes reply

end Spared

end verified

section parameters

variable {ctx : SkfContext} {params : Params} {lang : Language} {A : Type} {id : Option Json}

end parameters

section accepted

variable {good : Op → Prop} {refusal : String} {p : Handler RpcResponse} {trace : List (Event Skf)}

end accepted

namespace PublicKeys

/-! `GenECCKeyPair` in a granted container, and `ECCVerify` with the key text of its reply. -/

def library : Library := ⟨"GM3000", some 0⟩
def device : Device := ⟨library, "dev", 1⟩
def application : Application := ⟨device, "app", 2⟩
def container : Container := ⟨application, "c1", 3⟩
def key : EccPublicKey := ⟨256, List.replicate 32 0x11, List.replicate 32 0x22⟩

def request : Params :=
  ⟨[.string "GM3000", .string "dev", .string "app", .string "c1"], none⟩

def trace : List (Event Skf) :=
  [⟨.provider (.openDevice library "dev"), some (.ok 1)⟩,
    ⟨.provider (.openApplication device "app"), some (.ok 2)⟩,
    ⟨.session (.authorize ⟨"GM3000", "dev", "app"⟩), (0, .ok ())⟩,
    ⟨.provider (.openContainer application "c1"), some (.ok 3)⟩,
    ⟨.provider (.genEccKeyPair container SGD_SM2_1), some (.ok key)⟩,
    ⟨.provider (.close (.container container)), ()⟩,
    ⟨.provider (.close (.application application)), ()⟩,
    ⟨.provider (.close (.device device)), ()⟩]

def response : RpcResponse := .ok (publicKeyJson (eccBlob key).structBytes 256) none

theorem generates :
    (GenECCKeyPair.handle (.serving []) request .EN).Finishes trace (.ok response) := by
  unfold trace
  apply Reaches.step
  apply Reaches.step
  apply Reaches.step
  apply Reaches.step
  apply Reaches.step
  apply Reaches.step
  apply Reaches.step
  apply Reaches.step
  exact Reaches.refl _

def connected : Device := ⟨⟨"GM3000", none⟩, "dev", 9⟩

def verified (bytes : List UInt8) : Event Skf :=
  ⟨.vendor (.eccVerify connected bytes [1, 2, 3] (List.replicate ECCSIGNATUREBLOB_SIZE 7)), SAR_OK⟩

end PublicKeys

end SkfService
