import SkfService.Dispatch.HandleRequest
import SkfService.Dispatch.Scopes
import SkfService.Interaction.Asks

/-! The numeric parameters that are cast to `ULONG`: the number of a vendor call is the lower half
of the one the client sent. -/

set_option autoImplicit false

namespace SkfService

open Text Interaction Program Handler

inductive NumericArgument
  | bitsLen | eccAlgId | paddingType | digestAlgId | timeout
  deriving DecidableEq

def Op.numeric : Op → Option (NumericArgument × ULONG)
  | .provider (.genRsaKeyPair _ bits) => some (.bitsLen, bits)
  | .provider (.genEccKeyPair _ algId) => some (.eccAlgId, algId)
  | .provider (.encrypt _ _ _ padding _) | .provider (.decrypt _ _ _ padding _) =>
    some (.paddingType, padding)
  | .provider (.beginDigest _ algId _) => some (.digestAlgId, algId)
  | .vendor (.lockDev _ timeout) => some (.timeout, timeout)
  | _ => none

structure Narrowing where
  index : Nat
  fallback : UInt64
  argument : NumericArgument

def Method.narrowing : Method → Option Narrowing
  | .CreatePKCS10 => some ⟨5, 256, .bitsLen⟩
  | .GenECCKeyPair => some ⟨4, SGD_SM2_1.toUInt64, .eccAlgId⟩
  | .GenRSAKeyPair => some ⟨4, 2048, .bitsLen⟩
  | .EncryptData | .DecryptData => some ⟨3, 1, .paddingType⟩
  | .DigestInit => some ⟨2, SGD_SM3.toUInt64, .digestAlgId⟩
  | .LockDev => some ⟨2, 5000, .timeout⟩
  | _ => none

def passing (argument : NumericArgument) (number : ULONG) : Monitor Skf Unit where
  allowed _ op := ∀ handed, op.numeric = some (argument, handed) → handed = number
  possible _ _ _ := True
  advance _ _ _ := ()

abbrev Passes (argument : NumericArgument) (number : ULONG) {A : Type} (p : Handler A) : Prop :=
  p.Meets (passing argument number) (fun _ _ => True) (fun _ _ => True) ()

section rules

variable {argument : NumericArgument} {number : ULONG} {A B : Type} {ctx : SkfContext}
  {params : Params} {lang : Language} {id : Option Json}

theorem allowed_none {op : Op} (silent : op.numeric = none) :
    (passing argument number).allowed () op := by
  intro handed impossible
  rw [silent] at impossible
  cases impossible

theorem allowed_same {op : Op} (same : op.numeric = some (argument, number)) :
    (passing argument number).allowed () op := by
  intro handed given
  rw [same] at given
  cases given
  rfl

theorem allowed_other {op : Op} {other : NumericArgument} {handed : ULONG}
    (given : op.numeric = some (other, handed)) (differs : other ≠ argument) :
    (passing argument number).allowed () op := by
  intro passed same
  rw [given] at same
  cases same
  exact absurd rfl differs

theorem passing_scoped : Scoped (passing argument number) (fun _ _ => True) () where
  allowed t op scopes := by
    apply allowed_none
    cases op with
    | provider op => cases op <;> first | rfl | cases scopes
    | session | host => rfl
    | vendor => cases scopes
  quiet _ _ _ _ := rfl
  refuses _ _ := trivial
  panics _ := trivial

theorem Passes.bind {p : Handler B} {k : B → Handler A} (first : Passes argument number p)
    (later : ∀ value, Passes argument number (k value)) : Passes argument number (p >>= k) := by
  rw [Passes, meets_bind]
  exact first.mono (fun value _ _ => later value) fun _ _ _ => trivial

theorem passes_call {op : Op} {k : op.Reply → Handler A}
    (fits : (passing argument number).allowed () op)
    (goes : ∀ reply, Passes argument number (k reply)) :
    Passes argument number (Program.ask (I := Skf) op >>= k) :=
  ⟨fits, fun reply _ => goes reply⟩

theorem passes_settled {op : ProviderOp} {x : op.Reply → Attempt B}
    {k : op.Reply → Except ProviderError B → Handler A}
    (fits : (passing argument number).allowed () (.provider op))
    (goes : ∀ reply result, Passes argument number (k reply result)) :
    Passes argument number (provider op >>= fun reply => settled (x reply) >>= k reply) := by
  apply passes_call fits
  intro reply
  exact bind_settled (fun result _ => goes reply result) fun _ => trivial

theorem passes_resolveOr (name : String) (failed : String → RpcResponse) :
    Passes argument number (resolveOr ctx name failed) :=
  passing_scoped.unwatched.meets_resolveOr (fun _ => trivial) (fun _ => trivial) fun _ _ _ =>
    trivial

theorem passes_connectDev (api : Library) (provName devName : String) :
    Passes argument number (connectDev api provName devName id) := by
  refine bind_unwrap (fun cDev _ => ?_) fun _ => trivial
  apply passes_call (allowed_none rfl)
  intro connected
  obtain ⟨ret, raw⟩ := connected
  exact meets_ite (fun _ => trivial) fun _ => passes_call (allowed_none rfl) fun _ => trivial

theorem passes_beginDigest {device : Device} (eccKey : Option EccPublicKey) :
    Passes .bitsLen number (CreatePKCS10.beginDigest device eccKey id) := by
  unfold CreatePKCS10.beginDigest
  cases eccKey with
  | some key =>
    apply passes_settled (allowed_none rfl)
    intro reply result
    cases result <;> trivial
  | none =>
    -- SHA-256 is fixed, and stands for no parameter of this method.
    apply passes_settled (allowed_other rfl (by decide))
    intro reply result
    cases result <;> trivial

theorem passes_digestTbs (digest : Digest) (tbs : List UInt8) :
    Passes .bitsLen number (CreatePKCS10.digestTbs digest tbs id) := by
  apply passes_settled (allowed_none rfl)
  intro reply result
  cases result with
  | error e => trivial
  | ok updated =>
    apply passes_settled (allowed_none rfl)
    intro reply result
    cases result <;> trivial

theorem passes_signDigest {container : Container} (isEcc : Bool) (hash : List UInt8) :
    Passes .bitsLen number (CreatePKCS10.signDigest container isEcc hash id) := by
  apply meets_ite
  · intro _
    apply passes_settled (allowed_none rfl)
    intro reply result
    cases result with
    | error e => trivial
    | ok sig =>
      refine bind_unwrap (fun r _ =>
        bind_unwrap (fun rDer _ => bind_unwrap (fun sHalf _ => ?_) fun _ => trivial)
        fun _ => trivial) fun _ => trivial
      exact bind_unwrap (fun _ _ => trivial) fun _ => trivial
  · intro _
    apply passes_settled (allowed_none rfl)
    intro reply result
    cases result <;> trivial

theorem passes_generateKey {container : Container} (isEcc : Bool) :
    Passes .bitsLen number (CreatePKCS10.generateKey container isEcc number id) := by
  apply meets_ite
  · intro _
    apply passes_settled (allowed_other rfl (by decide))
    intro reply result
    cases result <;> trivial
  · intro _
    apply passes_settled (allowed_same rfl)
    intro reply result
    cases result with
    | ok key => exact bind_unwrap (fun _ _ => trivial) fun _ => trivial
    | error e => trivial

theorem passes_withKey {device : Device} {container : Container} {subject keyType : String}
    {keyLength : UInt32} :
    Passes .bitsLen keyLength
      (CreatePKCS10.withKey ctx device container subject keyType keyLength id) := by
  apply (passes_generateKey _).bind
  intro generated
  apply (passes_beginDigest generated.2).bind
  intro digest
  apply passing_scoped.close
  apply (passes_digestTbs digest _).bind
  intro hash
  apply (passes_signDigest _ hash).bind
  intro sigBits
  exact passes_call (allowed_none rfl) fun _ => trivial

theorem passes_createPKCS10 :
    Passes .bitsLen (params.optionalU64 5 256).toUInt32 (CreatePKCS10.handle ctx params lang) := by
  apply passing_scoped.createPKCS10
  intro device container subject _
  apply passes_withKey

theorem passes_generateKeyPair {fallback : UInt64}
    {generate : Container → ULONG → Handler RpcResponse}
    (generates : ∀ container, Passes argument (params.optionalU64 4 fallback).toUInt32
      (generate container (params.optionalU64 4 fallback).toUInt32)) :
    Passes argument (params.optionalU64 4 fallback).toUInt32
      (generateKeyPair ctx params lang fallback generate) := by
  refine passing_scoped.bind_requiredStr fun providerName _ => ?_
  apply Passes.bind
  · exact passing_scoped.bind_requiredStr fun _ _ => passing_scoped.bind_requiredStr fun _ _ =>
      passing_scoped.bind_requiredStr fun _ _ => trivial
  · intro names
    apply (passes_resolveOr providerName _).bind
    intro library
    exact passing_scoped.withGrantedContainer generates

theorem passes_genECCKeyPair :
    Passes .eccAlgId (params.optionalU64 4 SGD_SM2_1.toUInt64).toUInt32
      (GenECCKeyPair.handle ctx params lang) := by
  apply passes_generateKeyPair
  intro container
  exact passes_settled (allowed_same rfl) fun _ _ => trivial

theorem passes_genRSAKeyPair :
    Passes .bitsLen (params.optionalU64 4 2048).toUInt32
      (GenRSAKeyPair.handle ctx params lang) := by
  apply passes_generateKeyPair
  intro container
  exact passes_settled (allowed_same rfl) fun _ _ => trivial

theorem passes_setSymmKey {container : Container} (symKey : Option (List UInt8)) :
    Passes argument number (setSymmKey container symKey lang id) := by
  cases symKey with
  | none => trivial
  | some keyBytes =>
    refine meets_ite (fun _ => trivial) fun _ => ?_
    apply passes_settled (allowed_none rfl)
    intro reply result
    cases result <;> trivial

theorem passes_withSymmetricKey {missingData invalidData : String}
    {cipher : Container → List UInt8 → ULONG → List UInt8 → Handler RpcResponse}
    (ciphers : ∀ container iv data, Passes argument (params.optionalU64 3 1).toUInt32
      (cipher container iv (params.optionalU64 3 1).toUInt32 data)) :
    Passes argument (params.optionalU64 3 1).toUInt32
      (withSymmetricKey ctx params lang missingData invalidData cipher) := by
  refine passing_scoped.bind_requiredStr fun certKey _ =>
    passing_scoped.bind_requiredStr fun dataB64 _ =>
    passing_scoped.bind_requiredStr fun ivB64 _ =>
      bind_orReply (fun symKey _ => ?_) fun _ _ => trivial
  refine passing_scoped.bind_certKeyNames fun names => ?_
  refine passing_scoped.bind_decode fun dataBytes _ =>
    passing_scoped.bind_decode fun ivBytes _ => ?_
  refine passing_scoped.bind_resolve fun library =>
    passing_scoped.withGrantedContainer fun container => ?_
  exact (passes_setSymmKey symKey).bind fun _ => ciphers container ivBytes dataBytes

theorem passes_encryptData :
    Passes .paddingType (params.optionalU64 3 1).toUInt32 (EncryptData.handle ctx params lang) := by
  apply passes_withSymmetricKey
  intro container iv data
  exact passes_settled (allowed_same rfl) fun _ _ => trivial

theorem passes_decryptData :
    Passes .paddingType (params.optionalU64 3 1).toUInt32 (DecryptData.handle ctx params lang) := by
  apply passes_withSymmetricKey
  intro container iv data
  exact passes_settled (allowed_same rfl) fun _ _ => trivial

theorem passes_requiredNames : Passes argument number (requiredNames params) :=
  passing_scoped.bind_requiredStr fun _ _ => passing_scoped.bind_requiredStr fun _ _ => trivial

theorem passes_lockDev :
    Passes .timeout (params.optionalU64 2 5000).toUInt32 (LockDev.handle ctx params lang) := by
  apply passes_requiredNames.bind
  intro names
  obtain ⟨provName, devName⟩ := names
  apply Passes.bind
  · exact passing_scoped.unwatched.meets_loadedApi (fun _ => trivial) trivial trivial
  · intro api
    apply (passes_connectDev api provName devName).bind
    intro device
    apply passes_call (allowed_same rfl)
    intro locked
    exact passes_call (allowed_none rfl) fun _ => trivial

theorem passes_onDefault (devName : String) (idBytes : List UInt8) :
    Passes .digestAlgId number (DigestInit.onDefault ctx devName number idBytes lang id) := by
  apply passes_settled (allowed_none rfl)
  intro opened result
  cases result with
  | error e => trivial
  | ok raw =>
    apply passes_call (allowed_same rfl)
    intro begun
    cases begun with
    | none => exact passes_call (allowed_none rfl) fun _ => trivial
    | some outcome =>
      cases outcome with
      | ok hash =>
        exact passes_call (allowed_none rfl) fun _ =>
          passes_call (allowed_none rfl) fun _ => trivial
      | error e => exact passes_call (allowed_none rfl) fun _ => trivial

theorem passes_onOther (provName devName : String) :
    Passes argument number (DigestInit.onOther ctx provName devName lang id) := by
  apply Passes.bind
  · exact passing_scoped.unwatched.meets_apiOr (fun _ => trivial) trivial
  · intro api
    refine bind_unwrap (fun cDev _ => ?_) fun _ => trivial
    apply passes_call (allowed_none rfl)
    intro connected
    obtain ⟨ret, raw⟩ := connected
    exact meets_ite (fun _ => passes_call (allowed_none rfl) fun _ => trivial) fun _ => trivial

theorem passes_digestInit :
    Passes .digestAlgId (params.optionalU64 2 SGD_SM3.toUInt64).toUInt32
      (DigestInit.handle ctx params lang) := by
  apply passes_requiredNames.bind
  intro names
  obtain ⟨provName, devName⟩ := names
  exact meets_ite (fun _ => passes_onDefault devName _) fun _ => passes_onOther provName devName

/-- Every branch with a numeric parameter hands over the lower half of it. -/
theorem passes_branch {method : Method} {narrowing : Narrowing}
    (narrows : method.narrowing = some narrowing) :
    Passes narrowing.argument (params.optionalU64 narrowing.index narrowing.fallback).toUInt32
      (method.branch ctx params lang) := by
  cases method with
  | CreatePKCS10 =>
    cases narrows
    exact @passes_createPKCS10 ctx params lang
  | GenECCKeyPair =>
    cases narrows
    exact passes_genECCKeyPair
  | GenRSAKeyPair =>
    cases narrows
    exact passes_genRSAKeyPair
  | EncryptData =>
    cases narrows
    exact passes_encryptData
  | DecryptData =>
    cases narrows
    exact passes_decryptData
  | DigestInit =>
    cases narrows
    exact passes_digestInit
  | LockDev =>
    cases narrows
    exact passes_lockDev
  | _ => cases narrows

end rules

/-- The value a non-negative integer of a request arrives as. From 2^64 on it is read as a
floating-point number. -/
inductive CarriesInteger : Json → Nat → Prop
  | word (value : UInt64) : CarriesInteger (.number (.unsigned value)) value.toNat
  | float (literal : FloatLiteral) {n : Nat} (large : 18446744073709551616 ≤ n) :
      CarriesInteger (.number (.float literal)) n

section numbers

variable {ctx : SkfContext} {params : Params} {lang : Language} {method : Method}
  {narrowing : Narrowing} {value : Json} {n : Nat}

/-- The cast keeps an integer just below 2^32. What stands for a larger integer is itself below. -/
theorem cast_eq_iff {index : Nat} (fallback : UInt64) (sent : params.raw index = some value)
    (integer : CarriesInteger value n) :
    (params.optionalU64 index fallback).toUInt32.toNat = n ↔ n < 4294967296 := by
  rw [Params.optionalU64, Params.u64, sent]
  cases integer with
  | word value =>
    have lower : value.toUInt32.toNat = value.toNat % 4294967296 := UInt64.toNat_toUInt32 value
    change value.toUInt32.toNat = value.toNat ↔ _
    omega
  | float literal large =>
    have bound : fallback.toUInt32.toNat < 4294967296 := fallback.toUInt32.toNat_lt
    change fallback.toUInt32.toNat = n ↔ _
    omega

/-- A vendor call of a run is handed the integer that was sent just when it is below 2^32. -/
theorem number_handed_iff {trace : List (Event Skf)} {rest : Handler RpcResponse}
    {event : Event Skf} {handed : ULONG} (narrows : method.narrowing = some narrowing)
    (sent : params.raw narrowing.index = some value) (integer : CarriesInteger value n)
    (reached : Reaches (method.branch ctx params lang) trace rest) (member : event ∈ trace)
    (call : event.op.numeric = some (narrowing.argument, handed)) :
    handed.toNat = n ↔ n < 4294967296 := by
  have asks : (method.branch ctx params lang).Asks fun op : Op =>
      ∀ passed, op.numeric = some (narrowing.argument, passed) →
        passed = (params.optionalU64 narrowing.index narrowing.fallback).toUInt32 :=
    asks_of_meets (passes_branch narrows) (fun _ _ _ => trivial) fun _ _ allowed => allowed
  rw [asks.of_reaches reached event member handed call]
  exact cast_eq_iff narrowing.fallback sent integer

end numbers

namespace Numbers

/-! `GenRSAKeyPair` with any number of bits, answered with the key of as many bits as the vendor was
asked for. -/

def device : Device := ⟨⟨"GM3000", some 0⟩, "dev", 1⟩
def container : Container := ⟨⟨device, "app", 2⟩, "c1", 3⟩
def key (bits : ULONG) : RsaPublicKey := ⟨0, bits, List.replicate 256 0x33, [1, 0, 1, 0]⟩

def params (bits : UInt64) : Params :=
  ⟨[.string "GM3000", .string "dev", .string "app", .string "c1", .number (.unsigned bits)], none⟩

def generated (bits : ULONG) : Event Skf :=
  ⟨.provider (.genRsaKeyPair container bits), some (.ok (key bits))⟩

def trace (bits : ULONG) : List (Event Skf) :=
  [⟨.provider (.openDevice ⟨"GM3000", some 0⟩ "dev"), some (.ok 1)⟩,
    ⟨.provider (.openApplication device "app"), some (.ok 2)⟩,
    ⟨.session (.authorize ⟨"GM3000", "dev", "app"⟩), (0, .ok ())⟩,
    ⟨.provider (.openContainer ⟨device, "app", 2⟩ "c1"), some (.ok 3)⟩, generated bits,
    ⟨.provider (.close (.container container)), ()⟩,
    ⟨.provider (.close (.application ⟨device, "app", 2⟩)), ()⟩,
    ⟨.provider (.close (.device device)), ()⟩]

theorem ran (bits : UInt64) :
    (Method.GenRSAKeyPair.branch (.serving []) (params bits) .EN).Finishes (trace bits.toUInt32)
      (.ok (.ok (publicKeyJson (rsaBlob (key bits.toUInt32)).structBytes bits.toUInt32) none)) := by
  unfold trace generated
  apply Reaches.step
  apply Reaches.step
  apply Reaches.step
  apply Reaches.step
  apply Reaches.step
  apply Reaches.step
  apply Reaches.step
  apply Reaches.step
  exact Reaches.refl _

theorem generated_mem (bits : ULONG) : generated bits ∈ trace bits :=
  .tail _ (.tail _ (.tail _ (.tail _ (.head _))))

end Numbers

theorem number_handed_common : (2048 : ULONG).toNat = 2048 ↔ 2048 < 4294967296 := by
  have narrows : Method.GenRSAKeyPair.narrowing = some ⟨4, 2048, .bitsLen⟩ := rfl
  exact number_handed_iff narrows rfl (.word 2048) (Numbers.ran 2048)
    (Numbers.generated_mem 2048) rfl

/-- A client that asks for 2^32 + 1024 bits is answered with a key of 1024. -/
theorem number_wraps :
    ∃ trace response,
      (Method.GenRSAKeyPair.branch (.serving []) (Numbers.params 4294968320) .EN).Finishes trace
        (.ok response) ∧
      Numbers.generated 1024 ∈ trace ∧ response.error = 0 :=
  ⟨_, _, Numbers.ran 4294968320, Numbers.generated_mem _, rfl⟩

end SkfService
