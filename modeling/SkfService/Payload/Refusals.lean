import SkfService.Dispatch.Rules
import SkfService.Payload.Decoded

/-! A parameter that is not handed over has been refused.

The calls that hand it over are withheld: whatever a branch answers without the reply to any of them
has to be an error. -/

set_option autoImplicit false

namespace SkfService

open Text Interaction Program Handler

/-- The response was made as an error. -/
def RpcResponse.Refused (response : RpcResponse) : Prop := response.message.isSome

theorem refused_err (code : Int32) (message : String) (id : Option Json) :
    (RpcResponse.err code message id).Refused := rfl

theorem refused_nativeFailure (e : ProviderError) (message : ULONG → String) (id : Option Json) :
    (nativeFailure e message id).Refused := by
  unfold nativeFailure
  split <;> exact refused_err _ _ _

theorem refused_nativeOr (e : ProviderError) (message : ULONG → String) (lang : Language)
    (id : Option Json) :
    (nativeOr e message lang id).Refused := by
  unfold nativeOr
  split <;> exact refused_err _ _ _

/-- An environment that never replies to a call with `P`. -/
def withholding (P : Op → Prop) : Monitor Skf Unit where
  allowed _ _ := True
  possible _ op _ := ¬P op
  advance _ _ _ := ()

/-- Without a reply to a call with `P`, a program returns only as `ret` says, and leaves only by an
error. -/
abbrev Refuses {A : Type} (P : Op → Prop) (p : Handler A) (ret : A → Prop) : Prop :=
  p.Meets (withholding P) (fun value _ => ret value)
    (fun exit _ => ∀ response, exit = .reply response → response.Refused) ()

namespace Refuses

variable {A B : Type} {P : Op → Prop} {ret : A → Prop} {ctx : SkfContext} {params : Params}
  {lang : Language} {id : Option Json}

theorem bind {p : Handler B} {k : B → Handler A} (first : Refuses P p fun _ => True)
    (later : ∀ value, Refuses P (k value) ret) : Refuses P (p >>= k) ret :=
  (meets_bind _ _).mpr (first.mono (fun value _ _ => later value) fun _ _ left => left)

theorem done {value : A} (returns : ret value) : Refuses P (.done value) ret := returns

theorem leaves_refused {response : RpcResponse} (refused : response.Refused) :
    ∀ other, Exit.reply response = .reply other → other.Refused := by
  intro other same
  cases same
  exact refused

theorem leaves_panic (why : Panic) : ∀ other, Exit.panic why = .reply other → other.Refused := by
  intro other same
  cases same

theorem reply {response : RpcResponse} (refused : response.Refused) :
    Refuses P (Handler.reply response : Handler A) ret := leaves_refused refused

theorem panic (why : Panic) : Refuses P (Handler.panic why : Handler A) ret := leaves_panic why

theorem ask (op : Op) :
    Refuses P (Program.ask (I := Skf) op) (fun _ => True) := ⟨trivial, fun _ _ => trivial⟩

theorem withheld {op : Op} {k : op.Reply → Handler A} (here : P op) :
    Refuses P (Program.ask (I := Skf) op >>= k) ret :=
  ⟨trivial, fun _ answered => absurd here answered⟩

theorem ite {c : Prop} [Decidable c] {p q : Handler A} (yes : Refuses P p ret)
    (no : Refuses P q ret) :
    Refuses P (if c then p else q) ret := meets_ite (fun _ => yes) fun _ => no

theorem orReply {x : Except RpcResponse B}
    (refuses : ∀ rejection, x = .error rejection → rejection.Refused) :
    Refuses P (Handler.orReply x) (fun _ => True) := by
  cases x with
  | ok value => exact trivial
  | error rejection => exact reply (refuses rejection rfl)

theorem expect {x : Option B} {rejection : RpcResponse} (refused : rejection.Refused) :
    Refuses P (Handler.expect x rejection) (fun _ => True) := by
  cases x with
  | some value => exact trivial
  | none => exact reply refused

theorem unwrap (x : Option B) (why : Panic) : Refuses P (Handler.unwrap x why) (fun _ => True) := by
  cases x with
  | some value => exact trivial
  | none => exact panic why

theorem settled (x : Attempt B) : Refuses P (Handler.settled x) (fun _ => True) := by
  cases x with
  | some result => exact trivial
  | none => exact panic .callUnwound

theorem closing {body : Handler A} {resource : Resource} (inside : Refuses P body ret) :
    Refuses P (body.ensuring (provider (.close resource))) ret :=
  (meets_ensuring _ _).mpr (inside.mono (fun _ _ returns => ⟨trivial, fun _ _ => returns⟩)
    fun _ _ left => ⟨trivial, fun _ _ => left⟩)

theorem requiredStr (index : Nat) (message : String) :
    Refuses P (Handler.orReply (params.requiredStr index message)) (fun _ => True) := by
  refine orReply fun rejection rejected => ?_
  unfold Params.requiredStr at rejected
  split at rejected
  · cases rejected
  · cases rejected
    exact refused_err _ _ _

theorem mapError {x : Except String B} {rejection : String → RpcResponse}
    (refuses : ∀ reason, (rejection reason).Refused) :
    Refuses P (Handler.orReply (x.mapError rejection)) (fun _ => True) := by
  cases x with
  | ok value => exact trivial
  | error reason => exact reply (refuses reason)

theorem checkPayloadLen (encoded : String) :
    Refuses P (Handler.orReply (params.checkPayloadLen encoded)) (fun _ => True) := by
  refine orReply fun rejection rejected => ?_
  unfold Params.checkPayloadLen at rejected
  split at rejected
  · cases rejected
    exact refused_err _ _ _
  · cases rejected

theorem decode_refused {errorText : DecodeErrorText} {encoded message : String}
    {rejection : RpcResponse}
    (rejected : params.decode errorText encoded message = .error rejection) :
    rejection.Refused := by
  unfold Params.decode Params.checkPayloadLen at rejected
  split at rejected
  · cases rejected
    exact refused_err _ _ _
  · cases decoded : decodeBase64 errorText encoded with
    | ok bytes => simp [decoded, Bind.bind, Except.bind] at rejected
    | error reason =>
      simp only [decoded, Bind.bind, Except.bind, Except.error.injEq] at rejected
      rw [← rejected]
      exact refused_err _ _ _

theorem decode (errorText : DecodeErrorText) (encoded message : String) :
    Refuses P (Handler.orReply (params.decode errorText encoded message)) (fun _ => True) :=
  orReply fun _ rejected => decode_refused rejected

theorem unwatched : Unwatched (withholding P) () := ⟨fun _ => trivial, fun _ _ => rfl⟩

theorem apiOr {name : String} {failed : String → RpcResponse}
    (refuses : ∀ reason, (failed reason).Refused) :
    Refuses P (SkfService.apiOr ctx name failed) (fun _ => True) :=
  unwatched.meets_apiOr (fun reason => leaves_refused (refuses reason)) trivial

theorem loadedApi (name : String) :
    Refuses P (SkfService.loadedApi ctx name lang id) (fun _ => True) :=
  unwatched.meets_loadedApi (fun _ => leaves_refused (refused_err _ _ _)) (leaves_panic _) trivial

theorem resolveOr {name : String} {failed : String → RpcResponse}
    (refuses : ∀ reason, (failed reason).Refused) :
    Refuses P (SkfService.resolveOr ctx name failed) (fun _ => True) :=
  unwatched.meets_resolveOr (fun reason => leaves_refused (refuses reason))
    (fun _ => trivial) fun _ _ _ => trivial

theorem lost {provName devName : String} {response : RpcResponse} (refused : response.Refused) :
    Refuses P (noteDeviceUnavailable provName devName >>= fun _ =>
      (Handler.reply response : Handler A)) ret :=
  bind (bind (ask _) fun _ => done trivial) fun _ => reply refused

theorem connectDev (api : Library) (provName devName : String) :
    Refuses P (SkfService.connectDev api provName devName id) (fun _ => True) :=
  bind (unwrap _ _) fun _ => bind (ask _) fun _ => ite (done trivial) (lost (refused_err _ _ _))

theorem disConnectDev (device : Device) :
    Refuses P (SkfService.disConnectDev device) (fun _ => True) :=
  bind (ask _) fun _ => done trivial

theorem openApp (device : Device) (provName appName : String) :
    Refuses P (SkfService.openApp device provName appName id) (fun _ => True) :=
  bind (unwrap _ _) fun _ => bind (ask _) fun _ =>
    ite (done trivial) (bind (disConnectDev _) fun _ => lost (refused_err _ _ _))

theorem closeApplication (application : Application) :
    Refuses P (SkfService.closeApplication application) (fun _ => True) :=
  bind (ask _) fun _ => done trivial

theorem closeContainer (container : Container) :
    Refuses P (SkfService.closeContainer container) (fun _ => True) :=
  bind (ask _) fun _ => done trivial

theorem withDevice {library : Library} {provName devName : String} {body : Device → Handler A}
    (inside : ∀ device, Refuses P (body device) ret) :
    Refuses P (SkfService.withDevice library provName devName id body) ret := by
  refine bind (bind (ask _) fun opened => bind (settled _) fun result => ?_) fun device =>
    closing (inside device)
  cases result with
  | ok raw => exact done trivial
  | error e => exact lost (refused_nativeFailure _ _ _)

theorem withApplication {device : Device} {appName : String}
    {failed : ProviderError → Handler Application} {body : Application → Handler A}
    (fails : ∀ e, Refuses P (failed e) fun _ => True)
    (inside : ∀ application, Refuses P (body application) ret) :
    Refuses P (SkfService.withApplication device appName failed body) ret := by
  refine bind (bind (ask _) fun opened => bind (settled _) fun result => ?_) fun application =>
    closing (inside application)
  cases result with
  | ok raw => exact done trivial
  | error e => exact fails e

theorem withContainer {application : Application} {contName : String} {body : Container → Handler A}
    (inside : ∀ container, Refuses P (body container) ret) :
    Refuses P (SkfService.withContainer application contName id body) ret := by
  refine bind (ask _) fun opened => bind (settled _) fun result => ?_
  cases result with
  | ok raw => exact closing (inside _)
  | error e => exact reply (refused_nativeFailure _ _ _)

theorem requireAuthorized {provName devName appName : String} {rejection : RpcResponse}
    (refused : rejection.Refused) :
    Refuses P (SkfService.requireAuthorized provName devName appName rejection)
      (fun _ => True) := by
  refine bind (ask _) fun answer => ?_
  obtain ⟨now, outcome⟩ := answer
  cases outcome with
  | ok done => exact trivial
  | error reason => exact reply refused

theorem withGrantedContainer {library : Library} {provName devName appName contName : String}
    {body : Container → Handler A} (inside : ∀ container, Refuses P (body container) ret) :
    Refuses P (SkfService.withGrantedContainer library provName devName appName contName id body)
      ret :=
  withDevice fun _ => withApplication (fun _ => lost (refused_nativeFailure _ _ _)) fun _ =>
    bind (requireAuthorized (refused_err _ _ _)) fun _ => withContainer inside

theorem certKeyNames (certKey : String) :
    Refuses P (SkfService.certKeyNames ctx params certKey) (fun _ => True) :=
  bind (expect (refused_err _ _ _)) fun _ => done trivial

theorem decodedOr (encoded label : String) :
    Refuses P (SkfService.decodedOr ctx encoded label id) (fun _ => True) :=
  mapError fun _ => refused_err _ _ _

theorem containerNames : Refuses P (SkfService.containerNames params) (fun _ => True) :=
  bind (requiredStr _ _) fun _ =>
    bind (requiredStr _ _) fun _ => bind (requiredStr _ _) fun _ => done trivial

theorem requiredNames : Refuses P (SkfService.requiredNames params) (fun _ => True) :=
  bind (requiredStr _ _) fun _ => bind (requiredStr _ _) fun _ => done trivial

end Refuses

section branches

variable {ctx : SkfContext} {params : Params} {lang : Language}

def Method.HandsOver (method : Method) (index : Nat) (op : Op) : Prop :=
  ∃ bytes, (index, bytes) ∈ method.handed op

theorem refuses_transmit :
    Refuses (Method.HandsOver .Transmit 2) (Transmit.handle ctx params lang)
      RpcResponse.Refused := by
  refine Refuses.requiredNames.bind fun names => (Refuses.requiredStr _ _).bind fun cmdB64 =>
    (Refuses.decodedOr _ _).bind fun command => (Refuses.loadedApi _).bind fun api =>
      (Refuses.connectDev _ _ _).bind fun device => ?_
  exact Refuses.withheld ⟨command, List.mem_singleton.mpr rfl⟩

theorem refuses_digest :
    Refuses (Method.HandsOver .Digest 2) (Digest.handle ctx params lang) RpcResponse.Refused := by
  apply (Refuses.requiredStr _ _).bind
  intro provName
  apply (Refuses.requiredStr _ _).bind
  intro devName
  apply (Refuses.requiredStr _ _).bind
  intro dataB64
  apply (Refuses.expect (refused_err _ _ _)).bind
  intro algId
  apply (Refuses.decodedOr _ _).bind
  intro data
  apply (Refuses.apiOr fun _ => refused_err _ _ _).bind
  intro api
  apply (Refuses.connectDev _ _ _).bind
  intro device
  apply (Refuses.ask _).bind
  intro started
  apply Refuses.ite
  · exact Refuses.withheld ⟨data, List.mem_singleton.mpr rfl⟩
  · exact (Refuses.disConnectDev _).bind fun _ => refused_err _ _ _

theorem refuses_digestUpdate :
    Refuses (Method.HandsOver .DigestUpdate 1)
      (DigestUpdate.handle ctx params lang) RpcResponse.Refused := by
  refine (Refuses.expect (refused_err _ _ _)).bind fun handle =>
    (Refuses.expect (refused_err _ _ _)).bind
    fun dataB64 =>
      (Refuses.mapError fun _ => refused_err _ _ _).bind fun data =>
        (Refuses.ask _).bind fun found => ?_
  cases found with
  | error reason => exact refused_err _ _ _
  | ok digest => exact Refuses.withheld ⟨data, List.mem_singleton.mpr rfl⟩

theorem refuses_digestInit :
    Refuses (Method.HandsOver .DigestInit 3) (DigestInit.handle ctx params lang)
      RpcResponse.Refused := by
  refine Refuses.requiredNames.bind fun names => Refuses.ite ?_ ?_
  · refine (Refuses.ask _).bind fun opened => (Refuses.settled _).bind fun result => ?_
    cases result with
    | error e => exact refused_nativeOr _ _ _ _
    | ok raw => exact Refuses.withheld ⟨_, List.mem_singleton.mpr rfl⟩
  · refine (Refuses.apiOr fun _ => refused_err _ _ _).bind fun api =>
      (Refuses.unwrap _ _).bind fun cDev =>
      (Refuses.ask _).bind fun connected => Refuses.ite ?_ (refused_err _ _ _)
    exact (Refuses.disConnectDev _).bind fun _ => refused_err _ _ _

theorem refuses_signData :
    Refuses (Method.HandsOver .SignData 1) (SignData.handle ctx params lang)
      RpcResponse.Refused := by
  refine (Refuses.requiredStr _ _).bind fun certKey => (Refuses.requiredStr _ _).bind fun dataB64 =>
    (Refuses.certKeyNames _).bind fun names => (Refuses.decode _ _ _).bind fun data =>
      (Refuses.resolveOr fun _ => refused_err _ _ _).bind fun library =>
        Refuses.withGrantedContainer fun container => (Refuses.ask _).bind fun queried =>
          (Refuses.settled _).bind fun found => ?_
  apply Refuses.ite
  · exact Refuses.withheld ⟨data, List.mem_singleton.mpr rfl⟩
  · exact Refuses.withheld ⟨data, List.mem_singleton.mpr rfl⟩

theorem refuses_rsaSignData :
    Refuses (Method.HandsOver .RSASignData 1)
      (RSASignData.handle ctx params lang) RpcResponse.Refused := by
  refine (Refuses.requiredStr _ _).bind fun certKey => (Refuses.requiredStr _ _).bind fun dataB64 =>
    (Refuses.certKeyNames _).bind fun names => (Refuses.decode _ _ _).bind fun data =>
      (Refuses.resolveOr fun _ => refused_err _ _ _).bind fun library =>
        Refuses.withGrantedContainer fun container => ?_
  exact Refuses.withheld ⟨data, List.mem_singleton.mpr rfl⟩

theorem refuses_importCertificate : Refuses (Method.HandsOver .ImportCertificate 5)
    (ImportCertificate.handle ctx params lang) RpcResponse.Refused := by
  refine Refuses.containerNames.bind fun names =>
    (Refuses.expect (refused_err _ _ _)).bind fun signFlag =>
    (Refuses.requiredStr _ _).bind fun certStr => (Refuses.checkPayloadLen _).bind fun _ =>
      (Refuses.mapError fun _ => refused_err _ _ _).bind fun cert =>
        (Refuses.resolveOr fun _ => refused_err _ _ _).bind fun library =>
          Refuses.withGrantedContainer fun container => ?_
  exact Refuses.withheld ⟨cert, List.mem_singleton.mpr rfl⟩

theorem refuses_eccVerify {index : Nat} (member : index ∈ [2, 3, 4]) :
    Refuses (Method.HandsOver .ECCVerify index)
      (ECCVerify.handle ctx params lang) RpcResponse.Refused := by
  refine (Refuses.requiredStr _ _).bind fun devName =>
    (Refuses.requiredStr _ _).bind fun pubKeyB64 =>
    (Refuses.requiredStr _ _).bind fun dataB64 => (Refuses.requiredStr _ _).bind fun sigB64 =>
      (Refuses.decodedOr _ _).bind fun key => (Refuses.decodedOr _ _).bind fun data =>
        (Refuses.decodedOr _ _).bind fun signature => ?_
  refine Refuses.ite (Refuses.reply (refused_err _ _ _))
    (Refuses.ite (Refuses.reply (refused_err _ _ _)) ?_)
  refine (Refuses.apiOr fun _ => refused_err _ _ _).bind fun api =>
    (Refuses.connectDev _ _ _).bind fun device =>
    Refuses.withheld ?_
  simp only [List.mem_cons, List.not_mem_nil, or_false] at member
  rcases member with rfl | rfl | rfl
  · exact ⟨_, .head _⟩
  · exact ⟨_, .tail _ (.head _)⟩
  · exact ⟨_, .tail _ (.tail _ (.head _))⟩

theorem refuses_rsaVerify {index : Nat} (member : index ∈ [2, 3, 4]) :
    Refuses (Method.HandsOver .RSAVerify index)
      (RSAVerify.handle ctx params lang) RpcResponse.Refused := by
  refine Refuses.requiredNames.bind fun names => (Refuses.requiredStr _ _).bind fun pubKeyB64 =>
    (Refuses.requiredStr _ _).bind fun dataB64 => (Refuses.requiredStr _ _).bind fun sigB64 =>
      (Refuses.decodedOr _ _).bind fun key => Refuses.ite (Refuses.reply (refused_err _ _ _)) ?_
  refine (Refuses.decodedOr _ _).bind fun data => (Refuses.decodedOr _ _).bind fun signature =>
    (Refuses.loadedApi _).bind fun api =>
      (Refuses.connectDev _ _ _).bind fun device => Refuses.withheld ?_
  simp only [List.mem_cons, List.not_mem_nil, or_false] at member
  rcases member with rfl | rfl | rfl
  · exact ⟨_, .head _⟩
  · exact ⟨_, .tail _ (.head _)⟩
  · exact ⟨_, .tail _ (.tail _ (.head _))⟩

theorem refuses_setSymmKey {P : Op → Prop} (container : Container) (symKey : Option (List UInt8))
    (id : Option Json) :
    Refuses P (setSymmKey container symKey lang id) (fun _ => True) := by
  cases symKey with
  | none => exact trivial
  | some key =>
    refine Refuses.ite (Refuses.reply (refused_err _ _ _))
      ((Refuses.ask _).bind fun handed => (Refuses.settled _).bind fun result => ?_)
    cases result with
    | ok done => exact trivial
    | error e => exact Refuses.reply (refused_nativeFailure _ _ _)

/-- A key that is withheld was of the wrong length. -/
theorem refuses_someKey {P : Op → Prop} {A : Type} {ret : A → Prop} {k : Unit → Handler A}
    (container : Container) (key : List UInt8) (id : Option Json)
    (withheld : P (.provider (.setSymmKey container SGD_SM4_CBC key))) :
    Refuses P (setSymmKey container (some key) lang id >>= k) ret := by
  by_cases wrong : key.length ≠ 16
  · rw [setSymmKey, if_pos wrong]
    exact Refuses.leaves_refused (refused_err _ _ _)
  · rw [setSymmKey, if_neg wrong]
    exact Refuses.withheld withheld

theorem refuses_withSymmetricKey {P : Op → Prop} {missingData invalidData : String}
    {cipher : Container → List UInt8 → ULONG → List UInt8 → Handler RpcResponse}
    (sets : ∀ symKey, (params.str 4).isSome = symKey.isSome → ∀ container iv data,
      Refuses P (setSymmKey container symKey lang params.id >>= fun _ =>
        cipher container iv (params.optionalU64 3 1).toUInt32 data) RpcResponse.Refused) :
    Refuses P (withSymmetricKey ctx params lang missingData invalidData cipher)
      RpcResponse.Refused := by
  refine (Refuses.requiredStr _ _).bind fun certKey => (Refuses.requiredStr _ _).bind fun dataB64 =>
    (Refuses.requiredStr _ _).bind fun ivB64 =>
      bind_orReply (fun symKey read => ?_) fun rejection rejected => ?_
  · refine (Refuses.certKeyNames _).bind fun names => (Refuses.decode _ _ _).bind fun data =>
      (Refuses.decode _ _ _).bind fun iv =>
        (Refuses.resolveOr fun _ => refused_err _ _ _).bind fun library =>
        Refuses.withGrantedContainer fun container => sets symKey ?_ container iv data
    split at read
    · next encoded given =>
      rw [given]
      cases decoded : params.decode ctx.platform.base64Error encoded "Invalid base64 symKey" with
      | ok key =>
        rw [decoded] at read
        cases read
        rfl
      | error rejection =>
        rw [decoded] at read
        cases read
    · next absent =>
      rw [absent]
      cases read
      rfl
  -- A key that cannot be decoded is refused before anything is opened.
  · split at rejected
    · next encoded given =>
      cases decoded : params.decode ctx.platform.base64Error encoded "Invalid base64 symKey" with
      | ok key =>
        rw [decoded] at rejected
        cases rejected
      | error early =>
        rw [decoded] at rejected
        cases rejected
        exact Refuses.leaves_refused (Refuses.decode_refused decoded)
    · cases rejected

/-- Both ciphers hand over their data and their IV at once, and the key before them. -/
theorem refuses_cipher {method : Method} {missingData invalidData : String}
    {call : Container → List UInt8 → ULONG → List UInt8 → ProviderOp}
    {answer : (container : Container) → (iv : List UInt8) → (padding : ULONG) →
      (data : List UInt8) → (call container iv padding data).Reply → Handler RpcResponse}
    (key_ : ∀ container key,
      method.handed (.provider (.setSymmKey container SGD_SM4_CBC key)) = [(4, key)])
    (call_ : ∀ container iv padding data,
      method.handed (.provider (call container iv padding data)) =
        [(1, data), (2, (blockCipherParam iv padding).declared)])
    {index : Nat} (member : index ∈ [1, 2, 4]) (given : (params.str index).isSome) :
    Refuses (method.HandsOver index) (withSymmetricKey ctx params lang missingData invalidData
      fun container iv padding data =>
        provider (call container iv padding data) >>= answer container iv padding data)
      RpcResponse.Refused := by
  refine refuses_withSymmetricKey fun symKey same container iv data => ?_
  simp only [List.mem_cons, List.not_mem_nil, or_false] at member
  -- The data and the IV are withheld with the cipher call, the key with the call that sets it.
  rcases member with rfl | rfl | rfl
  · refine (refuses_setSymmKey _ _ _).bind fun _ => Refuses.withheld ?_
    rw [Method.HandsOver, call_]
    exact ⟨_, .head _⟩
  · refine (refuses_setSymmKey _ _ _).bind fun _ => Refuses.withheld ?_
    rw [Method.HandsOver, call_]
    exact ⟨_, .tail _ (.head _)⟩
  · cases symKey with
    | none =>
      rw [given] at same
      cases same
    | some key =>
      refine refuses_someKey _ _ _ ?_
      rw [Method.HandsOver, key_]
      exact ⟨_, .head _⟩

theorem refuses_encryptData {index : Nat} (member : index ∈ [1, 2, 4])
    (given : (params.str index).isSome) :
    Refuses (Method.HandsOver .EncryptData index)
      (EncryptData.handle ctx params lang) RpcResponse.Refused := by
  unfold EncryptData.handle
  exact refuses_cipher (fun _ _ => rfl) (fun _ _ _ _ => rfl) member given

theorem refuses_decryptData {index : Nat} (member : index ∈ [1, 2, 4])
    (given : (params.str index).isSome) :
    Refuses (Method.HandsOver .DecryptData index)
      (DecryptData.handle ctx params lang) RpcResponse.Refused := by
  unfold DecryptData.handle
  exact refuses_cipher (fun _ _ => rfl) (fun _ _ _ _ => rfl) member given

def Params.curve (params : Params) : Bool :=
  (params.str 4).any fun alg => eqIgnoreAsciiCase alg "SM2" || eqIgnoreAsciiCase alg "ECC"

theorem refuses_read {P : Op → Prop} :
    Refuses P (KeyPairRequest.read ctx params lang)
      (fun request => request.isEcc = params.curve) := by
  refine (Refuses.requiredStr _ _).bind fun devName => (Refuses.requiredStr _ _).bind fun appName =>
    (Refuses.requiredStr _ _).bind fun contName =>
      bind_orReply (fun algStr read => ?_) fun rejection rejected => ?_
  · refine (Refuses.requiredStr _ _).bind fun encoded =>
      (Refuses.expect (refused_err _ _ _)).bind fun sm4AlgId =>
      (Refuses.mapError fun _ => refused_err _ _ _).bind fun encKeyPair => ?_
    unfold Params.requiredStr at read
    split at read
    · next given =>
      cases read
      exact (by rw [Params.curve, given, Option.any_some] : _ = params.curve)
    · cases read
  · unfold Params.requiredStr at rejected
    split at rejected
    · cases rejected
    · cases rejected
      exact Refuses.leaves_refused (refused_err _ _ _)

theorem refuses_release {P : Op → Prop} (container : Container) :
    Refuses P (closeContainer container >>= fun _ =>
      closeApplication container.application >>= fun _ =>
      disConnectDev container.application.device) (fun _ => True) :=
  (Refuses.closeContainer _).bind fun _ =>
    (Refuses.closeApplication _).bind fun _ => Refuses.disConnectDev _

theorem refuses_intoContainer {request : KeyPairRequest} {index : Nat}
    (member : index ∈ if request.isEcc then [5] else [5, 6]) (container : Container)
    (id : Option Json) :
    Refuses (Method.HandsOver .ImportKeyPair index)
      (ImportKeyPair.intoContainer ctx request container id)
      RpcResponse.Refused := by
  unfold ImportKeyPair.intoContainer
  cases curve : request.isEcc with
  | true =>
    rw [curve, if_pos rfl, List.mem_singleton] at member
    subst member
    exact Refuses.withheld ⟨_, .head _⟩
  | false =>
    rw [curve] at member
    dsimp only
    cases decodeBase64 ctx.platform.base64Error request.wrapKey with
    | error reason =>
      exact (refuses_release container).bind fun _ => Refuses.leaves_refused (refused_err _ _ _)
    | ok wrapKey =>
      refine Refuses.withheld ?_
      simp only [Bool.false_eq_true, if_false, List.mem_cons, List.not_mem_nil, or_false] at member
      rcases member with rfl | rfl
      · exact ⟨_, .head _⟩
      · exact ⟨_, .tail _ (.head _)⟩

theorem refuses_importKeyPair {index : Nat}
    (member : index ∈ if params.curve then [5] else [5, 6]) :
    Refuses (Method.HandsOver .ImportKeyPair index)
      (ImportKeyPair.handle ctx params lang) RpcResponse.Refused := by
  refine (meets_bind _ _).mpr (refuses_read.mono (fun request _ same => ?_) fun _ _ left => left)
  rw [← same] at member
  refine (Refuses.apiOr fun _ => refused_err _ _ _).bind fun api =>
    (Refuses.connectDev _ _ _).bind fun device =>
    (Refuses.openApp _ _ _).bind fun application => (Refuses.ask _).bind fun answer => ?_
  obtain ⟨now, outcome⟩ := answer
  cases outcome with
  | error reason =>
    exact (Refuses.closeApplication _).bind fun _ => (Refuses.disConnectDev _).bind fun _ =>
      (Refuses.closeApplication _).bind fun _ =>
        (Refuses.disConnectDev _).bind fun _ => refused_err _ _ _
  | ok granted =>
    refine (Refuses.unwrap _ _).bind fun cCont =>
      (Refuses.ask _).bind fun opened => Refuses.ite ?_ ?_
    · exact refuses_intoContainer member _ _
    · exact (Refuses.closeApplication _).bind fun _ =>
        (Refuses.disConnectDev _).bind fun _ => refused_err _ _ _

end branches

def Method.consumed (params : Params) : Method → List Nat
  | .EncryptData | .DecryptData => [1, 2, 4]
  | .SignData | .RSASignData | .DigestUpdate => [1]
  | .Digest | .Transmit => [2]
  | .DigestInit => [3]
  | .ImportCertificate => [5]
  | .ImportKeyPair => if params.curve then [5] else [5, 6]
  | .ECCVerify | .RSAVerify => [2, 3, 4]
  | _ => []

theorem refuses_branch {ctx : SkfContext} {params : Params} {lang : Language} {method : Method}
    {index : Nat} (member : index ∈ method.consumed params) (given : (params.str index).isSome) :
    Refuses (method.HandsOver index) (method.branch ctx params lang) RpcResponse.Refused := by
  cases method with
  | EncryptData => exact refuses_encryptData member given
  | DecryptData => exact refuses_decryptData member given
  | ECCVerify => exact refuses_eccVerify member
  | RSAVerify => exact refuses_rsaVerify member
  | ImportKeyPair => exact refuses_importKeyPair member
  | SignData =>
    rw [List.mem_singleton.mp member]
    exact refuses_signData
  | RSASignData =>
    rw [List.mem_singleton.mp member]
    exact refuses_rsaSignData
  | DigestUpdate =>
    rw [List.mem_singleton.mp member]
    exact refuses_digestUpdate
  | Digest =>
    rw [List.mem_singleton.mp member]
    exact refuses_digest
  | Transmit =>
    rw [List.mem_singleton.mp member]
    exact refuses_transmit
  | DigestInit =>
    rw [List.mem_singleton.mp member]
    exact refuses_digestInit
  | ImportCertificate =>
    rw [List.mem_singleton.mp member]
    exact refuses_importCertificate
  | _ => cases member

/-- Every base64 parameter of a request reaches the vendor exactly or not at all: whatever is handed
over while the request runs is exact, and where a parameter has not been handed over by the time of
the reply, the reply is an error. -/
structure ReachesExactly (ctx : SkfContext) (text : String) (lang : Language)
    (before : SessionState) : Prop where
  handed : ∀ method params, reached ctx text = some (method, params) →
    AsksOnly (HandsExactly method params) ctx text lang before
  refused : ∀ method params, reached ctx text = some (method, params) → ∀ trace response after,
    (handleRequest ctx text lang).Finishes trace (.ok (response, after)) → Arises ctx before trace →
      ∀ index ∈ method.consumed params, (params.str index).isSome →
        (∃ event ∈ trace, method.HandsOver index event.op) ∨ response.Refused

theorem possible_withheld {P : Op → Prop} {trace : List (Event Skf)}
    (silent : ∀ event ∈ trace, ¬P event.op) :
    (withholding P).Possible () trace := by
  induction trace with
  | nil => exact trivial
  | cons event rest ih =>
    exact ⟨silent event (List.mem_cons_self ..), ih fun later member =>
      silent later (List.mem_cons_of_mem _ member)⟩

/-- Base64 parameters reach the vendor exactly or not at all, unless the request brings one that its
branch cuts, replaces or lets through too long. -/
theorem base64_exact_iff (ctx : SkfContext) (text : String) (lang : Language)
    (before : SessionState) :
    ReachesExactly ctx text lang before ↔
      ∀ method params, reached ctx text = some (method, params) →
        ¬Spoiled ctx before params method := by
  constructor
  · intro reaches method params there
    have asked := (asksOnly_iff _ text).mp (reaches.handed method params there) method params there
    exact (exactly_branch method).mp asked
  · intro fine
    refine ⟨fun method params there =>
      ?_, fun method params there trace response after finished _ index member
      given => ?_⟩
    · rw [asksOnly_iff]
      intro method' params' same
      rw [there, Option.some.injEq, Prod.mk.injEq] at same
      obtain ⟨rfl, rfl⟩ := same
      exact (exactly_branch method).mpr (fine method params there)
    · by_cases handed : ∃ event ∈ trace, method.HandsOver index event.op
      · exact .inl handed
      · right
        have refuses :=
          meets_handleRequest there (@refuses_branch ctx params lang method index member given)
        refine refuses.returned finished (possible_withheld fun event inside asks => ?_)
        exact handed ⟨event, inside, asks⟩

def undecodable : List Json := [.string "GM3000", .string "K1", .null, .string "!"]

/-- The digest is begun with an empty identifier in its place. -/
theorem undecodable_id_emptied : ¬ReachesExactly
    (.serving [("init", ⟨"DigestInit", undecodable, some (.ofU32 1), none⟩)]) "init" .EN
      (.new 60) := by
  intro reaches
  have asked :=
    (asksOnly_iff _ "init").mp (reaches.handed .DigestInit ⟨undecodable, some (.ofU32 1)⟩ rfl)
    .DigestInit ⟨undecodable, some (.ofU32 1)⟩ rfl
  refine (exactly_branch .DigestInit).mp asked
    ⟨"K1", "!", rfl, rfl, by decide, rfl, fun id decoded => ?_⟩
  have refused : Base64.decode "!" = none := by decide
  rw [refused] at decoded
  cases decoded

end SkfService
