import SkfService.Dispatch.Rules
import SkfService.Domain.Crypto
import SkfService.Interaction.Asks

/-! Rules for the scopes of the guard-based handlers, under any monitor that ignores what opens and
closes them: what holds inside of a scope holds of the scope. -/

set_option autoImplicit false

namespace SkfService

open Text Interaction Program Handler

/-- The operations of the scopes themselves: the session, the host, and the opening and closing of
guards. -/
def Op.scopes : Op → Bool
  | .session _ | .host _ => true
  | .provider (.openDevice _ _) | .provider (.openApplication _ _) | .provider (.openContainer _ _)
  | .provider (.createContainer _ _) | .provider (.random _ _) | .provider (.close _) => true
  | _ => false

/-- The monitor ignores scopes, and in this state a handler may be left by a panic or an empty
reply. -/
structure Scoped {S : Type} (M : Monitor Skf S) (exits : Exit → S → Prop) (s : S) : Prop where
  allowed : ∀ t op, Op.scopes op = true → M.allowed t op
  quiet : ∀ t op reply, Op.scopes op = true → M.advance t op reply = t
  refuses : ∀ response, response.result = .null → exits (.reply response) s
  panics : ∀ why, exits (.panic why) s

namespace Scoped

variable {S A : Type} {M : Monitor Skf S} {exits : Exit → S → Prop} {ret : A → S → Prop} {s : S}
  {ctx : SkfContext} {library : Library} {device : Device}
  {provName devName appName contName : String} {id : Option Json}

theorem unwatched (scope : Scoped M exits s) : Unwatched M s :=
  ⟨fun host => scope.allowed s (.host host) rfl, fun host reply =>
    scope.quiet s (.host host) reply rfl⟩

theorem native (scope : Scoped M exits s) (e : ProviderError) (message : ULONG → String)
    (id : Option Json) :
    exits (.reply (nativeFailure e message id)) s := by
  apply scope.refuses
  unfold nativeFailure
  split <;> rfl

theorem bind_scope (scope : Scoped M exits s) {op : Op} (scopes : op.scopes = true)
    {k : op.Reply → Handler A} (goes : ∀ reply, (k reply).Meets M ret exits s) :
    (Program.ask (I := Skf) op >>= k).Meets M ret exits s := by
  refine bind_call (scope.allowed s op scopes) fun reply _ => ?_
  rw [scope.quiet s op reply scopes]
  exact goes reply

theorem bind_provider (scope : Scoped M exits s) {op : ProviderOp}
    (scopes : (Op.provider op).scopes = true) {k : op.Reply → Handler A}
    (goes : ∀ reply, (k reply).Meets M ret exits s) :
    (provider op >>= k).Meets M ret exits s := scope.bind_scope scopes goes

theorem bind_settled (scope : Scoped M exits s) {B : Type} {x : Attempt B}
    {k : Except ProviderError B → Handler A} (fails : ∀ e, (k (.error e)).Meets M ret exits s)
    (goes : ∀ value, (k (.ok value)).Meets M ret exits s) :
    (settled x >>= k).Meets M ret exits s := by
  refine Handler.bind_settled (fun result _ => ?_) fun _ => scope.panics _
  cases result with
  | error e => exact fails e
  | ok value => exact goes value

theorem closing (calm : ∀ t op, Op.scopes op = true → M.allowed t op)
    (quiet : ∀ t op reply, Op.scopes op = true → M.advance t op reply = t) {body : Handler A}
    {resource : Resource} (inside : body.Meets M ret exits s) :
    (body.ensuring (provider (.close resource))).Meets M ret exits s := by
  rw [meets_ensuring]
  refine inside.mono (fun value t held => ?_) fun exit t left => ?_
  · refine ⟨calm t (.provider (.close resource)) rfl, fun reply _ => ?_⟩
    rw [quiet t (.provider (.close resource)) reply rfl]
    exact held
  · refine ⟨calm t (.provider (.close resource)) rfl, fun reply _ => ?_⟩
    rw [quiet t (.provider (.close resource)) reply rfl]
    exact left

theorem close (scope : Scoped M exits s) {body : Handler A} {resource : Resource}
    (inside : body.Meets M ret exits s) :
    (body.ensuring (provider (.close resource))).Meets M ret exits s :=
  closing scope.allowed scope.quiet inside

theorem withDevice (scope : Scoped M exits s) {body : Device → Handler A}
    (inside : ∀ device, (body device).Meets M ret exits s) :
    (SkfService.withDevice library provName devName id body).Meets M ret exits s := by
  unfold SkfService.withDevice openDevice
  rw [meets_bind]
  refine scope.bind_provider rfl fun reply => scope.bind_settled (fun e => ?_) fun raw => ?_
  · refine scope.bind_scope rfl fun removed => scope.native e _ _
  · exact scope.close (inside _)

theorem withApplication (scope : Scoped M exits s) {failed : ProviderError → Handler Application}
    {body : Application → Handler A} (fails : ∀ e, (failed e).Meets M (fun _ _ => False) exits s)
    (inside : ∀ application, (body application).Meets M ret exits s) :
    (SkfService.withApplication device appName failed body).Meets M ret exits s := by
  unfold SkfService.withApplication openApplication
  rw [meets_bind]
  refine scope.bind_provider rfl fun reply => scope.bind_settled (fun e => ?_) fun raw => ?_
  · exact (fails e).mono (fun _ _ impossible => impossible.elim) fun _ _ left => left
  · exact scope.close (inside _)

theorem withContainer (scope : Scoped M exits s) {application : Application}
    {body : Container → Handler A} (inside : ∀ container, (body container).Meets M ret exits s) :
    (SkfService.withContainer application contName id body).Meets M ret exits s := by
  unfold SkfService.withContainer
  refine scope.bind_provider rfl fun reply => scope.bind_settled (fun e => ?_) fun raw => ?_
  · exact scope.native e _ _
  · exact scope.close (inside _)

theorem bind_authorized (scope : Scoped M exits s) {k : Unit → Handler A}
    (goes : (k ()).Meets M ret exits s) :
    (requireAuthorized provName devName appName (notLoggedIn id) >>= k).Meets M ret exits s := by
  rw [meets_bind, requireAuthorized]
  refine scope.bind_scope rfl fun reply => ?_
  obtain ⟨now, outcome⟩ := reply
  cases outcome with
  | ok granted => exact goes
  | error reason => exact scope.refuses _ rfl

theorem bind_resolve (scope : Scoped M exits s) {name : String} {k : Library → Handler A}
    (goes : ∀ library, (k library).Meets M ret exits s) :
    (resolveOr ctx name (loadFailed · id) >>= k).Meets M ret exits s := by
  rw [meets_bind]
  apply scope.unwatched.meets_resolveOr
  · intro reason
    exact scope.refuses _ rfl
  · intro _
    exact goes _
  · intro _ gate _
    exact goes _

theorem bind_requiredStr (scope : Scoped M exits s) {params : Params} {index : Nat}
    {message : String} {k : String → Handler A}
    (goes : ∀ value, params.str index = some value → (k value).Meets M ret exits s) :
    (orReply (params.requiredStr index message) >>= k).Meets M ret exits s := by
  unfold Params.requiredStr
  cases given : params.str index with
  | some value => exact goes value given
  | none => exact scope.refuses _ rfl

theorem bind_decode (scope : Scoped M exits s) {params : Params} {errorText : DecodeErrorText}
    {encoded message : String} {k : List UInt8 → Handler A}
    (goes : ∀ bytes, Params.Decodes encoded bytes → (k bytes).Meets M ret exits s) :
    (orReply (params.decode errorText encoded message) >>= k).Meets M ret exits s := by
  refine bind_orReply (fun bytes decoded => goes bytes (Params.decode_ok_iff.mp decoded))
    fun rejection refused =>
    scope.refuses rejection ?_
  unfold Params.decode Params.checkPayloadLen at refused
  split at refused
  · cases refused
    rfl
  · simp only [Bind.bind, Except.bind] at refused
    split at refused
    · cases refused
    · cases refused
      rfl

theorem bind_certKeyNames (scope : Scoped M exits s) {params : Params} {certKey : String}
    {k : String × String × String × String → Handler A}
    (goes : ∀ names, (k names).Meets M ret exits s) :
    (certKeyNames ctx params certKey >>= k).Meets M ret exits s := by
  rw [meets_bind, certKeyNames]
  exact bind_expect (fun parts _ => goes _) fun _ => scope.refuses _ rfl

theorem withGrantedContainer (scope : Scoped M exits s) {body : Container → Handler A}
    (inside : ∀ container, (body container).Meets M ret exits s) :
    (SkfService.withGrantedContainer library provName devName appName contName id body).Meets M ret
      exits s := by
  refine scope.withDevice fun device => scope.withApplication (fun e => ?_) fun application => ?_
  · refine scope.bind_scope rfl fun removed => scope.native e _ _
  · exact scope.bind_authorized (scope.withContainer inside)

theorem withSigningContainer (scope : Scoped M exits s) {params : Params}
    {sign : Container → List UInt8 → Handler RpcResponse} {ret : RpcResponse → S → Prop}
    (inside : ∀ container data, (sign container data).Meets M ret exits s) :
    (SkfService.withSigningContainer ctx params sign).Meets M ret exits s := by
  unfold SkfService.withSigningContainer
  refine scope.bind_requiredStr fun certKey _ => scope.bind_requiredStr fun dataB64 _ =>
    scope.bind_certKeyNames fun names => ?_
  obtain ⟨provName, devName, appName, contName⟩ := names
  refine scope.bind_decode fun dataBytes _ => scope.bind_resolve fun library => ?_
  exact scope.withGrantedContainer fun container => inside container dataBytes

theorem chooseName (scope : Scoped M exits s) {requested : String} {k : String → Handler A}
    (goes : ∀ name, (k name).Meets M ret exits s) :
    (CreatePKCS10.chooseName device requested >>= k).Meets M ret exits s := by
  rw [meets_bind, CreatePKCS10.chooseName]
  refine meets_ite (fun _ => (meets_done _).mpr (goes _)) fun _ => ?_
  refine scope.bind_provider rfl fun reply => scope.bind_settled (fun e => ?_) fun randBytes => ?_
  · refine scope.bind_scope rfl fun clock => bind_unwrap (fun nanos _ => ?_) fun _ => scope.panics _
    exact (meets_done _).mpr (goes _)
  · refine bind_unwrap (fun first _ => ?_) fun _ => scope.panics _
    exact (meets_done _).mpr (goes _)

theorem obtainContainer (scope : Scoped M exits s) {application : Application} {requested : String}
    {k : Container → Handler A} (goes : ∀ container, (k container).Meets M ret exits s) :
    (CreatePKCS10.obtainContainer application requested contName id >>= k).Meets M ret exits s := by
  rw [meets_bind, CreatePKCS10.obtainContainer]
  refine scope.bind_provider rfl fun reply => scope.bind_settled (fun e => ?_) fun raw => goes _
  refine meets_ite (fun _ => ?_) fun _ => scope.native e _ _
  exact scope.bind_provider rfl fun reply =>
    scope.bind_settled (fun e => scope.native e _ _) fun raw => goes _

theorem createPKCS10 (scope : Scoped M exits s) {params : Params} {lang : Language}
    {ret : RpcResponse → S → Prop}
    (inside : ∀ device container subject, params.str 3 = some subject → (CreatePKCS10.withKey ctx
      device container subject (ctx.platform.toUppercase (params.optionalStr 4 "SM2"))
        (params.optionalU64 5 256).toUInt32 params.id).Meets M ret exits s) :
    (CreatePKCS10.handle ctx params lang).Meets M ret exits s := by
  unfold CreatePKCS10.handle
  dsimp only
  generalize ctx.platform.toUppercase (params.optionalStr 4 "SM2") = keyType at inside ⊢
  generalize (params.optionalU64 5 256).toUInt32 = keyLength at inside ⊢
  generalize params.optionalStr 6 "" = requested
  refine scope.bind_requiredStr fun devName _ => scope.bind_requiredStr fun appName _ =>
    scope.bind_requiredStr fun subject named =>
      scope.bind_resolve fun library => scope.withDevice fun device => ?_
  refine scope.withApplication (fun e => scope.native e _ _) fun application =>
    scope.bind_authorized ?_
  refine scope.chooseName fun contName => scope.obtainContainer fun container => ?_
  have issued := inside device container subject named
  generalize CreatePKCS10.withKey ctx device container subject keyType keyLength params.id =
    body at issued ⊢
  exact scope.close issued

end Scoped

def watching (good : Op → Prop) : Monitor Skf Unit where
  allowed _ op := good op
  possible _ _ _ := True
  advance _ _ _ := ()

abbrev Keeps (good : Op → Prop) {A : Type} (p : Handler A) : Prop :=
  p.Meets (watching good) (fun _ _ => True) (fun _ _ => True) ()

theorem watching_scoped {good : Op → Prop} (scopes : ∀ op : Op, op.scopes = true → good op) :
    Scoped (watching good) (fun _ _ => True) () where
  allowed _ op scope := scopes op scope
  quiet _ _ _ _ := rfl
  refuses _ _ := trivial
  panics _ := trivial

theorem Keeps.asks {good : Op → Prop} {A : Type} {p : Handler A} (keeps : Keeps good p) :
    p.Asks good :=
  asks_of_meets keeps (fun _ _ _ => trivial) fun _ _ allowed => allowed

end SkfService
