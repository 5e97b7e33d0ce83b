import SkfService.Conduct.Monitor
import SkfService.Dispatch.Rules

/-! One rule for each step that handlers share, under the conduct monitor. -/

set_option autoImplicit false

namespace SkfService.Conduct

open Interaction Program Handler

def opened : Conduct := ⟨.connected, [], []⟩

def cleared (key : AuthKey) : Conduct := ⟨.connected, [], [key]⟩

theorem start_free : start.Free := .inl rfl

theorem opened_free : opened.Free := .inr rfl

theorem cleared_free (key : AuthKey) : (cleared key).Free := .inr rfl

theorem start_settled : start.Settled := start_free.settled

theorem opened_settled : opened.Settled := opened_free.settled

theorem cleared_settled (key : AuthKey) : (cleared key).Settled := (cleared_free key).settled

def quiet : Op → Bool
  | .provider (.openDevice _ _) | .provider (.verifyPin _ _) | .vendor (.connectDev _ _) => false
  | .session (.authorize _) | .session (.invalidateDevice _ _) => false
  | _ => true

theorem advance_quiet {permit : Permit} {op : Op} (s : Conduct) (reply : op.Reply)
    (silent : quiet op = true) : s.advance permit op reply = s := by
  cases op with
  | session op =>
    cases op with
    | authorize | invalidateDevice => cases silent
    | _ => rfl
  | provider op =>
    cases op with
    | openDevice | verifyPin => cases silent
    | _ => rfl
  | vendor op =>
    cases op with
    | connectDev => cases silent
    | _ => rfl
  | host op => rfl

theorem covers_of_mem {s : Conduct} {op : Op} {application : Application}
    (live : application.key ∈ s.authorized) (about : op.beyond = some application.subject) :
    s.Covers op := by
  intro subject found
  rw [about] at found
  cases found
  exact ⟨application.key, live, application.subject_covered⟩

theorem covers_device {s : Conduct} {op : Op} {application : Application}
    (live : application.key ∈ s.authorized) (about : op.beyond = some application.device.subject) :
    s.Covers op := by
  intro subject found
  rw [about] at found
  cases found
  exact ⟨application.key, live, rfl, rfl, fun _ none => by cases none⟩

theorem covers_none {s : Conduct} {op : Op} (plain : op.beyond = none) : s.Covers op := by
  intro subject found
  rw [plain] at found
  cases found

section rules

variable {permit : Permit} {A B : Type} {ret : B → Conduct → Prop} {s : Conduct}
  {id : Option Text.Json} {ctx : SkfContext}

theorem unwatched (settled : s.Settled) : Unwatched (conduct permit) s :=
  ⟨fun _ => ⟨.inl settled, fun _ => covers_none rfl⟩, fun _ _ => rfl⟩

theorem bind_host {op : HostOp} {k : op.Reply → Handler B} (settled : s.Settled)
    (goes : ∀ reply, (k reply).Meets (conduct permit) ret (Leaves id) s) :
    (host op >>= k).Meets (conduct permit) ret (Leaves id) s :=
  (unwatched settled).bind_host fun reply _ => goes reply

theorem bind_provider {op : ProviderOp} {k : op.Reply → Handler B}
    (silent : quiet (.provider op) = true) (settled : s.Settled)
    (covered : permit.unprotected = false → s.Covers (.provider op))
    (goes : ∀ reply, (k reply).Meets (conduct permit) ret (Leaves id) s) :
    (provider op >>= k).Meets (conduct permit) ret (Leaves id) s := by
  refine bind_call ?_ fun reply _ => ?_
  · cases op with
    | openDevice => cases silent
    | _ => exact ⟨.inl settled, covered⟩
  · have kept : s.advance permit (.provider op) reply = s := advance_quiet s reply silent
    simp only [conduct, kept]
    exact goes reply

theorem bind_vendor {op : VendorOp} {k : op.Reply → Handler B} (silent : quiet (.vendor op) = true)
    (settled : s.Settled) (covered : permit.unprotected = false → s.Covers (.vendor op))
    (goes : ∀ reply, (k reply).Meets (conduct permit) ret (Leaves id) s) :
    (vendor op >>= k).Meets (conduct permit) ret (Leaves id) s := by
  refine bind_call ?_ fun reply _ => ?_
  · cases op with
    | connectDev => cases silent
    | _ => exact ⟨.inl settled, covered⟩
  · have kept : s.advance permit (.vendor op) reply = s := advance_quiet s reply silent
    simp only [conduct, kept]
    exact goes reply

theorem bind_resolveOr {name : String} {failed : String → RpcResponse} {k : Library → Handler B}
    (settled : s.Settled) (rejected : ∀ message, (failed message).id = id)
    (goes : ∀ library, library.providerAlias = name →
      (k library).Meets (conduct permit) ret (Leaves id) s) :
    (resolveOr ctx name failed >>= k).Meets (conduct permit) ret (Leaves id) s :=
  (meets_bind _ _).mpr ((unwatched settled).meets_resolveOr (fun _ => ⟨rejected _, .inl settled⟩)
    (fun same => goes _ same.symm) fun _ _ _ => goes _ rfl)

theorem meets_close {resource : Resource} (leaves : Conduct → Prop) {exits : Exit → Conduct → Prop}
    (closable : s.Settled ∨ s.contact = .refused) (left : leaves s) :
    (provider (.close resource)).Meets (conduct permit) (fun _ => leaves) exits s :=
  ⟨⟨closable.imp_right fun refused => ⟨refused, rfl⟩, fun _ => covers_none rfl⟩, fun _ _ => left⟩

/-- A body that is answered, or left, with nothing to tell may be closed on either way out. -/
theorem meets_closing {resource : Resource} {body : Handler RpcResponse}
    (met : body.Meets (conduct permit) (Answers id) (Leaves id) s) :
    (body.ensuring (provider (.close resource))).Meets (conduct permit) (Answers id)
      (Leaves id) s := by
  have closed {response : RpcResponse} {t : Conduct} (answered : Answers id response t) :
      t.Settled ∨ t.contact = .refused := answered.2.imp_right And.left
  rw [meets_ensuring]
  refine met.mono (fun response t answered => ?_) (fun exit t left => ?_)
  · exact meets_close (Answers id response) (closed answered) answered
  · cases exit with
    | reply response => exact meets_close (Leaves id (.reply response)) (closed left) left
    | panic why => exact meets_close (Leaves id (.panic why)) (.inl left) left

/-- Losing a device drops its grants, and then nothing is left to tell. -/
theorem meets_lost {provName devName : String} {response : RpcResponse}
    (careful : permit.forgetful = false)
    (gone : s.contact = .connected ∨ s.contact = .lost provName devName)
    (answered : response.id = id) :
    (noteDeviceUnavailable provName devName >>= fun _ => (reply response : Handler B)).Meets
      (conduct permit) ret (Leaves id) s := by
  refine ⟨⟨careful, gone⟩, fun removed _ => ⟨answered, .inl ?_⟩⟩
  rcases gone with connected | lost
  · simp [conduct, advance, connected, Settled]
  · simp [conduct, advance, lost, Settled]

theorem meets_withDevice {library : Library} {provName devName : String}
    {body : Device → Handler RpcResponse} (careful : permit.forgetful = false)
    (same : library.providerAlias = provName)
    (goes : ∀ device : Device, device.library = library → device.name = devName →
      (body device).Meets (conduct permit) (Answers id) (Leaves id) opened) :
    (withDevice library provName devName id body).Meets (conduct permit) (Answers id)
      (Leaves id) start := by
  rw [withDevice, openDevice, meets_bind, meets_bind]
  refine ⟨.inl rfl, fun result _ => ?_⟩
  cases result with
  | none => exact start_settled
  | some result =>
    cases result with
    | ok raw => exact meets_closing (goes ⟨library, devName, raw⟩ rfl rfl)
    | error e =>
      refine meets_lost careful (.inr ?_) (nativeFailure_id _ _ _)
      simp [conduct, advance, afterConnect, careful, same, Except.isOk, Except.toBool]

theorem meets_withApplication {device : Device} {appName : String}
    {failed : ProviderError → Handler Application} {body : Application → Handler RpcResponse}
    (refused : ∀ e, (failed e).Meets (conduct permit) (fun _ _ => False) (Leaves id) opened)
    (goes : ∀ application : Application, application.device = device → application.name = appName →
      (body application).Meets (conduct permit) (Answers id) (Leaves id) opened) :
    (withApplication device appName failed body).Meets (conduct permit) (Answers id)
      (Leaves id) opened := by
  rw [withApplication, openApplication, meets_bind]
  refine bind_provider rfl opened_settled (fun _ => covers_none rfl) fun result => ?_
  cases result with
  | none => exact opened_settled
  | some result =>
    cases result with
    | ok raw => exact meets_closing (goes ⟨device, appName, raw⟩ rfl rfl)
    | error e => exact (refused e).mono (fun _ _ absurd => absurd.elim) (fun _ _ left => left)

theorem meets_applicationLost {provName devName : String} {message : ULONG → String}
    (careful : permit.forgetful = false) (e : ProviderError) :
    (applicationLost provName devName message id e).Meets (conduct permit) (fun _ _ => False)
      (Leaves id)
      opened :=
  meets_lost careful (.inl rfl) (nativeFailure_id _ _ _)

theorem meets_withDeviceApplication {library : Library} {provName devName appName : String}
    {body : Application → Handler RpcResponse} (careful : permit.forgetful = false)
    (same : library.providerAlias = provName)
    (goes : ∀ application : Application, application.key = ⟨provName, devName, appName⟩ →
      (body application).Meets (conduct permit) (Answers id) (Leaves id) opened) :
    (withDeviceApplication library provName devName appName id body).Meets (conduct permit)
      (Answers id)
      (Leaves id) start := by
  refine meets_withDevice careful same fun device inLibrary named => ?_
  refine meets_withApplication (meets_applicationLost careful) fun application onDevice appNamed =>
    ?_
  refine goes application ?_
  rw [Application.key, onDevice, inLibrary, same, named, appNamed]

theorem bind_requireAuthorized {provName devName appName : String} {rejection : RpcResponse}
    {k : Unit → Handler RpcResponse} (careful : permit.forgetful = false)
    (answered : rejection.id = id ∧ rejection.error = -10)
    (goes : (k ()).Meets (conduct permit) (Answers id) (Leaves id)
      (cleared ⟨provName, devName, appName⟩)) :
    (requireAuthorized provName devName appName rejection >>= k).Meets (conduct permit) (Answers id)
      (Leaves id) opened := by
  rw [requireAuthorized, meets_bind]
  refine ⟨⟨careful, rfl⟩, fun result _ => ?_⟩
  obtain ⟨now, result⟩ := result
  cases result with
  | ok done => exact goes
  | error reason => exact ⟨answered.1, .inr ⟨rfl, answered.2⟩⟩

theorem meets_withAuthorized {library : Library} {provName devName appName : String}
    {body : Application → Handler RpcResponse} (careful : permit.forgetful = false)
    (same : library.providerAlias = provName)
    (goes : ∀ application : Application, (body application).Meets (conduct permit) (Answers id)
      (Leaves id) (cleared application.key)) :
    (withAuthorized library provName devName appName id body).Meets (conduct permit) (Answers id)
      (Leaves id) start := by
  refine meets_withDeviceApplication careful same fun application named => ?_
  refine bind_requireAuthorized careful ⟨rfl, rfl⟩ ?_
  rw [← named]
  exact goes application

theorem covered_by_cleared {application : Application} {op : Op}
    (about : op.beyond = some application.subject) : (cleared application.key).Covers op :=
  covers_of_mem (List.mem_singleton.mpr rfl) about

theorem meets_withContainer {application : Application} {contName : String}
    {body : Container → Handler RpcResponse} (settled : s.Settled)
    (covered : permit.unprotected = false →
      s.Covers (.provider (.openContainer application contName)))
    (goes : ∀ container : Container, container.application = application →
      (body container).Meets (conduct permit) (Answers id) (Leaves id) s) :
    (withContainer application contName id body).Meets (conduct permit) (Answers id)
      (Leaves id) s := by
  refine bind_provider rfl settled covered fun result => ?_
  cases result with
  | none => exact settled
  | some result =>
    cases result with
    | ok raw => exact meets_closing (goes ⟨application, contName, raw⟩ rfl)
    | error e => exact ⟨nativeFailure_id _ _ _, .inl settled⟩

theorem meets_withGrantedContainer {library : Library} {provName devName appName contName : String}
    {body : Container → Handler RpcResponse} (careful : permit.forgetful = false)
    (same : library.providerAlias = provName)
    (goes : ∀ container : Container, (body container).Meets (conduct permit) (Answers id)
      (Leaves id) (cleared container.application.key)) :
    (withGrantedContainer library provName devName appName contName id body).Meets (conduct permit)
      (Answers id) (Leaves id) start := by
  refine meets_withAuthorized careful same fun application => ?_
  refine meets_withContainer (cleared_settled _) (fun _ => covered_by_cleared rfl)
    fun container inside => ?_
  rw [← inside]
  exact goes container

theorem bind_granted {op : ProviderOp} {application : Application} {k : op.Reply → Handler B}
    (silent : quiet (.provider op) = true)
    (about : (Op.provider op).beyond = some application.subject)
    (goes : ∀ reply, (k reply).Meets (conduct permit) ret (Leaves id) (cleared application.key)) :
    (provider op >>= k).Meets (conduct permit) ret (Leaves id) (cleared application.key) :=
  bind_provider silent (cleared_settled _) (fun _ => covered_by_cleared about) goes

theorem bind_requiredStr {params : Params} {index : Nat} {message : String} {k : String → Handler B}
    (settled : s.Settled)
    (goes : ∀ value, (k value).Meets (conduct permit) ret (Leaves params.id) s) :
    (orReply (params.requiredStr index message) >>= k).Meets (conduct permit) ret
      (Leaves params.id) s :=
  bind_orReply (fun value _ => goes value)
    fun _ rejected => ⟨Params.requiredStr_error rejected, .inl settled⟩

theorem bind_decode {params : Params} {errorText : DecodeErrorText} {encoded message : String}
    {k : List UInt8 → Handler B} (settled : s.Settled)
    (goes : ∀ value, (k value).Meets (conduct permit) ret (Leaves params.id) s) :
    (orReply (params.decode errorText encoded message) >>= k).Meets (conduct permit) ret
      (Leaves params.id) s :=
  bind_orReply (fun value _ => goes value) fun _ rejected =>
    ⟨Params.decode_error rejected, .inl settled⟩

theorem bind_mapped {x : Except String A} {rejection : String → RpcResponse} {k : A → Handler B}
    (settled : s.Settled) (answered : ∀ reason, (rejection reason).id = id)
    (goes : ∀ value, (k value).Meets (conduct permit) ret (Leaves id) s) :
    (orReply (x.mapError rejection) >>= k).Meets (conduct permit) ret (Leaves id) s :=
  bind_mapError (fun value _ => goes value) fun reason _ => ⟨answered reason, .inl settled⟩

end rules

end SkfService.Conduct
