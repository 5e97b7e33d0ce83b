import SkfService.Conduct.Domain
import SkfService.Dispatch.HandleRequest
import SkfService.Dispatch.HostOnly

/-! The dispatcher's own branches, and every request, under the conduct monitor. -/

set_option autoImplicit false

namespace SkfService.Conduct

open Interaction Program Handler

variable {permit : Permit} {A B : Type} {ret : B → Conduct → Prop} {s : Conduct} {ctx : SkfContext}
  {params : Params} {lang : Language} {id : Option Text.Json}

theorem covered_unprotected (unprotected : permit.unprotected = true) (s : Conduct) (op : Op) :
    permit.unprotected = false → s.Covers op := by
  intro off
  rw [unprotected] at off
  cases off

section direct

variable {api : Library} {provName devName appName : String} {device : Device}
  {application : Application}

theorem bind_apiOr {failed : String → RpcResponse} {k : Library → Handler B} (settled : s.Settled)
    (answered : ∀ reason, (failed reason).id = id)
    (goes : ∀ api, api.providerAlias = provName →
      (k api).Meets (conduct permit) ret (Leaves id) s) :
    (apiOr ctx provName failed >>= k).Meets (conduct permit) ret (Leaves id) s :=
  (meets_bind _ _).mpr
    ((unwatched settled).meets_apiOr (fun _ => ⟨answered _, .inl settled⟩) (goes _ rfl))

theorem bind_loadedApi {k : Library → Handler B} (settled : s.Settled)
    (goes : ∀ api, api.providerAlias = provName →
      (k api).Meets (conduct permit) ret (Leaves id) s) :
    (loadedApi ctx provName lang id >>= k).Meets (conduct permit) ret (Leaves id) s :=
  (meets_bind _ _).mpr
    ((unwatched settled).meets_loadedApi (fun _ => ⟨rfl, .inl settled⟩) settled (goes _ rfl))

theorem bind_connectDev {k : Device → Handler B} (careful : permit.forgetful = false)
    (same : api.providerAlias = provName)
    (goes : ∀ device : Device, device.library = api → device.name = devName →
      (k device).Meets (conduct permit) ret (Leaves id) opened) :
    (connectDev api provName devName id >>= k).Meets (conduct permit) ret (Leaves id) start := by
  rw [meets_bind, connectDev, cString]
  refine bind_unwrap (fun cDev made => ?_) fun _ => start_settled
  refine bind_call (.inl rfl) fun answer _ => ?_
  obtain ⟨code, raw⟩ := answer
  have text := CString.new_text made
  refine meets_ite (fun connected => ?_) fun refused => ?_
  · simp only [conduct, advance, afterConnect, connected, decide_true, if_true]
    exact goes ⟨api, devName, raw⟩ rfl rfl
  · refine meets_lost careful (.inr ?_) rfl
    simp [conduct, advance, afterConnect, refused, careful, same, text]

theorem bind_disConnectDev {k : Unit → Handler B} (settled : s.Settled)
    (goes : (k ()).Meets (conduct permit) ret (Leaves id) s) :
    (disConnectDev device >>= k).Meets (conduct permit) ret (Leaves id) s := by
  rw [meets_bind, disConnectDev]
  exact bind_vendor rfl settled (fun _ => covers_none rfl) fun _ => goes

theorem bind_closeApplication {k : Unit → Handler B} (settled : s.Settled)
    (goes : (k ()).Meets (conduct permit) ret (Leaves id) s) :
    (closeApplication application >>= k).Meets (conduct permit) ret (Leaves id) s := by
  rw [meets_bind, closeApplication]
  exact bind_vendor rfl settled (fun _ => covers_none rfl) fun _ => goes

theorem bind_closeContainer {container : Container} {k : Unit → Handler B} (settled : s.Settled)
    (goes : (k ()).Meets (conduct permit) ret (Leaves id) s) :
    (closeContainer container >>= k).Meets (conduct permit) ret (Leaves id) s := by
  rw [meets_bind, closeContainer]
  exact bind_vendor rfl settled (fun _ => covers_none rfl) fun _ => goes

theorem bind_openApp {k : Application → Handler B} (careful : permit.forgetful = false)
    (goes : ∀ application : Application, application.device = device → application.name = appName →
      (k application).Meets (conduct permit) ret (Leaves id) opened) :
    (openApp device provName appName id >>= k).Meets (conduct permit) ret (Leaves id) opened := by
  rw [meets_bind, openApp, cString]
  refine bind_unwrap (fun cApp made => ?_) fun _ => opened_settled
  refine bind_vendor rfl opened_settled (fun _ => covers_none rfl) fun answer => ?_
  obtain ⟨code, raw⟩ := answer
  refine meets_ite (fun _ => goes ⟨device, appName, raw⟩ rfl rfl) fun _ => ?_
  exact bind_disConnectDev opened_settled (meets_lost careful (.inl rfl) rfl)

theorem meets_enumerated {query : Option ULONG → Handler Filled} {release : Handler Unit}
    {sizeFailed listFailed : String} (settled : s.Settled)
    (queried : ∀ buffer, ∀ ret : Filled → Conduct → Prop, (∀ filled, ret filled s) →
      (query buffer).Meets (conduct permit) ret (Leaves id) s)
    (released : ∀ ret : Unit → Conduct → Prop, ret () s →
      release.Meets (conduct permit) ret (Leaves id) s) :
    (enumerated query release sizeFailed listFailed id).Meets (conduct permit) (Answers id)
      (Leaves id) s := by
  rw [enumerated, meets_bind]
  refine queried _ _ fun sized => meets_ite (fun _ => ?_) fun _ => ?_
  · rw [meets_bind]
    exact released _ (meets_ite (fun _ => ⟨rfl, .inl settled⟩) fun _ => ⟨rfl, .inl settled⟩)
  · rw [meets_bind]
    refine queried _ _ fun filled => ?_
    rw [meets_bind]
    exact released _ (meets_ite (fun _ => ⟨rfl, .inl settled⟩) fun _ => ⟨rfl, .inl settled⟩)

theorem meets_vendor {op : VendorOp} {ret : op.Reply → Conduct → Prop}
    (silent : quiet (.vendor op) = true) (settled : s.Settled)
    (covered : permit.unprotected = false → s.Covers (.vendor op)) (goes : ∀ reply, ret reply s) :
    (vendor op).Meets (conduct permit) ret (Leaves id) s := by
  have met : (vendor op >>= Program.done).Meets (conduct permit) ret (Leaves id) s :=
    bind_vendor silent settled covered goes
  rwa [bind_done] at met

end direct

section branches

theorem waitForDevEvent :
    (WaitForDevEvent.handle ctx params lang).Meets (conduct permit) (Answers params.id)
      (Leaves params.id) start := by
  refine meets_ite (fun _ => ?_) fun _ => ?_
  · refine bind_provider rfl start_settled (fun _ => covers_none rfl) fun waited => ?_
    refine bind_settled (fun waited _ => ?_) fun _ => start_settled
    cases waited with
    | ok event => exact ⟨rfl, .inl start_settled⟩
    | error e => exact ⟨nativeOr_id _ _ _ _, .inl start_settled⟩
  · refine bind_apiOr start_settled (fun _ => rfl) fun api _ => ?_
    refine bind_vendor rfl start_settled (fun _ => covers_none rfl) fun waited => ?_
    exact meets_ite (fun _ => ⟨rfl, .inl start_settled⟩) fun _ => ⟨rfl, .inl start_settled⟩

theorem enumDevice : (EnumDevice.handle ctx params lang).Meets (conduct permit) (Answers params.id)
    (Leaves params.id) start := by
  refine meets_ite (fun _ => ?_) fun _ => ?_
  · refine bind_provider rfl start_settled (fun _ => covers_none rfl) fun names => ?_
    refine bind_settled (fun names _ => ?_) fun _ => start_settled
    cases names with
    | ok names => exact ⟨rfl, .inl start_settled⟩
    | error e => exact ⟨nativeOr_id _ _ _ _, .inl start_settled⟩
  · refine bind_apiOr start_settled (fun _ => rfl) fun api _ => meets_enumerated start_settled ?_ ?_
    · exact fun buffer ret goes => meets_vendor rfl start_settled (fun _ => covers_none rfl) goes
    · exact fun ret goes => goes

theorem enumApplication (careful : permit.forgetful = false)
    (unprotected : permit.unprotected = true) :
    (EnumApplication.handle ctx params lang).Meets (conduct permit) (Answers params.id)
      (Leaves params.id) start := by
  refine bind_requiredStr start_settled fun devName =>
    bind_apiOr start_settled (fun _ => rfl) fun api same => ?_
  refine bind_connectDev careful same fun device _ _ => meets_enumerated opened_settled ?_ ?_
  · exact fun buffer ret goes =>
      meets_vendor rfl opened_settled (covered_unprotected unprotected _ _) goes
  · intro ret goes
    exact bind_vendor rfl opened_settled (fun _ => covers_none rfl) fun _ => goes

theorem enumContainer (careful : permit.forgetful = false)
    (unprotected : permit.unprotected = true) :
    (EnumContainer.handle ctx params lang).Meets (conduct permit) (Answers params.id)
      (Leaves params.id) start := by
  refine bind_requiredStr start_settled fun devName =>
    bind_requiredStr start_settled fun appName => ?_
  refine bind_apiOr start_settled (fun _ => rfl) fun api same => ?_
  refine bind_connectDev careful same fun device _ _ =>
    bind_openApp careful fun application _ _ => ?_
  refine meets_enumerated opened_settled ?_ ?_
  · exact fun buffer ret goes =>
      meets_vendor rfl opened_settled (covered_unprotected unprotected _ _) goes
  · intro ret goes
    refine bind_closeApplication opened_settled ?_
    exact bind_vendor rfl opened_settled (fun _ => covers_none rfl) fun _ => goes

theorem bind_withConnected {device : Device} {op : VendorOp} {k : op.Reply → Handler B}
    (silent : quiet (.vendor op) = true) (unprotected : permit.unprotected = true)
    (goes : ∀ reply, (k reply).Meets (conduct permit) ret (Leaves id) opened) :
    (withConnected device (vendor op) >>= k).Meets (conduct permit) ret (Leaves id) opened := by
  rw [meets_bind, withConnected]
  refine bind_vendor silent opened_settled (covered_unprotected unprotected _ _) fun reply => ?_
  exact bind_disConnectDev opened_settled (goes reply)

theorem bind_decodedOr {encoded label : String} {k : List UInt8 → Handler B} (settled : s.Settled)
    (goes : ∀ bytes, (k bytes).Meets (conduct permit) ret (Leaves id) s) :
    (decodedOr ctx encoded label id >>= k).Meets (conduct permit) ret (Leaves id) s := by
  rw [meets_bind, decodedOr, ← meets_bind]
  exact bind_mapped settled (fun _ => rfl) goes

theorem bind_requiredNames {k : String × String → Handler B} (settled : s.Settled)
    (goes : ∀ names, (k names).Meets (conduct permit) ret (Leaves params.id) s) :
    (requiredNames params >>= k).Meets (conduct permit) ret (Leaves params.id) s := by
  rw [meets_bind, requiredNames]
  exact bind_requiredStr settled fun _ => bind_requiredStr settled fun _ => goes _

theorem digest (careful : permit.forgetful = false) (unprotected : permit.unprotected = true) :
    (Digest.handle ctx params lang).Meets (conduct permit) (Answers params.id)
      (Leaves params.id) start := by
  have free := covered_unprotected unprotected opened
  apply bind_requiredStr start_settled
  intro provName
  apply bind_requiredStr start_settled
  intro devName
  apply bind_requiredStr start_settled
  intro dataB64
  apply bind_expect _ fun _ => ⟨rfl, .inl start_settled⟩
  intro algId _
  apply bind_decodedOr start_settled
  intro data
  refine bind_apiOr start_settled (fun _ => rfl) fun api same => ?_
  apply bind_connectDev careful same
  intro device _ _
  refine bind_vendor rfl opened_settled (free _) fun started => meets_ite (fun _ => ?_) fun _ => ?_
  · refine bind_vendor rfl opened_settled (free _) fun filled =>
      bind_disConnectDev opened_settled ?_
    exact meets_ite (fun _ => ⟨rfl, .inl opened_settled⟩) fun _ => ⟨rfl, .inl opened_settled⟩
  · exact bind_disConnectDev opened_settled ⟨rfl, .inl opened_settled⟩

theorem getDevInfo (careful : permit.forgetful = false) (unprotected : permit.unprotected = true) :
    (GetDevInfo.handle ctx params lang).Meets (conduct permit) (Answers params.id)
      (Leaves params.id) start := by
  refine bind_requiredStr start_settled fun devName =>
    bind_apiOr start_settled (fun _ => rfl) fun api same => ?_
  refine bind_connectDev careful same fun device _ _ =>
    bind_withConnected rfl unprotected fun answer => ?_
  exact meets_ite (fun _ => ⟨rfl, .inl opened_settled⟩) fun _ => ⟨rfl, .inl opened_settled⟩

theorem getDevState :
    (GetDevState.handle ctx params lang).Meets (conduct permit) (Answers params.id)
    (Leaves params.id) start := by
  refine bind_requiredStr start_settled fun devName => meets_ite (fun _ => ?_) fun _ => ?_
  · refine bind_provider rfl start_settled (fun _ => covers_none rfl) fun found => ?_
    refine bind_settled (fun found _ => ?_) fun _ => start_settled
    cases found with
    | ok state => exact ⟨rfl, .inl start_settled⟩
    | error e => exact ⟨nativeOr_id _ _ _ _, .inl start_settled⟩
  · refine bind_apiOr start_settled (fun _ => rfl) fun api _ => ?_
    refine bind_unwrap (fun cDev _ => ?_) fun _ => start_settled
    refine bind_vendor rfl start_settled (fun _ => covers_none rfl) fun found => ?_
    exact meets_ite (fun _ => ⟨rfl, .inl start_settled⟩) fun _ => ⟨rfl, .inl start_settled⟩

theorem setLabel (careful : permit.forgetful = false) (unprotected : permit.unprotected = true) :
    (SetLabel.handle ctx params lang).Meets (conduct permit) (Answers params.id)
      (Leaves params.id) start := by
  refine bind_requiredStr start_settled fun devName =>
    bind_requiredStr start_settled fun label => ?_
  refine bind_apiOr start_settled (fun _ => rfl) fun api same =>
    bind_connectDev careful same fun device _ _ => ?_
  refine bind_unwrap (fun cLabel _ => ?_) fun _ => opened_settled
  exact bind_withConnected rfl unprotected fun ret => ⟨codeReply_id _ _ _, .inl opened_settled⟩

theorem eccVerify (careful : permit.forgetful = false) (unprotected : permit.unprotected = true) :
    (ECCVerify.handle ctx params lang).Meets (conduct permit) (Answers params.id)
      (Leaves params.id) start := by
  refine bind_requiredStr start_settled fun devName =>
    bind_requiredStr start_settled fun pubKey => ?_
  refine bind_requiredStr start_settled fun data => bind_requiredStr start_settled fun sig => ?_
  refine bind_decodedOr start_settled fun _ => bind_decodedOr start_settled fun _ => ?_
  refine bind_decodedOr start_settled fun _ =>
    meets_ite (fun _ => ⟨rfl, .inl start_settled⟩) fun _ => ?_
  refine meets_ite (fun _ => ⟨rfl, .inl start_settled⟩) fun _ => ?_
  refine bind_apiOr start_settled (fun _ => rfl) fun api same =>
    bind_connectDev careful same fun device _ _ => ?_
  exact bind_withConnected rfl unprotected fun ret => ⟨codeReply_id _ _ _, .inl opened_settled⟩

theorem lockDev (careful : permit.forgetful = false) (unprotected : permit.unprotected = true) :
    (LockDev.handle ctx params lang).Meets (conduct permit) (Answers params.id)
      (Leaves params.id) start := by
  refine bind_requiredNames start_settled fun names =>
    bind_loadedApi start_settled fun api same => ?_
  refine bind_connectDev careful same fun device _ _ => ?_
  exact bind_withConnected rfl unprotected fun ret => ⟨codeReply_id _ _ _, .inl opened_settled⟩

theorem unlockDev (careful : permit.forgetful = false) (unprotected : permit.unprotected = true) :
    (UnlockDev.handle ctx params lang).Meets (conduct permit) (Answers params.id)
      (Leaves params.id) start := by
  refine bind_requiredNames start_settled fun names =>
    bind_loadedApi start_settled fun api same => ?_
  refine bind_connectDev careful same fun device _ _ => ?_
  exact bind_withConnected rfl unprotected fun ret => ⟨codeReply_id _ _ _, .inl opened_settled⟩

theorem transmit (careful : permit.forgetful = false) (unprotected : permit.unprotected = true) :
    (Transmit.handle ctx params lang).Meets (conduct permit) (Answers params.id)
      (Leaves params.id) start := by
  refine bind_requiredNames start_settled fun names =>
    bind_requiredStr start_settled fun cmdB64 => ?_
  refine bind_decodedOr start_settled fun cmd => bind_loadedApi start_settled fun api same => ?_
  refine bind_connectDev careful same fun device _ _ =>
    bind_withConnected rfl unprotected fun filled => ?_
  exact meets_ite (fun _ => ⟨rfl, .inl opened_settled⟩) fun _ => ⟨rfl, .inl opened_settled⟩

theorem rsaVerify (careful : permit.forgetful = false) (unprotected : permit.unprotected = true) :
    (RSAVerify.handle ctx params lang).Meets (conduct permit) (Answers params.id)
      (Leaves params.id) start := by
  refine bind_requiredNames start_settled fun names =>
    bind_requiredStr start_settled fun pubKey => ?_
  refine bind_requiredStr start_settled fun data => bind_requiredStr start_settled fun sig => ?_
  refine bind_decodedOr start_settled fun _ =>
    meets_ite (fun _ => ⟨rfl, .inl start_settled⟩) fun _ => ?_
  refine bind_decodedOr start_settled fun _ => bind_decodedOr start_settled fun _ => ?_
  refine bind_loadedApi start_settled fun api same =>
    bind_connectDev careful same fun device _ _ => ?_
  exact bind_withConnected rfl unprotected fun ret => ⟨codeReply_id _ _ _, .inl opened_settled⟩

section importing

variable {request : KeyPairRequest} {application : Application}

theorem bind_readKeyPair {k : KeyPairRequest → Handler B} (settled : s.Settled)
    (goes : ∀ request, (k request).Meets (conduct permit) ret (Leaves params.id) s) :
    (KeyPairRequest.read ctx params lang >>= k).Meets (conduct permit) ret
      (Leaves params.id) s := by
  rw [meets_bind, KeyPairRequest.read]
  refine bind_requiredStr settled fun _ =>
    bind_requiredStr settled fun _ => bind_requiredStr settled fun _ => ?_
  refine bind_requiredStr settled fun _ => bind_requiredStr settled fun _ => ?_
  refine bind_expect (fun _ _ => ?_) fun _ => ⟨rfl, .inl settled⟩
  exact bind_mapped settled (fun _ => rfl) fun _ => goes _

theorem meets_intoContainer {container : Container} :
    (ImportKeyPair.intoContainer ctx request container id).Meets (conduct permit) (Answers id)
      (Leaves id)
      (cleared container.application.key) := by
  have settled := cleared_settled container.application.key
  have released {k : Unit → Handler RpcResponse}
      (goes : (k ()).Meets (conduct permit) (Answers id) (Leaves id)
        (cleared container.application.key)) :
      (((do
        closeContainer container
        closeApplication container.application
        disConnectDev container.application.device) :
          Handler Unit) >>= k).Meets (conduct permit) (Answers id)
          (Leaves id) (cleared container.application.key) := by
    rw [meets_bind]
    refine bind_closeContainer settled (bind_closeApplication settled ?_)
    exact bind_vendor rfl settled (fun _ => covers_none rfl) fun _ => goes
  have answered (code : ULONG) : ((if code = SAR_OK then pure (.ok (.bool true) id)
      else pure (.err (codeAsI32 code) (failedAs "ImportKeyPair" code) id)) :
        Handler RpcResponse).Meets
        (conduct permit) (Answers id) (Leaves id) (cleared container.application.key) :=
    meets_ite (fun _ => ⟨rfl, .inl settled⟩) fun _ => ⟨rfl, .inl settled⟩
  unfold ImportKeyPair.intoContainer
  dsimp only
  split
  · exact bind_vendor rfl settled (fun _ => covered_by_cleared rfl) fun code =>
      released (answered code)
  -- The wrapped key is decoded behind the check of the PIN, and a refusal closes everything.
  · split
    · exact released ⟨rfl, .inl settled⟩
    · exact bind_vendor rfl settled (fun _ => covered_by_cleared rfl) fun code =>
        released (answered code)

theorem bind_closeRefused {op : VendorOp} {k : Unit → Handler B} (refused : s.contact = .refused)
    (closing : Op.closing (.vendor op) = true) (silent : quiet (.vendor op) = true)
    (goes : (k ()).Meets (conduct permit) ret (Leaves id) s) :
    ((vendor op >>= fun _ => pure ()) >>= k).Meets (conduct permit) ret (Leaves id) s := by
  refine ⟨?_, fun reply _ => ?_⟩
  · cases op with
    | disConnectDev | closeApplication | closeContainer =>
      exact ⟨.inr ⟨refused, rfl⟩, fun _ => covers_none rfl⟩
    | _ => cases closing
  · have kept : s.advance permit (.vendor op) reply = s := advance_quiet s reply silent
    simp only [conduct, kept]
    exact goes

theorem meets_intoApplication (careful : permit.forgetful = false)
    (named : application.key = ⟨request.provName, request.devName, request.appName⟩) :
    (ImportKeyPair.intoApplication ctx request application id).Meets (conduct permit) (Answers id)
      (Leaves id)
      opened := by
  refine bind_call ⟨careful, rfl⟩ fun verdict _ => ?_
  obtain ⟨now, verdict⟩ := verdict
  cases verdict with
  | error reason =>
    unfold ImportKeyPair.unauthorized
    refine bind_closeRefused rfl rfl rfl (bind_closeRefused rfl rfl rfl ?_)
    exact bind_closeRefused rfl rfl rfl (bind_closeRefused rfl rfl rfl ⟨rfl, .inr ⟨rfl, rfl⟩⟩)
  | ok live =>
    have here : opened.advance permit (.session (.authorize
        ⟨request.provName, request.devName, request.appName⟩)) (now, .ok live) =
          cleared application.key := by
      rw [named]
      rfl
    simp only [conduct, here]
    have settled := cleared_settled application.key
    refine bind_unwrap (fun cCont _ => ?_) fun _ => settled
    refine bind_vendor rfl settled (fun _ => covered_by_cleared rfl) fun answer => ?_
    refine meets_ite (fun _ => meets_intoContainer) fun _ => ?_
    exact bind_closeApplication settled (bind_disConnectDev settled ⟨rfl, .inl settled⟩)

theorem importKeyPair (careful : permit.forgetful = false) :
    (ImportKeyPair.handle ctx params lang).Meets (conduct permit) (Answers params.id)
      (Leaves params.id) start := by
  refine bind_readKeyPair start_settled fun request =>
    bind_apiOr start_settled (fun _ => rfl) fun api same => ?_
  refine bind_connectDev careful same fun device inLibrary named =>
    bind_openApp careful fun application on appNamed => ?_
  refine meets_intoApplication careful ?_
  rw [Application.key, on, inLibrary, same, named, appNamed]

end importing

theorem bind_handles {op : SessionOp} {k : op.Reply → Handler B} (onHandles : op.onAuth = false)
    (permitted : permit.handles = true) (settled : s.Settled)
    (goes : ∀ reply, (k reply).Meets (conduct permit) ret (Leaves id) s) :
    (session op >>= k).Meets (conduct permit) ret (Leaves id) s := by
  cases op with
  | authorize | grant | invalidateDevice => cases onHandles
  | _ => exact bind_call ⟨permitted, settled⟩ fun reply _ => goes reply

theorem disConnectDev (permitted : permit.handles = true) :
    (DisConnectDev.handle params).Meets (conduct permit) (Answers params.id)
      (Leaves params.id) start := by
  refine bind_expect (fun handle _ => ?_) fun _ => ⟨rfl, .inl start_settled⟩
  refine bind_handles rfl permitted start_settled fun found => ?_
  cases found with
  | ok guard =>
    exact bind_provider rfl start_settled (fun _ => covers_none rfl) fun _ =>
      ⟨rfl, .inl start_settled⟩
  | error reason => exact ⟨rfl, .inl start_settled⟩

theorem generateRandom (permitted : permit.handles = true)
    (unprotected : permit.unprotected = true) :
    (GenerateRandom.handle params lang).Meets (conduct permit) (Answers params.id)
      (Leaves params.id) start := by
  refine bind_expect (fun handle _ =>
    bind_expect (fun len _ => ?_) fun _ => ⟨rfl, .inl start_settled⟩)
    fun _ => ⟨rfl, .inl start_settled⟩
  refine bind_handles rfl permitted start_settled fun found => ?_
  cases found with
  | error reason => exact ⟨rfl, .inl start_settled⟩
  | ok guard =>
    refine bind_provider rfl start_settled (covered_unprotected unprotected _ _) fun drawn => ?_
    refine bind_settled (fun drawn _ => ?_) fun _ => start_settled
    cases drawn with
    | ok bytes => exact ⟨rfl, .inl start_settled⟩
    | error e => exact ⟨nativeOr_id _ _ _ _, .inl start_settled⟩

theorem digestUpdate (permitted : permit.handles = true) (unprotected : permit.unprotected = true) :
    (DigestUpdate.handle ctx params lang).Meets (conduct permit) (Answers params.id)
      (Leaves params.id) start := by
  refine bind_expect (fun handle _ =>
    bind_expect (fun data _ => ?_) fun _ => ⟨rfl, .inl start_settled⟩)
    fun _ => ⟨rfl, .inl start_settled⟩
  refine bind_mapped start_settled (fun _ => rfl) fun bytes => ?_
  refine bind_handles rfl permitted start_settled fun found => ?_
  cases found with
  | error reason => exact ⟨rfl, .inl start_settled⟩
  | ok digest =>
    refine bind_provider rfl start_settled (covered_unprotected unprotected _ _) fun fed => ?_
    refine bind_settled (fun fed _ => ?_) fun _ => start_settled
    cases fed with
    | ok done => exact ⟨rfl, .inl start_settled⟩
    | error e => exact ⟨nativeOr_id _ _ _ _, .inl start_settled⟩

theorem digestFinal (permitted : permit.handles = true) (unprotected : permit.unprotected = true) :
    (DigestFinal.handle params lang).Meets (conduct permit) (Answers params.id)
      (Leaves params.id) start := by
  refine bind_expect (fun handle _ => ?_) fun _ => ⟨rfl, .inl start_settled⟩
  refine bind_handles rfl permitted start_settled fun found => ?_
  cases found with
  | error reason => exact ⟨rfl, .inl start_settled⟩
  | ok digest =>
    refine meets_closing ?_
    refine bind_provider rfl start_settled (covered_unprotected unprotected _ _) fun ended => ?_
    refine bind_settled (fun ended _ => ?_) fun _ => start_settled
    cases ended with
    | ok hash => exact ⟨rfl, .inl start_settled⟩
    | error e => exact ⟨nativeOr_id _ _ _ _, .inl start_settled⟩

theorem closeHash (permitted : permit.handles = true) :
    (CloseHash.handle params).Meets (conduct permit) (Answers params.id)
      (Leaves params.id) start := by
  refine bind_expect (fun handle _ => ?_) fun _ => ⟨rfl, .inl start_settled⟩
  refine bind_handles rfl permitted start_settled fun found => ?_
  cases found with
  | ok digest =>
    exact bind_provider rfl start_settled (fun _ => covers_none rfl) fun _ =>
      ⟨rfl, .inl start_settled⟩
  | error reason => exact ⟨rfl, .inl start_settled⟩

theorem cancelWaitForDevEvent :
    (CancelWaitForDevEvent.handle ctx params lang).Meets (conduct permit) (Answers params.id)
      (Leaves params.id) start := by
  refine bind_provider rfl start_settled (fun _ => covers_none rfl) fun cancelled => ?_
  refine bind_settled (fun cancelled _ => ?_) fun _ => start_settled
  cases cancelled with
  | ok done => exact ⟨rfl, .inl start_settled⟩
  | error e => split <;> exact ⟨rfl, .inl start_settled⟩

theorem bind_forgetful {op : Op} {k : op.Reply → Handler B} (forgetful : permit.forgetful = true)
    (connects : (∃ library name, op = .provider (.openDevice library name)) ∨ ∃ library name,
      op = .vendor (.connectDev library name))
    (free : s.Free) (goes : ∀ reply t, t.Free →
      (k reply).Meets (conduct permit) ret (Leaves id) t) :
    (Program.ask (I := Skf) op >>= k).Meets (conduct permit) ret (Leaves id) s := by
  have after (connected : Bool) (provider device : String) :
      (s.afterConnect permit connected provider device).Free := by
    unfold afterConnect
    split
    · exact .inr rfl
    · simpa [forgetful] using free
  have may : s.MayConnect permit := free.imp_right fun connected => ⟨forgetful, connected⟩
  rcases connects with ⟨library, name, rfl⟩ | ⟨library, name, rfl⟩
  · refine bind_call may fun reply _ => goes reply _ ?_
    cases reply with
    | none => exact free
    | some result => exact after _ _ _
  · exact bind_call may fun reply _ => goes reply _ (after _ _ _)

theorem connectDev (forgetful : permit.forgetful = true) (permitted : permit.handles = true) :
    (ConnectDev.handle ctx params lang).Meets (conduct permit) (Answers params.id)
      (Leaves params.id) start := by
  refine bind_expect (fun name _ => ?_) fun _ => ⟨rfl, .inl start_settled⟩
  refine bind_forgetful forgetful (.inl ⟨_, _, rfl⟩) start_free fun opening t free => ?_
  refine bind_settled (fun opening _ => ?_) fun _ => free.settled
  cases opening with
  | ok raw => exact bind_handles rfl permitted free.settled fun _ => ⟨rfl, .inl free.settled⟩
  | error e => exact ⟨nativeOr_id _ _ _ _, .inl free.settled⟩

theorem digestInit (forgetful : permit.forgetful = true) (permitted : permit.handles = true)
    (unprotected : permit.unprotected = true) :
    (DigestInit.handle ctx params lang).Meets (conduct permit) (Answers params.id)
      (Leaves params.id) start := by
  refine bind_requiredNames start_settled fun names => meets_ite (fun _ => ?_) fun _ => ?_
  · refine bind_forgetful forgetful (.inl ⟨_, _, rfl⟩) start_free fun opening t free => ?_
    have settled := free.settled
    refine bind_settled (fun opening _ => ?_) fun _ => settled
    cases opening with
    | error e => exact ⟨nativeOr_id _ _ _ _, .inl settled⟩
    | ok raw =>
      refine bind_provider rfl settled (covered_unprotected unprotected _ _) fun begun => ?_
      -- No reply means that the provider unwound: the device is closed before that goes on.
      cases begun with
      | none => exact bind_provider rfl settled (fun _ => covers_none rfl) fun _ => settled
      | some begun =>
        cases begun with
        | error e =>
          exact bind_provider rfl settled (fun _ => covers_none rfl) fun _ =>
            ⟨nativeOr_id _ _ _ _, .inl settled⟩
        | ok hash =>
          refine bind_handles rfl permitted settled fun _ =>
            bind_handles rfl permitted settled fun _ => ?_
          exact ⟨rfl, .inl settled⟩
  · refine bind_apiOr start_settled (fun _ => rfl) fun api _ => ?_
    refine bind_unwrap (fun cDev _ => ?_) fun _ => start_settled
    refine bind_forgetful forgetful (.inr ⟨_, _, rfl⟩) start_free fun answer t free => ?_
    refine meets_ite (fun _ => ?_) fun _ => ⟨rfl, .inl free.settled⟩
    exact bind_disConnectDev free.settled ⟨rfl, .inl free.settled⟩

section search

open FindCertificates

variable {want : Wanted} {keyStem : String}

/-- A step of the search: it is left free, and it can only unwind. -/
def Searches (permit : Permit) (id : Option Text.Json) {A : Type} (p : Handler A) : Prop :=
  ∀ s : Conduct, s.Free → p.Meets (conduct permit) (fun _ t => t.Free) (Leaves id) s

theorem searches_done {A : Type} (value : A) :
    Searches permit id (Program.done value : Handler A) :=
  fun _ free => free

theorem Searches.bind {A B : Type} {p : Handler A} {k : A → Handler B}
    (first : Searches permit id p) (next : ∀ value, Searches permit id (k value)) :
    Searches permit id (p >>= k) := by
  intro s free
  rw [meets_bind]
  exact (first s free).mono (fun value t after => next value t after) fun _ _ left => left

theorem searches_ite {A : Type} {c : Prop} [Decidable c] {p q : Handler A}
    (yes : Searches permit id p) (no : Searches permit id q) :
    Searches permit id (if c then p else q) := by
  split
  · exact yes
  · exact no

theorem searches_asked {A B : Type} {asked : Bool} {p : Handler A} {skipped : A} {k : A → Handler B}
    (step : Searches permit id p) (next : ∀ value, Searches permit id (k value)) :
    Searches permit id (if asked then p >>= k else Program.done skipped >>= k) :=
  searches_ite (step.bind next) (next skipped)

theorem searches_vendor (unprotected : permit.unprotected = true) {op : VendorOp}
    (silent : quiet (.vendor op) = true) : Searches permit id (vendor op) :=
  fun _ free => meets_vendor silent free.settled (covered_unprotected unprotected _ _) fun _ => free

theorem searches_connect (forgetful : permit.forgetful = true) {library : Library}
    {name : CString} :
    Searches permit id (vendor (.connectDev library name)) := by
  intro s free
  have met : (vendor (.connectDev library name) >>= Program.done).Meets (conduct permit)
      (fun _ t => t.Free) (Leaves id) s :=
    bind_forgetful forgetful (.inr ⟨_, _, rfl⟩) free fun _ _ after => after
  rwa [bind_done] at met

theorem searches_cString {text : String} : Searches permit id (cString text) := by
  intro s free
  unfold cString unwrap
  split
  · exact free
  · exact free.settled

theorem searches_collect {A B : Type} {step : A → Handler (List B)} {items : List A}
    (each : ∀ item, Searches permit id (step item)) : Searches permit id (collect step items) :=
  fun _ free => meets_collect step Conduct.Free items free fun item _ => each item

theorem searches_listed {query : Option ULONG → Handler Filled}
    (queried : ∀ buffer, Searches permit id (query buffer)) :
    Searches permit id (listed query) :=
  (queried _).bind fun _ => searches_ite
    ((queried _).bind fun _ => searches_ite (searches_done _) (searches_done _)) (searches_done _)

theorem searches_processCert (unprotected : permit.unprotected = true) {container : Container}
    {isSign : Bool} :
    Searches permit id (processCert ctx keyStem container isSign) := by
  refine (searches_vendor unprotected rfl).bind fun sized => searches_ite ?_ (searches_done _)
  refine (searches_vendor unprotected rfl).bind fun filled => searches_ite ?_ (searches_done _)
  dsimp only
  split <;> exact searches_done _

theorem searches_inContainer (unprotected : permit.unprotected = true) {application : Application}
    {contName : String} :
    Searches permit id (inContainer ctx want keyStem application contName) := by
  refine searches_cString.bind fun cCont => (searches_vendor unprotected rfl).bind fun answer => ?_
  refine searches_ite ?_ (searches_done _)
  refine searches_asked (searches_processCert unprotected) fun sign => ?_
  refine searches_asked (searches_processCert unprotected) fun enc => ?_
  exact ((searches_vendor unprotected rfl).bind fun _ => searches_done _).bind fun _ =>
    searches_done _

theorem searches_inApplication (unprotected : permit.unprotected = true) {device : Device}
    {appName : String} :
    Searches permit id (inApplication ctx want keyStem device appName) := by
  refine searches_cString.bind fun cApp => (searches_vendor unprotected rfl).bind fun answer => ?_
  refine searches_ite ?_ (searches_done _)
  refine (searches_listed fun _ => searches_vendor unprotected rfl).bind fun contNames => ?_
  refine (searches_collect fun _ => searches_inContainer unprotected).bind fun found => ?_
  exact ((searches_vendor unprotected rfl).bind fun _ => searches_done _).bind fun _ =>
    searches_done _

theorem searches_inDevice (forgetful : permit.forgetful = true)
    (unprotected : permit.unprotected = true) {api : Library} {provName devName : String} :
    Searches permit id (inDevice ctx want api provName devName) := by
  refine searches_cString.bind fun cDev => (searches_connect forgetful).bind fun answer => ?_
  refine searches_ite ?_ (searches_done _)
  refine (searches_listed fun _ => searches_vendor unprotected rfl).bind fun appNames => ?_
  refine (searches_collect fun _ => searches_inApplication unprotected).bind fun found => ?_
  exact ((searches_vendor unprotected rfl).bind fun _ => searches_done _).bind fun _ =>
    searches_done _

theorem searches_inProvider (forgetful : permit.forgetful = true)
    (unprotected : permit.unprotected = true) {provName : String} :
    Searches permit id (inProvider ctx want provName) := by
  intro s free
  refine (meets_bind _ _).mpr ((unwatched free.settled).meets_getApi (fun _ => free) ?_)
  refine (searches_listed fun _ => searches_vendor unprotected rfl).bind (fun devNames => ?_) s free
  exact searches_collect fun _ => searches_inDevice forgetful unprotected

theorem findCertificates (forgetful : permit.forgetful = true)
    (unprotected : permit.unprotected = true) :
    (FindCertificates.handle ctx params).Meets (conduct permit) (Answers params.id)
      (Leaves params.id) start := by
  have searched :
      Searches permit params.id (collect (inProvider ctx (wanted (params.optionalStr 0 "")))
      (ctx.config.libs.map Prod.fst)) :=
        searches_collect fun _ => searches_inProvider forgetful unprotected
  rw [FindCertificates.handle, meets_bind]
  exact (searched start start_free).mono (fun _ _ free => ⟨rfl, .inl free.settled⟩) fun _ _ left =>
    left

end search

theorem issueCertificate :
    (IssueCertificate.handle ctx params).Meets (conduct permit) (Answers params.id)
      (Leaves params.id) start := by
  have met := meets_of_hostOnly (M := conduct permit) (s := start)
    (@IssueCertificate.meets_handle ctx params)
    (fun host => ⟨.inl start_settled, fun _ => covers_none rfl⟩) fun _ _ => rfl
  refine met.mono (fun response t left => ?_) (fun exit t left => ?_)
  · exact ⟨left.1, .inl (left.2 ▸ start_settled)⟩
  · cases exit with
    | reply response => exact ⟨left.1, .inl (left.2 ▸ start_settled)⟩
    | panic why => exact left.2 ▸ start_settled

end branches

end Conduct

/-- What each method may do beyond connecting and closing. The methods that work on handles are the
only ones that do, `CheckPIN` alone records grants, ten methods are protected by one, and three go
on as if nothing happened when a device does not connect. -/
def Method.permit (method : Method) : Permit where
  handles :=
    method matches .ConnectDev | .DisConnectDev | .GenerateRandom | .DigestInit | .DigestUpdate
    | .DigestFinal | .CloseHash
  grants := method matches .CheckPIN
  unprotected :=
    !(method matches .SignData | .RSASignData | .EncryptData | .DecryptData | .CreateContainer
    | .ImportCertificate | .CreatePKCS10 | .GenECCKeyPair | .GenRSAKeyPair | .ImportKeyPair)
  forgetful := method matches .ConnectDev | .DigestInit | .FindCertificates

namespace Conduct

open Interaction Program Handler

theorem branch_conforms (ctx : SkfContext) (params : Params) (lang : Language) (method : Method) :
    (method.branch ctx params lang).Meets (conduct method.permit) (Answers params.id)
      (Leaves params.id)
      start := by
  -- Three branches answer from the configuration alone; the others have a lemma each.
  cases method with
  | GetProtocolVersion => exact ⟨rfl, .inl start_settled⟩
  | SetLanguage =>
    refine ⟨?_, .inl start_settled⟩
    unfold SetLanguage.respond
    split <;> rfl
  | WaitForDevEvent => exact waitForDevEvent
  | EnumProvider =>
    refine ⟨?_, .inl start_settled⟩
    unfold EnumProvider.respond
    dsimp only
    split
    · split <;> rfl
    · rfl
  | EnumDevice => exact enumDevice
  | ConnectDev => exact connectDev rfl rfl
  | EnumApplication => exact enumApplication rfl rfl
  | EnumContainer => exact enumContainer rfl rfl
  | DeleteContainer => exact deleteContainer rfl rfl
  | IssueCertificate => exact issueCertificate
  | ImportCertificate => exact importCertificate rfl
  | SignData => exact signData rfl
  | ImportKeyPair => exact importKeyPair rfl
  | DisConnectDev => exact disConnectDev rfl
  | FindCertificates => exact findCertificates rfl rfl
  | GenerateRandom => exact generateRandom rfl rfl
  | Digest => exact digest rfl rfl
  | CheckPIN => exact checkPIN rfl rfl
  | CreatePKCS10 => exact createPKCS10 lang rfl
  | EncryptData => exact encryptData rfl
  | DecryptData => exact decryptData rfl
  | GetDevInfo => exact getDevInfo rfl rfl
  | GetDevState => exact getDevState
  | SetLabel => exact setLabel rfl rfl
  | ECCVerify => exact eccVerify rfl rfl
  | CreateContainer => exact createContainer rfl
  | GetContainerType => exact getContainerType rfl rfl
  | RSASignData => exact rsaSignData rfl
  | LockDev => exact lockDev rfl rfl
  | UnlockDev => exact unlockDev rfl rfl
  | Transmit => exact transmit rfl rfl
  | CancelWaitForDevEvent => exact cancelWaitForDevEvent
  | GenECCKeyPair => exact genECCKeyPair rfl
  | GenRSAKeyPair => exact genRSAKeyPair rfl
  | RSAVerify => exact rsaVerify rfl rfl
  | DigestInit => exact digestInit rfl rfl rfl
  | DigestUpdate => exact digestUpdate rfl rfl
  | DigestFinal => exact digestFinal rfl rfl
  | CloseHash => exact closeHash rfl

theorem rejectedEarly_id {platform : Platform} {req : RpcRequest} {rejection : RpcResponse}
    (rejected : rejectedEarly platform req = some rejection) : rejection.id = req.id := by
  unfold rejectedEarly unsupportedVersion restrictedRejection at rejected
  rcases Option.or_eq_some_iff.mp rejected with version | ⟨-, restricted⟩
  · split at version
    · split at version
      · cases version
        rfl
      · cases version
    · cases version
  · obtain ⟨method, -, refused⟩ := Option.bind_eq_some_iff.mp restricted
    split at refused
    · cases refused
      rfl
    · cases refused

def permitOf (req : RpcRequest) : Permit :=
  match Method.ofName req.method with
  | some method => method.permit
  | none => ⟨false, false, false, false⟩

/-- Settling a branch turns an early reply into the answer and keeps everything else. -/
theorem meets_settleBranch {permit : Permit} {A : Type} {id : Option Text.Json} {body : Handler A}
    {early : RpcResponse → A} (answerOf : A → RpcResponse) {s : Conduct}
    (met : body.Meets (conduct permit) (fun value => Answers id (answerOf value)) (Leaves id) s)
    (kept : ∀ response, answerOf (early response) = response) :
    (settleBranch body early).Meets (conduct permit) (fun value => Answers id (answerOf value))
      (fun _ t => t.Settled) s := by
  rw [settleBranch, meets_recover]
  refine met.mono (fun _ _ answered => answered) fun exit t left => ?_
  cases exit with
  | reply response =>
    change Answers id (answerOf (early response)) t
    rw [kept]
    exact left
  | panic why => exact left

/-- Every request keeps to the permit of its method and is answered under its own id. -/
theorem answer_conforms (ctx : SkfContext) (req : RpcRequest) (lang : Language) :
    (answer ctx req lang).Meets (conduct (permitOf req)) (fun result => Answers req.id result.1)
      (fun _ t => t.Settled) start := by
  unfold answer
  cases early : rejectedEarly ctx.platform req with
  | some rejection => exact ⟨rejectedEarly_id early, .inl start_settled⟩
  | none =>
    cases found : Method.ofName req.method with
    | none => exact ⟨rfl, .inl start_settled⟩
    | some method =>
      rw [permitOf, found]
      refine meets_settleBranch Prod.fst ?_ fun _ => rfl
      rw [map_eq_pure_bind, meets_bind]
      exact branch_conforms ctx ⟨req.params, req.id⟩ lang method

end Conduct
end SkfService
