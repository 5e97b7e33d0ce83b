import SkfService.Custody.Inventory
import SkfService.Dispatch.HandleRequest

/-! What the branches that close raw handles by hand leave behind.

A branch that answers has closed everything it opened, children first, unless it went one of two
ways: `ImportKeyPair` without a grant closes the application and the device twice, and `Digest`
never closes the hash it starts. -/

set_option autoImplicit false

namespace SkfService

namespace Custody

open Interaction Program Handler

/-- The two interactions after which a symbol-table branch does not release cleanly. -/
def strays : (op : Skf.Op) → Skf.Reply op → Bool
  | .session (.authorize _), (_, .error _) => true
  | .vendor (.digestInit _ _), (ret, _) => ret = SAR_OK
  | _, _ => false

def Released (s : Audit Resource) : Prop := (s.faulted = false ∧ s.held = []) ↔ s.flagged = false

theorem released_clear : Released (.clear []) := by simp [Released, Audit.clear]

/-- A branch may unwind with anything held; a reply that leaves it early comes after the release. -/
def LeavesReleased : Exit → Audit Resource → Prop
  | .reply _, s => Released s
  | .panic _, _ => True

variable {A B : Type} {ret : B → Audit Resource → Prop} {held : List Resource}

/-- A step that holds as much after it as before, and can only answer early where nothing is held. -/
def Steps (held : List Resource) (p : Handler A) : Prop :=
  p.Meets (inventory.audit strays) (fun _ s => s = .clear held) LeavesReleased (.clear held)

def Ends (held : List Resource) (p : Handler A) : Prop :=
  p.Meets (inventory.audit strays) (fun _ => Released) LeavesReleased (.clear held)

section steps

theorem steps_done (value : A) : Steps held (Program.done value : Handler A) := rfl

theorem ends_done (value : A) : Ends [] (Program.done value : Handler A) := released_clear

theorem ends_reply (response : RpcResponse) : Ends [] (reply response : Handler A) := released_clear

theorem Steps.bind {p : Handler A} {k : A → Handler B} (first : Steps held p)
    (next : ∀ value, (k value).Meets (inventory.audit strays) ret LeavesReleased (.clear held)) :
    (p >>= k).Meets (inventory.audit strays) ret LeavesReleased (.clear held) := by
  rw [meets_bind]
  refine Meets.mono first (fun value t same => ?_) fun _ _ left => left
  rw [same]
  exact next value

theorem steps_ite {c : Prop} [Decidable c] {p q : Handler A} (yes : Steps held p)
    (no : Steps held q) :
    Steps held (if c then p else q) :=
  meets_ite (fun _ => yes) fun _ => no

theorem steps_vendor {op : VendorOp} (quiet : idle (.vendor op) = true)
    (unflagged : ∀ reply, strays (.vendor op) reply = false)
    (used : ∀ r ∈ vendorUses op, r ∈ held) :
    Steps held (vendor op) := by
  have met : Steps held (vendor op >>= Program.done : Handler op.Reply) :=
    bind_idle quiet unflagged used fun _ => rfl
  exact met

theorem steps_collect {step : A → Handler (List B)} {items : List A}
    (each : ∀ item, Steps held (step item)) :
    Steps held (collect step items) := by
  refine meets_collect step (fun s => s = Audit.clear held) items rfl fun item _ t same => ?_
  rw [same]
  exact each item

theorem steps_unwrap (x : Option A) (why : Panic) : Steps held (unwrap x why) := by
  cases x with
  | some value => rfl
  | none => trivial

theorem steps_orReply (x : Except RpcResponse A) : Steps [] (orReply x) := by
  cases x with
  | ok value => rfl
  | error rejection => exact released_clear

theorem steps_expect (x : Option A) (rejection : RpcResponse) : Steps [] (expect x rejection) := by
  cases x with
  | some value => rfl
  | none => exact released_clear

theorem steps_apiOr {ctx : SkfContext} {name : String} {failed : String → RpcResponse} :
    Steps [] (apiOr ctx name failed) :=
  (unwatched fun _ _ => rfl).meets_apiOr (fun _ => released_clear) rfl

theorem steps_loadedApi {ctx : SkfContext} {name : String} {lang : Language}
    {id : Option Text.Json} :
    Steps [] (loadedApi ctx name lang id) :=
  (unwatched fun _ _ => rfl).meets_loadedApi (fun _ => released_clear) trivial rfl

theorem steps_noteDeviceUnavailable {provName devName : String} :
    Steps held (noteDeviceUnavailable provName devName) :=
  bind_idle rfl (fun _ => rfl) (by simp [uses]) fun _ => rfl

end steps

section handles

variable {device : Device} {application : Application} {container : Container} {api : Library}
  {provName devName appName : String} {id : Option Text.Json}

theorem bind_disConnectDev {k : Unit → Handler B}
    (goes : (k ()).Meets (inventory.audit strays) ret LeavesReleased (.clear [])) :
    (disConnectDev device >>= k).Meets (inventory.audit strays) ret LeavesReleased
      (.clear [.device device]) :=
  bind_closing rfl rfl (fun _ => rfl) (fun _ => rfl) (by simp [Resource.parent]) fun _ => goes

theorem bind_closeApplication {k : Unit → Handler B}
    (goes : (k ()).Meets (inventory.audit strays) ret LeavesReleased
      (.clear [.device application.device])) :
    (closeApplication application >>= k).Meets (inventory.audit strays) ret LeavesReleased
      (.clear (applicationHeld application)) :=
  bind_closing rfl rfl (fun _ => rfl) (fun _ => rfl) (by simp [Resource.parent]) fun _ => goes

theorem bind_closeContainer {k : Unit → Handler B}
    (goes : (k ()).Meets (inventory.audit strays) ret LeavesReleased
      (.clear (applicationHeld container.application))) :
    (closeContainer container >>= k).Meets (inventory.audit strays) ret LeavesReleased
      (.clear (containerHeld container)) :=
  bind_closing rfl rfl (fun _ => rfl) (fun _ => rfl) (by simp [Resource.parent])
    fun _ => goes

theorem opens_connectDev {cDev : CString} (named : CString.new devName = some cDev)
    (answer : ULONG × Nat) :
    opens (.vendor (.connectDev api cDev)) answer =
      if answer.1 = SAR_OK then some (.device ⟨api, devName, answer.2⟩) else none := by
  rw [← CString.new_text named]
  rfl

theorem opens_openApplication {cApp : CString} (named : CString.new appName = some cApp)
    (answer : ULONG × Nat) :
    opens (.vendor (.openApplication device cApp)) answer =
      if answer.1 = SAR_OK then some (.application ⟨device, appName, answer.2⟩) else none := by
  rw [← CString.new_text named]
  rfl

theorem opens_openContainer {contName : String} {cCont : CString}
    (named : CString.new contName = some cCont) (answer : ULONG × Nat) :
    opens (.vendor (.openContainer application cCont)) answer =
      if answer.1 = SAR_OK then some (.container ⟨application, contName, answer.2⟩) else none := by
  rw [← CString.new_text named]
  rfl

theorem bind_connectDev {k : Device → Handler B}
    (goes : ∀ device : Device,
      (k device).Meets (inventory.audit strays) ret LeavesReleased (.clear [.device device])) :
    (connectDev api provName devName id >>= k).Meets (inventory.audit strays) ret LeavesReleased
      (.clear []) := by
  rw [meets_bind, connectDev]
  refine bind_unwrap (fun cDev named => ?_) fun _ => trivial
  refine bind_opening rfl (fun _ => rfl) (by simp [uses, vendorUses]) fun connected => ?_
  obtain ⟨code, raw⟩ := connected
  rw [opens_connectDev named]
  refine meets_ite (fun connected => ?_) fun failed => ?_
  · rw [if_pos connected]
    exact goes ⟨api, devName, raw⟩
  · rw [if_neg failed]
    exact steps_noteDeviceUnavailable.bind fun _ => released_clear

theorem bind_openApp {k : Application → Handler B}
    (goes : ∀ application : Application, application.device = device → (k application).Meets
      (inventory.audit strays) ret LeavesReleased (.clear (applicationHeld application))) :
    (openApp device provName appName id >>= k).Meets (inventory.audit strays) ret LeavesReleased
      (.clear [.device device]) := by
  rw [meets_bind, openApp]
  refine bind_unwrap (fun cApp named => ?_) fun _ => trivial
  refine bind_opening rfl (fun _ => rfl) (by simp [uses, vendorUses]) fun connected => ?_
  obtain ⟨code, raw⟩ := connected
  rw [opens_openApplication named]
  refine meets_ite (fun opened => ?_) fun failed => ?_
  · rw [if_pos opened]
    exact goes ⟨device, appName, raw⟩ rfl
  · rw [if_neg failed]
    exact bind_disConnectDev (steps_noteDeviceUnavailable.bind fun _ => released_clear)

theorem ends_enumerated {query : Option ULONG → Handler Filled} {release : Handler Unit}
    {sizeFailed listFailed : String} (queries : ∀ buffer, Steps held (query buffer))
    (releases : ∀ response : RpcResponse, Ends held (release >>= fun _ => .done response)) :
    Ends held (enumerated query release sizeFailed listFailed id) := by
  refine (queries none).bind fun sized =>
    meets_ite (fun _ => ?_) fun _ => (queries _).bind fun filled => ?_
  · have released := releases (if sized.ret =
      SAR_OK then .ok (.strings []) id else .err (codeAsI32 sized.ret) sizeFailed id)
    rw [Ends, meets_bind] at released
    rw [meets_bind]
    refine released.mono (fun _ _ ended => ?_) fun _ _ left => left
    split <;> exact ended
  · have released := releases (.err 0 "" id)
    rw [Ends, meets_bind] at released
    rw [meets_bind]
    refine released.mono (fun _ _ ended => ?_) fun _ _ left => left
    split <;> exact ended

end handles

section stray

/-- The branch strayed, and it shows: the ledger was broken, or a hash is held that no call will
close. -/
def Strayed (s : Audit Resource) : Prop :=
  s.flagged = true ∧ (s.faulted = true ∨ ∃ hash, .digest hash ∈ s.held)

theorem Strayed.released {s : Audit Resource} (strayed : Strayed s) : Released s := by
  obtain ⟨flagged, faulted | ⟨hash, member⟩⟩ := strayed
  · simp [Released, flagged, faulted]
  · simp [Released, flagged, List.ne_nil_of_mem member]

/-- Nothing a symbol-table branch does afterwards mends it. -/
theorem Strayed.step {s : Audit Resource} {op : VendorOp} (strayed : Strayed s) (reply : op.Reply) :
    Strayed ((inventory.audit strays).advance s (.vendor op) reply) := by
  obtain ⟨flagged, faulted | ⟨hash, member⟩⟩ := strayed
  · exact ⟨by simp [Inventory.audit, flagged], .inl (by simp [Inventory.audit, faulted])⟩
  · refine ⟨by simp [Inventory.audit, flagged], .inr ⟨hash, List.mem_append_right _ ?_⟩⟩
    have open_still : inventory.closes (.vendor op) ≠ some (.digest hash) := by
      cases op <;> simp [inventory, closes]
    cases closing : inventory.closes (.vendor op) with
    | none => exact member
    | some r =>
      refine (List.mem_erase_of_ne ?_).mpr member
      rintro rfl
      exact open_still closing

theorem Strayed.bind {s : Audit Resource} {op : VendorOp} {k : op.Reply → Handler B}
    (strayed : Strayed s)
    (goes : ∀ reply t, Strayed t → (k reply).Meets (inventory.audit strays) ret LeavesReleased t) :
    (vendor op >>= k).Meets (inventory.audit strays) ret LeavesReleased s :=
  bind_call trivial fun reply _ => goes reply _ (strayed.step reply)

end stray

section branches

variable {ctx : SkfContext} {params : Params} {lang : Language}

theorem enumApplication : Ends [] (EnumApplication.handle ctx params lang) := by
  refine (steps_orReply _).bind fun devName =>
    steps_apiOr.bind fun api => bind_connectDev fun device => ?_
  exact ends_enumerated (fun _ => steps_vendor rfl (fun _ => rfl) (by simp [vendorUses]))
    fun response =>
    bind_disConnectDev (ends_done response)

theorem enumContainer : Ends [] (EnumContainer.handle ctx params lang) := by
  refine (steps_orReply _).bind fun devName =>
    (steps_orReply _).bind fun appName => steps_apiOr.bind fun api => ?_
  refine bind_connectDev fun device => bind_openApp fun application on => ?_
  subst on
  refine ends_enumerated (fun _ =>
    steps_vendor rfl (fun _ => rfl) (by simp [vendorUses, applicationHeld])) ?_
  intro response
  rw [bind_bind]
  exact bind_closeApplication (bind_disConnectDev (ends_done response))

theorem bind_withConnected {device : Device} {op : VendorOp} {k : op.Reply → Handler RpcResponse}
    (quiet : idle (.vendor op) = true) (unflagged : ∀ reply, strays (.vendor op) reply = false)
    (used : vendorUses op = [.device device]) (goes : ∀ reply, Ends [] (k reply)) :
    (withConnected device (vendor op) >>= k).Meets (inventory.audit strays)
      (fun _ => Released) LeavesReleased
      (.clear [.device device]) := by
  rw [meets_bind, withConnected]
  exact (steps_vendor quiet unflagged (by simp [used])).bind fun reply =>
    bind_disConnectDev (goes reply)

theorem getDevInfo : Ends [] (GetDevInfo.handle ctx params lang) := by
  refine (steps_orReply _).bind fun devName =>
    steps_apiOr.bind fun api => bind_connectDev fun device => ?_
  exact bind_withConnected rfl (fun _ => rfl) rfl fun _ =>
    meets_ite (fun _ => ends_done _) fun _ => ends_done _

theorem setLabel : Ends [] (SetLabel.handle ctx params lang) := by
  refine (steps_orReply _).bind fun devName =>
    (steps_orReply _).bind fun label => steps_apiOr.bind fun api => ?_
  refine bind_connectDev fun device => (steps_unwrap _ _).bind fun cLabel => ?_
  exact bind_withConnected rfl (fun _ => rfl) rfl fun _ => ends_done _

theorem eccVerify : Ends [] (ECCVerify.handle ctx params lang) := by
  refine (steps_orReply _).bind fun devName => (steps_orReply _).bind fun pubKeyB64 => ?_
  refine (steps_orReply _).bind fun dataB64 => (steps_orReply _).bind fun sigB64 => ?_
  refine (steps_orReply _).bind fun pubKey => (steps_orReply _).bind fun data => ?_
  refine (steps_orReply _).bind fun sig => meets_ite (fun _ => ends_reply _) fun _ => ?_
  refine meets_ite (fun _ => ends_reply _) fun _ =>
    steps_apiOr.bind fun api => bind_connectDev fun device => ?_
  exact bind_withConnected rfl (fun _ => rfl) rfl fun _ => ends_done _

theorem steps_requiredNames : Steps [] (requiredNames params) :=
  (steps_orReply _).bind fun _ => (steps_orReply _).bind fun _ => steps_done _

theorem lockDev : Ends [] (LockDev.handle ctx params lang) := by
  refine steps_requiredNames.bind fun names =>
    steps_loadedApi.bind fun api => bind_connectDev fun device => ?_
  exact bind_withConnected rfl (fun _ => rfl) rfl fun _ => ends_done _

theorem unlockDev : Ends [] (UnlockDev.handle ctx params lang) := by
  refine steps_requiredNames.bind fun names =>
    steps_loadedApi.bind fun api => bind_connectDev fun device => ?_
  exact bind_withConnected rfl (fun _ => rfl) rfl fun _ => ends_done _

theorem transmit : Ends [] (Transmit.handle ctx params lang) := by
  refine steps_requiredNames.bind fun names =>
    (steps_orReply _).bind fun cmdB64 => (steps_orReply _).bind fun cmd => ?_
  refine steps_loadedApi.bind fun api => bind_connectDev fun device => ?_
  exact bind_withConnected rfl (fun _ => rfl) rfl fun _ =>
    meets_ite (fun _ => ends_done _) fun _ => ends_done _

theorem rsaVerify : Ends [] (RSAVerify.handle ctx params lang) := by
  refine steps_requiredNames.bind fun names => (steps_orReply _).bind fun pubKeyB64 => ?_
  refine (steps_orReply _).bind fun dataB64 => (steps_orReply _).bind fun sigB64 => ?_
  refine (steps_orReply _).bind fun pubKey => meets_ite (fun _ => ends_reply _) fun _ => ?_
  refine (steps_orReply _).bind fun data =>
    (steps_orReply _).bind fun sig => steps_loadedApi.bind fun api => ?_
  refine bind_connectDev fun device => ?_
  exact bind_withConnected rfl (fun _ => rfl) rfl fun _ => ends_done _

/-- The hash of a `DigestInit` that succeeds is never closed. -/
theorem digest : Ends [] (Digest.handle ctx params lang) := by
  apply (steps_orReply _).bind
  intro provName
  apply (steps_orReply _).bind
  intro devName
  apply (steps_orReply _).bind
  intro dataB64
  apply (steps_expect _ _).bind
  intro algId
  apply (steps_orReply _).bind
  intro data
  apply steps_apiOr.bind
  intro api
  apply bind_connectDev
  intro device
  refine bind_call trivial fun reply _ => ?_
  obtain ⟨started, raw⟩ := reply
  refine meets_ite (fun ok => ?_) fun failed => ?_
  -- The digest that was started has no release in this branch, so that it is left open.
  · have strayed : Strayed ((inventory.audit strays).advance (.clear [.device device])
        (.vendor (.digestInit device algId)) (started, raw)) := by
      refine ⟨?_, .inr ⟨⟨device, raw⟩, ?_⟩⟩
      · simp [Inventory.audit, strays, ok]
      · simp [Inventory.audit, Inventory.after, inventory, opens, ok]
    refine strayed.bind fun filled t strayed => strayed.bind fun _ t strayed => ?_
    exact meets_ite (fun _ => strayed.released) fun _ => strayed.released
  · have kept : (inventory.audit strays).advance (.clear [.device device])
      (.vendor (.digestInit device algId))
        (started, raw) = .clear [.device device] := by
      refine (inventory.advance_clear strays ?_ ?_).trans ?_
      · simp [Inventory.Respects, inventory, uses, vendorUses, closes]
      · simp [strays, failed]
      · simp [Inventory.after, inventory, opens, closes, failed]
    rw [kept]
    exact bind_disConnectDev (ends_done _)

theorem steps_readKeyPair : Steps [] (KeyPairRequest.read ctx params lang) := by
  refine (steps_orReply _).bind fun devName => (steps_orReply _).bind fun appName => ?_
  refine (steps_orReply _).bind fun contName => (steps_orReply _).bind fun algStr => ?_
  refine (steps_orReply _).bind fun encKeyPairStr => (steps_expect _ _).bind fun sm4AlgId => ?_
  exact (steps_orReply _).bind fun encKeyPair => steps_done _

section keyPair

variable {request : KeyPairRequest} {application : Application} {container : Container}
  {id : Option Text.Json}

theorem ends_intoContainer :
    Ends (containerHeld container) (ImportKeyPair.intoContainer ctx request container id) := by
  have released {A : Type} {k : Unit → Handler A} {ret : A → Audit Resource → Prop}
      (ends : (k ()).Meets (inventory.audit strays) ret LeavesReleased (.clear [])) :
      ((do
        closeContainer container
        closeApplication container.application
        disConnectDev container.application.device) >>=
          k).Meets (inventory.audit strays) ret LeavesReleased
          (.clear (containerHeld container)) := by
    rw [bind_bind]
    refine bind_closeContainer ?_
    rw [bind_bind]
    exact bind_closeApplication (bind_disConnectDev ends)
  rw [ImportKeyPair.intoContainer]
  refine meets_ite (fun _ => ?_) fun _ => ?_
  · refine (steps_vendor rfl (fun _ => rfl) (by simp [vendorUses, containerHeld])).bind fun ret =>
      released ?_
    exact meets_ite (fun _ => released_clear) fun _ => released_clear
  · cases decodeBase64 ctx.platform.base64Error request.wrapKey with
    | error reason => exact released released_clear
    | ok wrapKey =>
      refine (steps_vendor rfl (fun _ => rfl) (by simp [vendorUses, containerHeld])).bind fun ret =>
        released ?_
      exact meets_ite (fun _ => released_clear) fun _ => released_clear

/-- The second close of the application is of one that is not open. -/
theorem meets_unauthorized {s : Audit Resource} (flagged : s.flagged = true)
    (held : s.held = applicationHeld application) :
    (ImportKeyPair.unauthorized application id).Meets (inventory.audit strays)
      (fun _ => Released) LeavesReleased s := by
  refine bind_call trivial fun _ _ => bind_call trivial fun _ _ => bind_call trivial fun _ _ => ?_
  refine Strayed.bind ⟨?_, .inl ?_⟩ fun _ t strayed => strayed.released
  · simp [Inventory.audit, flagged]
  · simp [Inventory.audit, Inventory.Respects, Inventory.after, inventory, opens, closes, held,
      applicationHeld]

theorem ends_intoApplication :
    Ends (applicationHeld application)
      (ImportKeyPair.intoApplication ctx request application id) := by
  refine bind_call trivial fun reply _ => ?_
  obtain ⟨now, verdict⟩ := reply
  cases verdict with
  -- The refusal closes the application and the device twice.
  | error reason =>
    refine meets_unauthorized (by simp [Inventory.audit, strays]) ?_
    simp [Inventory.audit, Inventory.after, inventory, opens, closes, Audit.clear]
  | ok live =>
    have kept : (inventory.audit strays).advance (.clear (applicationHeld application))
        (.session (.authorize ⟨request.provName, request.devName, request.appName⟩))
          (now, .ok live) =
          .clear (applicationHeld application) := by
      refine (inventory.advance_clear strays ?_ ?_).trans ?_
      · simp [Inventory.Respects, inventory, uses, closes]
      · simp [strays]
      · simp [Inventory.after, inventory, opens, closes]
    rw [kept]
    refine bind_unwrap (fun cCont named => ?_) fun _ => trivial
    refine bind_opening rfl (fun _ => rfl) (by simp [uses, vendorUses, applicationHeld])
      fun connected => ?_
    obtain ⟨code, raw⟩ := connected
    rw [opens_openContainer named]
    refine meets_ite (fun opened => ?_) fun failed => ?_
    · rw [if_pos opened]
      exact @ends_intoContainer ctx request ⟨application, request.contName, raw⟩ id
    · rw [if_neg failed]
      exact bind_closeApplication (bind_disConnectDev (ends_done _))

theorem importKeyPair : Ends [] (ImportKeyPair.handle ctx params lang) := by
  refine steps_readKeyPair.bind fun request =>
    steps_apiOr.bind fun api => bind_connectDev fun device => ?_
  exact bind_openApp fun application _ => ends_intoApplication

end keyPair

section search

open FindCertificates

variable {want : Wanted} {keyStem : String}

theorem steps_listed {query : Option ULONG → Handler Filled}
    (queries : ∀ buffer, Steps held (query buffer)) :
    Steps held (listed query) :=
  (queries none).bind fun _ => steps_ite
    ((queries _).bind fun _ => steps_ite (steps_done _) (steps_done _)) (steps_done _)

theorem steps_processCert {container : Container} {isSign : Bool} :
    Steps (containerHeld container) (processCert ctx keyStem container isSign) := by
  have exporting (buffer : Option ULONG) :
      Steps (containerHeld container) (vendor (.exportCertificate container isSign buffer)) :=
    steps_vendor rfl (fun _ => rfl) (by simp [vendorUses, containerHeld])
  refine (exporting none).bind fun sized =>
    steps_ite ((exporting _).bind fun filled => ?_) (steps_done _)
  refine steps_ite ?_ (steps_done _)
  dsimp only
  split <;> exact steps_done _

theorem steps_inContainer {application : Application} {contName : String} :
    Steps (applicationHeld application) (inContainer ctx want keyStem application contName) := by
  refine bind_unwrap (fun cCont named => ?_) fun _ => trivial
  refine bind_opening rfl (fun _ => rfl) (by simp [uses, vendorUses, applicationHeld])
    fun connected => ?_
  obtain ⟨code, raw⟩ := connected
  rw [opens_openContainer named]
  refine meets_ite (fun opened => ?_) fun failed => ?_
  · rw [if_pos opened]
    have closed (found : List Text.Json) :
        (closeContainer ⟨application, contName, raw⟩ >>= fun _ => pure found).Meets
        (inventory.audit strays) (fun _ s => s = .clear (applicationHeld application))
          LeavesReleased
        (.clear (containerHeld ⟨application, contName, raw⟩)) := bind_closeContainer rfl
    refine meets_ite (fun _ => steps_processCert.bind fun sign => ?_) fun _ => ?_
    · exact meets_ite (fun _ => steps_processCert.bind fun enc => closed _) fun _ => closed _
    · exact meets_ite (fun _ => steps_processCert.bind fun enc => closed _) fun _ => closed _
  · rw [if_neg failed]
    exact steps_done _

theorem steps_inApplication {device : Device} {appName : String} :
    Steps [.device device] (inApplication ctx want keyStem device appName) := by
  refine bind_unwrap (fun cApp named => ?_) fun _ => trivial
  refine bind_opening rfl (fun _ => rfl) (by simp [uses, vendorUses]) fun connected => ?_
  obtain ⟨code, raw⟩ := connected
  rw [opens_openApplication named]
  refine meets_ite (fun opened => ?_) fun failed => ?_
  · rw [if_pos opened]
    refine Steps.bind
      (steps_listed fun _ => steps_vendor rfl (fun _ => rfl) (by simp [vendorUses]))
        fun contNames => ?_
    refine (steps_collect fun _ => steps_inContainer).bind fun found => ?_
    exact @bind_closeApplication _ _ ⟨device, appName, raw⟩ _ rfl
  · rw [if_neg failed]
    exact steps_done _

theorem steps_inDevice {api : Library} {provName devName : String} :
    Steps [] (inDevice ctx want api provName devName) := by
  refine bind_unwrap (fun cDev named => ?_) fun _ => trivial
  refine bind_opening rfl (fun _ => rfl) (by simp [uses, vendorUses]) fun connected => ?_
  obtain ⟨code, raw⟩ := connected
  rw [opens_connectDev named]
  refine meets_ite (fun connected => ?_) fun failed => ?_
  · rw [if_pos connected]
    refine Steps.bind (steps_listed fun _ => steps_vendor rfl (fun _ => rfl) (by simp [vendorUses]))
      fun appNames => ?_
    refine (steps_collect fun _ => steps_inApplication).bind fun found => ?_
    exact bind_disConnectDev rfl
  · rw [if_neg failed]
    exact steps_done _

theorem steps_inProvider {provName : String} : Steps [] (inProvider ctx want provName) := by
  refine (meets_bind _ _).mpr ((unwatched fun _ _ => rfl).meets_getApi (fun _ => steps_done _) ?_)
  refine (steps_listed fun _ => steps_vendor rfl (fun _ => rfl) (by simp [vendorUses])).bind
    fun devNames => ?_
  exact steps_collect fun _ => steps_inDevice

theorem findCertificates : Ends [] (FindCertificates.handle ctx params) :=
  (steps_collect fun _ => steps_inProvider).bind fun _ => ends_done _

end search

end branches

end Custody

def Method.closesByHand : Method → Bool
  | .EnumApplication | .EnumContainer | .ImportKeyPair | .FindCertificates | .Digest | .GetDevInfo
  | .SetLabel | .ECCVerify | .RSAVerify | .LockDev | .UnlockDev | .Transmit => true
  | _ => false

theorem Custody.ends_branch {ctx : SkfContext} {params : Params} {lang : Language} {method : Method}
    (byHand : method.closesByHand = true) : Ends [] (method.branch ctx params lang) := by
  cases method with
  | EnumApplication => exact enumApplication
  | EnumContainer => exact enumContainer
  | ImportKeyPair => exact importKeyPair
  | FindCertificates => exact findCertificates
  | Digest => exact digest
  | GetDevInfo => exact getDevInfo
  | SetLabel => exact setLabel
  | ECCVerify => exact eccVerify
  | RSAVerify => exact rsaVerify
  | LockDev => exact lockDev
  | UnlockDev => exact unlockDev
  | Transmit => exact transmit
  | _ => cases byHand

end SkfService
