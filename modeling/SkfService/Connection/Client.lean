import SkfService.Connection.HandleEffects

/-! Handles as the client of a connection knows them: what it was told and has not given back. -/

set_option autoImplicit false

namespace SkfService

open Interaction HandleTable

def toldBy (response : RpcResponse) : Method → Option String
  | .ConnectDev => response.result.asStr
  | .DigestInit => (response.result.member "handle").bind Text.Json.asStr
  | _ => none

/-- The handles a client holds: told by `ConnectDev` and not disconnected, told by `DigestInit` and
neither finalised nor closed. -/
structure Client where
  devices : List String
  digests : List String

namespace Client

def new : Client := ⟨[], []⟩

def hear (client : Client) (params : Params) (response : RpcResponse) (method : Method) : Client :=
  match method with
  | .ConnectDev => { client with devices := (toldBy response .ConnectDev).toList ++ client.devices }
  | .DigestInit => { client with digests := (toldBy response .DigestInit).toList ++ client.digests }
  | .DisConnectDev =>
    { client with devices := client.devices.filter fun held => params.str 0 ≠ some held }
  | .DigestFinal | .CloseHash =>
    { client with digests := client.digests.filter fun held => params.str 0 ≠ some held }
  | _ => client

def after (ctx : SkfContext) (client : Client) : Turn → Client
  | .answered text _ response =>
    match reached ctx text with
    | some (method, params) => if response.isErr then client else client.hear params response method
    | none => client
  | .timedOut _ _ | .failed _ _ _ => client

def Owns (client : Client) (handle : String) : Method → Prop
  | .DisConnectDev | .GenerateRandom => handle ∈ client.devices
  | .DigestUpdate | .DigestFinal | .CloseHash => handle ∈ client.digests
  | _ => False

end Client

def clientOf (ctx : SkfContext) (turns : List Turn) : Client := turns.foldl (Client.after ctx) .new

def Turn.told (ctx : SkfContext) : Turn → Option String
  | .answered text _ response =>
    match reached ctx text with
    | some (method, _) => if response.isErr then none else toldBy response method
    | none => none
  | .timedOut _ _ | .failed _ _ _ => none

def told (ctx : SkfContext) (turns : List Turn) : List String := turns.filterMap (Turn.told ctx)

/-- `DigestInit` keeps its device under the number after the one it answers with. -/
def IsHidden (ctx : SkfContext) (turns : List Turn) (handle : String) : Prop :=
  ∃ n : UInt64, ResourceKind.Digest.stem ++ "-" ++ Text.decimal n.toNat ∈ told ctx turns ∧
    handle = ResourceKind.Device.stem ++ "-" ++ Text.decimal (n + 1).toNat

def HandleTable.Resolves (table : HandleTable) (handle : String) : Method → Prop
  | .DisConnectDev | .GenerateRandom => ∃ guard, table.device handle = .ok guard
  | .DigestUpdate | .DigestFinal | .CloseHash => ∃ guard, table.digest handle = .ok guard
  | _ => False

theorem toldBy_begun (handle : String) (id : Option Text.Json) :
    toldBy (.ok (.ofFields [("handle", .string handle)]) id) .DigestInit = some handle := rfl

section views

variable {ctx : SkfContext} {turns : List Turn} {text : String} {trace : List (Event Skf)}
  {response : RpcResponse} {method : Method} {params : Params}

theorem clientOf_append (turn : Turn) :
    clientOf ctx (turns ++ [turn]) = (clientOf ctx turns).after ctx turn := by
  simp [clientOf]

theorem told_append (turn : Turn) :
    told ctx (turns ++ [turn]) = told ctx turns ++ (turn.told ctx).toList := by
  cases spoken : turn.told ctx <;> simp [told, spoken]

theorem IsHidden.later {handle : String} {turn : Turn} (hidden : IsHidden ctx turns handle) :
    IsHidden ctx (turns ++ [turn]) handle := by
  obtain ⟨n, spoken, named⟩ := hidden
  exact ⟨n, by rw [told_append]; exact List.mem_append_left _ spoken, named⟩

theorem after_unreached (client : Client) (nowhere : reached ctx text = none) :
    client.after ctx (.answered text trace response) = client := by
  simp only [Client.after, nowhere]

theorem after_isErr (client : Client) (failed : response.isErr = true) :
    client.after ctx (.answered text trace response) = client := by
  simp only [Client.after, failed, if_true]
  split <;> rfl

theorem after_reached (client : Client) (there : reached ctx text = some (method, params))
    (succeeded : response.isErr = false) :
    client.after ctx (.answered text trace response) = client.hear params response method := by
  simp [Client.after, there, succeeded]

theorem told_reached (there : reached ctx text = some (method, params))
    (succeeded : response.isErr = false) :
    (Turn.answered text trace response).told ctx = toldBy response method := by
  simp [Turn.told, there, succeeded]

/-- Drawing random bytes and feeding a digest, well or not, are nothing to the client. -/
theorem after_kept (client : Client) (there : reached ctx text = some (method, params))
    (kept : client.hear params response method = client) :
    client.after ctx (.answered text trace response) = client := by
  cases failed : response.isErr with
  | true => exact after_isErr client failed
  | false => rw [after_reached client there failed, kept]

/-- A turn that is silent about handles leaves the client as it was. -/
theorem after_nothing (client : Client) (there : reached ctx text = some (method, params))
    (refused : method.takesHandle = true → response.isErr = true)
    (untold : method.givesHandle = true → response.isErr = true) :
    client.after ctx (.answered text trace response) = client := by
  cases failed : response.isErr with
  | true => exact after_isErr client failed
  | false =>
    rw [after_reached client there failed]
    cases method with
    | ConnectDev | DigestInit => exact absurd (untold rfl) (by simp [failed])
    | DisConnectDev | DigestFinal | CloseHash => exact absurd (refused rfl) (by simp [failed])
    | _ => rfl

end views

/-- Everything the table holds was told, but for the devices that digests keep. -/
structure Sees (ctx : SkfContext) (turns : List Turn) (table : HandleTable) : Prop where
  devices : ∀ handle ∈ table.devices,
    handle ∈ (clientOf ctx turns).devices ∨ IsHidden ctx turns handle
  digests : ∀ handle ∈ table.digests, handle ∈ (clientOf ctx turns).digests

section sees

variable {ctx : SkfContext} {ttl : Duration} {turns : List Turn} {before line after : Line}
  {text : String} {trace : List (Event Skf)} {response : RpcResponse} {method : Method}
  {params : Params}

theorem sees_start : Sees ctx [] (Line.new ttl).state.handles :=
  ⟨fun _ member => absurd member (AList.notMem_empty _), fun _ member =>
    absurd member (AList.notMem_empty _)⟩

theorem Sees.unchanged {table : HandleTable} {turn : Turn} (sees : Sees ctx turns table)
    (client : (clientOf ctx turns).after ctx turn = clientOf ctx turns) :
    Sees ctx (turns ++ [turn]) table := by
  constructor
  · intro handle member
    rw [clientOf_append, client]
    exact (sees.devices handle member).imp_right IsHidden.later
  · intro handle member
    rw [clientOf_append, client]
    exact sees.digests handle member

theorem Sees.connected {table : HandleTable} {turn : Turn} (sees : Sees ctx turns table)
    (guard : Device)
    (client : clientOf ctx (turns ++ [turn]) =
      ⟨table.mint .Device :: (clientOf ctx turns).devices, (clientOf ctx turns).digests⟩) :
    Sees ctx (turns ++ [turn]) (table.issueDevice guard).1 := by
  constructor
  · intro handle member
    rw [client]
    rcases (AList.mem_insert _).mp member with rfl | held
    · exact .inl List.mem_cons_self
    · exact (sees.devices handle held).imp (List.mem_cons_of_mem _) IsHidden.later
  · intro handle member
    rw [client]
    exact sees.digests handle member

/-- The device of a digest is behind the handle that the turn tells. -/
theorem Sees.begun {table : HandleTable} {turn : Turn} (sees : Sees ctx turns table)
    (guard : Digest) (spoken : turn.told ctx = some (table.mint .Digest))
    (client : clientOf ctx (turns ++ [turn]) =
      ⟨(clientOf ctx turns).devices, table.mint .Digest :: (clientOf ctx turns).digests⟩) :
    Sees ctx (turns ++ [turn]) ((table.issueDigest guard).1.issueDevice guard.device).1 := by
  constructor
  · intro handle member
    rw [client]
    rcases (AList.mem_insert _).mp member with rfl | held
    · refine .inr ⟨table.nextId + 1, ?_, rfl⟩
      rw [told_append, spoken]
      exact List.mem_append_right _ (List.mem_singleton_self _)
    · exact (sees.devices handle held).imp_right IsHidden.later
  · intro handle member
    rw [client]
    rcases (AList.mem_insert _).mp member with rfl | held
    · exact List.mem_cons_self
    · exact List.mem_cons_of_mem _ (sees.digests handle held)

theorem Sees.disconnected {table : HandleTable} {turn : Turn} {gone : String} {guard : Device}
    (sees : Sees ctx turns table) (held : (table.removeDevice gone).2 = .ok guard)
    (devices : ∀ handle ∈ (clientOf ctx turns).devices, handle ≠ gone →
      handle ∈ (clientOf ctx (turns ++ [turn])).devices)
    (digests : (clientOf ctx (turns ++ [turn])).digests = (clientOf ctx turns).digests) :
    Sees ctx (turns ++ [turn]) (table.removeDevice gone).1 := by
  obtain ⟨-, left, same, -⟩ := removeDevice_ok held
  constructor
  · intro handle member
    rw [left, AList.mem_erase] at member
    exact (sees.devices handle member.2).imp (devices handle · member.1) IsHidden.later
  · intro handle member
    rw [same] at member
    rw [digests]
    exact sees.digests handle member

theorem Sees.ended {table : HandleTable} {turn : Turn} {gone : String} {guard : Digest}
    (sees : Sees ctx turns table) (held : (table.removeDigest gone).2 = .ok guard)
    (devices : (clientOf ctx (turns ++ [turn])).devices = (clientOf ctx turns).devices)
    (digests : ∀ handle ∈ (clientOf ctx turns).digests, handle ≠ gone →
      handle ∈ (clientOf ctx (turns ++ [turn])).digests) :
    Sees ctx (turns ++ [turn]) (table.removeDigest gone).1 := by
  obtain ⟨-, left, same, -⟩ := removeDigest_ok held
  constructor
  · intro handle member
    rw [same] at member
    rw [devices]
    exact (sees.devices handle member).imp_right IsHidden.later
  · intro handle member
    rw [left, AList.mem_erase] at member
    exact digests handle (sees.digests handle member.2) member.1

/-- The request names the handle that it gives up, and the client keeps every other one. -/
theorem mem_filter_named {held : List String} {gone handle : String}
    (named : params.str 0 = some gone) (member : handle ∈ held) (other : handle ≠ gone) :
    handle ∈ held.filter fun h => params.str 0 ≠ some h := by
  refine List.mem_filter.mpr ⟨member, decide_eq_true ?_⟩
  rw [named]
  exact fun same => other (Option.some.inj same).symm

theorem Sees.step (sees : Sees ctx turns before.state.handles)
    (exchange : Exchange ctx before text trace response after) :
    Sees ctx (turns ++ [.answered text trace response]) after.state.handles := by
  cases there : reached ctx text with
  | none =>
    obtain ⟨rfl, -⟩ := exchange.unreached there
    exact sees.unchanged (after_unreached _ there)
  | some found =>
    obtain ⟨method, params⟩ := found
    have touched := exchange.touched there
    generalize after.state.handles = handles at touched ⊢
    cases touched with
    | nothing refused untold =>
      exact sees.unchanged (after_nothing _ there (fun takes => (refused takes).2) untold)
    | drawn named held | fed named held => exact sees.unchanged (after_kept _ there rfl)
    | connected guard =>
      apply sees.connected guard
      rw [clientOf_append, after_reached _ there rfl]
      rfl
    | begun guard =>
      apply sees.begun guard
      · rw [told_reached there rfl, toldBy_begun]
        rfl
      · rw [clientOf_append, after_reached _ there rfl]
        simp [Client.hear, toldBy_begun]
    | disconnected named held =>
      apply sees.disconnected held
      · intro handle told other
        rw [clientOf_append, after_reached _ there rfl]
        exact mem_filter_named named told other
      · rw [clientOf_append, after_reached _ there rfl]
        rfl
    | ended ending named held =>
      -- A finalisation that fails is not heard, but the session has given the digest up.
      cases failed : response.isErr with
      | true =>
        have deaf : (clientOf ctx turns).after ctx (.answered text trace response) =
            clientOf ctx turns :=
          after_isErr _ failed
        apply sees.ended held
        · rw [clientOf_append, deaf]
        · intro handle told other
          rwa [clientOf_append, deaf]
      | false =>
        apply sees.ended held
        · rw [clientOf_append, after_reached _ there failed]
          rcases ending with rfl | rfl <;> rfl
        · intro handle told other
          rw [clientOf_append, after_reached _ there failed]
          rcases ending with rfl | rfl <;> exact mem_filter_named named told other

/-- In a run without a reset, the table holds nothing but what was told and what digests keep. -/
theorem sees_conversation (conversation : Conversation ctx ttl (.new ttl) turns line)
    (unbroken : ∀ turn ∈ turns, turn.resets = false) : Sees ctx turns line.state.handles := by
  induction conversation with
  | start => exact sees_start
  | @next turns turn line after earlier step ih =>
    have sees := ih fun turn member => unbroken turn (List.mem_append_left _ member)
    cases step with
    | answered exchange => exact sees.step exchange
    | timedOut => cases unbroken _ (List.mem_append_right _ (List.mem_singleton.mpr rfl))
    | failed => cases unbroken _ (List.mem_append_right _ (List.mem_singleton.mpr rfl))

/-- A handle the client does not hold resolves to nothing, is answered with an error and changes no
handle, unless a digest keeps its device under it. -/
theorem untold_handle_refused {handle : String}
    (conversation : Conversation ctx ttl (.new ttl) turns line)
    (unbroken : ∀ turn ∈ turns, turn.resets = false)
    (exchange : Exchange ctx line text trace response after)
    (there : reached ctx text = some (method, params)) (takes : method.takesHandle = true)
    (named : params.str 0 = some handle) (visible : ¬IsHidden ctx turns handle)
    (untold : ¬(clientOf ctx turns).Owns handle method) :
    ¬line.state.handles.Resolves handle method ∧ response.error ≠ 0 ∧
      after.state.handles = line.state.handles := by
  have sees := sees_conversation conversation unbroken
  -- A device that is held and not hidden is one that the client holds.
  have unheld : handle ∈ line.state.handles.devices → handle ∈ (clientOf ctx turns).devices :=
    fun member => (sees.devices handle member).resolve_right visible
  have unresolved : ¬line.state.handles.Resolves handle method := by
    intro resolves
    cases method with
    | DisConnectDev | GenerateRandom =>
      obtain ⟨guard, found⟩ := resolves
      exact untold (unheld (mem_of_device found))
    | DigestUpdate | DigestFinal | CloseHash =>
      obtain ⟨guard, found⟩ := resolves
      exact untold (sees.digests handle (mem_of_digest found))
    | _ => exact resolves
  refine ⟨unresolved, ?_⟩
  have touched := exchange.touched there
  generalize after.state.handles = handles at touched ⊢
  cases touched with
  | nothing refused => exact ⟨(refused takes).1, rfl⟩
  | connected | begun => cases takes
  | drawn spelled held =>
    obtain rfl : _ = handle := Option.some.inj (spelled.symm.trans named)
    exact absurd ⟨_, held⟩ unresolved
  | fed spelled held =>
    obtain rfl : _ = handle := Option.some.inj (spelled.symm.trans named)
    exact absurd ⟨_, held⟩ unresolved
  | disconnected spelled held =>
    obtain rfl : _ = handle := Option.some.inj (spelled.symm.trans named)
    exact absurd (unheld (removeDevice_ok held).1) untold
  | ended ending spelled held =>
    obtain rfl : _ = handle := Option.some.inj (spelled.symm.trans named)
    have member := sees.digests _ (removeDigest_ok held).1
    rcases ending with rfl | rfl
    · exact absurd member untold
    · exact absurd member untold

end sees

section hidden

/-- `DigestInit` on `K1`, and `DisConnectDev` of a handle that no response ever carried. -/
def digestText : String :=
  "\x7b\"method\":\"DigestInit\",\"params\":[\"GM3000\",\"K1\"],\"id\":1\x7d"

def disconnectText : String :=
  "\x7b\"method\":\"DisConnectDev\",\"params\":[\"dev-2\"],\"id\":2\x7d"

def hiddenContext : SkfContext :=
  .serving [(digestText,
    ⟨"DigestInit", [.string "GM3000", .string "K1"], some (.number (.unsigned 1)), none⟩),
    (disconnectText, ⟨"DisConnectDev", [.string "dev-2"], some (.number (.unsigned 2)), none⟩)]

def digestDevice : Device := ⟨⟨"GM3000", some 0⟩, "K1", 7⟩

def digestTrace : List (Event Skf) :=
  [⟨.provider (.openDevice ⟨"GM3000", some 0⟩ "K1"), some (.ok 7)⟩,
    ⟨.provider (.beginDigest digestDevice SGD_SM3 []), some (.ok 8)⟩,
    ⟨.session (.issueDigest ⟨digestDevice, 8⟩), "hsh-1"⟩,
    ⟨.session (.issueDevice digestDevice), "dev-2"⟩]

def digestResponse : RpcResponse :=
  .ok (.ofFields [("handle", .string "hsh-1")]) (some (.number (.unsigned 1)))

def digestLine : Line := ⟨(tracked (2 ^ 63)).follow (.new 100) digestTrace, .EN⟩

theorem mint_digest : HandleTable.new.mint .Digest = "hsh-1" := by decide

theorem mint_behind : (HandleTable.new.issueDigest ⟨digestDevice, 8⟩).1.mint .Device = "dev-2" := by
  decide

theorem digested : Conversation hiddenContext 100 (.new 100)
    [.answered digestText digestTrace digestResponse] digestLine :=
  .next .start (.answered ⟨.step _ (.step _ (.step _ (.step _ (.refl _)))),
    ⟨trivial, trivial, mint_digest, mint_behind, trivial⟩, rfl⟩)

def closeText : String := "\x7b\"method\":\"CloseHash\",\"params\":[\"hsh-1\"],\"id\":3\x7d"

/-- Names a device that is neither told nor behind the digest. -/
def strayText : String := "\x7b\"method\":\"DisConnectDev\",\"params\":[\"dev-9\"],\"id\":4\x7d"

def closingContext : SkfContext :=
  .serving [(digestText,
    ⟨"DigestInit", [.string "GM3000", .string "K1"], some (.number (.unsigned 1)), none⟩),
    (closeText, ⟨"CloseHash", [.string "hsh-1"], some (.number (.unsigned 3)), none⟩),
    (strayText, ⟨"DisConnectDev", [.string "dev-9"], some (.number (.unsigned 4)), none⟩)]

def closeTrace : List (Event Skf) :=
  [⟨.session (.removeDigest "hsh-1"), .ok ⟨digestDevice, 8⟩⟩,
    ⟨.provider (.close (.digest ⟨digestDevice, 8⟩)), ()⟩]

def closedLine : Line := ⟨(tracked (2 ^ 63)).follow digestLine.state closeTrace, .EN⟩

def givenBack : List Turn :=
  [.answered digestText digestTrace digestResponse,
    .answered closeText closeTrace (.ok (.bool true) (some (.number (.unsigned 3))))]

theorem handed_back : Conversation closingContext 100 (.new 100) givenBack closedLine := by
  have begun :
      Exchange closingContext (.new 100) digestText digestTrace digestResponse digestLine :=
    ⟨.step _ (.step _ (.step _ (.step _ (.refl _)))),
      ⟨trivial, trivial, mint_digest, mint_behind, trivial⟩, rfl⟩
  have closed : Exchange closingContext digestLine closeText closeTrace
      (.ok (.bool true) (some (.number (.unsigned 3)))) closedLine :=
    ⟨.step _ (.step _ (.refl _)), ⟨rfl, trivial, trivial⟩, rfl⟩
  exact .next (.next .start (.answered begun)) (.answered closed)

theorem hidden_givenBack {handle : String} (hidden : IsHidden closingContext givenBack handle) :
    handle = "dev-2" := by
  obtain ⟨n, spoken, rfl⟩ := hidden
  have numbered : ResourceKind.Digest.stem ++ "-" ++ Text.decimal n.toNat =
      ResourceKind.Digest.stem ++ "-" ++ Text.decimal 1 := List.mem_singleton.mp spoken
  have one : n = 1 := UInt64.toNat_inj.mp (mint_injective numbered).2
  rw [one]
  decide

/-- The handle that was given back is refused, and so is one that was never told. -/
theorem untold_handle_refused_closed :
    (invalidHashHandle (some (.number (.unsigned 3)))).error ≠ 0 ∧
      ¬closedLine.state.handles.Resolves "hsh-1" .CloseHash ∧
        ¬closedLine.state.handles.Resolves "dev-9" .DisConnectDev := by
  have whole : ∀ turn ∈ givenBack, turn.resets = false := by simp [givenBack, Turn.resets]
  have again : Exchange closingContext closedLine closeText
      [⟨.session (.removeDigest "hsh-1"), .error .Unknown⟩]
        (invalidHashHandle (some (.number (.unsigned 3)))) closedLine :=
    ⟨.step _ (.refl _), ⟨rfl, trivial⟩, rfl⟩
  have stray : Exchange closingContext closedLine strayText
      [⟨.session (.removeDevice "dev-9"), .error .Unknown⟩]
        (invalidHandle (some (.number (.unsigned 4)))) closedLine :=
    ⟨.step _ (.refl _), ⟨rfl, trivial⟩, rfl⟩
  have released : (clientOf closingContext givenBack).digests = [] := rfl
  have unopened : (clientOf closingContext givenBack).devices = [] := rfl
  have refused :=
    @untold_handle_refused closingContext 100 givenBack closedLine closedLine closeText _ _
      .CloseHash
    ⟨[.string "hsh-1"], some (.number (.unsigned 3))⟩ "hsh-1" handed_back whole again rfl rfl rfl
    (fun hidden => absurd (hidden_givenBack hidden) (by decide)) (by simp [Client.Owns, released])
  have unknown :=
    @untold_handle_refused closingContext 100 givenBack closedLine closedLine strayText _ _
      .DisConnectDev
    ⟨[.string "dev-9"], some (.number (.unsigned 4))⟩ "dev-9" handed_back whole stray rfl rfl rfl
    (fun hidden => absurd (hidden_givenBack hidden) (by decide)) (by simp [Client.Owns, unopened])
  exact ⟨refused.2.1, refused.1, unknown.1⟩

/-- `DisConnectDev` acts on the handle under which `DigestInit` keeps its device; the client was
told only `hsh-1`. -/
theorem hidden_handle_accepted :
    Conversation hiddenContext 100 (.new 100)
      [.answered digestText digestTrace digestResponse] digestLine ∧
      ¬(clientOf hiddenContext [.answered digestText digestTrace digestResponse]).Owns "dev-2"
        .DisConnectDev ∧
      ∃ trace after, Exchange hiddenContext digestLine disconnectText trace
          (.ok (.bool true) (some (.number (.unsigned 2)))) after ∧
        after.state.handles.devices.keys = [] := by
  refine ⟨digested, ?_, [⟨.session (.removeDevice "dev-2"), .ok digestDevice⟩,
    ⟨.provider (.close (.device digestDevice)), ()⟩],
    ⟨(digestLine.state.handles.removeDevice "dev-2").1 |> (⟨digestLine.state.auth, ·⟩), .EN⟩,
    ⟨.step _ (.step _ (.refl _)), ⟨?_, trivial, trivial⟩, rfl⟩, ?_⟩
  · intro owned
    have none : (clientOf hiddenContext [.answered digestText digestTrace digestResponse]).devices =
        [] := rfl
    rw [Client.Owns, none] at owned
    cases owned
  · rfl
  · rfl

end hidden

end SkfService
