import SkfService.Connection.Client

/-! How many devices a session holds open for the handles its client holds. -/

set_option autoImplicit false

namespace SkfService

open Interaction HandleTable

/-- No request disconnects a device that a digest keeps, and none ends a digest the client holds. -/
def Undisturbed (ctx : SkfContext) (turns : List Turn) : Prop :=
  ∀ front turn back, turns = front ++ turn :: back → ∀ method params handle,
    reached ctx turn.text = some (method, params) → params.str 0 = some handle →
      (method = .DisConnectDev → ¬IsHidden ctx front handle) ∧
        (method = .DigestFinal ∨ method = .CloseHash → handle ∉ (clientOf ctx front).digests)

def IssuedBy (n : UInt64) (handle : String) : Prop :=
  ∃ m ≤ n.toNat, handle = ResourceKind.Device.stem ++ "-" ++ Text.decimal m

/-- The books of a session: what it holds agrees with what its client holds. -/
structure Accounts (ctx : SkfContext) (turns : List Turn) (table : HandleTable) : Prop where
  sees : Sees ctx turns table
  counted : table.nextId.toNat ≤ 2 * turns.length
  minted : ∀ handle ∈ table.devices, IssuedBy table.nextId handle
  told : ∀ handle ∈ (clientOf ctx turns).devices, IssuedBy table.nextId handle
  distinct : (clientOf ctx turns).devices.Nodup
  balanced : table.devices.keys.length =
    (clientOf ctx turns).devices.length + (clientOf ctx turns).digests.length

section accounts

variable {ctx : SkfContext} {ttl : Duration} {turns : List Turn} {before line after : Line}
  {text : String} {trace : List (Event Skf)} {response : RpcResponse}

theorem IssuedBy.later {n m : UInt64} {handle : String} (issued : IssuedBy n handle)
    (grown : n.toNat ≤ m.toNat) :
    IssuedBy m handle := by
  obtain ⟨k, bound, same⟩ := issued
  exact ⟨k, bound.trans grown, same⟩

/-- A counter that does not wrap mints a handle that was not issued before. -/
theorem mint_fresh {table : HandleTable} (room : table.nextId.toNat + 1 < 2 ^ 64) {handle : String}
    (issued : IssuedBy table.nextId handle) : handle ≠ table.mint .Device := by
  obtain ⟨k, bound, rfl⟩ := issued
  intro same
  have numbers := (mint_injective same).2
  rw [UInt64.toNat_add] at numbers
  simp only [UInt64.toNat_one] at numbers
  omega

theorem toNat_succ {n : UInt64} (room : n.toNat + 1 < 2 ^ 64) : (n + 1).toNat = n.toNat + 1 := by
  rw [UInt64.toNat_add, UInt64.toNat_one, Nat.mod_eq_of_lt room]

theorem accounts_start : Accounts ctx [] (Line.new ttl).state.handles where
  sees := sees_start
  counted := Nat.le_refl _
  minted _ member := absurd member (AList.notMem_empty _)
  told _ member := by cases member
  distinct := List.nodup_nil
  balanced := rfl

/-- Keeping a device under a fresh handle adds one. -/
theorem keys_insert_fresh {table : Table Device} {handle : String} {guard : Device}
    (fresh : handle ∉ table) :
    (table.insert handle guard).keys.length = table.keys.length + 1 := by
  rw [AList.keys_insert, List.erase_of_not_mem (by rwa [← AList.mem_keys]), List.length_cons]

theorem filter_held {held : List String} {named : Option String} {handle : String}
    (same : named = some handle) (distinct : held.Nodup) :
    held.filter (fun other => named ≠ some other) = held.erase handle := by
  rw [distinct.erase_eq_filter]
  refine List.filter_congr fun other _ => ?_
  simp [same, eq_comm, bne, BEq.beq]

theorem Accounts.unchanged {table : HandleTable} {turn : Turn} (accounts : Accounts ctx turns table)
    (client : (clientOf ctx turns).after ctx turn = clientOf ctx turns) :
    Accounts ctx (turns ++ [turn]) table := by
  have kept : clientOf ctx (turns ++ [turn]) = clientOf ctx turns := by rw [clientOf_append, client]
  have counted := accounts.counted
  refine ⟨accounts.sees.unchanged client, ?_, accounts.minted, ?_, ?_, ?_⟩
  · rw [List.length_append]
    omega
  · simpa only [kept] using accounts.told
  · simpa only [kept] using accounts.distinct
  · simpa only [kept] using accounts.balanced

theorem Accounts.connected {table : HandleTable} {turn : Turn} (accounts : Accounts ctx turns table)
    (room : 2 * (turns.length + 1) < 2 ^ 64) (guard : Device)
    (client : clientOf ctx (turns ++ [turn]) =
      ⟨table.mint .Device :: (clientOf ctx turns).devices, (clientOf ctx turns).digests⟩) :
    Accounts ctx (turns ++ [turn]) (table.issueDevice guard).1 := by
  have counted := accounts.counted
  -- The number is fresh, for the counter lies above every number issued.
  have mints : table.mint .Device ∉ table.devices :=
    fun member => mint_fresh (by omega) (accounts.minted _ member) rfl
  have grown : table.nextId.toNat ≤ (table.nextId + 1).toNat := by
    rw [toNat_succ (by omega)]
    omega
  have latest : IssuedBy (table.nextId + 1) (table.mint .Device) := ⟨_, Nat.le_refl _, rfl⟩
  refine ⟨accounts.sees.connected guard client, ?_, ?_, ?_, ?_, ?_⟩
  · rw [issueDevice_nextId, toNat_succ (by omega), List.length_append, List.length_singleton]
    omega
  · intro handle member
    rcases (AList.mem_insert _).mp member with rfl | held
    · exact latest
    · exact (accounts.minted handle held).later grown
  · intro handle member
    rw [client] at member
    rcases List.mem_cons.mp member with rfl | held
    · exact latest
    · exact (accounts.told handle held).later grown
  · rw [client]
    exact List.nodup_cons.mpr ⟨fun member =>
      mint_fresh (by omega) (accounts.told _ member) rfl, accounts.distinct⟩
  · rw [client, issueDevice_devices, keys_insert_fresh mints, accounts.balanced]
    simp only [List.length_cons]
    omega

/-- A digest takes two numbers, and its device stands for the digest that the client holds. -/
theorem Accounts.begun {table : HandleTable} {turn : Turn} (accounts : Accounts ctx turns table)
    (room : 2 * (turns.length + 1) < 2 ^ 64) (guard : Digest)
    (spoken : turn.told ctx = some (table.mint .Digest))
    (client : clientOf ctx (turns ++ [turn]) =
      ⟨(clientOf ctx turns).devices, table.mint .Digest :: (clientOf ctx turns).digests⟩) :
    Accounts ctx (turns ++ [turn]) ((table.issueDigest guard).1.issueDevice guard.device).1 := by
  have counted := accounts.counted
  have first : (table.issueDigest guard).1.nextId.toNat = table.nextId.toNat + 1 :=
    toNat_succ (by omega)
  have second : ((table.issueDigest guard).1.issueDevice guard.device).1.nextId.toNat =
      table.nextId.toNat + 2 := by
    rw [issueDevice_nextId, toNat_succ (by omega), first]
  have grown : table.nextId.toNat ≤
      ((table.issueDigest guard).1.issueDevice guard.device).1.nextId.toNat := by
    omega
  -- The device gets a handle of its own, which the client is never told.
  have fresh : (table.issueDigest guard).1.mint .Device ∉ (table.issueDigest guard).1.devices := by
    intro member
    refine mint_fresh (by rw [first]; omega) ?_ rfl
    exact (accounts.minted _ member).later (by rw [first]; omega)
  refine ⟨accounts.sees.begun guard spoken client, ?_, ?_, ?_, ?_, ?_⟩
  · rw [second, List.length_append, List.length_singleton]
    omega
  · intro handle member
    rcases (AList.mem_insert _).mp member with rfl | held
    · exact ⟨_, Nat.le_refl _, rfl⟩
    · exact (accounts.minted handle held).later grown
  · intro handle member
    rw [client] at member
    exact (accounts.told handle member).later grown
  · rw [client]
    exact accounts.distinct
  · rw [client, issueDevice_devices, keys_insert_fresh fresh, issueDigest_devices,
      accounts.balanced]
    simp only [List.length_cons]
    omega

theorem Accounts.disconnected {table : HandleTable} {turn : Turn} {gone : String} {guard : Device}
    (accounts : Accounts ctx turns table) (held : (table.removeDevice gone).2 = .ok guard)
    (owned : gone ∈ (clientOf ctx turns).devices)
    (client : clientOf ctx (turns ++ [turn]) =
      ⟨(clientOf ctx turns).devices.erase gone, (clientOf ctx turns).digests⟩) :
    Accounts ctx (turns ++ [turn]) (table.removeDevice gone).1 := by
  obtain ⟨member, devices, digests, nextId⟩ := removeDevice_ok held
  have counted := accounts.counted
  refine ⟨accounts.sees.disconnected held ?_ ?_, ?_, ?_, ?_, ?_, ?_⟩
  · intro handle told other
    rw [client]
    exact (List.mem_erase_of_ne other).mpr told
  · rw [client]
  · rw [nextId, List.length_append]
    omega
  · intro handle still
    rw [devices, AList.mem_erase] at still
    rw [nextId]
    exact accounts.minted handle still.2
  · intro handle still
    rw [client] at still
    rw [nextId]
    exact accounts.told handle (List.mem_of_mem_erase still)
  · rw [client]
    exact accounts.distinct.erase _
  -- Client and table each lose one device, so that the balance stays.
  · have some_held := List.length_pos_of_mem owned
    rw [client, devices, AList.keys_erase, List.length_erase_of_mem (AList.mem_keys.mp member),
      accounts.balanced]
    simp only [List.length_erase_of_mem owned]
    omega

theorem Accounts.step (accounts : Accounts ctx turns before.state.handles)
    (exchange : Exchange ctx before text trace response after)
    (room : 2 * (turns.length + 1) < 2 ^ 64)
    (undisturbed : Undisturbed ctx (turns ++ [.answered text trace response])) :
    Accounts ctx (turns ++ [.answered text trace response]) after.state.handles := by
  cases there : reached ctx text with
  | none =>
    obtain ⟨rfl, -⟩ := exchange.unreached there
    exact accounts.unchanged (after_unreached _ there)
  | some found =>
    obtain ⟨method, params⟩ := found
    have calm := undisturbed turns (.answered text trace response) [] rfl method params
    have touched := exchange.touched there
    generalize after.state.handles = handles at touched ⊢
    cases touched with
    | nothing refused untold =>
      exact accounts.unchanged (after_nothing _ there (fun takes => (refused takes).2) untold)
    | drawn named held | fed named held => exact accounts.unchanged (after_kept _ there rfl)
    | connected guard =>
      apply accounts.connected room guard
      rw [clientOf_append, after_reached _ there rfl]
      rfl
    | begun guard =>
      apply accounts.begun room guard
      · rw [told_reached there rfl, toldBy_begun]
        rfl
      · rw [clientOf_append, after_reached _ there rfl]
        simp [Client.hear, toldBy_begun]
    | @disconnected gone guard named held =>
      -- The client was told this handle, for it is not the one behind a digest.
      have owned :=
        (accounts.sees.devices gone (removeDevice_ok held).1).resolve_right
          ((calm gone there named).1 rfl)
      apply accounts.disconnected held owned
      rw [clientOf_append, after_reached _ there rfl, ← filter_held named accounts.distinct]
      rfl
    | @ended _ gone guard _ ending named held =>
      exact absurd (accounts.sees.digests gone (removeDigest_ok held).1)
        ((calm gone there named).2 ending)

theorem Undisturbed.front {turn : Turn} (whole : Undisturbed ctx (turns ++ [turn])) :
    Undisturbed ctx turns := by
  intro front other back spelled
  exact whole front other (back ++ [turn]) (by rw [spelled, List.append_assoc, List.cons_append])

/-- In an undisturbed run without a reset, a session holds one device for each handle its client
holds. -/
theorem devices_held_for_client (conversation : Conversation ctx ttl (.new ttl) turns line)
    (unbroken : ∀ turn ∈ turns, turn.resets = false) (short : 2 * turns.length < 2 ^ 64)
    (undisturbed : Undisturbed ctx turns) :
    line.state.handles.devices.keys.length =
      (clientOf ctx turns).devices.length + (clientOf ctx turns).digests.length := by
  suffices accounts : Accounts ctx turns line.state.handles from accounts.balanced
  induction conversation with
  | start => exact accounts_start
  | @next turns turn line after earlier step ih =>
    rw [List.length_append, List.length_singleton] at short
    have accounts :=
      ih (fun turn member => unbroken turn (List.mem_append_left _ member)) (by omega)
      undisturbed.front
    cases step with
    | answered exchange => exact accounts.step exchange short undisturbed
    | timedOut => cases unbroken _ (List.mem_append_right _ (List.mem_singleton.mpr rfl))
    | failed => cases unbroken _ (List.mem_append_right _ (List.mem_singleton.mpr rfl))

end accounts

section leak

def finalText : String := "\x7b\"method\":\"DigestFinal\",\"params\":[\"hsh-1\"],\"id\":2\x7d"

def leakContext : SkfContext :=
  .serving [(digestText,
    ⟨"DigestInit", [.string "GM3000", .string "K1"], some (.number (.unsigned 1)), none⟩),
    (finalText, ⟨"DigestFinal", [.string "hsh-1"], some (.number (.unsigned 2)), none⟩)]

def finalTrace : List (Event Skf) :=
  [⟨.session (.removeDigest "hsh-1"), .ok ⟨digestDevice, 8⟩⟩,
    ⟨.provider (.finalize ⟨digestDevice, 8⟩), some (.ok [0xAB])⟩,
    ⟨.provider (.close (.digest ⟨digestDevice, 8⟩)), ()⟩]

def finalResponse : RpcResponse :=
  .ok (.string (Text.Base64.encode [0xAB])) (some (.number (.unsigned 2)))

theorem begun :
    Conversation leakContext 100 (.new 100) [.answered digestText digestTrace digestResponse]
      digestLine :=
  .next .start (.answered ⟨.step _ (.step _ (.step _ (.step _ (.refl _)))),
    ⟨trivial, trivial, mint_digest, mint_behind, trivial⟩, rfl⟩)

theorem devices_held_for_client_begun :
    digestLine.state.handles.devices.keys.length =
      (clientOf leakContext [.answered digestText digestTrace digestResponse]).devices.length +
        (clientOf leakContext
          [.answered digestText digestTrace digestResponse]).digests.length := by
  refine devices_held_for_client begun (by simp [Turn.resets]) (by decide) ?_
  intro front turn back spelled method params handle there named
  rcases front with - | ⟨first, rest⟩
  · cases spelled
    obtain rfl : method = .DigestInit := Option.some.inj (congrArg (Option.map Prod.fst) there).symm
    exact ⟨(fun ends => by cases ends), fun ends => by rcases ends with ends | ends <;> cases ends⟩
  · have lengths := congrArg List.length spelled
    simp at lengths

/-- The digest is finalised and its device stays open. -/
theorem digestFinal_keeps_device :
    ∃ turns line,
      Conversation leakContext 100 (.new 100) turns line ∧ (∀ turn ∈ turns, turn.resets = false) ∧
      line.state.handles.devices.keys.length = 1 ∧
      (clientOf leakContext turns).devices.length +
        (clientOf leakContext turns).digests.length = 0 := by
  have ended : Exchange leakContext digestLine finalText finalTrace finalResponse
      ⟨(tracked (2 ^ 63)).follow digestLine.state finalTrace, .EN⟩ :=
    ⟨.step _ (.step _ (.step _ (.refl _))), ⟨rfl, trivial, trivial, trivial⟩, rfl⟩
  exact ⟨_, _, begun.next (.answered ended), by simp [Turn.resets], rfl, rfl⟩

end leak

end SkfService
