import SkfService.Conduct.Effects
import SkfService.Custody.Direct
import SkfService.Custody.Domain

/-! What a request leaves open: nothing where guards hold it, and nothing but for two slips where
the branch closes by hand. -/

set_option autoImplicit false

namespace SkfService

open Interaction

namespace Custody

theorem possible_audit {flag : (op : Skf.Op) → Skf.Reply op → Bool} (s : Audit Resource)
    (trace : List (Event Skf)) :
    (inventory.audit flag).Possible s trace := by
  induction trace generalizing s with
  | nil => trivial
  | cons event rest ih => exact ⟨trivial, ih _⟩

/-- A program that keeps what it holds has clean runs, however they end. -/
theorem Keeps.clean {A : Type} {p : Handler A} (keeps : Keeps [] p) {trace : List (Event Skf)}
    {outcome : Except Exit A} (ran : p.Finishes trace outcome) : inventory.Clean trace := by
  have ends : (inventory.audit unflagged).follow (.clear []) trace = .clear [] := by
    cases outcome with
    | ok value => exact Program.Meets.returned keeps ran (possible_audit _ _)
    | error exit => exact Program.Meets.stopped keeps ran (possible_audit _ _)
  rw [inventory.clean_iff_audit unflagged, ends]
  exact ⟨rfl, rfl⟩

/-- A program that ends released has clean runs exactly where it does not stray. -/
theorem Ends.clean_iff {A : Type} {p : Handler A} (ends : Ends [] p) {trace : List (Event Skf)}
    {outcome : Except Exit A} (ran : p.Finishes trace outcome)
    (answers : ∀ why, outcome ≠ .error (.panic why)) :
    inventory.Clean trace ↔ ∀ event ∈ trace, strays event.op event.reply = false := by
  have released : Released ((inventory.audit strays).follow (.clear []) trace) := by
    cases outcome with
    | ok value => exact Program.Meets.returned ends ran (possible_audit _ _)
    | error exit =>
      cases exit with
      | reply response => exact Program.Meets.stopped ends ran (possible_audit _ _)
      | panic why => exact absurd rfl (answers why)
  obtain ⟨-, -, flagged⟩ := inventory.follow_audit strays (.clear []) trace
  exact (inventory.clean_iff_audit strays trace).trans
    (released.trans (flagged.trans (by simp [Audit.clear])))

end Custody

theorem Method.permit_handles_of_guarded {method : Method} (guarded : method.isGuarded = true) :
    method.permit.handles = false := by
  cases method <;> first | rfl | cases guarded

/-- Whatever the provider answers, a guard-based handler ends, and it ends with everything it opened
closed once, children first, and with the handle table it was given. -/
theorem guarded_handlers_release (ctx : SkfContext) (params : Params) (lang : Language)
    (method : Method) (guarded : method.isGuarded = true) :
    (∀ {S : Type} (answer : S → (op : Skf.Op) → S × Skf.Reply op) (s : S),
        let run := (method.branch ctx params lang).execute answer s
        (method.branch ctx params lang).Finishes run.2.1 run.2.2) ∧
      ∀ trace outcome, (method.branch ctx params lang).Finishes trace outcome →
        Custody.inventory.Clean trace ∧
          (∀ r, (Custody.inventory.closed trace).count r =
            (Custody.inventory.opened trace).count r) ∧
            ∀ limit before, ((tracked limit).follow before trace).handles = before.handles := by
  refine ⟨fun answer s => Program.execute_finishes answer _ s, fun trace outcome ran => ?_⟩
  have clean := (Custody.keeps_branch guarded).clean ran
  have allowed := ((Conduct.branch_conforms ctx params lang method).reaches ran
    (Conduct.possible_conduct _ _)).1
  exact ⟨clean, clean.balanced, fun limit before =>
    Conduct.follow_handles limit (method.permit_handles_of_guarded guarded) before allowed⟩

/-- A container that does not open leaves the device and the application to be closed. -/
theorem guarded_handlers_release_missing :
    let device : Device := ⟨⟨"GM3000", some 0⟩, "K1", 7⟩
    let application : Application := ⟨device, "A", 8⟩
    Custody.inventory.Clean
      [⟨.provider (.openDevice ⟨"GM3000", some 0⟩ "K1"), some (.ok 7)⟩,
        ⟨.provider (.openApplication device "A"), some (.ok 8)⟩,
        ⟨.provider (.openContainer application "C"),
          some (.error (.Native 0x0A00002E "OpenContainer"))⟩,
        ⟨.provider (.close (.application application)), ()⟩,
        ⟨.provider (.close (.device device)), ()⟩] := by
  refine ((guarded_handlers_release (.serving [])
    ⟨[.string "GM3000", .string "K1", .string "A", .string "C"], none⟩
    .EN .GetContainerType rfl).2 _
      (.error (.reply (.err (codeAsI32 0x0A00002E) "OpenContainer failed: 0x0A00002E" none)))
    ?_).1
  exact .step _ (.step _ (.step _ (.step _ (.step _ (.refl _)))))

/-- A branch that closes by hand and answers has closed everything once, children first, exactly
unless it is an `ImportKeyPair` that found no grant or a `Digest` whose hash was started. -/
theorem direct_branches_release_iff {ctx : SkfContext} {params : Params} {lang : Language}
    {method : Method} (byHand : method.closesByHand = true) {trace : List (Event Skf)}
    {outcome : Except Exit RpcResponse}
    (ran : (method.branch ctx params lang).Finishes trace outcome)
    (answers : ∀ why, outcome ≠ .error (.panic why)) :
    Custody.inventory.Clean trace ↔ ∀ event ∈ trace, Custody.strays event.op event.reply = false :=
  (Custody.ends_branch byHand).clean_iff ran answers

section slips

def plainApi : Library := ⟨"GM3000", none⟩

def plainDevice : Device := ⟨plainApi, "K1", 7⟩

def plainApplication : Application := ⟨plainDevice, "A", 8⟩

def enumeratedOne : List (Event Skf) :=
  [⟨.host (.readCache "GM3000"), true⟩,
    ⟨.vendor (.connectDev plainApi ⟨"K1", by decide⟩), (SAR_OK, 7)⟩,
    ⟨.vendor (.openApplication plainDevice ⟨"A", by decide⟩), (SAR_OK, 8)⟩,
    ⟨.vendor (.enumContainer plainApplication none), ⟨SAR_OK, 3, []⟩⟩,
    ⟨.vendor (.enumContainer plainApplication (some 3)), ⟨SAR_OK, 3, [67, 0, 0]⟩⟩,
    ⟨.vendor (.closeApplication plainApplication), SAR_OK⟩,
    ⟨.vendor (.disConnectDev plainDevice), SAR_OK⟩]

theorem ran_enumeratedOne :
    ((Method.EnumContainer).branch (.serving [])
      ⟨[.string "GM3000", .string "K1", .string "A"], none⟩ .EN).Finishes
      enumeratedOne (.ok (.ok (.strings ["C"]) none)) :=
  .step _ (.step _ (.step _ (.step _ (.step _ (.step _ (.step _ (.refl _)))))))

/-- The application is closed before its device. -/
theorem direct_branches_release_iff_one : Custody.inventory.Clean enumeratedOne := by
  refine (direct_branches_release_iff rfl ran_enumeratedOne (by simp)).mpr ?_
  simp [enumeratedOne, Custody.strays]

def digestOnce : List (Event Skf) :=
  [⟨.host (.readCache "GM3000"), true⟩,
    ⟨.vendor (.connectDev plainApi ⟨"K1", by decide⟩), (SAR_OK, 7)⟩,
    ⟨.vendor (.digestInit plainDevice SGD_SM3), (SAR_OK, 8)⟩,
    ⟨.vendor (.digest ⟨plainDevice, 8⟩ [] 64), ⟨SAR_OK, 1, [0xAB]⟩⟩,
    ⟨.vendor (.disConnectDev plainDevice), SAR_OK⟩]

def importRefused : List (Event Skf) :=
  [⟨.host (.readCache "GM3000"), true⟩,
    ⟨.vendor (.connectDev plainApi ⟨"K1", by decide⟩), (SAR_OK, 7)⟩,
    ⟨.vendor (.openApplication plainDevice ⟨"A", by decide⟩), (SAR_OK, 8)⟩,
    ⟨.session (.authorize ⟨"GM3000", "K1", "A"⟩), (5, .error .NotAuthorized)⟩,
    ⟨.vendor (.closeApplication plainApplication), SAR_OK⟩,
    ⟨.vendor (.disConnectDev plainDevice), SAR_OK⟩,
    ⟨.vendor (.closeApplication plainApplication), (0x0A000001 : ULONG)⟩,
    ⟨.vendor (.disConnectDev plainDevice), (0x0A000001 : ULONG)⟩]

theorem ran_digestOnce :
    ∃ response, ((Method.Digest).branch (.serving [])
      ⟨[.string "GM3000", .string "K1", .string ""], none⟩ .EN).Finishes
      digestOnce (.ok response) :=
  ⟨_, .step _ (.step _ (.step _ (.step _ (.step _ (.refl _)))))⟩

theorem ran_importRefused :
    ∃ response,
      ((Method.ImportKeyPair).branch (.serving []) ⟨[.string "GM3000", .string "K1", .string "A",
      .string "C", .string "SM2", .string ""], none⟩ .EN).Finishes importRefused (.ok response) :=
  ⟨_, .step _ (.step _ (.step _ (.step _ (.step _ (.step _ (.step _ (.step _ (.refl _))))))))⟩

/-- A digest leaves its hash open under a device that is disconnected; a refused key import closes
the application and the device twice. -/
theorem hash_left_open_and_closed_twice :
    (∃ params response,
      ((Method.Digest).branch (.serving []) params .EN).Finishes digestOnce (.ok response)) ∧
      ¬Custody.inventory.Clean digestOnce ∧
      (∃ params response, ((Method.ImportKeyPair).branch (.serving []) params .EN).Finishes
        importRefused (.ok response)) ∧
      ¬Custody.inventory.Clean importRefused := by
  refine ⟨⟨_, ran_digestOnce⟩, fun clean => ?_, ⟨_, ran_importRefused⟩, fun clean => ?_⟩
  · exact absurd (clean.balanced (.digest ⟨plainDevice, 8⟩)) (by decide)
  · exact absurd (clean.balanced (.device plainDevice)) (by decide)

end slips

end SkfService
