import SkfService.Dispatch.FindCertificates
import SkfService.Domain.Crypto
import SkfService.Text.Split

/-! The keys of certificates: the search joins the names of a container with slashes, and the
handlers that are given a key split it again. -/

set_option autoImplicit false

namespace SkfService

open Text Interaction Program Handler

def Container.path (container : Container) : List String :=
  [container.application.device.library.providerAlias, container.application.device.name,
    container.application.name,
    container.name]

def certKeyOf (container : Container) (serial : String) : String :=
  container.application.device.library.providerAlias ++ "/" ++
    container.application.device.name ++ "/" ++
    container.application.name ++ "/" ++ container.name ++ "/" ++ serial

section search

variable {A : Type} {ctx : SkfContext} {trace : List (Event Skf)} {found : List Json}
  {result : Json}

theorem finishes_ask {op : Op} {value : op.Reply}
    (ran : (Program.ask (I := Skf) (E := Exit) op).Finishes trace (.ok value)) :
    trace = [⟨op, value⟩] := by
  cases ran with
  | step reply rest =>
    cases rest
    rfl

theorem bind_ite {B : Type} {c : Prop} [Decidable c] (p q : Handler A) (k : A → Handler B) :
    (if c then p >>= k else q >>= k) = (if c then p else q) >>= k := by
  split <;> rfl

namespace FindCertificates

/-- A listed certificate was exported from its container. -/
theorem processCert_found {keyStem : String} {container : Container} {isSign : Bool}
    (ran : (processCert ctx keyStem container isSign).Finishes trace (.ok found))
    (member : result ∈ found) :
    ∃ serial, result.member "key" = some (.string (keyStem ++ "/" ++ serial)) ∧
      ∃ size filled,
        (⟨.vendor (.exportCertificate container isSign (some size)), filled⟩ : Event Skf) ∈
          trace := by
  unfold processCert at ran
  obtain ⟨sized, sizing, afterSize, rfl, -, sizedRan⟩ := finishes_bind ran
  by_cases sizes : sized.ret = SAR_OK ∧ 0 < sized.size
  · rw [if_pos sizes] at sizedRan
    obtain ⟨filled, filling, afterFill, rfl, exported, filledRan⟩ := finishes_bind sizedRan
    obtain rfl := finishes_ask exported
    by_cases fills : filled.ret = SAR_OK
    · rw [if_pos fills] at filledRan
      dsimp only at filledRan
      -- What the platform cannot parse is left out of the list.
      cases parsed : ctx.platform.parseCertificate (filled.memory.take sized.size.toNat) with
      | none =>
        rw [parsed] at filledRan
        cases filledRan
        cases member
      | some certificate =>
        rw [parsed] at filledRan
        cases filledRan
        rw [List.mem_singleton.mp member]
        refine ⟨certificate.1, ?_, _, filled,
          List.mem_append_right _ (List.mem_append_left _ (List.mem_singleton_self _))⟩
        simp only [Json.ofFields, Json.member, List.foldl_cons, List.foldl_nil,
          Json.lookup_insertMember]
        rfl
    · rw [if_neg fills] at filledRan
      cases filledRan
      cases member
  · rw [if_neg sizes] at sizedRan
    cases sizedRan
    cases member

/-- What was listed of a container was found in it. -/
theorem inContainer_found {want : Wanted} {keyStem contName : String} {application : Application}
    (ran : (inContainer ctx want keyStem application contName).Finishes trace (.ok found))
    (member : result ∈ found) :
    ∃ raw isSign serial,
      result.member "key" = some (.string (keyStem ++ "/" ++ contName ++ "/" ++ serial)) ∧
      ∃ size filled,
        (⟨.vendor (.exportCertificate ⟨application, contName, raw⟩ isSign (some size)), filled⟩ :
        Event Skf) ∈ trace := by
  unfold inContainer at ran
  obtain ⟨cCont, named, opening, rfl, -, openingRan⟩ := finishes_bind ran
  obtain ⟨⟨ret, raw⟩, opened, inside, rfl, -, insideRan⟩ := finishes_bind openingRan
  dsimp only at insideRan
  by_cases opens : ret = SAR_OK
  · rw [if_pos opens] at insideRan
    simp only [bind_ite] at insideRan
    obtain ⟨sign, signing, afterSign, rfl, signed, afterSignRan⟩ := finishes_bind insideRan
    obtain ⟨enc, encing, afterEnc, rfl, enced, afterEncRan⟩ := finishes_bind afterSignRan
    obtain ⟨-, closing, last, rfl, -, lastRan⟩ := finishes_bind afterEncRan
    cases lastRan
    -- Either certificate is processed only where it is wanted.
    rcases List.mem_append.mp member with here | there
    · cases asked : want.sign with
      | false =>
        rw [asked, if_neg Bool.false_ne_true] at signed
        cases signed
        cases here
      | true =>
        rw [asked, if_pos rfl] at signed
        obtain ⟨serial, keyed, size, filled, exported⟩ := processCert_found signed here
        exact ⟨raw, true, serial, keyed, size, filled,
          List.mem_append_right _ (List.mem_append_right _ (List.mem_append_left _ exported))⟩
    · cases asked : want.enc with
      | false =>
        rw [asked, if_neg Bool.false_ne_true] at enced
        cases enced
        cases there
      | true =>
        rw [asked, if_pos rfl] at enced
        obtain ⟨serial, keyed, size, filled, exported⟩ := processCert_found enced there
        exact ⟨raw, false, serial, keyed, size, filled,
          List.mem_append_right _ (List.mem_append_right _
          (List.mem_append_right _ (List.mem_append_left _ exported)))⟩
  · rw [if_neg opens] at insideRan
    cases insideRan
    cases member

/-- A reported certificate: its key joins the names of the container it was exported from. -/
def Reported (trace : List (Event Skf)) (result : Json) (keyStem : String)
    (application : Application) : Prop :=
  ∃ contName raw isSign serial,
    result.member "key" = some (.string (keyStem ++ "/" ++ contName ++ "/" ++ serial)) ∧
    ∃ size filled,
      (⟨.vendor (.exportCertificate ⟨application, contName, raw⟩ isSign (some size)), filled⟩ :
      Event Skf) ∈ trace

theorem inApplication_found {want : Wanted} {keyStem appName : String} {device : Device}
    (ran : (inApplication ctx want keyStem device appName).Finishes trace (.ok found))
    (member : result ∈ found) :
    ∃ raw, Reported trace result (keyStem ++ "/" ++ appName) ⟨device, appName, raw⟩ := by
  unfold inApplication at ran
  obtain ⟨cApp, named, opening, rfl, -, openingRan⟩ := finishes_bind ran
  obtain ⟨⟨ret, raw⟩, opened, inside, rfl, -, insideRan⟩ := finishes_bind openingRan
  dsimp only at insideRan
  by_cases opens : ret = SAR_OK
  · rw [if_pos opens] at insideRan
    obtain ⟨contNames, listing, searching, rfl, -, searchingRan⟩ := finishes_bind insideRan
    obtain ⟨collected, searched, closing, rfl, containers, closingRan⟩ := finishes_bind searchingRan
    obtain ⟨-, -, last, rfl, -, lastRan⟩ := finishes_bind closingRan
    cases lastRan
    obtain ⟨contName, -, inner, results, stretch, ended, held⟩ := finishes_collect containers member
    obtain ⟨raw', isSign, serial, keyed, size, filled, exported⟩ := inContainer_found ended held
    refine ⟨raw, contName, raw', isSign, serial, keyed, size, filled, ?_⟩
    exact List.mem_append_right _ (List.mem_append_right _ (List.mem_append_right _
      (List.mem_append_left _ (stretch.subset exported))))
  · rw [if_neg opens] at insideRan
    cases insideRan
    cases member

theorem inDevice_found {want : Wanted} {api : Library} {provName devName : String}
    (ran : (inDevice ctx want api provName devName).Finishes trace (.ok found))
    (member : result ∈ found) :
    ∃ raw appName raw', Reported trace result (provName ++ "/" ++ devName ++ "/" ++ appName)
      ⟨⟨api, devName, raw⟩, appName, raw'⟩ := by
  unfold inDevice at ran
  obtain ⟨cDev, named, opening, rfl, -, openingRan⟩ := finishes_bind ran
  obtain ⟨⟨ret, raw⟩, opened, inside, rfl, -, insideRan⟩ := finishes_bind openingRan
  dsimp only at insideRan
  by_cases opens : ret = SAR_OK
  · rw [if_pos opens] at insideRan
    obtain ⟨appNames, listing, searching, rfl, -, searchingRan⟩ := finishes_bind insideRan
    obtain ⟨collected, searched, closing, rfl, applications, closingRan⟩ :=
      finishes_bind searchingRan
    obtain ⟨-, -, last, rfl, -, lastRan⟩ := finishes_bind closingRan
    cases lastRan
    obtain ⟨appName, -, inner, results, stretch, ended, held⟩ :=
      finishes_collect applications member
    obtain ⟨raw', contName, raw'', isSign, serial, keyed, size, filled, exported⟩ :=
      inApplication_found ended held
    refine ⟨raw, appName, raw', contName, raw'', isSign, serial, keyed, size, filled, ?_⟩
    exact List.mem_append_right _ (List.mem_append_right _ (List.mem_append_right _
      (List.mem_append_left _ (stretch.subset exported))))
  · rw [if_neg opens] at insideRan
    cases insideRan
    cases member

theorem getApi_alias {provName : String} {api : Library}
    (ran : (ctx.getApi provName).Finishes trace (.ok (.ok api))) : api = ⟨provName, none⟩ := by
  unfold SkfContext.getApi at ran
  obtain ⟨cached, reading, afterRead, rfl, -, afterReadRan⟩ := finishes_bind ran
  cases cached with
  | true =>
    cases afterReadRan
    rfl
  | false =>
    dsimp only at afterReadRan
    cases configured : ctx.config.rawPath provName ctx.platform.os with
    | none =>
      rw [configured] at afterReadRan
      cases afterReadRan
    | some raw =>
      rw [configured] at afterReadRan
      obtain ⟨loaded, loading, afterLoad, rfl, -, afterLoadRan⟩ := finishes_bind afterReadRan
      cases loaded with
      | ok ready =>
        obtain ⟨-, writing, last, rfl, -, lastRan⟩ := finishes_bind afterLoadRan
        cases lastRan
        rfl
      | error reason => cases afterLoadRan

theorem inProvider_found {want : Wanted} {provName : String}
    (ran : (inProvider ctx want provName).Finishes trace (.ok found)) (member : result ∈ found) :
    ∃ devName raw appName raw', Reported trace result (provName ++ "/" ++ devName ++ "/" ++ appName)
      ⟨⟨⟨provName, none⟩, devName, raw⟩, appName, raw'⟩ := by
  unfold inProvider at ran
  obtain ⟨api, loading, rest, rfl, loaded, restRan⟩ := finishes_bind ran
  cases api with
  | error reason =>
    cases restRan
    cases member
  | ok api =>
    obtain rfl := getApi_alias loaded
    obtain ⟨devNames, listing, searching, rfl, -, devices⟩ := finishes_bind restRan
    obtain ⟨devName, -, inner, results, stretch, ended, held⟩ := finishes_collect devices member
    obtain ⟨raw, appName, raw', contName, raw'', isSign, serial, keyed, size, filled, exported⟩ :=
      inDevice_found ended held
    refine ⟨devName, raw, appName, raw', contName, raw'', isSign, serial, keyed, size, filled, ?_⟩
    exact List.mem_append_right _ (List.mem_append_right _ (stretch.subset exported))

theorem handle_found {params : Params} {response : RpcResponse} {items : List Json} {key : String}
    (ran : (handle ctx params).Finishes trace (.ok response))
    (listed : response.result = .array items) (member : result ∈ items)
    (keyed : result.member "key" = some (.string key)) :
    ∃ container serial,
      key = certKeyOf container serial ∧ container.application.device.library.gate = none ∧
      container.application.device.library.providerAlias ∈ ctx.config.libs.map Prod.fst ∧
      ∃ isSign size filled,
        (⟨.vendor (.exportCertificate container isSign (some size)), filled⟩ : Event Skf) ∈
          trace := by
  unfold handle at ran
  obtain ⟨found, searching, rest, rfl, providers, restRan⟩ := finishes_bind ran
  cases restRan
  cases listed
  obtain ⟨provName, configured, inner, results, stretch, ended, held⟩ :=
    finishes_collect providers member
  obtain ⟨devName, raw, appName, raw', contName, raw'', isSign, serial, built, size, filled,
      exported⟩ :=
    inProvider_found ended held
  rw [keyed, Option.some.injEq, Json.string.injEq] at built
  exact ⟨⟨⟨⟨⟨provName, none⟩, devName, raw⟩, appName, raw'⟩, contName, raw''⟩, serial, built, rfl,
    configured, isSign,
    size, filled, List.mem_append_left _ (stretch.subset exported)⟩

end FindCertificates

end search

section keys

variable {ctx : SkfContext} {container other : Container} {serial otherSerial : String}

def Unslashed (container : Container) : Prop := ∀ name ∈ container.path, '/' ∉ name.toList

def Unaliased (ctx : SkfContext) (container : Container) : Prop :=
  ctx.normalizeAlias container.application.device.library.providerAlias =
    container.application.device.library.providerAlias

theorem splitn_certKeyOf (container : Container) (serial : String) :
    splitn 5 '/' (certKeyOf container serial) = container.path ++ [serial] ↔
      Unslashed container := by
  have joined : (certKeyOf container serial).toList =
      ['/'].intercalate ((container.path ++ [serial]).map String.toList) := by
    simp [certKeyOf, Container.path, List.intercalate]
  have split :=
    @splitChars_join_iff '/' ((container.path ++ [serial]).map String.toList)
      (by simp [Container.path])
  have five : (container.path ++ [serial]).length = 5 := rfl
  rw [← joined, List.length_map, five, List.map_append, List.map_singleton,
    List.dropLast_concat] at split
  have plain : (∀ piece ∈ container.path.map String.toList, '/' ∉ piece) ↔ Unslashed container := by
    simp only [List.forall_mem_map]
    rfl
  rw [← plain, ← split, splitn]
  constructor
  · intro same
    have back := congrArg (List.map String.toList) same
    rw [List.map_map, Function.comp_def] at back
    simpa only [String.toList_ofList, List.map_id', List.map_append, List.map_singleton] using back
  · intro same
    have back := congrArg (List.map String.ofList) same
    rw [List.map_append, List.map_map, Function.comp_def] at back
    simpa only [String.ofList_toList, List.map_id', List.map_singleton] using back

theorem splitCertKey_eq {min : Nat} (few : min ≤ 5) :
    splitCertKey (certKeyOf container serial) min =
      some (container.path ++ [serial]) ↔ Unslashed container := by
  rw [← splitn_certKeyOf container serial, splitCertKey]
  constructor
  · intro found
    split at found
    · cases found
    · exact Option.some.inj found
  · intro same
    have enough : ¬(container.path ++ [serial]).length < min := Nat.not_lt.mpr few
    rw [same, if_neg enough]

theorem certKeyNames_eq (plain : Unslashed container) (params : Params) :
    certKeyNames ctx params (certKeyOf container serial) =
      .done (ctx.normalizeAlias container.application.device.library.providerAlias,
        container.application.device.name, container.application.name, container.name) := by
  rw [certKeyNames, (splitCertKey_eq (by decide)).mpr plain]
  rfl

end keys

/-- A key that the search has listed addresses the container that it was found in just when none of
the container's names has a slash and its alias means itself; and such keys of different paths
differ in their names. -/
theorem cert_key_addresses_iff {ctx : SkfContext} {params : Params} {trace : List (Event Skf)}
    {response : RpcResponse} {items : List Json} {result : Json} {key : String}
    (ran : (FindCertificates.handle ctx params).Finishes trace (.ok response))
    (listed : response.result = .array items) (member : result ∈ items)
    (keyed : result.member "key" = some (.string key)) :
    ∃ container serial, key = certKeyOf container serial ∧
      (∃ isSign size filled,
        (⟨.vendor (.exportCertificate container isSign (some size)), filled⟩ : Event Skf) ∈ trace) ∧
      ((splitCertKey key 3 = some (container.path ++ [serial]) ∧
        splitCertKey key 4 = some (container.path ++ [serial]) ∧
          ∀ later,
            certKeyNames ctx later key = .done (container.application.device.library.providerAlias,
            container.application.device.name, container.application.name, container.name)) ↔
        Unslashed container ∧ Unaliased ctx container) ∧
      (Unslashed container → ∀ other otherSerial, Unslashed other →
        (splitn 5 '/' key).take 4 = (splitn 5 '/' (certKeyOf other otherSerial)).take 4 →
        container.path = other.path) := by
  obtain ⟨container, serial, rfl, -, -, exported⟩ :=
    FindCertificates.handle_found ran listed member keyed
  refine ⟨container, serial, rfl, exported, ⟨?_, ?_⟩, ?_⟩
  · rintro ⟨-, split, named⟩
    have plain := (splitCertKey_eq (by decide)).mp split
    refine ⟨plain, ?_⟩
    -- A later request without parameters is enough to read the names off.
    have names := named ⟨[], none⟩
    rw [certKeyNames_eq plain] at names
    exact congrArg Prod.fst (Program.done.inj names)
  · rintro ⟨plain, unaliased⟩
    refine ⟨(splitCertKey_eq (by decide)).mpr plain, (splitCertKey_eq (by decide)).mpr plain,
      fun later => ?_⟩
    rw [certKeyNames_eq plain, unaliased]
  · intro plain other otherSerial otherPlain same
    rw [(splitn_certKeyOf container serial).mpr plain,
      (splitn_certKeyOf other otherSerial).mpr otherPlain] at same
    exact same

namespace Searching

open FindCertificates

/-! A token with one device, one application and one container, whose name is given. -/

def ctx : SkfContext :=
  { SkfContext.serving [] with
    config := { default := "GM3000", vendor := [], libs := [("GM3000", [])] }
    platform :=
      { (SkfContext.serving []).platform with parseCertificate := fun _ => some ("1", "CN=Test") } }

def api : Library := ⟨"GM3000", none⟩
def device : Device := ⟨api, "dev", 1⟩
def application : Application := ⟨device, "app", 2⟩
def container (contName : String) : Container := ⟨application, contName, 3⟩
def want : Wanted := ⟨true, false⟩

def item (contName : String) : Json :=
  .ofFields [("key", .string (certKeyOf (container contName) "1")), ("value", .string "CN=Test"),
    ("type", .string "Sign"),
    ("cert", .string (Base64.encode [0x30]))]

theorem cString_eq {text : String} (noNul : Char.ofNat 0 ∉ text.toList) :
    cString text = .done ⟨text, noNul⟩ := by
  rw [cString, CString.new, dif_pos noNul]
  rfl

/-- The calls of a search for the signing certificate, when the container's name is read from these
four bytes. -/
def trace {contName : String} (noNul : Char.ofNat 0 ∉ contName.toList) (bytes : List UInt8) :
    List (Event Skf) :=
  [⟨.host (.readCache "GM3000"), true⟩,
    ⟨.vendor (.enumDev api true none), ⟨SAR_OK, 4, []⟩⟩,
    ⟨.vendor (.enumDev api true (some 4)), ⟨SAR_OK, 4, [100, 101, 118, 0]⟩⟩,
    ⟨.vendor (.connectDev api ⟨"dev", by decide⟩), (SAR_OK, 1)⟩,
    ⟨.vendor (.enumApplication device none), ⟨SAR_OK, 4, []⟩⟩,
    ⟨.vendor (.enumApplication device (some 4)), ⟨SAR_OK, 4, [97, 112, 112, 0]⟩⟩,
    ⟨.vendor (.openApplication device ⟨"app", by decide⟩), (SAR_OK, 2)⟩,
    ⟨.vendor (.enumContainer application none), ⟨SAR_OK, 4, []⟩⟩,
    ⟨.vendor (.enumContainer application (some 4)), ⟨SAR_OK, 4, bytes⟩⟩,
    ⟨.vendor (.openContainer application ⟨contName, noNul⟩), (SAR_OK, 3)⟩,
    ⟨.vendor (.exportCertificate (container contName) true none), ⟨SAR_OK, 1, []⟩⟩,
    ⟨.vendor (.exportCertificate (container contName) true (some 1)), ⟨SAR_OK, 1, [0x30]⟩⟩,
    ⟨.vendor (.closeContainer (container contName)), SAR_OK⟩,
    ⟨.vendor (.closeApplication application), SAR_OK⟩,
    ⟨.vendor (.disConnectDev device), SAR_OK⟩]

theorem ran {contName : String} (noNul : Char.ofNat 0 ∉ contName.toList) {bytes : List UInt8}
    (named : namesOf ⟨SAR_OK, 4, bytes⟩ = [contName]) :
    (FindCertificates.handle ctx ⟨[.string "Sign"], none⟩).Finishes (trace noNul bytes)
      (.ok (.ok (.array [item contName]) none)) := by
  have dev : namesOf ⟨SAR_OK, 4, [100, 101, 118, 0]⟩ = ["dev"] := by decide
  have app : namesOf ⟨SAR_OK, 4, [97, 112, 112, 0]⟩ = ["app"] := by decide
  have sign : eqIgnoreAsciiCase "Sign" "Sign" = true := by decide
  have enc : eqIgnoreAsciiCase "Sign" "Enc" = false := by decide
  have wants : wanted "Sign" = ⟨true, false⟩ := by simp [wanted, sign, enc]
  -- Down the tree one event at a time, and the names that each level lists read back.
  unfold trace FindCertificates.handle
  change Reaches (collect (inProvider ctx (wanted "Sign")) ["GM3000"] >>= _) _ _
  rw [wants]
  apply Reaches.step
  apply Reaches.step
  apply Reaches.step
  dsimp only [Program.bind]
  rw [dev]
  apply Reaches.step
  apply Reaches.step
  apply Reaches.step
  dsimp only [Program.bind]
  rw [app]
  apply Reaches.step
  apply Reaches.step
  apply Reaches.step
  dsimp only [Program.bind]
  rw [named]
  rw [if_pos rfl, pure_eq_done]
  dsimp only [Program.bind]
  unfold collect inContainer
  rw [cString_eq noNul]
  apply Reaches.step
  apply Reaches.step
  apply Reaches.step
  apply Reaches.step
  apply Reaches.step
  apply Reaches.step
  exact Reaches.refl _

end Searching

theorem cert_key_addresses_plain :
    ∃ container serial, certKeyOf (Searching.container "xzy") "1" = certKeyOf container serial ∧
      ((splitCertKey (certKeyOf container serial) 3 = some (container.path ++ [serial]) ∧
          splitCertKey (certKeyOf container serial) 4 = some (container.path ++ [serial]) ∧
          ∀ later, certKeyNames Searching.ctx later (certKeyOf container serial) =
            .done (container.application.device.library.providerAlias,
              container.application.device.name,
              container.application.name, container.name)) ↔
        Unslashed container ∧ Unaliased Searching.ctx container) := by
  have noNul : Char.ofNat 0 ∉ "xzy".toList := by decide
  have named : namesOf ⟨SAR_OK, 4, [120, 122, 121, 0]⟩ = ["xzy"] := by decide
  have keyed : (Searching.item "xzy").member "key" =
      some (.string (certKeyOf (Searching.container "xzy") "1")) := rfl
  obtain ⟨container, serial, same, -, addresses, -⟩ :=
    cert_key_addresses_iff (Searching.ran noNul named) rfl (List.mem_singleton_self _) keyed
  rw [same] at addresses
  exact ⟨container, serial, same, addresses⟩

/-- A container with a slash in its name is listed under a key that names another one. -/
theorem slashed_container_mistaken :
    ∃ trace response items result key container filled,
      (FindCertificates.handle Searching.ctx ⟨[.string "Sign"], none⟩).Finishes trace
        (.ok response) ∧
      response.result = .array items ∧ result ∈ items ∧ result.member "key" = some (.string key) ∧
      (⟨.vendor (.exportCertificate container true (some 1)), filled⟩ : Event Skf) ∈ trace ∧
      key = certKeyOf container "1" ∧ container.name = "x/y" ∧
      (∀ later, certKeyNames Searching.ctx later key = .done ("GM3000", "dev", "app", "x")) ∧
      ∀ later, certKeyNames Searching.ctx later (certKeyOf (Searching.container "x") "1") =
        .done ("GM3000", "dev", "app", "x") := by
  have noNul : Char.ofNat 0 ∉ "x/y".toList := by decide
  have named : namesOf ⟨SAR_OK, 4, [120, 47, 121, 0]⟩ = ["x/y"] := by decide
  have split : splitCertKey (certKeyOf (Searching.container "x/y") "1") 4 =
      some ["GM3000", "dev", "app", "x", "y/1"] := by
    decide
  have other : splitCertKey (certKeyOf (Searching.container "x") "1") 4 =
      some ["GM3000", "dev", "app", "x", "1"] := by
    decide
  refine ⟨_, _, _, _, _, Searching.container "x/y", ⟨SAR_OK, 1, [0x30]⟩,
    Searching.ran noNul named, rfl,
    List.mem_singleton_self _, rfl, ?_, rfl, rfl, fun later => ?_, fun later => ?_⟩
  · simp [Searching.trace]
  · rw [certKeyNames, split]
    rfl
  · rw [certKeyNames, other]
    rfl

end SkfService
