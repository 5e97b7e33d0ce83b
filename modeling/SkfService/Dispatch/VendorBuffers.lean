import SkfService.Dispatch.Device
import SkfService.Dispatch.FindCertificates
import SkfService.Interaction.View
import SkfService.Provider.NativeDevices

/-! What the direct branches read of the buffers and fields a vendor fills, against the native
provider's bounded decoders. -/

set_option autoImplicit false

namespace SkfService

open Text Interaction Program Handler

/-- `fixed_cstr`: what comes before the first NUL of a field, or all of the field. -/
def NativeSkfProvider.fixedCstr (buf : List UInt8) : String := fromUtf8Lossy (buf.takeWhile (· ≠ 0))

structure Read where
  held : Nat
  extent : Nat

def Read.Inside (read : Read) : Prop := read.extent ≤ read.held

def scanned (field tail : List UInt8) : Read := ⟨field.length, (tail.takeWhile (· ≠ 0)).length + 1⟩

/-- What a branch reads after a call that succeeded: as many bytes of a list as the vendor reports,
all of a certificate's buffer, and a C string at each of the four texts of a device record. -/
def reads : (op : Op) → op.Reply → List Read
  | .vendor (.enumDev _ _ (some capacity)), filled
  | .vendor (.enumApplication _ (some capacity)), filled
  | .vendor (.enumContainer _ (some capacity)), filled =>
    if filled.ret = SAR_OK then [⟨capacity.toNat, filled.size.toNat⟩] else []
  | .vendor (.exportCertificate _ _ (some capacity)), filled =>
    if filled.ret = SAR_OK then [⟨capacity.toNat, capacity.toNat⟩] else []
  | .vendor (.getDevInfo _), (ret, info) =>
    if ret = SAR_OK then
      [scanned info.manufacturer info.manufacturerTail, scanned info.issuer info.issuerTail,
        scanned info.label info.labelTail, scanned info.serialNumber info.serialTail]
    else []
  | _, _ => []

def Filled.clipped (capacity : ULONG) (filled : Filled) : Filled :=
  { filled with
    size := .ofNat (Nat.min filled.size.toNat (filled.memory.take capacity.toNat).length)
    memory := filled.memory.take capacity.toNat }

def DevInfo.closed (info : DevInfo) : DevInfo :=
  { info with
    manufacturer := info.manufacturer ++ [0]
    issuer := info.issuer ++ [0]
    label := info.label ++ [0]
    serialNumber := info.serialNumber ++ [0] }

def bounded : View Skf
  | .vendor (.enumDev _ _ (some capacity)), filled
  | .vendor (.enumApplication _ (some capacity)), filled
  | .vendor (.enumContainer _ (some capacity)), filled => filled.clipped capacity
  | .vendor (.getDevInfo _), (ret, info) => (ret, info.closed)
  | _, reply => reply

/-- The vendor reports no more of a list than its buffer holds, and ends each text inside its field. -/
def Fair : (op : Op) → op.Reply → Prop
  | .vendor (.enumDev _ _ (some capacity)), filled
  | .vendor (.enumApplication _ (some capacity)), filled
  | .vendor (.enumContainer _ (some capacity)), filled =>
    filled.ret = SAR_OK → filled.size ≤ capacity
  | .vendor (.getDevInfo _), (ret, info) => ret = SAR_OK →
    0 ∈ info.manufacturer ∧ 0 ∈ info.issuer ∧ 0 ∈ info.label ∧ 0 ∈ info.serialNumber
  | _, _ => True

section decoders

variable {info : DevInfo} {capacity : ULONG} {filled : Filled} {field rest : List UInt8}

theorem parseCstrList_eq {filled : Filled} {len : ULONG} (small : filled.size ≤ len) :
    NativeSkfProvider.parseCstrList (filled.memory.take len.toNat) filled.size.toNat =
      namesOf filled := by
  have fits : filled.size.toNat ≤ len.toNat := small
  have same : (filled.memory.take len.toNat).take
      (Nat.min filled.size.toNat (filled.memory.take len.toNat).length) =
      filled.memory.take filled.size.toNat := by
    rw [List.take_take, List.take_eq_take_iff, List.length_take]
    simp only [Nat.min_def] at *
    split_ifs <;> omega
  rw [NativeSkfProvider.parseCstrList, same, namesOf]

theorem namesOf_clipped (capacity : ULONG) (filled : Filled) : namesOf (filled.clipped capacity) =
    NativeSkfProvider.parseCstrList (filled.memory.take capacity.toNat) filled.size.toNat := by
  have small : Nat.min filled.size.toNat (filled.memory.take capacity.toNat).length < 4294967296 :=
    Nat.lt_of_le_of_lt (Nat.min_le_left _ _) filled.size.toNat_lt
  rw [namesOf, Filled.clipped, NativeSkfProvider.parseCstrList]
  dsimp only
  rw [UInt32.toNat_ofNat_of_lt' small]

theorem namesOf_fair (small : filled.size ≤ capacity) :
    namesOf (filled.clipped capacity) = namesOf filled := by
  rw [namesOf_clipped, parseCstrList_eq small]

theorem takeWhile_closed (field rest : List UInt8) :
    (field ++ [0] ++ rest).takeWhile (· ≠ 0) = field.takeWhile (· ≠ 0) := by
  induction field with
  | nil => rfl
  | cons byte field ih =>
    rw [List.cons_append, List.cons_append, List.takeWhile_cons, List.takeWhile_cons, ih]

/-- The scan stays inside of the field exactly if it finds its NUL there. -/
theorem scanned_inside_iff : (scanned field (field ++ rest)).Inside ↔ 0 ∈ field := by
  induction field with
  | nil => simp [Read.Inside, scanned]
  | cons byte field ih =>
    simp only [Read.Inside, scanned] at ih ⊢
    by_cases nul : byte = 0
    · simp [nul]
    · have here : decide (byte ≠ 0) = true := decide_eq_true nul
      rw [List.cons_append, List.takeWhile_cons, if_pos here, List.length_cons, List.length_cons,
        List.mem_cons, or_iff_right (Ne.symm nul), ← ih]
      omega

/-- A text that ends in its field is read as `fixed_cstr` reads it. -/
theorem cStrAt_field (ends : 0 ∈ field) :
    cStrAt (field ++ rest) = NativeSkfProvider.fixedCstr field := by
  have same : (field ++ rest).takeWhile (· ≠ 0) = field.takeWhile (· ≠ 0) := by
    induction field with
    | nil => cases ends
    | cons byte field ih =>
      rw [List.cons_append, List.takeWhile_cons, List.takeWhile_cons]
      by_cases nul : byte = 0
      · simp [nul]
      · have later : 0 ∈ field := (List.mem_cons.mp ends).resolve_left (Ne.symm nul)
        rw [ih later]
  rw [cStrAt, same, NativeSkfProvider.fixedCstr]

theorem cStrAt_closed (field rest : List UInt8) :
    cStrAt (field ++ [0] ++ rest) = NativeSkfProvider.fixedCstr field := by
  rw [cStrAt, takeWhile_closed, NativeSkfProvider.fixedCstr]

theorem serialTail_split (info : DevInfo) : ∃ rest, info.serialTail = info.serialNumber ++ rest ∧
    info.closed.serialTail = info.serialNumber ++ [0] ++ rest := by
  refine ⟨[info.hwVersion.major, info.hwVersion.minor, info.firmwareVersion.major,
    info.firmwareVersion.minor] ++
    (info.padding ++
      (leBytes info.algSymCap ++ (leBytes info.algAsymCap ++ (leBytes info.algHashCap ++
      (leBytes info.devAuthAlgId ++ (leBytes info.totalSpace ++ (leBytes info.freeSpace ++
        (leBytes info.maxECCBufferSize ++
          (leBytes info.maxBufferSize ++ (info.reserved ++ info.beyond)))))))))), ?_, ?_⟩
  · simp only [DevInfo.serialTail, List.append_assoc]
  · simp only [DevInfo.serialTail, DevInfo.closed, List.append_assoc]

theorem devInfoJson_closed (info : DevInfo) : devInfoJson info.closed =
    .ofFields [("version", versionJson info.version),
      ("manufacturer", .string (NativeSkfProvider.fixedCstr info.manufacturer)),
      ("issuer", .string (NativeSkfProvider.fixedCstr info.issuer)),
      ("label", .string (NativeSkfProvider.fixedCstr info.label)),
      ("serialNumber", .string (NativeSkfProvider.fixedCstr info.serialNumber)),
      ("hwVersion", versionJson info.hwVersion),
        ("firmwareVersion", versionJson info.firmwareVersion),
      ("algSymCap", .ofU32 info.algSymCap), ("algAsymCap", .ofU32 info.algAsymCap),
      ("algHashCap", .ofU32 info.algHashCap), ("devAuthAlgId", .ofU32 info.devAuthAlgId),
      ("totalSpace", .ofU32 info.totalSpace), ("freeSpace", .ofU32 info.freeSpace),
      ("maxECCBufferSize", .ofU32 info.maxECCBufferSize),
        ("maxBufferSize", .ofU32 info.maxBufferSize)] := by
  have manufacturer : cStrAt info.closed.manufacturerTail =
      NativeSkfProvider.fixedCstr info.manufacturer :=
    cStrAt_closed info.manufacturer info.closed.issuerTail
  have issuer : cStrAt info.closed.issuerTail = NativeSkfProvider.fixedCstr info.issuer :=
    cStrAt_closed info.issuer info.closed.labelTail
  have label : cStrAt info.closed.labelTail = NativeSkfProvider.fixedCstr info.label :=
    cStrAt_closed info.label info.closed.serialTail
  obtain ⟨rest, _, behind⟩ := serialTail_split info
  have serial := cStrAt_closed info.serialNumber rest
  rw [← behind] at serial
  rw [devInfoJson, manufacturer, issuer, label, serial]
  rfl

theorem devInfoJson_fair
    (ends : 0 ∈ info.manufacturer ∧ 0 ∈ info.issuer ∧ 0 ∈ info.label ∧ 0 ∈ info.serialNumber) :
    devInfoJson info.closed = devInfoJson info := by
  obtain ⟨rest, before, _⟩ := serialTail_split info
  have serial : cStrAt info.serialTail = NativeSkfProvider.fixedCstr info.serialNumber := by
    rw [before]
    exact cStrAt_field ends.2.2.2
  have label : cStrAt info.labelTail = NativeSkfProvider.fixedCstr info.label :=
    cStrAt_field ends.2.2.1
  have issuer : cStrAt info.issuerTail = NativeSkfProvider.fixedCstr info.issuer :=
    cStrAt_field ends.2.1
  have manufacturer : cStrAt info.manufacturerTail =
      NativeSkfProvider.fixedCstr info.manufacturer :=
    cStrAt_field ends.1
  rw [devInfoJson_closed, devInfoJson, manufacturer, issuer, label, serial]

theorem inside_one_iff {held extent : Nat} {succeeded : Prop} [Decidable succeeded] :
    (∀ read ∈ if succeeded then [(⟨held, extent⟩ : Read)] else [], read.Inside) ↔
      (succeeded → extent ≤ held) := by
  by_cases here : succeeded <;> simp [here, Read.Inside]

theorem inside_record_iff {ret : ULONG} :
    (∀ read ∈ if ret = SAR_OK then
      [scanned info.manufacturer info.manufacturerTail, scanned info.issuer info.issuerTail,
        scanned info.label info.labelTail, scanned info.serialNumber info.serialTail] else [],
          read.Inside) ↔
      (ret = SAR_OK → 0 ∈ info.manufacturer ∧ 0 ∈ info.issuer ∧ 0 ∈ info.label ∧
        0 ∈ info.serialNumber) := by
  obtain ⟨rest, before, _⟩ := serialTail_split info
  have manufacturer : (scanned info.manufacturer info.manufacturerTail).Inside ↔
      0 ∈ info.manufacturer :=
    scanned_inside_iff
  have issuer : (scanned info.issuer info.issuerTail).Inside ↔ 0 ∈ info.issuer := scanned_inside_iff
  have label : (scanned info.label info.labelTail).Inside ↔ 0 ∈ info.label := scanned_inside_iff
  have serial : (scanned info.serialNumber info.serialTail).Inside ↔ 0 ∈ info.serialNumber := by
    rw [before]
    exact scanned_inside_iff
  by_cases here : ret = SAR_OK
  · simp [here, manufacturer, issuer, label, serial]
  · simp [here]

/-- What is read lies inside of its buffers and fields exactly after a fair reply. -/
theorem inside_iff (op : Op) (reply : op.Reply) :
    (∀ read ∈ reads op reply, read.Inside) ↔ Fair op reply := by
  cases op with
  | vendor op =>
    cases op with
    | enumDev library present buffer =>
      cases buffer with
      | none => simp [reads, Fair]
      | some capacity => exact inside_one_iff
    | enumApplication device buffer =>
      cases buffer with
      | none => simp [reads, Fair]
      | some capacity => exact inside_one_iff
    | enumContainer application buffer =>
      cases buffer with
      | none => simp [reads, Fair]
      | some capacity => exact inside_one_iff
    | exportCertificate container isSign buffer =>
      cases buffer with
      | none => simp [reads, Fair]
      | some capacity => exact inside_one_iff.trans (iff_of_true (fun _ => Nat.le_refl _) trivial)
    | getDevInfo device => exact inside_record_iff
    | _ => simp [reads, Fair]
  | _ => simp [reads, Fair]

end decoders

section branches

variable {A B : Type} {ctx : SkfContext} {params : Params} {lang : Language} {id : Option Json}

/-- A handler that cannot tell a fair reply from what the bounded decoders see of it. -/
abbrev Decodes {A : Type} (p : Handler A) : Prop := p.Indistinct bounded Fair

theorem Decodes.bind {p : Handler B} {k : B → Handler A} (first : Decodes p)
    (later : ∀ value, Decodes (k value)) :
    Decodes (p >>= k) := indistinct_bind first later

theorem Decodes.ite {c : Prop} [Decidable c] {p q : Handler A} (yes : Decodes p) (no : Decodes q) :
    Decodes (if c then p else q) := indistinct_ite yes no

theorem decodes_ask {op : Op} (shown : ∀ reply, bounded op reply = reply) :
    Decodes (Program.ask (I := Skf) op) := fun reply => ⟨fun _ => by rw [shown reply], trivial⟩

theorem decodes_orReply (x : Except RpcResponse A) : Decodes (orReply x) := by
  cases x <;> trivial

theorem decodes_unwrap (x : Option A) (why : Panic) : Decodes (unwrap x why) := by
  cases x <;> trivial

theorem decodes_getApi (name : String) : Decodes (ctx.getApi name) := by
  apply (decodes_ask fun _ => rfl).bind
  intro cached
  cases cached with
  | true => trivial
  | false =>
    dsimp only
    split
    · trivial
    · apply (decodes_ask fun _ => rfl).bind
      intro loaded
      cases loaded with
      | ok done => exact (decodes_ask fun _ => rfl).bind fun _ => trivial
      | error reason => trivial

theorem decodes_apiOr (name : String) (failed : String → RpcResponse) :
    Decodes (apiOr ctx name failed) := by
  apply (decodes_getApi name).bind
  intro found
  cases found <;> trivial

theorem decodes_connectDev (api : Library) (provName devName : String) :
    Decodes (connectDev api provName devName id) := by
  apply (decodes_unwrap _ _).bind
  intro name
  apply (decodes_ask fun _ => rfl).bind
  intro answer
  apply Decodes.ite
  · trivial
  · exact (decodes_ask fun _ => rfl).bind fun _ => trivial

theorem decodes_disConnectDev (device : Device) : Decodes (disConnectDev device) :=
  (decodes_ask fun _ => rfl).bind fun _ => trivial

theorem decodes_closeApplication (application : Application) :
    Decodes (closeApplication application) :=
  (decodes_ask fun _ => rfl).bind fun _ => trivial

theorem decodes_openApp (device : Device) (provName appName : String) :
    Decodes (openApp device provName appName id) := by
  apply (decodes_unwrap _ _).bind
  intro name
  apply (decodes_ask fun _ => rfl).bind
  intro answer
  apply Decodes.ite
  · trivial
  · apply (decodes_disConnectDev device).bind
    intro done
    exact (decodes_ask fun _ => rfl).bind fun _ => trivial

/-- The two calls of a list: one that only asks for its size, and one whose buffer the decoders are
bounded to. -/
structure ListCalls (query : Option ULONG → Handler Filled) : Prop where
  sizes : Decodes (query none)
  fetches : ∀ (A : Type) (capacity : ULONG) (k : Filled → Handler A),
    (∀ filled, Decodes (k filled)) →
    (∀ filled, (filled.ret = SAR_OK → filled.size ≤ capacity) →
      k (filled.clipped capacity) = k filled) →
      Decodes (query (some capacity) >>= k)

theorem listCalls_enumDev (api : Library) :
    ListCalls fun buffer => vendor (.enumDev api true buffer) where
  sizes := decodes_ask fun _ => rfl
  fetches _ _ _ later same reply := ⟨same reply, later reply⟩

theorem listCalls_enumApplication (device : Device) :
    ListCalls fun buffer => vendor (.enumApplication device buffer) where
  sizes := decodes_ask fun _ => rfl
  fetches _ _ _ later same reply := ⟨same reply, later reply⟩

theorem listCalls_enumContainer (application : Application) :
    ListCalls fun buffer => vendor (.enumContainer application buffer) where
  sizes := decodes_ask fun _ => rfl
  fetches _ _ _ later same reply := ⟨same reply, later reply⟩

variable {query : Option ULONG → Handler Filled}

theorem decodes_enumerated {release : Handler Unit} {sizeFailed listFailed : String}
    (calls : ListCalls query) (released : Decodes release) :
    Decodes (enumerated query release sizeFailed listFailed id) := by
  apply calls.sizes.bind
  intro sized
  apply Decodes.ite
  · exact released.bind fun _ => Decodes.ite trivial trivial
  · apply calls.fetches
    · intro filled
      exact released.bind fun _ => Decodes.ite trivial trivial
    · intro filled fits
      by_cases succeeded : filled.ret = SAR_OK
      · rw [namesOf_fair (fits succeeded)]
        rfl
      · have failed : (filled.clipped sized.size).ret ≠ SAR_OK := succeeded
        simp only [succeeded, failed, if_false]
        rfl

theorem decodes_listed (calls : ListCalls query) : Decodes (FindCertificates.listed query) := by
  apply calls.sizes.bind
  intro sized
  apply Decodes.ite
  · apply calls.fetches
    · intro filled
      exact Decodes.ite trivial trivial
    · intro filled fits
      by_cases succeeded : filled.ret = SAR_OK
      · rw [namesOf_fair (fits succeeded)]
        rfl
      · have failed : (filled.clipped sized.size).ret ≠ SAR_OK := succeeded
        simp only [succeeded, failed, if_false]
  · trivial

theorem decodes_enumDevice : Decodes (EnumDevice.handle ctx params lang) := by
  apply Decodes.ite
  · apply (decodes_ask fun _ => rfl).bind
    intro answer
    cases answer with
    | none => trivial
    | some result => cases result <;> trivial
  · apply (decodes_apiOr _ _).bind
    intro api
    exact decodes_enumerated (listCalls_enumDev api) trivial

theorem decodes_enumApplication : Decodes (EnumApplication.handle ctx params lang) := by
  apply (decodes_orReply _).bind
  intro devName
  apply (decodes_apiOr _ _).bind
  intro api
  apply (decodes_connectDev _ _ _).bind
  intro device
  exact decodes_enumerated (listCalls_enumApplication device) (decodes_disConnectDev device)

theorem decodes_enumContainer : Decodes (EnumContainer.handle ctx params lang) := by
  apply (decodes_orReply _).bind
  intro devName
  apply (decodes_orReply _).bind
  intro appName
  apply (decodes_apiOr _ _).bind
  intro api
  apply (decodes_connectDev _ _ _).bind
  intro device
  apply (decodes_openApp _ _ _).bind
  intro application
  apply decodes_enumerated (listCalls_enumContainer application)
  exact (decodes_closeApplication application).bind fun _ => decodes_disConnectDev device

theorem decodes_record {device : Device} {k : ULONG × DevInfo → Handler A}
    (later : ∀ ret info, Decodes (k (ret, info)))
    (same : ∀ ret info, (ret = SAR_OK → 0 ∈ info.manufacturer ∧ 0 ∈ info.issuer ∧ 0 ∈ info.label ∧
      0 ∈ info.serialNumber) → k (ret, info.closed) = k (ret, info)) :
    Decodes (withConnected device (vendor (.getDevInfo device)) >>= k) := by
  intro answer
  obtain ⟨ret, info⟩ := answer
  constructor
  · intro ends
    exact congrArg (fun p => disConnectDev device >>= fun _ => p) (same ret info ends)
  · apply Decodes.bind
    · exact (decodes_disConnectDev device).bind fun _ => trivial
    · intro result
      exact later result.1 result.2

theorem decodes_getDevInfo : Decodes (GetDevInfo.handle ctx params lang) := by
  apply (decodes_orReply _).bind
  intro devName
  apply (decodes_apiOr _ _).bind
  intro api
  apply (decodes_connectDev _ _ _).bind
  intro device
  apply decodes_record
  · intro ret info
    exact Decodes.ite trivial trivial
  · intro ret info ends
    by_cases succeeded : ret = SAR_OK
    · dsimp only
      rw [if_pos succeeded, if_pos succeeded, devInfoJson_fair (ends succeeded)]
    · dsimp only
      rw [if_neg succeeded, if_neg succeeded]

end branches

section search

open FindCertificates

variable {ctx : SkfContext} {params : Params} {want : Wanted} {keyStem : String}

theorem decodes_processCert (container : Container) (isSign : Bool) :
    Decodes (processCert ctx keyStem container isSign) := by
  apply (decodes_ask fun _ => rfl).bind
  intro sized
  apply Decodes.ite
  · apply (decodes_ask fun _ => rfl).bind
    intro filled
    apply Decodes.ite
    · dsimp only
      split <;> trivial
    · trivial
  · trivial

theorem decodes_inContainer (application : Application) (contName : String) :
    Decodes (inContainer ctx want keyStem application contName) := by
  apply (decodes_unwrap _ _).bind
  intro name
  apply (decodes_ask fun _ => rfl).bind
  intro answer
  apply Decodes.ite
  · have ended (found : List Json) :
      Decodes (closeContainer ⟨application, contName, answer.2⟩ >>= fun _ => pure found) :=
      Decodes.bind ((decodes_ask fun _ => rfl).bind fun _ => trivial) fun _ => trivial
    apply Decodes.ite
    · apply (decodes_processCert _ _).bind
      intro sign
      exact Decodes.ite ((decodes_processCert _ _).bind fun _ => ended _) (ended _)
    · exact Decodes.ite ((decodes_processCert _ _).bind fun _ => ended _) (ended _)
  · trivial

theorem decodes_inApplication (device : Device) (appName : String) :
    Decodes (inApplication ctx want keyStem device appName) := by
  apply (decodes_unwrap _ _).bind
  intro name
  apply (decodes_ask fun _ => rfl).bind
  intro answer
  apply Decodes.ite
  · apply (decodes_listed (listCalls_enumContainer _)).bind
    intro contNames
    apply Decodes.bind
      (indistinct_collect (fun contName => decodes_inContainer _ contName) contNames)
    intro found
    exact (decodes_closeApplication _).bind fun _ => trivial
  · trivial

theorem decodes_inDevice (api : Library) (provName devName : String) :
    Decodes (inDevice ctx want api provName devName) := by
  apply (decodes_unwrap _ _).bind
  intro name
  apply (decodes_ask fun _ => rfl).bind
  intro answer
  apply Decodes.ite
  · apply (decodes_listed (listCalls_enumApplication _)).bind
    intro appNames
    apply Decodes.bind
      (indistinct_collect (fun appName => decodes_inApplication _ appName) appNames)
    intro found
    exact (decodes_disConnectDev _).bind fun _ => trivial
  · trivial

theorem decodes_inProvider (provName : String) : Decodes (inProvider ctx want provName) := by
  apply (decodes_getApi provName).bind
  intro found
  cases found with
  | error reason => trivial
  | ok api =>
    apply (decodes_listed (listCalls_enumDev api)).bind
    intro devNames
    exact indistinct_collect (fun devName => decodes_inDevice api provName devName) devNames

theorem decodes_findCertificates : Decodes (FindCertificates.handle ctx params) :=
  Decodes.bind (indistinct_collect (fun provName => decodes_inProvider provName) _) fun _ => trivial

end search

inductive DecodingBranch
  | EnumDevice
  | EnumApplication
  | EnumContainer
  | FindCertificates
  | GetDevInfo

def DecodingBranch.handle (branch : DecodingBranch) (ctx : SkfContext) (params : Params)
    (lang : Language) :
    Handler RpcResponse :=
  match branch with
  | EnumDevice => EnumDevice.handle ctx params lang
  | EnumApplication => EnumApplication.handle ctx params lang
  | EnumContainer => EnumContainer.handle ctx params lang
  | FindCertificates => FindCertificates.handle ctx params
  | GetDevInfo => GetDevInfo.handle ctx params lang

theorem DecodingBranch.decodes (branch : DecodingBranch) (ctx : SkfContext) (params : Params)
    (lang : Language) :
    Decodes (branch.handle ctx params lang) := by
  cases branch with
  | EnumDevice => exact decodes_enumDevice
  | EnumApplication => exact decodes_enumApplication
  | EnumContainer => exact decodes_enumContainer
  | FindCertificates => exact decodes_findCertificates
  | GetDevInfo => exact decodes_getDevInfo

/-- In a run of a branch everything read lies in its buffer or field, and the outcome is that of the
bounded decoders, exactly if the vendor reports no list longer than its buffer and ends each text
inside its field. -/
theorem vendor_buffers_bounded_iff {branch : DecodingBranch} {ctx : SkfContext} {params : Params}
    {lang : Language} {trace : List (Event Skf)} {outcome : Except Exit RpcResponse}
    (ran : (branch.handle ctx params lang).Finishes trace outcome) :
    ((∀ event ∈ trace, ∀ read ∈ reads event.op event.reply, read.Inside) ∧
      ((branch.handle ctx params lang).viewing bounded).Finishes trace outcome) ↔
        ∀ event ∈ trace, Fair event.op event.reply := by
  constructor
  · intro inside event member
    exact (inside_iff event.op event.reply).mp (inside.1 event member)
  · intro fair
    constructor
    · intro event member
      exact (inside_iff event.op event.reply).mpr (fair event member)
    · exact (branch.decodes ctx params lang).finishes ran fair

namespace Listing

def request : Params := ⟨[.string "3000GM"], none⟩

/-- The library answers four bytes for the size, and then reports `size` bytes. -/
def trace (size : ULONG) : List (Event Skf) :=
  [⟨.host (.readCache "3000GM"), true⟩,
    ⟨.vendor (.enumDev ⟨"3000GM", none⟩ true none), ⟨SAR_OK, 4, []⟩⟩,
    ⟨.vendor (.enumDev ⟨"3000GM", none⟩ true (some 4)),
      ⟨SAR_OK, size, [0x4B, 0x31, 0, 0, 0x41, 0x42]⟩⟩]

def outcome (size : ULONG) : Except Exit RpcResponse :=
  .ok (.ok (.strings (namesOf ⟨SAR_OK, size, [0x4B, 0x31, 0, 0, 0x41, 0x42]⟩)) none)

theorem ran (size : ULONG) :
    (DecodingBranch.EnumDevice.handle (.serving []) request .EN).Finishes (trace size)
      (outcome size) :=
  .step _ (.step _ (.step _ (.refl _)))

end Listing

/-- A list that is reported longer than at first is read beyond its buffer. -/
theorem longer_list_read_beyond :
    ¬∀ (branch : DecodingBranch) (ctx : SkfContext) (params : Params) (lang : Language)
      (trace : List (Event Skf)) (outcome : Except Exit RpcResponse),
      (branch.handle ctx params lang).Finishes trace outcome →
        (∀ event ∈ trace, ∀ read ∈ reads event.op event.reply, read.Inside) ∧
          ((branch.handle ctx params lang).viewing bounded).Finishes trace outcome := by
  intro inside
  have read :=
    (inside _ _ _ _ _ _ (Listing.ran 6)).1 _ (List.mem_of_getElem? (i := 2) rfl)
      ⟨4, 6⟩ List.mem_cons_self
  exact absurd (show 6 ≤ 4 from read) (by decide)

theorem vendor_buffers_bounded_listing :
    ((DecodingBranch.EnumDevice.handle (.serving []) Listing.request .EN).viewing bounded).Finishes
      (Listing.trace 4)
      (Listing.outcome 4) := by
  apply ((vendor_buffers_bounded_iff (Listing.ran 4)).mpr ?_).2
  intro event member
  rcases List.mem_cons.mp member with rfl | later
  · trivial
  · rcases List.mem_pair.mp later with rfl | rfl
    · trivial
    · exact fun _ => UInt32.le_refl 4

end SkfService
