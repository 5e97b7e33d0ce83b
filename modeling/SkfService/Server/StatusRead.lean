import SkfService.Server.StatusFile
import SkfService.Text.JsonLines
import SkfService.Text.JsonScalars
import SkfService.Text.Utf8

/-! The status file read back. -/

set_option autoImplicit false

namespace SkfService

open Text Interaction

/-- The members of a text that is one object; no character of it takes more than two calls. -/
def readObject (text : String) : Option (List Field) := readWith (2 * text.toList.length + 2) text

/-- A variant by its name, which may also be the one key of an object, with `null` under it. -/
def variant {A : Type} (named : String → Option A) (raw : List Char) : Option A :=
  match asString raw with
  | some name => named name
  | none =>
    match readObject (.ofList raw) with
    | some [(key, inside)] =>
      if inside = "null".toList then (decode .plain key).bind fun name =>
        named (.ofList name) else none
    | _ => none

def StartupStage.ofStr (name : String) : Option StartupStage :=
  [Config, Provider, Bind, Serve].find? fun stage => stage.asStr = name

def ServiceState.ofStr (name : String) : Option ServiceState :=
  [StartPending, Running, Failed, Stopped].find? fun state => state.asStr = name

theorem StartupStage.ofStr_asStr (stage : StartupStage) : ofStr stage.asStr = some stage := by
  cases stage <;> rfl

theorem ServiceState.ofStr_asStr (state : ServiceState) : ofStr state.asStr = some state := by
  cases state <;> rfl

def asU32 (raw : List Char) : Option UInt32 :=
  (asWhole raw).bind fun n => if n < 4294967296 then some (.ofNat n) else none

namespace ServiceStatusFile

/-- A field: none where it is there twice, and nothing in it where it is missing. -/
def field (key : String) (members : List (String × List Char)) : Option (Option (List Char)) :=
  match members.filter fun member => member.1 = key with
  | [] => some none
  | [(_, raw)] => some (some raw)
  | _ => none

def must {A : Type} (read : List Char → Option A) (key : String)
    (members : List (String × List Char)) : Option A :=
  (field key members).bind fun found => found.bind read

def maybe {A : Type} (read : List Char → Option A) (key : String)
    (members : List (String × List Char)) :
    Option (Option A) :=
  (field key members).bind fun found =>
    match found with
    | none => some none
    | some raw => if raw = "null".toList then some none else (read raw).map some

def ofMembers (members : List (String × List Char)) : Option ServiceStatusFile := do
  let state ← must (variant ServiceState.ofStr) "state" members
  let stage ← must (variant StartupStage.ofStr) "stage" members
  let code ← maybe asU32 "code" members
  let reason ← maybe asString "reason" members
  let pid ← maybe asU32 "pid" members
  let address ← maybe asString "address" members
  let updated ← maybe asString "updated" members
  let startedAt ← maybe asString "started_at" members
  return ⟨state, stage, code, reason, pid, address, updated, startedAt⟩

def named (member : Field) : Option (String × List Char) :=
  (decode .plain member.1).map fun key => (.ofList key, member.2)

/-- `read`: fields of other names are passed over. The array form, which the derived reader takes as
well and which is never written, is left out. -/
def read (bytes : List UInt8) : Option ServiceStatusFile := do
  let text ← fromUtf8 bytes
  let members ← readObject text
  let keyed ← members.mapM named
  ofMembers keyed

section roundtrip

variable {A B : Type} {key other : String} {present : Option B} {json : B → Json}
  {members : List (String × List Char)}

def keyed (members : List (String × Json)) : List (String × List Char) :=
  members.map fun member => (member.1, member.2.chars)

theorem mapM_named (members : List (String × Json)) :
    (members.map fun member => (member.1.toList.flatMap escapeChar, member.2.chars)).mapM named =
      some (keyed members) := by
  have each (member : String × Json) :
      named (member.1.toList.flatMap escapeChar, member.2.chars) =
        some (member.1, member.2.chars) := by
    rw [named, decode_written, Option.map_some, String.ofList_toList]
  rw [List.mapM_map]
  induction members with
  | nil => rfl
  | cons member members ih =>
    rw [List.mapM_cons, Function.comp_apply, each, ih]
    rfl

theorem variant_written {named : String → Option A} {name : String} :
    variant named (Json.string name).chars = named name := by
  have literal : asString (Json.string name).chars = some name := asString_stringLiteral name
  rw [variant, literal]

theorem asU32_written (value : UInt32) : asU32 (Json.ofU32 value).chars = some value := by
  have digits : (Json.ofU32 value).chars = (decimal value.toNat).toList := rfl
  rw [asU32, digits, asWhole_decimal, Option.bind_some, if_pos value.toNat_lt, UInt32.ofNat_toNat]

theorem filter_optional_same :
    ((keyed (optional key (present.map json))).filter fun member => member.1 = key) =
    (present.map fun value => (key, (json value).chars)).toList := by
  cases present with
  | none => rfl
  | some value => exact List.filter_cons_of_pos (decide_eq_true rfl)

theorem filter_optional_other (differs : other ≠ key) :
    ((keyed (optional other (present.map json))).filter fun member => member.1 = key) = [] := by
  cases present with
  | none => rfl
  | some value => exact List.filter_cons_of_neg (by simpa using differs)

theorem maybe_of_filter {read : List Char → Option A} {value : Option A} {raw : A → List Char}
    (here : (members.filter fun member => member.1 = key) =
      (value.map fun a => (key, raw a)).toList)
    (reads : ∀ a, read (raw a) = some a) (solid : ∀ a, raw a ≠ "null".toList) :
    maybe read key members = some value := by
  rw [maybe, field, here]
  cases value with
  | none => rfl
  | some a =>
    have found : read (raw a) = some a := reads a
    simp only [Option.map_some, Option.toList_some, Option.bind_some, if_neg (solid a), found]

theorem must_of_filter {read : List Char → Option A} {value : A} {raw : List Char}
    (here : (members.filter fun member => member.1 = key) = [(key, raw)])
    (reads : read raw = some value) :
    must read key members = some value := by
  rw [must, field, here, Option.bind_some, Option.bind_some, reads]

theorem keyed_fields (value : ServiceStatusFile) : keyed value.fields =
    ("state", (Json.string value.state.asStr).chars) ::
      ("stage", (Json.string value.stage.asStr).chars) ::
      (keyed (optional "code" (value.code.map .ofU32)) ++
        (keyed (optional "reason" (value.reason.map .string)) ++
        (keyed (optional "pid" (value.pid.map .ofU32)) ++
          (keyed (optional "address" (value.address.map .string)) ++
          (keyed (optional "updated" (value.updated.map .string)) ++
            keyed (optional "started_at" (value.startedAt.map .string))))))) := by
  simp only [fields, keyed, List.map_cons, List.map_append, List.flatten_cons, List.flatten_nil,
    List.append_nil]

theorem asString_chars (s : String) : asString (Json.string s).chars = some s :=
  asString_stringLiteral s

theorem string_ne_null (s : String) : (Json.string s).chars ≠ "null".toList := by
  intro same
  cases same

theorem number_ne_null (n : UInt32) : (Json.ofU32 n).chars ≠ "null".toList := by
  intro same
  -- What is read as a number is not the word.
  have read := asU32_written n
  rw [same] at read
  cases read

theorem ofMembers_fields (value : ServiceStatusFile) :
    ofMembers (keyed value.fields) = some value := by
  have spelled := keyed_fields value
  -- Each field is looked for among the members as they were spelled.
  generalize keyed value.fields = members at spelled ⊢
  have state : must (variant ServiceState.ofStr) "state" members = some value.state :=
    must_of_filter (by simp [spelled, filter_optional_other])
      (variant_written.trans (ServiceState.ofStr_asStr _))
  have stage : must (variant StartupStage.ofStr) "stage" members = some value.stage :=
    must_of_filter (by simp [spelled, filter_optional_other])
      (variant_written.trans (StartupStage.ofStr_asStr _))
  have code : maybe asU32 "code" members = some value.code :=
    maybe_of_filter (by simp [spelled, filter_optional_same, filter_optional_other]) asU32_written
      number_ne_null
  have reason : maybe asString "reason" members = some value.reason :=
    maybe_of_filter (by simp [spelled, filter_optional_same, filter_optional_other]) asString_chars
      string_ne_null
  have pid : maybe asU32 "pid" members = some value.pid :=
    maybe_of_filter (by simp [spelled, filter_optional_same, filter_optional_other]) asU32_written
      number_ne_null
  have address : maybe asString "address" members = some value.address :=
    maybe_of_filter (by simp [spelled, filter_optional_same, filter_optional_other]) asString_chars
      string_ne_null
  have updated : maybe asString "updated" members = some value.updated :=
    maybe_of_filter (by simp [spelled, filter_optional_same, filter_optional_other]) asString_chars
      string_ne_null
  have startedAt : maybe asString "started_at" members = some value.startedAt :=
    maybe_of_filter (by simp [spelled, filter_optional_same, filter_optional_other]) asString_chars
      string_ne_null
  simp only [ofMembers, state, stage, code, reason, pid, address, updated, startedAt,
    Option.bind_eq_bind, Option.bind_some]
  rfl

theorem read_toVecPretty (value : ServiceStatusFile) : read value.toVecPretty = some value := by
  have written : value.toVecPretty = utf8 (.ofList (pretty value.fields)) := rfl
  have members : readObject (.ofList (pretty value.fields)) =
      some (value.fields.map fun member =>
        (member.1.toList.flatMap escapeChar, member.2.chars)) := by
    have some : value.fields ≠ [] := List.cons_ne_nil _ _
    apply readWith_pretty _ some
    rw [String.toList_ofList]
    exact Nat.le_add_right _ _
  rw [written, read, fromUtf8_utf8]
  simp only [members, mapM_named, ofMembers_fields, Option.bind_eq_bind, Option.bind_some]

end roundtrip
end ServiceStatusFile

def writeAll : List ServiceStatusFile → Program StatusFiles Empty Unit
  | [] => .done ()
  | value :: later => do
    let _written ← writeAtomic value
    writeAll later

section order

open StatusDir

variable {value : ServiceStatusFile} {values : List ServiceStatusFile}
  {front back trace : List (Event StatusFiles)} {result : Except String Unit} {first : StatusDir}
  {dirs : List StatusDir}

theorem Visits.split (visits : Visits first (front ++ back) dirs) : ∃ init middle tail,
    Visits first front (init ++ [middle]) ∧ Visits middle back tail ∧ dirs = init ++ tail := by
  induction front generalizing first dirs with
  | nil => exact ⟨[], first, dirs, .last, visits, rfl⟩
  | cons event front ih =>
    cases visits with
    | next does later =>
      obtain ⟨init, middle, tail, before, behind, rfl⟩ := ih later
      exact ⟨first :: init, middle, tail, .next does before, behind, rfl⟩

/-- During a write the file has its old content or is gone, and after it it may also have the new
one. -/
theorem write_target {init : List StatusDir} {last : StatusDir}
    (ran : (writeAtomic value).Finishes trace (.ok result))
    (visits : Visits first trace (init ++ [last])) :
    (∀ dir ∈ init, dir.target = first.target ∨ dir.target = none) ∧
      (last.target = first.target ∨ last.target = none ∨ last.target = some value.toVecPretty) := by
  have calls := writeAtomic_calls ran
  generalize value.toVecPretty = new at calls ⊢
  -- The three ways a write goes visit lists of different lengths; the last directory of each is cut
  -- off.
  have ends {dirs : List StatusDir} (same : init ++ [last] = dirs) :
      init = dirs.dropLast ∧ dirs.getLast? = some last := by
    subst same
    exact ⟨List.dropLast_concat.symm, List.getLast?_concat⟩
  generalize whole : init ++ [last] = dirs at visits
  obtain ⟨early, final⟩ := ends whole
  rcases calls with ⟨e, rfl, rfl⟩ | ⟨rfl, rfl⟩ | ⟨e, removed, rfl⟩
  · cases visits with
    | next does later =>
      cases does
      cases later
      cases final
      subst early
      exact ⟨by simp, .inl rfl⟩
  · cases visits with
    | next does later =>
      cases does
      cases later with
      | next does later =>
        cases does
        cases later
        cases final
        subst early
        exact ⟨by simp, .inr (.inr rfl)⟩
  · obtain ⟨kept, after, rfl, removal, ending⟩ := visits_fallback visits
    cases final
    have gone : kept = first.target ∨ kept = none := by
      rcases removal with ⟨-, -, gone⟩ | ⟨-, same⟩
      · exact .inr gone
      · exact .inl same
    subst early
    refine ⟨by simpa using gone, ?_⟩
    rcases ending with ⟨-, rfl⟩ | ⟨-, rfl⟩
    · exact .inr (.inr rfl)
    · exact gone.imp_right .inl

def Marked (old : Option (List UInt8)) (values : List ServiceStatusFile) (dir : StatusDir)
    (mark : Nat) : Prop :=
  dir.target = none ∨ (mark = 0 ∧ dir.target = old) ∨
    ∃ n value, mark = n + 1 ∧ values[n]? = some value ∧ dir.target = some value.toVecPretty

def shifted (written : Prop) [Decidable written] (mark : Nat) : Nat :=
  if written ∨ 0 < mark then mark + 1 else 0

theorem shifted_mono {written : Prop} [Decidable written] {one other : Nat} (le : one ≤ other) :
    shifted written one ≤ shifted written other := by
  unfold shifted
  by_cases here : written
  · simp only [here, true_or, if_true]
    omega
  · simp only [here, false_or]
    split <;> split <;> omega

theorem Marked.later {old kept : Option (List UInt8)} {dir : StatusDir} {mark : Nat}
    (marked : Marked kept values dir mark)
    (left : kept = old ∨ kept = none ∨ kept = some value.toVecPretty) :
    Marked old (value :: values) dir (shifted (kept = some value.toVecPretty) mark) := by
  rcases marked with gone | ⟨rfl, same⟩ | ⟨n, other, rfl, listed, here⟩
  · exact .inl gone
  -- The file still has what the write before left: that write's own status, or older content.
  · by_cases written : kept = some value.toVecPretty
    · refine .inr (.inr ⟨0, value, ?_, rfl, same.trans written⟩)
      rw [shifted, if_pos (.inl written)]
    · rcases left with rfl | rfl | new
      · refine .inr (.inl ⟨?_, same⟩)
        rw [shifted, if_neg (by simpa using written)]
      · exact .inl same
      · exact absurd new written
  · refine .inr (.inr ⟨n + 1, other, ?_, listed, here⟩)
    rw [shifted, if_pos (.inr (Nat.succ_pos n))]

theorem marked_before {old : Option (List UInt8)} {init : List StatusDir}
    (early : ∀ dir ∈ init, dir.target = old ∨ dir.target = none) :
    List.Forall₂ (Marked old values) init (List.replicate init.length 0) := by
  induction init with
  | nil => exact .nil
  | cons dir init ih =>
    refine .cons ?_ (ih fun other member => early other (List.mem_cons_of_mem _ member))
    rcases early dir List.mem_cons_self with same | gone
    · exact .inr (.inl ⟨rfl, same⟩)
    · exact .inl gone

theorem marked_writeAll (ran : (writeAll values).Finishes trace (.ok ()))
    (visits : Visits first trace dirs) :
    ∃ marks : List Nat,
      List.Forall₂ (Marked first.target values) dirs marks ∧ marks.Pairwise (· ≤ ·) := by
  induction values generalizing trace first dirs with
  | nil =>
    cases ran
    cases visits
    exact ⟨[0], .cons (.inr (.inl ⟨rfl, rfl⟩)) .nil, List.pairwise_singleton _ _⟩
  | cons value values ih =>
    obtain ⟨result, front, back, rfl, wrote, rest⟩ := Program.finishes_bind ran
    obtain ⟨init, middle, tail, before, behind, rfl⟩ := Visits.split visits
    obtain ⟨early, left⟩ := write_target wrote before
    obtain ⟨marks, marked, ordered⟩ := ih rest behind
    refine ⟨List.replicate init.length 0 ++ marks.map
      (shifted (middle.target = some value.toVecPretty)), ?_, ?_⟩
    · exact List.rel_append (marked_before early)
        (List.forall₂_map_right_iff.mpr (marked.imp fun dir mark here => here.later left))
    · refine List.pairwise_append.mpr ⟨List.pairwise_replicate.mpr (.inr (Nat.le_refl 0)), ?_, ?_⟩
      · exact List.pairwise_map.mpr (ordered.imp shifted_mono)
      · intro before member mark _
        rw [List.eq_of_mem_replicate member]
        exact Nat.zero_le mark

/-- At every moment the file is gone or reads as one of the statuses, or as what was there before
them; and later moments read as later ones. -/
def ReadInOrder (first : StatusDir) (values : List ServiceStatusFile) (dirs : List StatusDir) :
    Prop :=
  ∃ marks : List Nat, List.Forall₂ (fun (dir : StatusDir) mark => dir.target = none ∨
    (first.target.bind ServiceStatusFile.read :: values.map some)[mark]? =
      some (dir.target.bind ServiceStatusFile.read))
      dirs marks ∧ marks.Pairwise (· ≤ ·)

/-- However the calls of any sequence of writes come out, nobody reads a status that was not
written, nor an old one after a new one. -/
theorem statuses_read_in_order (values : List ServiceStatusFile) (trace : List (Event StatusFiles))
    (first : StatusDir) (dirs : List StatusDir) (ran : (writeAll values).Finishes trace (.ok ()))
    (visits : Visits first trace dirs) :
    ReadInOrder first values dirs := by
  obtain ⟨marks, marked, ordered⟩ := marked_writeAll ran visits
  refine ⟨marks, marked.imp fun dir mark here => ?_, ordered⟩
  rcases here with gone | ⟨rfl, same⟩ | ⟨n, value, rfl, listed, here⟩
  · exact .inl gone
  · right
    rw [same]
    rfl
  · right
    rw [List.getElem?_cons_succ, List.getElem?_map, listed, here, Option.bind_some,
      value.read_toVecPretty]
    rfl

def rewritten : List ServiceStatusFile :=
  [SecondRenameFails.value, .failed .Config 1 "no such file" none "t2" none]

theorem statuses_read_in_order_rewritten :
    ∃ dirs, dirs.length = 7 ∧ ReadInOrder SecondRenameFails.first rewritten dirs := by
  have ran : (writeAll rewritten).Finishes
      (SecondRenameFails.trace ++ [⟨.write (rewritten.getLast (List.cons_ne_nil _ _)).toVecPretty,
        .ok ()⟩, ⟨.rename, .ok ()⟩])
      (.ok ()) :=
    .step _ (.step _ (.step _ (.step _ (.step _ (.step _ (.refl _))))))
  have visits : ∃ dirs, Visits SecondRenameFails.first (SecondRenameFails.trace ++
      [⟨.write (rewritten.getLast (List.cons_ne_nil _ _)).toVecPretty, .ok ()⟩, ⟨.rename, .ok ()⟩])
        dirs ∧ dirs.length = 7 :=
    ⟨_, .next .wrote (.next .unrenamed (.next (.removed (Option.some_ne_none _)) (.next .unrenamed
      (.next .wrote (.next (.renamed (Option.some_ne_none _)) .last))))), rfl⟩
  obtain ⟨dirs, visits, seven⟩ := visits
  exact ⟨dirs, seven, statuses_read_in_order rewritten _ _ dirs ran visits⟩

end order
end SkfService
