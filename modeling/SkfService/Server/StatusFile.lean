import SkfService.Server.Startup
import SkfService.Interaction.Program
import SkfService.Text.JsonText

/-! The status file and how it is replaced. -/

set_option autoImplicit false

namespace SkfService

open Text Interaction

def StartupStage.asStr : StartupStage → String
  | Config => "config"
  | Provider => "provider"
  | Bind => "bind"
  | Serve => "serve"

def ServiceState.asStr : ServiceState → String
  | StartPending => "start_pending"
  | Running => "running"
  | Failed => "failed"
  | Stopped => "stopped"

namespace ServiceStatusFile

def optional (key : String) (json : Option Json) : List (String × Json) :=
  json.toList.map (Prod.mk key)

def fields (value : ServiceStatusFile) : List (String × Json) :=
  ("state", .string value.state.asStr) :: ("stage", .string value.stage.asStr) ::
    List.flatten [optional "code" (value.code.map .ofU32),
      optional "reason" (value.reason.map .string),
      optional "pid" (value.pid.map .ofU32), optional "address" (value.address.map .string),
      optional "updated" (value.updated.map .string),
      optional "started_at" (value.startedAt.map .string)]

/-- One member to a line, indented by two blanks. -/
def toVecPretty (value : ServiceStatusFile) : List UInt8 :=
  let lines :=
    value.fields.map fun (key, json) => ' ' :: ' ' :: stringLiteral key ++ ':' :: ' ' :: json.chars
  utf8 (.ofList (.ofNat 0x7B :: '\n' :: [',', '\n'].intercalate lines ++ ['\n', .ofNat 0x7D]))

end ServiceStatusFile

/-- Writes the `json.tmp` sibling, renames it to the target, or removes the target. -/
inductive StatusOp
  | write (bytes : List UInt8)
  | rename
  | remove

abbrev StatusFiles : Signature := ⟨StatusOp, fun _ => Except String Unit⟩

def writeAtomic (value : ServiceStatusFile) : Program StatusFiles Empty (Except String Unit) := do
  match ← Program.ask (I := StatusFiles) (.write value.toVecPretty) with
  | .error e => return .error e
  | .ok () =>
    match ← Program.ask (I := StatusFiles) .rename with
    | .ok () => return .ok ()
    | .error _ =>
      let _removed ← Program.ask (I := StatusFiles) .remove
      Program.ask (I := StatusFiles) .rename

structure StatusDir where
  target : Option (List UInt8)
  tmp : Option (List UInt8)

namespace StatusDir

/-- What a call does to the directory. A write that fails may leave anything in the sibling; the
other calls that fail do nothing. -/
inductive Does : StatusDir → Event StatusFiles → StatusDir → Prop
  | wrote {dir : StatusDir} {bytes : List UInt8} :
      Does dir ⟨.write bytes, .ok ()⟩ ⟨dir.target, some bytes⟩
  -- A write that fails may leave part of the text behind.
  | unwritten {dir : StatusDir} {bytes : List UInt8} {e : String} (left : Option (List UInt8)) :
      Does dir ⟨.write bytes, .error e⟩ ⟨dir.target, left⟩
  | renamed {dir : StatusDir} (present : dir.tmp ≠ none) :
      Does dir ⟨.rename, .ok ()⟩ ⟨dir.tmp, none⟩
  | unrenamed {dir : StatusDir} {e : String} : Does dir ⟨.rename, .error e⟩ dir
  | removed {dir : StatusDir} (present : dir.target ≠ none) :
      Does dir ⟨.remove, .ok ()⟩ ⟨none, dir.tmp⟩
  | unremoved {dir : StatusDir} {e : String} : Does dir ⟨.remove, .error e⟩ dir

/-- The directories between the calls, the first and the last one included. -/
inductive Visits : StatusDir → List (Event StatusFiles) → List StatusDir → Prop
  | last {dir : StatusDir} : Visits dir [] [dir]
  | next {dir middle : StatusDir} {event : Event StatusFiles} {rest : List (Event StatusFiles)}
      {dirs : List StatusDir}
      (does : Does dir event middle) (later : Visits middle rest dirs) :
      Visits dir (event :: rest) (dir :: dirs)

end StatusDir

open StatusDir

section atomic

variable {value : ServiceStatusFile} {trace : List (Event StatusFiles)}
  {result : Except String Unit} {first : StatusDir} {dirs : List StatusDir}

/-- A failed write leaves the target as it was, and readers see the old content or the new one. They
find no file only where an existing one could not be replaced by the rename, and the write goes on
to succeed. -/
structure Atomic (new : List UInt8) (trace : List (Event StatusFiles)) (result : Except String Unit)
    (first : StatusDir) (dirs : List StatusDir) : Prop where
  kept : ∀ e, result = .error e → dirs.getLast?.map target = some first.target
  seen : ∀ dir ∈ dirs, dir.target = first.target ∨ dir.target = some new ∨
    (dir.target = none ∧ first.target ≠ none ∧ (∃ e, ⟨.rename, .error e⟩ ∈ trace) ∧ result = .ok ())

def LosesTarget (new : List UInt8) (trace : List (Event StatusFiles)) : Prop :=
  ∃ e again,
    trace = [⟨.write new, .ok ()⟩, ⟨.rename, .error e⟩, ⟨.remove, .ok ()⟩, ⟨.rename, .error again⟩]

theorem writeAtomic_calls (ran : (writeAtomic value).Finishes trace (.ok result)) :
    (∃ e, trace = [⟨.write value.toVecPretty, .error e⟩] ∧ result = .error e) ∨
      (trace = [⟨.write value.toVecPretty, .ok ()⟩, ⟨.rename, .ok ()⟩] ∧ result = .ok ()) ∨
      ∃ e removed, trace =
        [⟨.write value.toVecPretty, .ok ()⟩, ⟨.rename, .error e⟩, ⟨.remove, removed⟩,
          ⟨.rename, result⟩] := by
  unfold writeAtomic at ran
  generalize value.toVecPretty = new at ran ⊢
  cases ran with
  | step written ran =>
    cases written with
    | error e =>
      cases ran
      exact .inl ⟨e, rfl, rfl⟩
    | ok done =>
      cases ran with
      | step renamed ran =>
        -- The fallback is taken when the first rename fails, and ignores what the removal says.
        cases renamed with
        | ok done =>
          cases ran
          exact .inr (.inl ⟨rfl, rfl⟩)
        | error e =>
          cases ran with
          | step removed ran =>
            cases ran with
            | step again ran =>
              cases ran
              exact .inr (.inr ⟨e, removed, rfl⟩)

section visits

variable {new : List UInt8} {e : String}

theorem atomic_unwritten (visits : Visits first [⟨.write new, .error e⟩] dirs) :
    Atomic new [⟨.write new, .error e⟩] (.error e) first dirs := by
  cases visits with
  | next does later =>
    cases does
    cases later
    constructor
    · intro e _
      rfl
    · intro dir member
      left
      simp only [List.mem_cons, List.not_mem_nil, or_false] at member
      rcases member with rfl | rfl <;> rfl

theorem atomic_renamed (visits : Visits first [⟨.write new, .ok ()⟩, ⟨.rename, .ok ()⟩] dirs) :
    Atomic new [⟨.write new, .ok ()⟩, ⟨.rename, .ok ()⟩] (.ok ()) first dirs := by
  cases visits with
  | next does later =>
    cases does
    cases later with
    | next does later =>
      cases does
      cases later
      constructor
      · intro e impossible
        cases impossible
      · intro dir member
        simp only [List.mem_cons, List.not_mem_nil, or_false] at member
        rcases member with rfl | rfl | rfl
        · exact .inl rfl
        · exact .inl rfl
        · exact .inr (.inl rfl)

theorem visits_fallback {removed again : Except String Unit}
    (visits : Visits first [⟨.write new, .ok ()⟩, ⟨.rename, .error e⟩, ⟨.remove, removed⟩,
      ⟨.rename, again⟩] dirs) :
    ∃ kept last,
      dirs = [first, ⟨first.target, some new⟩, ⟨first.target, some new⟩, ⟨kept, some new⟩, last] ∧
      (removed = .ok () ∧ first.target ≠ none ∧ kept = none ∨ (∃ e, removed = .error e) ∧
        kept = first.target) ∧
      (again = .ok () ∧ last = ⟨some new, none⟩ ∨ (∃ e, again = .error e) ∧
        last = ⟨kept, some new⟩) := by
  -- One call after the other, each from the directory that the last one left.
  cases visits with
  | next does later =>
    cases does
    cases later with
    | next does later =>
      cases does
      cases later with
      | next does later =>
        cases later with
        | next final later =>
          cases later
          cases does with
          | removed present =>
            refine ⟨none, _, rfl, .inl ⟨rfl, present, rfl⟩, ?_⟩
            cases final with
            | renamed => exact .inl ⟨rfl, rfl⟩
            | unrenamed => exact .inr ⟨⟨_, rfl⟩, rfl⟩
          | unremoved =>
            refine ⟨first.target, _, rfl, .inr ⟨⟨_, rfl⟩, rfl⟩, ?_⟩
            cases final with
            | renamed => exact .inl ⟨rfl, rfl⟩
            | unrenamed => exact .inr ⟨⟨_, rfl⟩, rfl⟩

theorem atomic_fallback_iff {removed again : Except String Unit}
    (visits : Visits first [⟨.write new, .ok ()⟩, ⟨.rename, .error e⟩, ⟨.remove, removed⟩,
      ⟨.rename, again⟩] dirs) :
    Atomic new [⟨.write new, .ok ()⟩, ⟨.rename, .error e⟩, ⟨.remove, removed⟩, ⟨.rename, again⟩]
      again first dirs ↔
      ¬(removed = .ok () ∧ ∃ e, again = .error e) := by
  obtain ⟨kept, last, rfl, removal, final⟩ := visits_fallback visits
  rcases removal with ⟨rfl, present, rfl⟩ | ⟨⟨failure, rfl⟩, rfl⟩
  · rcases final with ⟨rfl, rfl⟩ | ⟨⟨failure, rfl⟩, rfl⟩
    · apply iff_of_true
      -- Between the two renames a reader finds no file.
      · constructor
        · intro e impossible
          cases impossible
        · intro dir member
          simp only [List.mem_cons, List.not_mem_nil, or_false] at member
          rcases member with rfl | rfl | rfl | rfl | rfl
          · exact .inl rfl
          · exact .inl rfl
          · exact .inl rfl
          · exact .inr (.inr ⟨rfl, present, ⟨e, List.mem_cons_of_mem _ List.mem_cons_self⟩, rfl⟩)
          · exact .inr (.inl rfl)
      · rintro ⟨-, failure, impossible⟩
        cases impossible
    -- The old file is gone, and the new one did not take its place.
    · apply iff_of_false
      · intro atomic
        have same := atomic.kept failure rfl
        exact present (Option.some.inj same).symm
      · intro kept
        exact kept ⟨rfl, failure, rfl⟩
  · apply iff_of_true
    · rcases final with ⟨rfl, rfl⟩ | ⟨⟨other, rfl⟩, rfl⟩
      · constructor
        · intro e impossible
          cases impossible
        · intro dir member
          simp only [List.mem_cons, List.not_mem_nil, or_false] at member
          rcases member with rfl | rfl | rfl | rfl | rfl
          · exact .inl rfl
          · exact .inl rfl
          · exact .inl rfl
          · exact .inl rfl
          · exact .inr (.inl rfl)
      · constructor
        · intro e _
          rfl
        · intro dir member
          left
          simp only [List.mem_cons, List.not_mem_nil, or_false] at member
          rcases member with rfl | rfl | rfl | rfl | rfl <;> rfl
    · rintro ⟨impossible, -⟩
      cases impossible

end visits

/-- A write is atomic unless the target was removed and could then not be replaced. -/
theorem write_atomic_iff (ran : (writeAtomic value).Finishes trace (.ok result))
    (visits : Visits first trace dirs) :
    Atomic value.toVecPretty trace result first dirs ↔ ¬LosesTarget value.toVecPretty trace := by
  have calls := writeAtomic_calls ran
  generalize value.toVecPretty = new at calls ⊢
  rcases calls with ⟨e, rfl, rfl⟩ | ⟨rfl, rfl⟩ | ⟨e, removed, rfl⟩
  · apply iff_of_true (atomic_unwritten visits)
    rintro ⟨e, again, impossible⟩
    cases impossible
  · apply iff_of_true (atomic_renamed visits)
    rintro ⟨e, again, impossible⟩
    cases impossible
  · rw [atomic_fallback_iff visits, not_iff_not]
    constructor
    · rintro ⟨rfl, again, rfl⟩
      exact ⟨e, again, rfl⟩
    · rintro ⟨e, again, same⟩
      cases same
      exact ⟨rfl, again, rfl⟩

end atomic

namespace SecondRenameFails

def value : ServiceStatusFile := .failed .Bind 3 "address already in use" (some 42) "t1" none

def first : StatusDir :=
  ⟨some (ServiceStatusFile.failed .Config 1 "no such file" (some 41) "t0" none).toVecPretty, none⟩

def trace : List (Event StatusFiles) :=
  [⟨.write value.toVecPretty, .ok ()⟩, ⟨.rename, .error "access denied"⟩, ⟨.remove, .ok ()⟩,
    ⟨.rename, .error "access denied"⟩]

theorem ran : (writeAtomic value).Finishes trace (.ok (.error "access denied")) :=
  .step _ (.step _ (.step _ (.step _ (.refl _))))

theorem visits : ∃ dirs, Visits first trace dirs :=
  ⟨_, .next .wrote
    (.next .unrenamed (.next (.removed (Option.some_ne_none _)) (.next .unrenamed .last)))⟩

end SecondRenameFails

theorem removed_target_lost :
    ¬∀ value trace result first dirs, (writeAtomic value).Finishes trace (.ok result) →
      Visits first trace dirs → Atomic value.toVecPretty trace result first dirs := by
  intro atomic
  obtain ⟨dirs, visits⟩ := SecondRenameFails.visits
  have held := atomic _ _ _ _ _ SecondRenameFails.ran visits
  exact (atomic_fallback_iff visits).mp held ⟨rfl, _, rfl⟩

theorem write_atomic_lost : ∃ dirs, Visits SecondRenameFails.first SecondRenameFails.trace dirs ∧
    ¬Atomic SecondRenameFails.value.toVecPretty SecondRenameFails.trace (.error "access denied")
      SecondRenameFails.first dirs := by
  obtain ⟨dirs, visits⟩ := SecondRenameFails.visits
  refine ⟨dirs, visits, fun atomic => ?_⟩
  exact (write_atomic_iff SecondRenameFails.ran visits).mp atomic
    ⟨"access denied", "access denied", rfl⟩

end SkfService
