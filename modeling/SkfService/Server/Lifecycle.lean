import SkfService.Interaction.Monitor
import SkfService.Server.StatusRead
import SkfService.Server.WinService

/-! The life of the Windows service as the service control manager and a reader of the status file
see it. -/

set_option autoImplicit false

namespace SkfService

open Interaction Program

def StatusDir.after (dir : StatusDir) : StatusOp → StatusDir
  | .write bytes => ⟨dir.target, some bytes⟩
  | .rename => ⟨dir.tmp, none⟩
  | .remove => ⟨none, dir.tmp⟩

theorem StatusDir.Does.after {dir after : StatusDir} {op : StatusOp}
    (does : dir.Does ⟨op, .ok ()⟩ after) :
    after = dir.after op := by
  cases does <;> rfl

/-- What has been reported and what is on the disk. `healthy` is lost with the first file operation
that fails, `complete` with a service that cannot go on: it has no control handler, no runtime or no
session builder. -/
structure Life where
  reports : List ServiceStatus
  dir : StatusDir
  healthy : Bool
  complete : Bool

namespace Life

def start (dir : StatusDir) : Life := ⟨[], dir, true, true⟩

def advance (life : Life) : (op : WinOp) → op.Reply → Life
  | .report status, _ => { life with reports := life.reports ++ [status] }
  | .status op, .ok () => { life with dir := life.dir.after op }
  | .status _, .error _ => { life with healthy := false }
  | .register, .error _ | .createRuntime, .error _ | .sessionBuilder, false =>
    { life with complete := false }
  | _, _ => life

end Life

/-- The order of reports: the starting ones with their numbers, a running one, a last one. A service
that stops before it has run tells why. -/
def Admissible (earlier : List ServiceStatus) (status : ServiceStatus) : Prop :=
  match status.currentState with
  | .StartPending => status = .reporting .StartPending earlier.length .NO_ERROR ∧
      ∀ other ∈ earlier, other.currentState = .StartPending
  | .Running => status = .reporting .Running 0 .NO_ERROR ∧ earlier ≠ [] ∧
      ∀ other ∈ earlier, other.currentState = .StartPending
  | .Stopped => status.controlsAccepted = false ∧ status.checkpoint = 0 ∧
      (∀ other ∈ earlier, other.currentState ≠ .Stopped) ∧
      (status.exitCode = .NO_ERROR ↔ ∃ other ∈ earlier, other.currentState = .Running)

inductive Tells (s : StartUp) : ServiceStatus → ServiceStatusFile → Prop
  | pending {checkpoint : Nat} {stage : StartupStage} {pid : UInt32} {updated startedAt : String}
      (begun : [StartupStage.Config, .Provider, .Bind][checkpoint]? = some stage) :
      Tells s (.reporting .StartPending (checkpoint + 1) .NO_ERROR)
        (.pending stage (some pid) updated (some startedAt))
  | running {config : ConfigFile} {bound : BoundServer} {pid : UInt32} {updated startedAt : String}
      (listens : s.bindWithProgress = .ok (config, bound)) :
      Tells s (.reporting .Running 0 .NO_ERROR)
        (.running bound.wsAddr.display (some pid) updated (some startedAt))
  | failed {e : StartupError} {pid : UInt32} {updated startedAt : String}
      (fails : s.bindWithProgress = .error e) :
      Tells s (.reporting .Stopped 0 (.ServiceSpecific e.stage.exitCode))
        (.failed e.stage e.stage.exitCode (shortReason e.display) (some pid) updated
          (some startedAt))
  | stopped {updated startedAt : String} :
      Tells s (.reporting .Stopped 0 .NO_ERROR) (.stopped updated (some startedAt))

/-- A report that may be made: it is in order, and but for the first one the status file tells the
same. -/
structure Life.Reportable (s : StartUp) (life : Life) (status : ServiceStatus) : Prop where
  admissible : Admissible life.reports status
  told : life.reports ≠ [] → ∃ file, Tells s status file ∧
    (life.healthy = true → life.dir.target.bind ServiceStatusFile.read = some file)

def lifecycle (s : StartUp) : Monitor Windows Life where
  allowed
    | life, .report status => life.Reportable s status
    | _, _ => True
  possible _ _ _ := True
  advance := Life.advance

/-- How a run may end: a service that could go on has told the manager that it stopped, and whether
well. -/
structure Life.Ended (life : Life) (result : Except String Unit) : Prop where
  stopped : (∃ status, life.reports.getLast? = some status ∧ status.currentState = .Stopped) ↔
    life.complete = true
  well : result = .ok () ↔ life.reports.getLast? = some (.reporting .Stopped 0 .NO_ERROR)

def Life.Serves (life : Life) : Prop :=
  life.reports.getLast? = some (.reporting .Running 0 .NO_ERROR)

section rules

variable {s : StartUp} {life : Life} {B : Type} {ret : B → Life → Prop}
  {exits : Serving → Life → Prop}

theorem meets_ask {op : WinOp} {k : op.Reply → Program Windows Serving B}
    (allowed : (lifecycle s).allowed life op)
    (goes : ∀ reply, (k reply).Meets (lifecycle s) ret exits (life.advance op reply)) :
    (WinService.ask op >>= k).Meets (lifecycle s) ret exits life :=
  ⟨allowed, fun reply _ => goes reply⟩

theorem meets_record {value : ServiceStatusFile} {k : Unit → Program Windows Serving B}
    (goes : ∀ later : Life, later.reports = life.reports → later.complete = life.complete →
      (later.healthy = true → later.dir.target = some value.toVecPretty) →
        (k ()).Meets (lifecycle s) ret exits later) :
    (WinService.record value >>= k).Meets (lifecycle s) ret exits life := by
  unfold WinService.record writeAtomic
  generalize value.toVecPretty = bytes at goes ⊢
  refine ⟨trivial, fun written _ => ?_⟩
  cases written with
  | error e => exact goes _ rfl rfl fun healthy => by cases healthy
  | ok done =>
    refine ⟨trivial, fun renamed _ => ?_⟩
    cases renamed with
    | ok done => exact goes _ rfl rfl fun _ => rfl
    | error e =>
      refine ⟨trivial, fun removed _ => ⟨trivial, fun again _ => goes _ ?_ ?_ fun healthy => ?_⟩⟩
      · cases removed <;> cases again <;> rfl
      · cases removed <;> cases again <;> rfl
      · cases removed <;> cases again <;> cases healthy

theorem meets_report {state : ScmState} {checkpoint : Nat} {exit : ServiceExitCode}
    {k : Unit → Program Windows Serving B}
    (reportable : life.Reportable s (.reporting state checkpoint exit))
    (goes : (k ()).Meets (lifecycle s) ret exits
      { life with reports := life.reports ++ [.reporting state checkpoint exit] }) :
    (WinService.report state checkpoint exit >>= k).Meets (lifecycle s) ret exits life :=
  ⟨reportable, fun _ _ => goes⟩

theorem meets_told {value : ServiceStatusFile} {state : ScmState} {checkpoint : Nat}
    {exit : ServiceExitCode} {k : Unit → Program Windows Serving B}
    (admissible : Admissible life.reports (.reporting state checkpoint exit))
    (tells : Tells s (.reporting state checkpoint exit) value)
    (goes : ∀ later : Life, later.reports = life.reports ++ [.reporting state checkpoint exit] →
      later.complete = life.complete → (k ()).Meets (lifecycle s) ret exits later) :
    (WinService.record value >>= fun _ => WinService.report state checkpoint exit >>= k).Meets
      (lifecycle s) ret exits
      life := by
  -- Between the write and the report nothing happens, so the file is still what was written.
  refine meets_record fun later same complete onDisk =>
    meets_report ⟨?_, fun _ => ⟨value, tells, ?_⟩⟩ (goes _ ?_ complete)
  · rw [same]
    exact admissible
  · intro healthy
    rw [onDisk healthy, Option.bind_some]
    exact value.read_toVecPretty
  · rw [← same]

def starting (n : Nat) : List ServiceStatus :=
  (List.range n).map fun c => .reporting .StartPending c .NO_ERROR

theorem starting_succ (n : Nat) :
    starting (n + 1) = starting n ++ [.reporting .StartPending n .NO_ERROR] := by
  rw [starting, List.range_succ, List.map_append]
  rfl

theorem starting_state (n : Nat) : ∀ status ∈ starting n, status.currentState = .StartPending := by
  intro status member
  obtain ⟨c, -, rfl⟩ := List.mem_map.mp member
  rfl

theorem admissible_starting (n : Nat) :
    Admissible (starting n) (.reporting .StartPending n .NO_ERROR) := by
  refine ⟨?_, starting_state n⟩
  rw [starting, List.length_map, List.length_range]

theorem admissible_running (n : Nat) :
    Admissible (starting (n + 1)) (.reporting .Running 0 .NO_ERROR) := by
  refine ⟨rfl, ?_, starting_state (n + 1)⟩
  rw [starting_succ]
  exact List.append_ne_nil_of_right_ne_nil _ (List.cons_ne_nil _ _)

theorem admissible_failed (n : Nat) (code : UInt32) :
    Admissible (starting n) (.reporting .Stopped 0 (.ServiceSpecific code)) := by
  refine ⟨rfl, rfl, fun other member => ?_, ?_⟩
  · rw [starting_state n other member]
    exact ScmState.noConfusion
  · constructor
    · intro impossible
      cases impossible
    · rintro ⟨other, member, running⟩
      rw [starting_state n other member] at running
      cases running

theorem admissible_stopped (n : Nat) :
    Admissible (starting n ++ [.reporting .Running 0 .NO_ERROR])
      (.reporting .Stopped 0 .NO_ERROR) := by
  refine ⟨rfl, rfl, fun other member =>
    ?_, iff_of_true rfl ⟨_, List.mem_append_right _ List.mem_cons_self, rfl⟩⟩
  rcases List.mem_append.mp member with early | last
  · rw [starting_state n other early]
    exact ScmState.noConfusion
  · rw [List.mem_singleton.mp last]
    exact ScmState.noConfusion

theorem meets_onStage {pid : UInt32} {startedAt : String} {checkpoint : Nat} {stage : StartupStage}
    {k : Nat → Program Windows Serving B} (so : life.reports = starting (checkpoint + 1))
    (begun : [StartupStage.Config, .Provider, .Bind][checkpoint]? = some stage)
    (goes : ∀ later : Life, later.reports = starting (checkpoint + 2) →
      later.complete = life.complete → (k (checkpoint + 1)).Meets (lifecycle s) ret exits later) :
    (WinService.onStage pid startedAt checkpoint stage >>= k).Meets
      (lifecycle s) ret exits life := by
  have admissible :
      Admissible life.reports (.reporting .StartPending (checkpoint + 1) .NO_ERROR) := by
    rw [so]
    exact admissible_starting _
  simp only [WinService.onStage, bind_assoc, pure_bind]
  refine meets_ask trivial fun updated => ?_
  refine meets_told admissible (.pending begun) fun later reports complete => goes later ?_ complete
  rw [reports, starting_succ (checkpoint + 1)]
  exact congrArg (· ++ _) so

end rules

section run

variable {s : StartUp} {life : Life} {pid : UInt32} {startedAt : String} {rounds : Nat}

/-- How every run ends, and how it is while it still serves. -/
abbrev TellsTruth (s : StartUp) (life : Life) (p : Program Windows Serving (Except String Unit)) :
    Prop :=
  p.Meets (lifecycle s) (fun result life => life.Ended result) (fun _ life => life.Serves) life

theorem ended_stopped {result : Except String Unit} {earlier : List ServiceStatus}
    {exit : ServiceExitCode} (reports : life.reports = earlier ++ [.reporting .Stopped 0 exit])
    (complete : life.complete = true) (well : result = .ok () ↔ exit = .NO_ERROR) :
    life.Ended result := by
  have last : life.reports.getLast? = some (.reporting .Stopped 0 exit) := by
    rw [reports, List.getLast?_concat]
  constructor
  · exact iff_of_true ⟨_, last, rfl⟩ complete
  · rw [last, well, Option.some.injEq]
    constructor
    · rintro rfl
      rfl
    · intro same
      cases same
      rfl

theorem ended_broken {e : String} {n : Nat}
    (reports : life.reports = starting n ∨ life.reports =
      starting n ++ [.reporting .Running 0 .NO_ERROR])
    (incomplete : life.complete = false) :
    life.Ended (.error e) := by
  -- The last report is of a service that starts or runs.
  have unstopped : ∀ status, life.reports.getLast? = some status →
      status.currentState ≠ .Stopped := by
    intro status last
    have member := List.mem_of_getLast? last
    rcases reports with early | late
    · rw [early] at member
      rw [starting_state n status member]
      exact ScmState.noConfusion
    · rw [late, List.getLast?_concat] at last
      cases last
      exact ScmState.noConfusion
  constructor
  · refine iff_of_false ?_ (by simp [incomplete])
    rintro ⟨status, last, stopped⟩
    exact unstopped status last stopped
  · refine iff_of_false (fun impossible => by cases impossible) fun last => ?_
    exact unstopped _ last rfl

theorem truthful_serve {k : Except String Unit → Program Windows Serving (Except String Unit)}
    (serves : life.Serves) (goes : TellsTruth s life (k (.ok ()))) :
    TellsTruth s life (WinService.serve rounds >>= k) := by
  induction rounds with
  | zero => exact serves
  | succ rounds ih =>
    simp only [WinService.serve, bind_assoc]
    refine meets_ask trivial fun selected => ?_
    cases selected with
    | changed sent => exact goes
    | accepted stream =>
      cases stream with
      | ok done => exact ih
      | error e => exact goes

theorem truthful_served {config : ConfigFile} {bound : BoundServer} {n : Nat}
    (listens : s.bindWithProgress = .ok (config, bound)) (reports : life.reports = starting (n + 1))
    (complete : life.complete = true) :
    TellsTruth s life (WinService.served pid startedAt bound rounds) := by
  refine meets_ask trivial fun updated => ?_
  have admissible : Admissible life.reports (.reporting .Running 0 .NO_ERROR) := by
    rw [reports]
    exact admissible_running n
  refine meets_told admissible (.running listens) fun running told same => ?_
  have ran : running.reports = starting (n + 1) ++ [.reporting .Running 0 .NO_ERROR] := by
    rw [told]
    exact congrArg (· ++ _) reports
  refine meets_ask trivial fun builder => ?_
  cases builder with
  | false => exact ended_broken (.inr ran) rfl
  | true =>
    refine truthful_serve (by rw [Life.Serves]; exact ran ▸ List.getLast?_concat) ?_
    refine meets_ask trivial fun updated => ?_
    have admissible : Admissible running.reports (.reporting .Stopped 0 .NO_ERROR) := by
      rw [ran]
      exact admissible_stopped (n + 1)
    exact meets_told admissible .stopped fun later last kept =>
      ended_stopped last (kept.trans (same.trans complete)) (iff_of_true rfl rfl)

theorem truthful_failed {e : StartupError} {n : Nat} (fails : s.bindWithProgress = .error e)
    (reports : life.reports = starting n) (complete : life.complete = true) :
    TellsTruth s life (do
      let updated ← WinService.ask .now
      WinService.record (.failed e.stage e.stage.exitCode (shortReason e.display) (some pid) updated
        (some startedAt))
      WinService.report .Stopped 0 (.ServiceSpecific e.stage.exitCode)
      return .error e.display) := by
  refine meets_ask trivial fun updated => ?_
  have admissible :
      Admissible life.reports (.reporting .Stopped 0 (.ServiceSpecific e.stage.exitCode)) := by
    rw [reports]
    exact admissible_failed n _
  refine meets_told admissible (.failed fails) fun later last kept => ?_
  refine ended_stopped last (kept.trans complete) (iff_of_false ?_ ?_)
  · intro impossible
    cases impossible
  · intro impossible
    cases impossible

theorem bindWithProgress_stages {config : ConfigFile} {path : String} (loads : s.load = .ok config)
    (resolves : resolveLibPath s.host.platform config.toSkfConfig config.default = .ok path) :
    s.bindWithProgress = ((s.host.httpSocket s.opts).bind
      (s.host.openListener s.opts (config.allowsRemote s.host))).map
      (config, ·) := by
  unfold StartUp.bindWithProgress
  rw [loads]
  change (resolveLibPath _ _ _).mapError _ >>= (fun _ => s.host.listen _ _ >>= _) = _
  rw [resolves, StartupHost.listen_stages]
  cases (s.host.httpSocket s.opts).bind
    (s.host.openListener s.opts (config.allowsRemote s.host)) <;> rfl

theorem truthful_runService (dir : StatusDir) :
    TellsTruth s (.start dir) (WinService.runService s pid rounds) := by
  refine meets_ask trivial fun registered => ?_
  cases registered with
  | error e => exact @ended_broken _ _ 0 (.inl rfl) rfl
  | ok done =>
    -- The first report comes before any status is written; it alone is not told by the file.
    refine meets_report ⟨admissible_starting 0, fun impossible => absurd rfl impossible⟩ ?_
    refine meets_ask trivial fun startedAt => meets_ask trivial fun updated =>
      meets_record fun first reports complete _ => ?_
    refine meets_ask trivial fun runtime => ?_
    cases runtime with
    | error e => exact @ended_broken _ _ 1 (.inl reports) rfl
    | ok done =>
      -- From here every stage is reported before it is tried, and its failure is that of the plain
      -- start-up.
      simp only [WinService.bindWithProgress, bind_assoc]
      refine @meets_onStage _ _ _ _ _ _ _ 0 _ _ reports rfl fun configured reports complete' => ?_
      have complete := complete'.trans complete
      cases loads : s.load with
      | error e =>
        have fails : s.bindWithProgress = .error (.Config e) := by
          rw [StartUp.bindWithProgress, loads]
          rfl
        exact truthful_failed fails reports complete
      | ok config =>
        simp only [bind_assoc]
        refine meets_onStage reports rfl fun provided reports complete' => ?_
        have complete := complete'.trans complete
        cases resolves : resolveLibPath s.host.platform config.toSkfConfig config.default with
        | error e =>
          have fails : s.bindWithProgress = .error (.Provider e) := by
            rw [StartUp.bindWithProgress, loads]
            change (resolveLibPath _ _ _).mapError _ >>= _ = _
            rw [resolves]
            rfl
          exact truthful_failed fails reports complete
        | ok path =>
          have stages := bindWithProgress_stages loads resolves
          cases http : s.host.httpSocket s.opts with
          | error e =>
            rw [http] at stages
            exact truthful_failed stages reports complete
          | ok httpAddr =>
            rw [http] at stages
            simp only [bind_assoc]
            refine meets_onStage reports rfl fun binding reports complete' => ?_
            have complete := complete'.trans complete
            cases opens : s.host.openListener s.opts (config.allowsRemote s.host) httpAddr with
            | error e =>
              have fails : s.bindWithProgress = .error e := by
                rw [stages]
                change ((s.host.openListener _ _ _).map _) = _
                rw [opens]
                rfl
              exact truthful_failed fails reports complete
            | ok bound =>
              have listens : s.bindWithProgress = .ok (config, bound) := by
                rw [stages]
                change ((s.host.openListener _ _ _).map _) = _
                rw [opens]
                rfl
              exact truthful_served listens reports complete

theorem lifecycle_possible {trace : List (Event Windows)} : (lifecycle s).Possible life trace := by
  induction trace generalizing life with
  | nil => trivial
  | cons event trace ih => exact ⟨trivial, ih⟩

/-- Every report of a run is in order and true, and but for the first one the status file reads the
same where its writes succeeded; a service that could go on ends with a report that it stopped. -/
theorem runService_truthful (s : StartUp) (pid : UInt32) (rounds : Nat) (dir : StatusDir)
    (trace : List (Event Windows)) (outcome : Except Serving (Except String Unit))
    (ran : (WinService.runService s pid rounds).Finishes trace outcome) :
    (lifecycle s).Allows (.start dir) trace ∧
      (∀ result, outcome = .ok result → ((lifecycle s).follow (.start dir) trace).Ended result) ∧
      ∀ serving, outcome = .error serving → ((lifecycle s).follow (.start dir) trace).Serves := by
  have truthful := @truthful_runService s pid rounds dir
  refine ⟨(truthful.reaches ran lifecycle_possible).1, ?_, ?_⟩
  · rintro result rfl
    exact truthful.returned ran lifecycle_possible
  · rintro serving rfl
    exact truthful.stopped ran lifecycle_possible

end run

section stopped

/-- A start-up that comes through, and a service that is told to stop after one client. -/
def wholesome : StartUp where
  host :=
    { platform := (SkfContext.serving []).platform
      parseYaml := fun _ => .ok ⟨(SkfContext.serving []).config, none⟩
      parseSocketAddr := fun addr => .ok ⟨addr, true⟩
      toSocketAddrs := fun addr => .ok [⟨addr, true⟩]
      allowRemoteEnv := none
      bind := fun socket => .ok (.ok socket) }
  opts := .fromEnv .Service fun _ => none
  file := .ok "default: GM3000"

/-- The clock counts what was asked, and the second wait of the accept loop is the stop. -/
def Ticks.answer : Nat → (op : WinOp) → Nat × op.Reply
  | n, .register | n, .createRuntime => (n, .ok ())
  | n, .status _ => (n, .ok ())
  | n, .now => (n + 1, Text.decimal n)
  | n, .report _ => (n, ())
  | _, .sessionBuilder => (0, true)
  | 0, .select => (1, .accepted (.ok ()))
  | n + 1, .select => (n + 1, .changed true)

def stoppedRun : Nat × List (Event Windows) × Except Serving (Except String Unit) :=
  (WinService.runService wholesome 42 5).execute Ticks.answer 0

theorem runService_truthful_stopped :
    ((lifecycle wholesome).follow (.start ⟨none, none⟩) stoppedRun.2.1).Ended (.ok ()) ∧
      ((lifecycle wholesome).follow (.start ⟨none, none⟩) stoppedRun.2.1).reports =
        starting 4 ++ [.reporting .Running 0 .NO_ERROR, .reporting .Stopped 0 .NO_ERROR] := by
  have ran := execute_finishes Ticks.answer (WinService.runService wholesome 42 5) 0
  have truthful := runService_truthful wholesome 42 5 ⟨none, none⟩ _ _ ran
  exact ⟨truthful.2.1 (.ok ()) rfl, rfl⟩

end stopped

end SkfService
