import SkfService.Server.Lifecycle
import SkfService.Session.Lifetime

/-! The local diagnosis: which stages of a start-up succeed, and what the service has recorded of
itself.

It asks what start-up asks. -/

set_option autoImplicit false

namespace SkfService

open Text Interaction

structure DiagnosticReport where
  configLoaded : Bool
  configErrorClass : Option String
  providerAlias : String
  providerResolved : Bool
  providerErrorClass : Option String
  libraryFilePresent : Bool
  libraryLoaded : Bool
  libraryErrorClass : Option String
  listenerBound : Bool
  listenerBindable : Bool
  wsAddr : String
  state : Option String
  stage : Option String
  code : Option UInt32
  address : Option String
  uptimeSeconds : Option Nat

/-- What a diagnosis asks that start-up does not: whether a file is there, whether a library loads
for an alias, what the status file holds, and the time. -/
structure Probes where
  present : String → Bool
  loads : String → String → Bool
  status : Option (List UInt8)
  seconds : UInt64

def configErrorClass (message : String) : String :=
  if "failed to read config".toList.isPrefixOf message.toList then "io" else "parse"

def StartupHost.resolveAddr (host : StartupHost) (addr : String) : Option SocketAddr :=
  (host.toSocketAddrs addr).toOption.bind List.head?

/-- An address that is not a loopback address is never tried. -/
def StartupHost.listenerBindable (host : StartupHost) (addr : String) : Bool :=
  match host.resolveAddr addr with
  | some socket => socket.isLoopback && (host.bind socket).isOk
  | none => false

def ServiceState.isRunning : ServiceState → Bool
  | Running => true
  | _ => false

namespace DiagnosticReport

def new (host : StartupHost) (wsAddr : String) : DiagnosticReport where
  configLoaded := false
  configErrorClass := none
  providerAlias := ""
  providerResolved := false
  providerErrorClass := none
  libraryFilePresent := false
  libraryLoaded := false
  libraryErrorClass := none
  listenerBound := false
  listenerBindable := host.listenerBindable wsAddr
  wsAddr := wsAddr
  state := none
  stage := none
  code := none
  address := none
  uptimeSeconds := none

def withProvider (report : DiagnosticReport) (provider : String) : DiagnosticReport :=
  { report with configLoaded := true, providerAlias := provider }

def withLibrary (report : DiagnosticReport) (probes : Probes) (provider path : String) :
    DiagnosticReport :=
  let loaded := probes.loads provider path
  { report with
    providerResolved := true
    libraryFilePresent := probes.present path
    libraryLoaded := loaded
    libraryErrorClass := if loaded then none else some "load_failed" }

def withStatus (report : DiagnosticReport) (probes : Probes) : DiagnosticReport :=
  match probes.status.bind ServiceStatusFile.read with
  | none => report
  | some file =>
    { report with
      listenerBound := file.state.isRunning
      state := some file.state.asStr
      stage := some file.stage.asStr
      code := file.code
      address := file.address
      uptimeSeconds :=
        (file.startedAt.bind parseU64).map fun started => probes.seconds.toNat - started }

end DiagnosticReport

/-- `diagnostic::run`. -/
def StartUp.diagnose (s : StartUp) (probes : Probes) : DiagnosticReport :=
  let report := DiagnosticReport.new s.host s.opts.wsAddr
  match s.load with
  | .error e => { report with configErrorClass := some (configErrorClass e) }
  | .ok config =>
    let report := report.withProvider config.default
    match resolveLibPath s.host.platform config.toSkfConfig config.default with
    | .error _ => { report with providerErrorClass := some "not_configured" }
    | .ok resolved => (report.withLibrary probes config.default resolved).withStatus probes

def DiagnosticReport.renderText (report : DiagnosticReport) : String :=
  let line (label : String) (value : Option String) : String :=
    (value.map fun value => label ++ value ++ "\n").getD ""
  line "config_loaded:      " (some (toString report.configLoaded)) ++
    line "config_error_class: " report.configErrorClass ++
    line "provider_alias:     " (some report.providerAlias) ++
    line "provider_resolved:  " (some (toString report.providerResolved)) ++
    line "provider_error:     " report.providerErrorClass ++
    line "library_file:       " (some (toString report.libraryFilePresent)) ++
    line "library_loaded:     " (some (toString report.libraryLoaded)) ++
    line "library_error:      " report.libraryErrorClass ++
    line "listener_bound:     " (some (toString report.listenerBound)) ++
    line "listener_bindable:  " (some (toString report.listenerBindable)) ++
    line "ws_addr:            " (some report.wsAddr) ++
    line "state:              " report.state ++
    line "stage:              " report.stage ++
    line "code:               " (report.code.map fun code => decimal code.toNat) ++
    line "address:            " report.address ++
    line "uptime_seconds:     " (report.uptimeSeconds.map decimal)

/-- The members that `render_json` writes: all of them, with `null` for what is absent. -/
def DiagnosticReport.members (report : DiagnosticReport) : List (String × Json) :=
  let text (value : Option String) : Json := (value.map Json.string).getD .null
  [("config_loaded", .bool report.configLoaded),
    ("config_error_class", text report.configErrorClass),
    ("provider_alias", .string report.providerAlias),
    ("provider_resolved", .bool report.providerResolved),
    ("provider_error_class", text report.providerErrorClass),
    ("library_file_present", .bool report.libraryFilePresent),
    ("library_loaded", .bool report.libraryLoaded),
    ("library_error_class", text report.libraryErrorClass),
    ("listener_bound", .bool report.listenerBound),
    ("listener_bindable", .bool report.listenerBindable),
    ("ws_addr", .string report.wsAddr), ("state", text report.state), ("stage", text report.stage),
    ("code", (report.code.map Json.ofU32).getD .null), ("address", text report.address),
    ("uptime_seconds", (report.uptimeSeconds.map fun n =>
      Json.number (.unsigned (.ofNat n))).getD .null)]

def DiagnosticReport.renderJson (report : DiagnosticReport) : String :=
  .ofList (pretty report.members)

/-- The value after the first `--config`, if any. -/
def configArgument (args : List String) : Option String :=
  (args.idxOf? "--config").bind fun pos => args[pos + 1]?

/-- The options of `diagnose`: those of the environment, with the configuration that the arguments
name. -/
def diagnoseOptions (args : List String) (env : String → Option String) : ServerOptions :=
  let opts := ServerOptions.fromEnv .Console env
  { opts with configPath := (configArgument args).getD opts.configPath }

/-- The start-up of the service, which reads its configuration from the directory it has gone to. -/
def StartUp.fromEnv (host : StartupHost) (place : ProcessStart) (mode : RunMode)
    (env : String → Option String) :
    StartUp :=
  let opts := ServerOptions.fromEnv mode env
  ⟨host, opts, (place.prepareWorkingDirectory opts.configPath).read opts.configPath⟩

/-- The start-up that a diagnosis looks into. It stays where it was called. -/
def diagnosed (host : StartupHost) (place : ProcessStart) (args : List String)
    (env : String → Option String) :
    StartUp :=
  let opts := diagnoseOptions args env
  ⟨host, opts, place.cwd.read opts.configPath⟩

def printedDiagnosis (host : StartupHost) (place : ProcessStart) (probes : Probes)
    (args : List String) (env : String → Option String) : String :=
  let report := (diagnosed host place args env).diagnose probes
  if args.contains "--json" then report.renderJson else report.renderText

section outcomes

variable {s : StartUp} {probes : Probes} {config : ConfigFile} {path e : String}

theorem diagnose_unloaded (loads : s.load = .error e) : s.diagnose probes =
    { DiagnosticReport.new s.host s.opts.wsAddr with
      configErrorClass := some (configErrorClass e) } := by
  simp only [StartUp.diagnose, loads]

theorem diagnose_unresolved (loads : s.load = .ok config)
    (resolves : resolveLibPath s.host.platform config.toSkfConfig config.default = .error e) :
    s.diagnose probes =
        { (DiagnosticReport.new s.host s.opts.wsAddr).withProvider config.default with
          providerErrorClass := some "not_configured" } := by
  simp only [StartUp.diagnose, loads, resolves]

theorem diagnose_resolved (loads : s.load = .ok config)
    (resolves : resolveLibPath s.host.platform config.toSkfConfig config.default = .ok path) :
    s.diagnose probes =
        (((DiagnosticReport.new s.host s.opts.wsAddr).withProvider config.default).withLibrary
          probes config.default
          path).withStatus probes := by
  simp only [StartUp.diagnose, loads, resolves]

theorem withStatus_kept (report : DiagnosticReport) (probes : Probes) :
    (report.withStatus probes).configLoaded = report.configLoaded ∧
      (report.withStatus probes).providerResolved = report.providerResolved ∧
        (report.withStatus probes).providerAlias = report.providerAlias ∧
          (report.withStatus probes).listenerBindable = report.listenerBindable := by
  unfold DiagnosticReport.withStatus
  cases probes.status.bind ServiceStatusFile.read <;> exact ⟨rfl, rfl, rfl, rfl⟩

end outcomes

section startup

/-- A report tells what a start-up will come to: how far it gets, and whether it can listen. An
address that does not parse for HTTP, one that the listener cannot tell, and leave to listen for
everybody are not in it. -/
inductive Foretells (s : StartUp) (report : DiagnosticReport) : Prop
  | config {e : String} (unloaded : report.configLoaded = false)
      (why : report.configErrorClass = some (configErrorClass e))
      (fails : s.bindWithProgress = .error (.Config e))
  | provider {e : String} (loaded : report.configLoaded = true)
      (unresolved : report.providerResolved = false)
      (fails : s.bindWithProgress = .error (.Provider e))
  | http {e : StartupError} (loaded : report.configLoaded = true)
      (resolved : report.providerResolved = true)
      (unparsed : s.host.httpSocket s.opts = .error e) (fails : s.bindWithProgress = .error e)
  | bind {e : String} (loaded : report.configLoaded = true)
      (resolved : report.providerResolved = true)
      (why : report.listenerBindable = false ∨ ∃ socket untold,
        s.host.resolveAddr s.opts.wsAddr = some socket ∧ s.host.bind socket = .ok (.error untold))
      (fails : s.bindWithProgress = .error (.Bind e))
  | starts {config : ConfigFile} {bound : BoundServer} (loaded : report.configLoaded = true)
      (resolved : report.providerResolved = true) (named : report.providerAlias = config.default)
      (listens : report.listenerBindable = true ∨ config.allowsRemote s.host = true)
      (starts : s.bindWithProgress = .ok (config, bound))

/-- The bind stage fails at an address that is not bindable, or tells no address; or it may listen
for everybody. -/
theorem openListener_bindable (host : StartupHost) (opts : ServerOptions) (remote : Bool)
    (http : Option SocketAddr) :
    (∃ e, host.openListener opts remote http = .error (.Bind e) ∧
        (host.listenerBindable opts.wsAddr = false ∨ ∃ socket untold,
          host.resolveAddr opts.wsAddr = some socket ∧ host.bind socket = .ok (.error untold))) ∨
      ∃ bound, host.openListener opts remote http = .ok bound ∧
        (host.listenerBindable opts.wsAddr = true ∨ remote = true) := by
  unfold StartupHost.openListener StartupHost.listenerBindable StartupHost.resolveAddr
    StartupHost.resolveBindAddr
  cases host.toSocketAddrs opts.wsAddr with
  | error e => exact .inl ⟨_, rfl, .inl rfl⟩
  | ok sockets =>
    cases sockets with
    | nil => exact .inl ⟨_, rfl, .inl rfl⟩
    | cons socket others =>
      by_cases refused : (!socket.isLoopback && !remote) = true
      -- A diagnosis binds loopback addresses only.
      · have far : socket.isLoopback = false := by simpa using (Bool.and_eq_true_iff.mp refused).1
        refine .inl ⟨_, if_pos refused, .inl ?_⟩
        change (socket.isLoopback && _) = false
        rw [far, Bool.false_and]
      · have near : socket.isLoopback = true ∨ remote = true := by
          cases here : socket.isLoopback with
          | true => exact .inl rfl
          | false => exact .inr (by simpa [here] using refused)
        cases binds : host.bind socket with
        | error e =>
          refine .inl ⟨"failed to bind WebSocket listener on " ++ socket.display ++ ": " ++ e,
            ?_, .inl ?_⟩
          · change (if _ then _ else _) = _
            rw [if_neg refused, binds]
          · change (socket.isLoopback && (host.bind socket).isOk) = false
            rw [binds]
            exact Bool.and_false _
        | ok told =>
          cases told with
          | error untold =>
            -- Bound, but the address cannot be read: a diagnosis does not ask for it.
            refine .inl ⟨"failed to read bound WebSocket address: " ++ untold, ?_,
              .inr ⟨socket, untold, rfl, binds⟩⟩
            change (if _ then _ else _) = _
            rw [if_neg refused, binds]
          | ok bound =>
            refine .inr ⟨⟨bound, http⟩, ?_, near.imp_left fun near => ?_⟩
            · change (if _ then _ else _) = _
              rw [if_neg refused, binds]
            · change (socket.isLoopback && (host.bind socket).isOk) = true
              rw [near, binds]
              rfl

theorem diagnose_foretells (s : StartUp) (probes : Probes) : Foretells s (s.diagnose probes) := by
  cases loads : s.load with
  | error e =>
    have fails : s.bindWithProgress = .error (.Config e) := by
      rw [StartUp.bindWithProgress, loads]
      rfl
    rw [diagnose_unloaded loads]
    exact .config rfl rfl fails
  | ok config =>
    cases resolves : resolveLibPath s.host.platform config.toSkfConfig config.default with
    | error e =>
      have fails : s.bindWithProgress = .error (.Provider e) := by
        rw [StartUp.bindWithProgress, loads]
        change (resolveLibPath _ _ _).mapError _ >>= _ = _
        rw [resolves]
        rfl
      rw [diagnose_unresolved loads resolves]
      exact .provider rfl rfl fails
    | ok path =>
      obtain ⟨loaded, resolved, named, bindable⟩ := withStatus_kept
        (((DiagnosticReport.new s.host s.opts.wsAddr).withProvider config.default).withLibrary
          probes config.default path)
        probes
      rw [← diagnose_resolved loads resolves] at loaded resolved named bindable
      have stages := bindWithProgress_stages loads resolves
      -- An HTTP address that does not parse is the one failure that a diagnosis does not look for.
      cases http : s.host.httpSocket s.opts with
      | error e =>
        rw [http] at stages
        exact .http loaded resolved http stages
      | ok httpAddr =>
        have ends : s.bindWithProgress =
            (s.host.openListener s.opts (config.allowsRemote s.host) httpAddr).map (config, ·) := by
          rw [stages, http]
          rfl
        rcases openListener_bindable s.host s.opts (config.allowsRemote s.host) httpAddr with
          ⟨e, opens, why⟩ | ⟨bound, opens, listens⟩
        · rw [opens] at ends
          exact .bind loaded resolved (why.imp_left bindable.trans) ends
        · rw [opens] at ends
          exact .starts loaded resolved named (listens.imp_left bindable.trans) ends

end startup

section status

structure Displays (report : DiagnosticReport) (file : ServiceStatusFile) : Prop where
  bound : report.listenerBound = file.state.isRunning
  state : report.state = some file.state.asStr
  stage : report.stage = some file.stage.asStr
  code : report.code = file.code
  address : report.address = file.address

variable {s : StartUp} {probes : Probes} {file : ServiceStatusFile}

theorem diagnose_displays (resolved : (s.diagnose probes).providerResolved = true)
    (there : probes.status.bind ServiceStatusFile.read = some file) :
    Displays (s.diagnose probes) file := by
  cases loads : s.load with
  | error e =>
    rw [diagnose_unloaded loads] at resolved
    cases resolved
  | ok config =>
    cases resolves : resolveLibPath s.host.platform config.toSkfConfig config.default with
    | error e =>
      rw [diagnose_unresolved loads resolves] at resolved
      cases resolved
    | ok path =>
      rw [diagnose_resolved loads resolves, DiagnosticReport.withStatus, there]
      exact ⟨rfl, rfl, rfl, rfl, rfl⟩

theorem Tells.running_iff {status : ServiceStatus} (tells : Tells s status file) :
    file.state.isRunning = true ↔ status.currentState = .Running := by
  cases tells with
  | running listens => exact iff_of_true rfl rfl
  | pending begun => exact iff_of_false Bool.false_ne_true ScmState.noConfusion
  | failed fails => exact iff_of_false Bool.false_ne_true ScmState.noConfusion
  | stopped => exact iff_of_false Bool.false_ne_true ScmState.noConfusion

/-- A status report of the service that comes after the first one, with all file operations before
it successful. -/
structure Told (s : StartUp) (life : Life) (trace : List (Event Windows)) (status : ServiceStatus) :
    Prop where
  reported : ∃ pid rounds dir front back outcome,
    (WinService.runService s pid rounds).Finishes trace outcome ∧
    trace = front ++ ⟨.report status, ()⟩ :: back ∧ life = (lifecycle s).follow (.start dir) front
  later : life.reports ≠ []
  healthy : life.healthy = true

/-- What is reported is what a diagnosis shows at that time. -/
theorem Told.shown {life : Life} {trace : List (Event Windows)} {status : ServiceStatus}
    {other : StartUp} (told : Told s life trace status) (sees : probes.status = life.dir.target)
    (resolved : (other.diagnose probes).providerResolved = true) :
    ∃ file, Tells s status file ∧ Displays (other.diagnose probes) file ∧
      ((other.diagnose probes).listenerBound = true ↔ status.currentState = .Running) := by
  obtain ⟨pid, rounds, dir, front, back, outcome, ran, rfl, rfl⟩ := told.reported
  have allows := ((truthful_runService dir).reaches ran lifecycle_possible).1
  -- The report was allowed at its place in the run, which is where the diagnosis looks.
  obtain ⟨-, reportable, -⟩ := ((lifecycle s).allows_append _ front _).mp allows
  obtain ⟨file, tells, onDisk⟩ := reportable.told told.later
  have displays := @diagnose_displays other probes file resolved (sees ▸ onDisk told.healthy)
  refine ⟨file, tells, displays, ?_⟩
  rw [displays.bound]
  exact tells.running_iff

end status

section secrecy

/-- Two configurations that a diagnosis does not tell apart: it knows the alias, whether it has a
path, and what the system says of that path, but not the path. -/
inductive SameOutcome (s s' : StartUp) (probes probes' : Probes) : Prop
  | unloaded {e e' : String} (loads : s.load = .error e) (loads' : s'.load = .error e')
      (same : configErrorClass e = configErrorClass e')
  | unresolved {config config' : ConfigFile} {e e' : String} (loads : s.load = .ok config)
    (loads' : s'.load = .ok config')
      (named : config.default = config'.default)
      (resolves : resolveLibPath s.host.platform config.toSkfConfig config.default = .error e)
      (resolves' : resolveLibPath s'.host.platform config'.toSkfConfig config'.default = .error e')
  | resolved {config config' : ConfigFile} {path path' : String} (loads : s.load = .ok config)
      (loads' : s'.load = .ok config') (named : config.default = config'.default)
      (resolves : resolveLibPath s.host.platform config.toSkfConfig config.default = .ok path)
      (resolves' : resolveLibPath s'.host.platform config'.toSkfConfig config'.default = .ok path')
      (present : probes.present path = probes'.present path')
      (loaded : probes.loads config.default path = probes'.loads config'.default path')

structure LooksAlike (s s' : StartUp) (probes probes' : Probes) : Prop where
  wsAddr : s.opts.wsAddr = s'.opts.wsAddr
  bindable : s.host.listenerBindable s.opts.wsAddr = s'.host.listenerBindable s'.opts.wsAddr
  status : probes.status = probes'.status
  seconds : probes.seconds = probes'.seconds
  outcome : SameOutcome s s' probes probes'

theorem LooksAlike.same {s s' : StartUp} {probes probes' : Probes}
    (alike : LooksAlike s s' probes probes') :
    s.diagnose probes = s'.diagnose probes' := by
  have new : DiagnosticReport.new s.host s.opts.wsAddr =
      DiagnosticReport.new s'.host s'.opts.wsAddr := by
    rw [DiagnosticReport.new, DiagnosticReport.new, alike.bindable, alike.wsAddr]
  cases alike.outcome with
  | unloaded loads loads' same => rw [diagnose_unloaded loads, diagnose_unloaded loads', new, same]
  | unresolved loads loads' named resolves resolves' =>
    rw [diagnose_unresolved loads resolves, diagnose_unresolved loads' resolves', new, named]
  | @resolved config config' path path' loads loads' named resolves resolves' present loaded =>
    have library (report : DiagnosticReport) :
        report.withLibrary probes config.default path =
          report.withLibrary probes' config'.default path' := by
      rw [DiagnosticReport.withLibrary, DiagnosticReport.withLibrary, present, loaded]
    have status (report : DiagnosticReport) :
        report.withStatus probes = report.withStatus probes' := by
      rw [DiagnosticReport.withStatus, DiagnosticReport.withStatus, alike.status, alike.seconds]
    rw [diagnose_resolved loads resolves, diagnose_resolved loads' resolves', new, library, status,
      named]

end secrecy

section diagnosis

variable {host : StartupHost} {place : ProcessStart} {probes : Probes} {args : List String}
  {env : String → Option String}

theorem readObject_renderJson (report : DiagnosticReport) : readObject report.renderJson =
    some (report.members.map fun member =>
      (member.1.toList.flatMap escapeChar, member.2.chars)) := by
  have some : report.members ≠ [] := List.cons_ne_nil _ _
  apply readWith_pretty _ some
  rw [DiagnosticReport.renderJson, String.toList_ofList]
  exact Nat.le_add_right _ _

theorem diagnosed_same {mode : RunMode}
    (same : (diagnoseOptions args env).configPath = (ServerOptions.fromEnv mode env).configPath)
    (settled : place.Settled (ServerOptions.fromEnv mode env).configPath) :
    (diagnosed host place args env).diagnose probes =
      (StartUp.fromEnv host place mode env).diagnose probes := by
  have loads : (diagnosed host place args env).load =
      (StartUp.fromEnv host place mode env).load := by
    rw [StartUp.load, StartUp.load, diagnosed, StartUp.fromEnv]
    simp only [same, settled.reads]
  simp only [StartUp.diagnose, loads]
  rfl

/-- A diagnosis foretells the start-up of a service in its environment whose configuration it finds
as well, and shows what the service last reported. Two of them that differ in the library's path or
in the rest of the configuration print the same, and what `--json` prints is one object of all
members. -/
theorem diagnosis_truthful (host : StartupHost) (place : ProcessStart) (probes : Probes)
    (args : List String) (env : String → Option String) :
    let report := (diagnosed host place args env).diagnose probes
    (∀ mode, (diagnoseOptions args env).configPath = (ServerOptions.fromEnv mode env).configPath →
        place.Settled (ServerOptions.fromEnv mode env).configPath →
          Foretells (.fromEnv host place mode env) report) ∧
      (∀ s life trace status, Told s life trace status → probes.status = life.dir.target →
        report.providerResolved = true → ∃ file, Tells s status file ∧ Displays report file ∧
          (report.listenerBound = true ↔ status.currentState = .Running)) ∧
      (∀ host' place' probes',
        LooksAlike (diagnosed host place args env)
          (diagnosed host' place' args env) probes probes' →
          printedDiagnosis host place probes args env =
            printedDiagnosis host' place' probes' args env) ∧
      (args.contains "--json" = true → readObject (printedDiagnosis host place probes args env) =
        some (report.members.map fun member =>
          (member.1.toList.flatMap escapeChar, member.2.chars))) := by
  intro report
  refine ⟨fun mode same settled => ?_, ?_, ?_, fun json => ?_⟩
  · rw [show report = _ from diagnosed_same same settled]
    exact diagnose_foretells _ _
  · intro s life trace status told sees resolved
    exact told.shown sees resolved
  · intro host' place' probes' alike
    rw [printedDiagnosis, printedDiagnosis, alike.same]
  · rw [printedDiagnosis, if_pos json]
    exact readObject_renderJson report

def untilRunning : List (Event Windows) := stoppedRun.2.1.take 22

def whileRunning : Probes where
  present := fun _ => true
  loads := fun _ _ => true
  status := ((lifecycle wholesome).follow (.start ⟨none, none⟩) untilRunning).dir.target
  seconds := 1000

/-- A configuration is found from where the process starts. -/
def installed : ProcessStart where
  cwd := ⟨fun path => path == "config/skf.yaml", fun _ => .ok "default: GM3000"⟩
  exeDir := some "bin"
  setCurrentDir := fun _ => some ⟨fun _ => false, fun _ => .error "no such file"⟩

theorem diagnosis_truthful_running :
    Foretells (.fromEnv wholesome.host installed .Service fun _ => none)
        ((diagnosed wholesome.host installed ["skf-service", "diagnose"] fun _ => none).diagnose
          whileRunning) ∧
      ((diagnosed wholesome.host installed ["skf-service", "diagnose"] fun _ => none).diagnose
        whileRunning).listenerBound = true := by
  have truthful :=
    diagnosis_truthful wholesome.host installed whileRunning ["skf-service", "diagnose"] fun _ =>
      none
  have ran := Program.execute_finishes Ticks.answer (WinService.runService wholesome 42 5) 0
  have told : Told wholesome ((lifecycle wholesome).follow (.start ⟨none, none⟩) untilRunning)
      stoppedRun.2.1
      (.reporting .Running 0 .NO_ERROR) :=
    ⟨⟨42, 5, ⟨none, none⟩, untilRunning, stoppedRun.2.1.drop 23, stoppedRun.2.2, ran, rfl, rfl⟩,
      List.cons_ne_nil _ _, rfl⟩
  have resolved : ((diagnosed wholesome.host installed ["skf-service", "diagnose"]
      fun _ => none).diagnose whileRunning).providerResolved = true := by
    rw [diagnose_resolved rfl rfl, (withStatus_kept _ _).2.1]
    rfl
  obtain ⟨file, -, -, bound⟩ := truthful.2.1 wholesome _ _ _ told rfl resolved
  exact ⟨truthful.1 .Service rfl (.inl rfl), bound.mpr rfl⟩

end diagnosis

end SkfService
