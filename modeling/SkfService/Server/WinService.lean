import SkfService.Server.StatusFile

/-! The Windows service: what `run_service` reports to the service control manager, and what it
leaves in the status file on the way. -/

set_option autoImplicit false

namespace SkfService

open Text Interaction Program

inductive RunMode
  | Console
  | Service

def RunMode.defaultHttp : RunMode → String
  | Console => "0.0.0.0:8000"
  | Service => "127.0.0.1:8000"

def ServerOptions.fromEnv (mode : RunMode) (env : String → Option String) : ServerOptions where
  configPath := (env "SKF_CONFIG").getD "config/skf.yaml"
  wsAddr := (env "SKF_WS_ADDR").getD "127.0.0.1:9001"
  httpAddr := some ((env "SKF_HTTP_ADDR").getD mode.defaultHttp)

/-- The files as a process finds them from its working directory. -/
structure WorkingDirectory where
  present : String → Bool
  read : String → Except String String

/-- Where a process starts, the directory of its executable if the system tells it, and where
entering a directory leads, if it succeeds. -/
structure ProcessStart where
  cwd : WorkingDirectory
  exeDir : Option String
  setCurrentDir : String → Option WorkingDirectory

/-- `prepare_working_directory`: where the process is after it. -/
def ProcessStart.prepareWorkingDirectory (place : ProcessStart) (configPath : String) :
    WorkingDirectory :=
  if place.cwd.present configPath then place.cwd
  else (place.exeDir.bind place.setCurrentDir).getD place.cwd

/-- A path that is there, or that the executable's directory leads to as well, as it does for an
absolute one. -/
def ProcessStart.Settled (place : ProcessStart) (path : String) : Prop :=
  place.cwd.present path = true ∨
    ∀ exe, place.exeDir.bind place.setCurrentDir = some exe → exe.read path = place.cwd.read path

theorem ProcessStart.Settled.reads {place : ProcessStart} {path : String}
    (settled : place.Settled path) :
    (place.prepareWorkingDirectory path).read path = place.cwd.read path := by
  unfold prepareWorkingDirectory
  split
  · rfl
  · next absent =>
    cases beside : place.exeDir.bind place.setCurrentDir with
    | none => rfl
    | some exe => exact settled.resolve_left absent exe beside

namespace ServiceStatusFile

def pending (stage : StartupStage) (pid : Option UInt32) (updated : String)
    (startedAt : Option String) :
    ServiceStatusFile :=
  ⟨.StartPending, stage, none, none, pid, none, some updated, startedAt⟩

def running (address : String) (pid : Option UInt32) (updated : String)
    (startedAt : Option String) :
    ServiceStatusFile :=
  ⟨.Running, .Serve, none, none, pid, some address, some updated, startedAt⟩

def stopped (updated : String) (startedAt : Option String) : ServiceStatusFile :=
  ⟨.Stopped, .Serve, none, none, none, none, some updated, startedAt⟩

end ServiceStatusFile

section addresses

/-- The HTTP address, parsed before the bind stage begins. -/
def StartupHost.httpSocket (host : StartupHost) (opts : ServerOptions) :
    Except StartupError (Option SocketAddr) :=
  match opts.httpAddr with
  | some addr =>
    match host.parseSocketAddr addr with
    | .ok socket => .ok (some socket)
    | .error e => .error (.Config ("invalid HTTP address '" ++ addr ++ "': " ++ e))
  | none => .ok none

def StartupHost.openListener (host : StartupHost) (opts : ServerOptions) (allowsRemote : Bool)
    (httpAddr : Option SocketAddr) : Except StartupError BoundServer := do
  let wsSocket ← (host.resolveBindAddr opts.wsAddr).mapError .Bind
  if !wsSocket.isLoopback && !allowsRemote then
    .error
      (.Bind ("refusing to bind WebSocket listener to non-loopback address " ++ wsSocket.display ++
      " without explicit opt-in; set allow_remote: true in the config or SKF_ALLOW_REMOTE=1"))
  else
    match host.bind wsSocket with
    | .error e =>
      .error (.Bind ("failed to bind WebSocket listener on " ++ wsSocket.display ++ ": " ++ e))
    | .ok (.error e) => .error (.Bind ("failed to read bound WebSocket address: " ++ e))
    | .ok (.ok bound) => .ok ⟨bound, httpAddr⟩

theorem StartupHost.listen_stages (host : StartupHost) (opts : ServerOptions)
    (allowsRemote : Bool) :
    host.listen opts allowsRemote = (host.httpSocket opts).bind
      (host.openListener opts allowsRemote) := by
  unfold listen httpSocket
  cases opts.httpAddr with
  | none => rfl
  | some addr =>
    dsimp only
    cases host.parseSocketAddr addr <;> rfl

end addresses

inductive ServiceExitCode
  | NO_ERROR
  | ServiceSpecific (code : UInt32)
  deriving DecidableEq

inductive ScmState
  | StartPending
  | Running
  | Stopped
  deriving DecidableEq

/-- A report. The service accepts to be stopped, or told of a shutdown, or neither. -/
structure ServiceStatus where
  currentState : ScmState
  controlsAccepted : Bool
  exitCode : ServiceExitCode
  checkpoint : Nat
  deriving DecidableEq

def ServiceStatus.reporting (state : ScmState) (checkpoint : Nat) (exit : ServiceExitCode) :
    ServiceStatus :=
  ⟨state, state = .Running, exit, checkpoint⟩

/-- What the accept loop is woken by: the stop channel, on which a stop was sent or which was
closed, or the listener. -/
inductive Selected
  | changed (sent : Bool)
  | accepted (stream : Except String Unit)

inductive WinOp
  | register
  | now
  | status (op : StatusOp)
  | report (status : ServiceStatus)
  | createRuntime
  | sessionBuilder
  | select

abbrev WinOp.Reply : WinOp → Type
  | register => Except String Unit
  | now => String
  | status _ => Except String Unit
  | report _ => Unit
  | createRuntime => Except String Unit
  | sessionBuilder => Bool
  | select => Selected

def Windows : Signature := ⟨WinOp, WinOp.Reply⟩

inductive Serving
  | still

namespace WinService

def onDisk {A : Type} : Program StatusFiles Empty A → Program Windows Serving A
  | .done value => .done value
  | .stop exit => exit.elim
  | .call op next => .call (.status op) fun reply => onDisk (next reply)

def ask (op : WinOp) : Program Windows Serving op.Reply := Program.ask (I := Windows) op

/-- Writes the status file; a write that fails changes nothing for the service. -/
def record (value : ServiceStatusFile) : Program Windows Serving Unit := do
  let _written ← onDisk (writeAtomic value)
  return ()

def report (state : ScmState) (checkpoint : Nat) (exit : ServiceExitCode) :
    Program Windows Serving Unit :=
  ask (.report (.reporting state checkpoint exit))

/-- `on_stage`, with the checkpoint before and after it. -/
def onStage (pid : UInt32) (startedAt : String) (checkpoint : Nat) (stage : StartupStage) :
    Program Windows Serving Nat := do
  let updated ← ask .now
  record (.pending stage (some pid) updated (some startedAt))
  report .StartPending (checkpoint + 1) .NO_ERROR
  return checkpoint + 1

/-- `bind_with_progress`, announcing each stage before it begins. -/
def bindWithProgress (s : StartUp) (onStage : Nat → StartupStage → Program Windows Serving Nat) :
    Program Windows Serving (Except StartupError (ConfigFile × BoundServer)) := do
  let checkpoint ← onStage 0 .Config
  match s.load with
  | .error e => return .error (.Config e)
  | .ok config =>
    let checkpoint ← onStage checkpoint .Provider
    match resolveLibPath s.host.platform config.toSkfConfig config.default with
    | .error e => return .error (.Provider e)
    | .ok _path =>
      match s.host.httpSocket s.opts with
      | .error e => return .error e
      | .ok httpAddr =>
        let _checkpoint ← onStage checkpoint .Bind
        match s.host.openListener s.opts (config.allowsRemote s.host) httpAddr with
        | .error e => return .error e
        | .ok bound => return .ok (config, bound)

/-- The accept loop of `serve` with a stop channel, for so many rounds. Whatever ends it, it ends
well. -/
def serve : Nat → Program Windows Serving (Except String Unit)
  | 0 => .stop .still
  | rounds + 1 => do
    match ← ask .select with
    | .changed _ => return .ok ()
    | .accepted (.ok _) => serve rounds
    | .accepted (.error _) => return .ok ()

def served (pid : UInt32) (startedAt : String) (bound : BoundServer) (rounds : Nat) :
    Program Windows Serving (Except String Unit) := do
  let updated ← ask .now
  record (.running bound.wsAddr.display (some pid) updated (some startedAt))
  report .Running 0 .NO_ERROR
  -- Without a builder the service returns with an error and reports nothing.
  if ← ask .sessionBuilder then
    match ← serve rounds with
    | .ok () =>
      let updated ← ask .now
      record (.stopped updated (some startedAt))
      report .Stopped 0 .NO_ERROR
      return .ok ()
    | .error e =>
      let updated ← ask .now
      record (.failed .Serve StartupStage.Serve.exitCode (shortReason e) (some pid) updated
        (some startedAt))
      report .Stopped 0 (.ServiceSpecific StartupStage.Serve.exitCode)
      return .error e
  else return .error "no session builder installed"

def runService (s : StartUp) (pid : UInt32) (rounds : Nat) :
    Program Windows Serving (Except String Unit) := do
  match ← ask .register with
  | .error e => return .error ("unable to register service control handler: " ++ e)
  | .ok () =>
    report .StartPending 0 .NO_ERROR
    let startedAt ← ask .now
    let updated ← ask .now
    record (.pending .Config (some pid) updated (some startedAt))
    match ← ask .createRuntime with
    -- The status that was recorded stays at the first stage.
    | .error e => return .error ("unable to create Tokio runtime: " ++ e)
    | .ok () =>
      match ← bindWithProgress s (onStage pid startedAt) with
      | .error e =>
        let updated ← ask .now
        record (.failed e.stage e.stage.exitCode (shortReason e.display) (some pid) updated
          (some startedAt))
        report .Stopped 0 (.ServiceSpecific e.stage.exitCode)
        return .error e.display
      | .ok (_, bound) => served pid startedAt bound rounds

end WinService
end SkfService
