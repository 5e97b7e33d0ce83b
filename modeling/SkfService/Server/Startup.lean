import SkfService.Dispatch.Context

/-! Service start-up: configuration, default provider, addresses, and the status file of a failure. -/

set_option autoImplicit false

namespace SkfService

open Text

/-- The configuration file; a key that is neither `default`, `vendor` nor `allow_remote` is an
alias. -/
structure ConfigFile extends SkfConfig where
  allowRemote : Option Bool

structure SocketAddr where
  display : String
  isLoopback : Bool
  deriving DecidableEq

/-- What start-up asks of the system and of the YAML parser. `bind` answers the listener's own
address, or fails twice: to bind, or to tell the address. -/
structure StartupHost where
  platform : Platform
  parseYaml : String → Except String ConfigFile
  parseSocketAddr : String → Except String SocketAddr
  toSocketAddrs : String → Except String (List SocketAddr)
  allowRemoteEnv : Option String
  bind : SocketAddr → Except String (Except String SocketAddr)

structure ServerOptions where
  configPath : String
  wsAddr : String
  httpAddr : Option String

/-- One start-up; `file` is what reading the configuration path comes back with. -/
structure StartUp where
  host : StartupHost
  opts : ServerOptions
  file : Except String String

inductive StartupStage
  | Config
  | Provider
  | Bind
  | Serve
  deriving DecidableEq

def StartupStage.exitCode : StartupStage → UInt32
  | Config => 1
  | Provider => 2
  | Bind => 3
  | Serve => 4

inductive StartupError
  | Config (detail : String)
  | Provider (detail : String)
  | Bind (detail : String)

namespace StartupError

def stage : StartupError → StartupStage
  | Config _ => .Config
  | Provider _ => .Provider
  | Bind _ => .Bind

def display : StartupError → String
  | Config detail => "configuration error: " ++ detail
  | Provider detail => "provider resolution error: " ++ detail
  | Bind detail => "bind error: " ++ detail

end StartupError

structure BoundServer where
  wsAddr : SocketAddr
  httpAddr : Option SocketAddr

def ConfigFile.allowsRemote (config : ConfigFile) (host : StartupHost) : Bool :=
  config.allowRemote == some true ||
    match host.allowRemoteEnv.map fun value => toAsciiLowercase (trim value) with
    | some value => value == "1" || value == "true"
    | none => false

def StartUp.load (s : StartUp) : Except String ConfigFile :=
  match s.file with
  | .error e => .error ("failed to read config '" ++ s.opts.configPath ++ "': " ++ e)
  | .ok text => s.host.parseYaml text

def StartupHost.resolveBindAddr (host : StartupHost) (addr : String) : Except String SocketAddr :=
  match host.toSocketAddrs addr with
  | .error e => .error ("invalid WS address '" ++ addr ++ "': " ++ e)
  | .ok [] => .error ("WS address '" ++ addr ++ "' resolved to no address")
  | .ok (socket :: _) => .ok socket

/-- The part of `bind_with_progress` that is about addresses. An HTTP address that does not parse is
an error of the configuration stage, though the provider has been resolved by then. -/
def StartupHost.listen (host : StartupHost) (opts : ServerOptions) (allowsRemote : Bool) :
    Except StartupError BoundServer := do
  let httpAddr ← match opts.httpAddr with
    | some addr =>
      match host.parseSocketAddr addr with
      | .ok socket => .ok (some socket)
      | .error e => .error (.Config ("invalid HTTP address '" ++ addr ++ "': " ++ e))
    | none => .ok none
  -- The first address that the name resolves to is the one that is bound.
  let wsSocket ← (host.resolveBindAddr opts.wsAddr).mapError .Bind
  if !wsSocket.isLoopback && !allowsRemote then
    .error
      (.Bind ("refusing to bind WebSocket listener to non-loopback address " ++ wsSocket.display ++
      " without explicit opt-in; set allow_remote: true in the config or SKF_ALLOW_REMOTE=1"))
  else
    match host.bind wsSocket with
    | .error e =>
      .error (.Bind ("failed to bind WebSocket listener on " ++ wsSocket.display ++ ": " ++ e))
    | .ok (.error e) => .error (.Bind ("failed to read bound WebSocket address: " ++ e))
    | .ok (.ok bound) => .ok ⟨bound, httpAddr⟩

/-- `bind_with_progress`. A library that does not load is no failure; a default provider without a
path is. -/
def StartUp.bindWithProgress (s : StartUp) : Except StartupError (ConfigFile × BoundServer) := do
  let config ← s.load.mapError .Config
  let _path ← (resolveLibPath s.host.platform config.toSkfConfig config.default).mapError .Provider
  let bound ← s.host.listen s.opts (config.allowsRemote s.host)
  return (config, bound)

/-- The first line, trimmed, at most 200 characters of it. Trimming takes the carriage return of a
line end with it. -/
def shortReason (message : String) : String :=
  .ofList ((trim (.ofList (message.toList.takeWhile (· != '\n')))).toList.take 200)

inductive ServiceState
  | StartPending
  | Running
  | Failed
  | Stopped

structure ServiceStatusFile where
  state : ServiceState
  stage : StartupStage
  code : Option UInt32
  reason : Option String
  pid : Option UInt32
  address : Option String
  updated : Option String
  startedAt : Option String

def ServiceStatusFile.failed (stage : StartupStage) (code : UInt32) (reason : String)
    (pid : Option UInt32) (updated : String) (startedAt : Option String) : ServiceStatusFile :=
  ⟨.Failed, stage, some code, some reason, pid, none, some updated, startedAt⟩

/-- The status file `run_service` writes when start-up fails. -/
def StartUp.failure (s : StartUp) (pid : UInt32) (updated startedAt : String) :
    Option ServiceStatusFile :=
  match s.bindWithProgress with
  | .error e =>
    some (.failed e.stage e.stage.exitCode (shortReason e.display) (some pid) updated
      (some startedAt))
  | .ok _ => none

def StartUp.reason (s : StartUp) : Option String :=
  (s.failure 0 "" "").bind ServiceStatusFile.reason

end SkfService
