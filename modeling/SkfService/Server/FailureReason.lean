import Mathlib.Logic.Equiv.Basic
import SkfService.Server.Startup

/-! What the reason of a failed start-up tells about the configuration. -/

set_option autoImplicit false

namespace SkfService

open Text

/-- Why a start-up fails. All failures over addresses are one cause: they do not depend on the rest
of the configuration. -/
inductive Cause
  | unreadable
  | malformed
  | notConfigured
  | address
  deriving DecidableEq

namespace StartUp

def cause (s : StartUp) : Option Cause :=
  match s.file with
  | .error _ => some .unreadable
  | .ok text =>
    match s.host.parseYaml text with
    | .error _ => some .malformed
    | .ok config =>
      if (config.rawPath config.default s.host.platform.os).isNone then some .notConfigured
      else
        match s.host.listen s.opts (config.allowsRemote s.host) with
        | .error _ => some .address
        | .ok _ => none

end StartUp

structure SameButNames (c d : ConfigFile) : Prop where
  renamed : ∃ rename : String → String, Function.Injective rename ∧ d.default = rename c.default ∧
    d.vendor = c.vendor.map (fun entry => (entry.1, rename entry.2)) ∧
    d.libs.map (fun entry => (entry.1, entry.2.map Prod.fst)) =
      c.libs.map fun entry => (rename entry.1, entry.2.map Prod.fst)
  allowRemote : d.allowRemote = c.allowRemote

/-- What the start-ups read: nothing, for the same reason; texts the parser refuses; or
configurations that differ in names only. `rewords` is how the parser's messages on such texts can
differ. -/
inductive ReadAlike (rewords : String → String → Prop) (parse : String → Except String ConfigFile) :
    Except String String → Except String String → Prop
  | unreadable (e : String) : ReadAlike rewords parse (.error e) (.error e)
  | malformed {s t m n : String} (first : parse s = .error m) (second : parse t = .error n)
      (alike : rewords m n) :
      ReadAlike rewords parse (.ok s) (.ok t)
  | parsed {s t : String} {c d : ConfigFile} (first : parse s = .ok c) (second : parse t = .ok d)
      (alike : SameButNames c d) : ReadAlike rewords parse (.ok s) (.ok t)

structure Renamed (rewords : String → String → Prop) (i j : StartUp) : Prop where
  host : j.host = i.host
  wsAddr : j.opts.wsAddr = i.opts.wsAddr
  httpAddr : j.opts.httpAddr = i.opts.httpAddr
  file : ReadAlike rewords i.host.parseYaml i.file j.file

def Cause.Discreet (rewords : String → String → Prop) : Cause → Prop
  | unreadable => False
  | malformed => ∀ m n, rewords m n →
      shortReason (StartupError.Config m).display = shortReason (StartupError.Config n).display
  | notConfigured => False
  | address => True

section reasons

variable {s : StartUp} {text message : String} {config : ConfigFile}

theorem StartUp.reason_error {e : StartupError} (failed : s.bindWithProgress = .error e) :
    s.reason = some (shortReason e.display) := by
  simp [StartUp.reason, StartUp.failure, failed, ServiceStatusFile.failed]

theorem StartUp.reason_malformed (read : s.file = .ok text)
    (refused : s.host.parseYaml text = .error message) :
    s.reason = some (shortReason (StartupError.Config message).display) := by
  apply StartUp.reason_error
  simp [StartUp.bindWithProgress, StartUp.load, read, refused, Except.mapError, bind, Except.bind]

/-- Past the provider only the addresses and the permission to bind remotely count. -/
theorem StartUp.reason_address (read : s.file = .ok text)
    (parsed : s.host.parseYaml text = .ok config)
    (configured : (config.rawPath config.default s.host.platform.os).isNone = false) :
    s.reason = match s.host.listen s.opts (config.allowsRemote s.host) with
      | .error e => some (shortReason e.display)
      | .ok _ => none := by
  obtain ⟨raw, found⟩ := Option.isSome_iff_exists.mp (by simpa using configured)
  cases listened : s.host.listen s.opts (config.allowsRemote s.host) <;>
    simp [StartUp.reason, StartUp.failure, StartUp.bindWithProgress, StartUp.load, read, parsed,
      resolveLibPath, found, listened, Except.mapError, bind, Except.bind, ServiceStatusFile.failed,
      pure, Except.pure]

end reasons

theorem listen_opts {host : StartupHost} {opts other : ServerOptions}
    (wsAddr : other.wsAddr = opts.wsAddr) (httpAddr : other.httpAddr = opts.httpAddr)
    (remote : Bool) :
    host.listen other remote = host.listen opts remote := by
  unfold StartupHost.listen
  rw [wsAddr, httpAddr]

theorem toList_shortReason (message : String) : (shortReason message).toList =
    (trimEndChars isWhitespace ((message.toList.takeWhile (· != '\n')).dropWhile isWhitespace)).take
      200 := by
  simp only [shortReason, trim, String.toList_ofList]

section examples

def startUpWith (parse : String → Except String ConfigFile) (configPath : String)
    (file : Except String String) :
    StartUp where
  host :=
    { platform := (SkfContext.serving []).platform
      parseYaml := parse
      parseSocketAddr := fun _ => .error "invalid socket address syntax"
      toSocketAddrs := fun _ => .error "invalid socket address"
      allowRemoteEnv := none
      bind := fun _ => .error "permission denied" }
  opts := ⟨configPath, "127.0.0.1:9001", none⟩
  file := file

def missingFile (configPath : String) : StartUp :=
  startUpWith (fun _ => .error "") configPath (.error "entity not found")

theorem missingFile_renamed (rewords : String → String → Prop) (one other : String) :
    Renamed rewords (missingFile one) (missingFile other) :=
  ⟨rfl, rfl, rfl, .unreadable _⟩

theorem missingFile_reasons :
    (missingFile "C:/skf/a.yaml").reason ≠ (missingFile "D:/token/b.yaml").reason := by
  have told (path : String) : (missingFile path).reason = some (shortReason (StartupError.Config
      ("failed to read config '" ++ path ++ "': " ++ "entity not found")).display) :=
    StartUp.reason_error rfl
  rw [told, told]
  intro same
  have chars := congrArg String.toList (Option.some.inj same)
  rw [toList_shortReason, toList_shortReason] at chars
  unfold StartupError.display at chars
  simp_rw [String.toList_append] at chars
  exact absurd chars (by decide)

def emptyConfig (default : String) : ConfigFile := ⟨⟨default, [], []⟩, none⟩

def withoutProvider (default : String) : StartUp :=
  startUpWith (fun text => .ok (emptyConfig text)) "config/skf.yaml" (.ok default)

theorem withoutProvider_renamed (rewords : String → String → Prop) :
    Renamed rewords (withoutProvider "GM3000") (withoutProvider "FishMan") := by
  refine ⟨rfl, rfl, rfl, .parsed rfl rfl ⟨⟨Equiv.swap "GM3000" "FishMan", ?_, ?_, rfl, rfl⟩, rfl⟩⟩
  · exact Equiv.injective _
  · exact (Equiv.swap_apply_left _ _).symm

theorem withoutProvider_reasons :
    (withoutProvider "GM3000").reason ≠ (withoutProvider "FishMan").reason := by
  have told (default : String) :
      (withoutProvider default).reason = some (shortReason (StartupError.Provider
      ("Provider '" ++ default ++ "' not configured for OS '" ++ "linux" ++ "'. Avail Provs: " ++
        "[]")).display) :=
    StartUp.reason_error rfl
  rw [told, told]
  intro same
  have chars := congrArg String.toList (Option.some.inj same)
  rw [toList_shortReason, toList_shortReason] at chars
  unfold StartupError.display at chars
  simp_rw [String.toList_append] at chars
  exact absurd chars (by decide)

def refusedFile (message : String) : StartUp := startUpWith .error "config/skf.yaml" (.ok message)

end examples

/-- A cause's reasons are the same for all start-ups that differ in names only, exactly when the
cause is discreet. -/
theorem reasons_alike_iff (rewords : String → String → Prop) (cause : Cause) :
    (∀ i j, Renamed rewords i j → i.cause = some cause → j.cause = some cause →
      i.reason = j.reason) ↔
      cause.Discreet rewords := by
  constructor
  · intro alike
    cases cause with
    | unreadable => exact missingFile_reasons (alike _ _ (missingFile_renamed rewords _ _) rfl rfl)
    | notConfigured =>
      exact withoutProvider_reasons (alike _ _ (withoutProvider_renamed rewords) rfl rfl)
    | address => trivial
    -- The reason is what the parser says, so that two refused files tell two messages apart.
    | malformed =>
      intro m n reworded
      have same :=
        alike (refusedFile m) (refusedFile n) ⟨rfl, rfl, rfl, .malformed rfl rfl reworded⟩ rfl rfl
      rw [StartUp.reason_malformed rfl rfl, StartUp.reason_malformed rfl rfl] at same
      exact Option.some.inj same
  · intro discreet i j renamed first second
    have file := renamed.file
    generalize readI : i.file = fileI at file
    generalize readJ : j.file = fileJ at file
    cases file with
    | unreadable e =>
      -- Neither start-up gets past its file.
      rw [StartUp.cause, readI] at first
      cases first
      exact discreet.elim
    | malformed parsedI parsedJ alike =>
      have parsedJ' := parsedJ
      rw [← renamed.host] at parsedJ'
      have reasonI := StartUp.reason_malformed readI parsedI
      have reasonJ := StartUp.reason_malformed readJ parsedJ'
      simp only [StartUp.cause, readI, parsedI] at first
      cases first
      rw [reasonI, reasonJ, discreet _ _ alike]
    | @parsed s t c d parsedI parsedJ alike =>
      have parsedJ' := parsedJ
      rw [← renamed.host] at parsedJ'
      simp only [StartUp.cause, readI, parsedI] at first
      simp only [StartUp.cause, readJ, parsedJ'] at second
      split at first
      · cases first
        exact discreet.elim
      · next configuredI =>
        split at second
        · cases second
          split at first <;> cases first
        · next configuredJ =>
          rw [StartUp.reason_address readI parsedI ((Bool.not_eq_true _).mp configuredI),
            StartUp.reason_address readJ parsedJ' ((Bool.not_eq_true _).mp configuredJ),
            renamed.host, listen_opts renamed.wsAddr renamed.httpAddr]
          simp only [ConfigFile.allowsRemote, alike.allowRemote]

/-- A configuration file that is not there is reported with its path. -/
theorem unreadable_path_in_reason :
    ¬∀ i j cause, Renamed (fun m n => m = n) i j → i.cause = some cause → j.cause = some cause →
      i.reason = j.reason := by
  intro alike
  exact missingFile_reasons (alike _ _ .unreadable (missingFile_renamed _ _ _) rfl rfl)

end SkfService
