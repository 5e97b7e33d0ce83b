import SkfService.Protocol.Params
import SkfService.Skf.Interface

/-! The process-wide context: configuration, platform and alias resolution. -/

set_option autoImplicit false

namespace SkfService

open Text Handler

/-- The parts of the platform and of third-party libraries a request depends on as pure functions.
`uppercaseOther` is Unicode's uppercase mapping outside ASCII; `decimalSerial` and `subject` of a
certificate are as the X.509 parser prints them. -/
structure Platform where
  os : String
  arch : String
  env : String → Option String
  uppercaseOther : Char → List Char
  debug : String → String
  base64Error : DecodeErrorText
  parseRequest : String → Except String RpcRequest
  parseCertificate : List UInt8 → Option (String × String)
  parseCsrKey : List UInt8 → Option (List UInt8)
  tempFile : String → String
  packageVersion : String
  lastInstant : Instant

/-- Unicode uppercase; inside ASCII it only moves the lower-case letters. -/
def Platform.toUppercase (platform : Platform) (s : String) : String :=
  .ofList (s.toList.flatMap fun c =>
    if c.toNat < 128 then [c.toUpper] else platform.uppercaseOther c)

/-- Both maps in their iteration order. -/
structure SkfConfig where
  default : String
  vendor : List (String × String)
  libs : List (String × List (String × String))

/-- Substitutes `%VAR%` in one pass. `open?` holds the name read since the last unpaired `%`. -/
def expandChars (env : String → Option String) : Option (List Char) → List Char → List Char
  | none, [] => []
  | some name, [] => '%' :: name
  | none, c :: cs => if c = '%' then expandChars env (some []) cs else c :: expandChars env none cs
  | some name, c :: cs =>
    if c = '%' then
      (if name = [] then ['%']
        else match env (.ofList name) with
          | some value => value.toList
          | none => '%' :: name ++ ['%']) ++ expandChars env none cs
    else expandChars env (some (name ++ [c])) cs

def expandEnvVars (env : String → Option String) (path : String) : String :=
  .ofList (expandChars env none path.toList)

/-- The configured path of an alias for an operating system: the exact key first, then the first key
that matches without regard to case. -/
def SkfConfig.rawPath (config : SkfConfig) (provider os : String) : Option String :=
  (config.libs.lookup provider).bind fun platforms =>
    (platforms.lookup os).or
      ((platforms.find? fun entry => eqIgnoreAsciiCase entry.1 os).map Prod.snd)

/-- The format `{:?}` of a list of strings. -/
def debugList (debug : String → String) (names : List String) : String :=
  "[" ++ String.intercalate ", " (names.map debug) ++ "]"

def resolveLibPath (platform : Platform) (config : SkfConfig) (provider : String) :
    Except String String :=
  match config.rawPath provider platform.os with
  | some raw => .ok (expandEnvVars platform.env raw)
  | none => .error ("Provider '" ++ provider ++ "' not configured for OS '" ++ platform.os ++
      "'. Avail Provs: " ++ debugList platform.debug (config.libs.map Prod.fst))

structure SkfContext where
  config : SkfConfig
  platform : Platform

namespace SkfContext

def serving (requests : List (String × RpcRequest)) : SkfContext where
  config :=
    { default := "GM3000"
      vendor := [("055c:e618", "GM3000")]
      libs := [("GM3000", [("linux", "native/GM3000/linux/libgm3000.1.0.so")]),
        ("3000GM", [("linux", "native/3000GM/linux/libes_3000gm.so.1.0.0")])] }
  platform :=
    { os := "linux"
      arch := "x86_64"
      env := fun _ => none
      uppercaseOther := fun c => [c]
      debug := fun s => "\"" ++ s ++ "\""
      base64Error := fun _ => "Invalid padding"
      parseRequest := fun text =>
        match requests.lookup text with
        | some req => .ok req
        | none => .error "expected value at line 1 column 1"
      parseCertificate := fun _ => none
      parseCsrKey := fun _ => none
      tempFile := fun name => "/tmp/" ++ name
      packageVersion := "0.3.1"
      lastInstant := 2 ^ 63 }

/-- The provider the server built at start-up; gate 0 is the one all its guards share. -/
def provider (ctx : SkfContext) : Library := ⟨ctx.config.default, some 0⟩

def getLibPath (ctx : SkfContext) (provider : String) : Except String String :=
  resolveLibPath ctx.platform ctx.config provider

def notConfigured (ctx : SkfContext) (provider : String) : String :=
  "Provider '" ++ provider ++ "' not configured for OS '" ++ ctx.platform.os ++
    "'. Avail Provs: " ++
    debugList ctx.platform.debug (ctx.config.libs.map Prod.fst) ++ ". Avail OS for " ++
    provider ++ ": " ++
    match ctx.config.libs.lookup provider with
    | some platforms => debugList ctx.platform.debug (platforms.map Prod.fst)
    | none => "None"

def getApi (ctx : SkfContext) (provider : String) : Handler (Except String Library) := do
  match ← host (.readCache provider) with
  | true => return .ok ⟨provider, none⟩
  | false =>
    match ctx.config.rawPath provider ctx.platform.os with
    | none => return .error (ctx.notConfigured provider)
    | some raw =>
      let libPath := expandEnvVars ctx.platform.env raw
      match ← host (.loadLibrary libPath) with
      | .ok () =>
        host (.writeCache provider)
        return .ok ⟨provider, none⟩
      | .error reason =>
        return .error ("Failed to load library '" ++ libPath ++ "' (process architecture: " ++
          ctx.platform.arch ++ "): " ++ reason)

/-- The default alias is the provider the server built. Any other alias is its cached library behind
a provider made for this request, with a gate of its own. -/
def resolve (ctx : SkfContext) (name : String) : Handler (Except String Library) := do
  if name = ctx.config.default then return .ok ctx.provider
  else
    match ← ctx.getApi name with
    | .error reason => return .error reason
    | .ok _ =>
      let gate ← host .newGate
      return .ok ⟨name, some gate⟩

/-- The alias the container and key-request branches mean: absent, empty and `"default"` are the
configured default. -/
def normalizeAlias (ctx : SkfContext) (requested : String) : String :=
  if requested = "" ∨ requested = "default" then ctx.config.default else requested

end SkfContext
end SkfService
