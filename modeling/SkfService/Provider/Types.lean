import SkfService.Text.Chars

/-! What crosses the provider boundary: errors, outcomes, public keys and the resources a caller
holds. -/

set_option autoImplicit false

namespace SkfService

open Text

abbrev ULONG := UInt32

def SAR_OK : ULONG := 0x00000000
def SAR_COULDNOTGETFUNCADDR : ULONG := 0x0A000005

def SGD_SM4_ECB : ULONG := 0x00000401
def SGD_SM4_CBC : ULONG := 0x00000402
def SGD_SM2_1 : ULONG := 0x00020100
def SGD_SM3 : ULONG := 0x00000001

def codeAsI32 (code : ULONG) : Int32 := code.toInt32

/-- A failure the test provider can inject; a blocking call keeps its duration as it is shown. -/
inductive SkfError
  | PinIncorrect
  | PinLocked
  | ContainerMissing
  | SymbolUnavailable
  | DeviceRemoved
  | Blocking (duration : String)
  | Custom (code : ULONG)
  deriving DecidableEq

def SkfError.debug : SkfError → String
  | .PinIncorrect => "PinIncorrect"
  | .PinLocked => "PinLocked"
  | .ContainerMissing => "ContainerMissing"
  | .SymbolUnavailable => "SymbolUnavailable"
  | .DeviceRemoved => "DeviceRemoved"
  | .Blocking duration => "Blocking(" ++ duration ++ ")"
  | .Custom code => "Custom(" ++ decimal code.toNat ++ ")"

inductive ProviderError
  | Native (code : ULONG) (context : String)
  | SymbolUnavailable (name : String)
  | LibraryLoadFailed (path arch detail : String)
  | ProviderNotConfigured (providerAlias os : String)
  | Injected (err : SkfError)
  | InvalidArgument (context : String)
  deriving DecidableEq

namespace ProviderError

/-- A missing symbol is normalised, so that callers need no special case for its code. -/
def fromNative (code : ULONG) (context : String) : ProviderError :=
  if code = SAR_COULDNOTGETFUNCADDR then .SymbolUnavailable context else .Native code context

def display : ProviderError → String
  | .Native code context => context ++ " failed: 0x" ++ hex8 code
  | .SymbolUnavailable name => "symbol '" ++ name ++ "' is not available in the loaded library"
  | .LibraryLoadFailed path arch detail =>
    "Failed to load library '" ++ path ++ "' (process architecture: " ++ arch ++ "): " ++ detail
  | .ProviderNotConfigured providerAlias os =>
    "Provider '" ++ providerAlias ++ "' not configured for OS '" ++ os ++ "'"
  | .Injected err => "injected failure: " ++ err.debug
  | .InvalidArgument context => "invalid argument in " ++ context

end ProviderError

def nativeCode : ProviderError → Option ULONG
  | .Native code _ => some code
  | .Injected (.Custom code) => some code
  | _ => none

structure PinOutcome where
  success : Bool
  retryCount : UInt32
  code : ULONG
  deriving DecidableEq

structure EccPublicKey where
  bitLen : UInt32
  x : List UInt8
  y : List UInt8
  deriving DecidableEq

structure RsaPublicKey where
  algId : UInt32
  bitLen : UInt32
  modulus : List UInt8
  exponent : List UInt8
  deriving DecidableEq

/-- A loaded vendor library as a caller reaches it: through a provider, whose calls take `gate`, or
directly through the symbol table, without a gate. -/
structure Library where
  providerAlias : String
  gate : Option Nat
  deriving DecidableEq

structure Device where
  library : Library
  name : String
  raw : Nat
  deriving DecidableEq

structure Application where
  device : Device
  name : String
  raw : Nat
  deriving DecidableEq

structure Container where
  application : Application
  name : String
  raw : Nat
  deriving DecidableEq

structure Digest where
  device : Device
  raw : Nat
  deriving DecidableEq

inductive Resource
  | device (it : Device)
  | application (it : Application)
  | container (it : Container)
  | digest (it : Digest)
  deriving DecidableEq

def Resource.parent : Resource → Option Resource
  | .device _ => none
  | .application it => some (.device it.device)
  | .container it => some (.application it.application)
  | .digest it => some (.device it.device)

end SkfService
