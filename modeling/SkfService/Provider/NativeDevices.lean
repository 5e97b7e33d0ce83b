import SkfService.Interaction.Oracle
import SkfService.Skf.Interface
import SkfService.Text.Utf8

/-! The native provider's calls that need no open device: the device list, a device's state and the
wait for an event. -/

set_option autoImplicit false

namespace SkfService

open Text Interaction

/-- The calls of a vendor library that take no handle; `buffer` is as in `VendorOp`. -/
inductive DeviceCall
  | enumDev (present : Bool) (buffer : Option ULONG)
  | getDevState (name : CString)
  | waitForDevEvent (capacity : ULONG)

abbrev DeviceCall.Reply : DeviceCall → Type
  | enumDev _ _ => Filled
  | getDevState _ => ULONG × ULONG
  | waitForDevEvent _ => Filled × ULONG

abbrev Devices : Signature := ⟨DeviceCall, DeviceCall.Reply⟩

abbrev VendorLibrary := Oracle Devices

/-- The sizes it reports of a list it has filled in fit the buffer. -/
def VendorLibrary.Consistent (library : VendorLibrary) : Prop :=
  ∀ history present capacity, (library history (.enumDev present (some capacity))).size ≤ capacity

namespace NativeSkfProvider

def DEV_NAME_BUF_LEN : Nat := 256

def cstring (value context : String) : Except ProviderError CString :=
  match CString.new value with
  | some name => .ok name
  | none => .error (.InvalidArgument context)

/-- The non-empty names of the part of a NUL-separated list that lies in the buffer. -/
def parseCstrList (buf : List UInt8) (size : Nat) : List String :=
  (((buf.take (Nat.min size buf.length)).splitOn 0).filter (· ≠ [])).map fromUtf8Lossy

def readNameList (len : ULONG) (fetch : ULONG → Program Devices Empty Filled) :
    Program Devices Empty (Except ProviderError (List String)) := do
  if len = 0 then return .ok []
  else
    let filled ← fetch len
    if filled.ret ≠ SAR_OK then return .error (.fromNative filled.ret "enumerate list")
    else return .ok (parseCstrList (filled.memory.take len.toNat) filled.size.toNat)

def enumDevices (presentOnly : Bool) : Program Devices Empty (Except ProviderError (List String)) :=
  do
  let sized ← Program.ask (I := Devices) (.enumDev presentOnly none)
  if sized.ret ≠ SAR_OK then return .error (.fromNative sized.ret "EnumDev")
  else if sized.size = 0 then return .ok []
  else readNameList sized.size fun len =>
    Program.ask (I := Devices) (.enumDev presentOnly (some len))

def deviceState (name : String) : Program Devices Empty (Except ProviderError UInt32) := do
  match cstring name "GetDevState" with
  | .error e => return .error e
  | .ok cName =>
    let (ret, state) ← Program.ask (I := Devices) (.getDevState cName)
    if ret = SAR_OK then return .ok state else return .error (.fromNative ret "GetDevState")

def waitForEvent (bufLen : Nat) : Program Devices Empty (Except ProviderError (String × UInt32)) :=
  do
  let len := if bufLen = 0 then DEV_NAME_BUF_LEN else bufLen
  let (filled, event) ← Program.ask (I := Devices) (.waitForDevEvent (.ofNat len))
  if filled.ret ≠ SAR_OK then return .error (.fromNative filled.ret "WaitForDevEvent")
  else
    let usable := Nat.min filled.size.toNat len
    let name := trimEndMatches (Char.ofNat 0) (fromUtf8Lossy ((filled.memory.take len).take usable))
    return .ok (name, event)

end NativeSkfProvider

end SkfService
