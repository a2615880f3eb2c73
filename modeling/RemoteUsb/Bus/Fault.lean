import RemoteUsb.Error

/-!
Failures of the native bus: its result codes, their names, and what they mean to the rest of the
library.
-/
namespace RemoteUsb.Bus

/-- The ways in which a call to the native bus fails. -/
inductive Fault where
  | io
  | invalidParameter
  | access
  | noDevice
  | notFound
  | busy
  | timeout
  | overflow
  | pipe
  | interrupted
  | outOfMemory
  | notSupported
  | badDescriptor
  | other
  deriving DecidableEq, Repr

namespace Fault

def message : Fault → String
  | .io => "Input/Output Error"
  | .invalidParameter => "Invalid parameter"
  | .access => "Access denied (insufficient permissions)"
  | .noDevice => "No such device (it may have been disconnected)"
  | .notFound => "Entity not found"
  | .busy => "Resource busy"
  | .timeout => "Operation timed out"
  | .overflow => "Overflow"
  | .pipe => "Pipe error"
  | .interrupted => "System call interrupted (perhaps due to signal)"
  | .outOfMemory => "Insufficient memory"
  | .notSupported => "Operation not supported or unimplemented on this platform"
  | .badDescriptor => "Malformed descriptor"
  | .other => "Other error"

def ofCode : Int → Fault
  | -1 => .io
  | -2 => .invalidParameter
  | -3 => .access
  | -4 => .noDevice
  | -5 => .notFound
  | -6 => .busy
  | -7 => .timeout
  | -8 => .overflow
  | -9 => .pipe
  | -10 => .interrupted
  | -11 => .outOfMemory
  | -12 => .notSupported
  | _ => .other

/-- The failure as callers of the library see it. A device that went away counts as not found, and
failures without a meaning of their own keep their text. -/
def toBackend : Fault → BackendError
  | .notFound => .notFound
  | .noDevice => .notFound
  | .access => .access
  | .busy => .busy
  | .notSupported => .notSupported
  | fault => .other fault.message

end Fault

/-- A result code of a call to the native bus: negative ones are failures. -/
abbrev Code := Int

def Code.check (code : Code) : Except Fault Unit :=
  if code < 0 then .error (.ofCode code) else .ok ()

end RemoteUsb.Bus
