import RemoteUsb.Filter.Text
import RemoteUsb.Wire.Error

/-!
What goes wrong in redirection: the failures of each part, and the one type into which they are
folded for callers.
-/
namespace RemoteUsb

inductive BackendError where
  | notFound
  | access
  | busy
  | notSupported
  /-- The stack cannot be used at all. -/
  | context (text : String)
  | driver (text : String)
  | other (text : String)
  deriving DecidableEq, Repr, Inhabited

def BackendError.message : BackendError → String
  | .notFound => "device not found"
  | .access => "access denied"
  | .busy => "device is busy"
  | .notSupported => "operation not supported"
  | .context text => s!"USB context unavailable: {text}"
  | .driver text => s!"driver installation failed: {text}"
  | .other text => text

inductive HostError where
  /-- The host does not take the device. -/
  | rejected (text : String)
  | failed (text : String)
  deriving DecidableEq, Repr, Inhabited

def HostError.message : HostError → String
  | .rejected text => s!"device rejected by redirection host: {text}"
  | .failed text => s!"redirection host failure: {text}"

def DeviceFault.readMessage (fault : DeviceFault) : String :=
  s!"redirection host read failed: {fault.message}"

inductive Denial where
  | disabled
  | noChannels
  | blockedByGuestFilter
  | noFreeChannel
  | unknownDevice
  deriving DecidableEq, Repr

def Denial.message : Denial → String
  | .disabled => "USB redirection is disabled"
  | .noChannels => "The connected VM is not configured for USB redirection"
  | .blockedByGuestFilter => "Some USB devices are blocked by host policy"
  | .noFreeChannel => "There are not enough free USB channels"
  | .unknownDevice => "Unknown USB device"

/-- Why the access helper did not grant access. -/
inductive AccessError where
  /-- The helper could not be started. -/
  | spawn (text : String)
  | io (text : String)
  /-- The helper ended without an answer. -/
  | unexpectedEnd
  | denied (reason : String)
  | cancelled
  deriving DecidableEq, Repr

def AccessError.message : AccessError → String
  | .spawn text => s!"Error spawning ACL helper: {text}"
  | .io text => s!"Error talking to ACL helper: {text}"
  | .unexpectedEnd => "Unexpected EOF reading from ACL helper"
  | .denied reason => s!"Access denied: {reason}"
  | .cancelled => "ACL request cancelled"

/-- Failures of the wire between a channel and its peer. -/
inductive TransportError where
  | closed
  /-- The message cannot be sent. -/
  | encode (error : Wire.WireError)
  /-- The peer sent something that cannot be read. -/
  | decode (error : Wire.WireError)
  deriving DecidableEq, Repr

def TransportError.message : TransportError → String
  | .closed => "transport closed"
  | .encode error => s!"failed to encode message: {error.message}"
  | .decode error => s!"bad frame from peer: {error.message}"

/-- Everything that redirection reports to its callers. -/
inductive RedirectError where
  | channelBusy
  /-- The channel has no redirection host. -/
  | contextNotSet
  | alreadyConnected (key : DeviceKey)
  | noFreeChannel
  | deviceNotFound (key : DeviceKey)
  | denied (denial : Denial)
  | accessControl (error : AccessError)
  | cancelled
  /-- The device could not be opened. -/
  | openFailed (error : BackendError)
  | usb (error : BackendError)
  | unknownChannel (id : Nat)
  | driver (text : String)
  | host (error : HostError)
  /-- A device stopped working; the text describes the device. -/
  | device (fault : DeviceFault) (description : String)
  | filter (error : FilterError)
  | transport (error : TransportError)
  /-- The thread that pumps native events could not be started. -/
  | eventThread (text : String)
  /-- Work in the background broke off. -/
  | task
  deriving DecidableEq, Repr

namespace RedirectError

def message : RedirectError → String
  | .channelBusy => "USB redirection channel busy"
  | .contextNotSet => "USB redirection context not set"
  | .alreadyConnected key => s!"Device {key.text} is already connected"
  | .noFreeChannel => "No free USB channel"
  | .deviceNotFound key => s!"Device {key.text} not found"
  | .denied denial => denial.message
  | .accessControl error => error.message
  | .cancelled => "Operation was cancelled"
  | .openFailed error => s!"Could not open device: {error.message}"
  | .usb error => s!"USB error: {error.message}"
  | .unknownChannel id => s!"Unknown USB channel {id}"
  | .driver text => s!"Driver installation failed: {text}"
  | .host error => error.message
  | .device fault description => s!"{description} {fault.message}"
  | .filter error => s!"Invalid filter: {error.message}"
  | .transport error => error.message
  | .eventThread text => s!"Failed to start USB event thread: {text}"
  | .task => "Background task failed"

/-- Whether the caller, or the user through the access helper, called the operation off. -/
def isCancelled : RedirectError → Bool
  | .cancelled => true
  | .accessControl .cancelled => true
  | _ => false

end RedirectError

inductive ServiceError where
  | usb (text : String)
  | queue (text : String)
  | configuration (text : String)
  | io (text : String)
  deriving DecidableEq, Repr

def ServiceError.message : ServiceError → String
  | .usb text => s!"USB error: {text}"
  | .queue text => s!"Channel error: {text}"
  | .configuration text => s!"Configuration error: {text}"
  | .io text => s!"IO error: {text}"

end RemoteUsb
