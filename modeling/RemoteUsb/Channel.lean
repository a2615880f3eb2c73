import RemoteUsb.Access.Exchange
import RemoteUsb.Channel.Host
import RemoteUsb.Channel.Transport
import RemoteUsb.Registry

/-!
A redirection channel: a place for one device, in which at most one is bound at a time.

A device is bound before it is connected. Connecting it is an attempt that goes on while other things
happen to the channel: access is asked for, the device is opened in the background, and then the
opened device goes to the host. Each period in which a device is bound, and each in which none is, has
a number of its own, the binding; it tells what belongs to an earlier period.
-/
namespace RemoteUsb

inductive ChannelState where
  | disconnected
  /-- A helper was asked for access. -/
  | waitingForAccess
  | connected
  /-- The attempt was called off and has not ended yet. -/
  | disconnecting
  deriving DecidableEq, Repr

def ChannelState.text : ChannelState → String
  | .disconnected => "disconnected"
  | .waitingForAccess => "waiting-for-access"
  | .connected => "connected"
  | .disconnecting => "disconnecting"

/-- Why work in the background did not succeed. -/
inductive JobFault where
  | failed (error : BackendError)
  /-- The work broke off. -/
  | died
  deriving DecidableEq, Repr

/-- The failure as it is reported, given how failures of the bus are. -/
def JobFault.toError (report : BackendError → RedirectError) : JobFault → RedirectError
  | .failed error => report error
  | .died => .task

/-- What an attempt to connect waits for. -/
inductive Phase where
  | asking (exchange : Access.Exchange)
  /-- The device is being opened, under a grant or without one; `outcome` is there once that has been
  done in the background. -/
  | opening (granted : Bool) (outcome : Option (Except JobFault Handle))

/-- A call that connects the bound device and has not ended. -/
structure Attempt where
  call : Nat
  device : RegisteredDevice
  /-- The binding under which the call began. -/
  binding : Nat
  /-- Whether the call's token was cancelled. -/
  stopped : Bool
  phase : Phase

structure Channel where
  id : Nat
  transport : Transport
  /-- Only longer data is compressed. -/
  threshold : Nat
  state : ChannelState := .disconnected
  device : Option RegisteredDevice := none
  host : Option Host := none
  /-- Whether hosts can be made for the channel. -/
  hasFactory : Bool := false
  /-- The call whose helper keeps its grant as long as its input stays open. -/
  grant : Option Nat := none
  /-- The call whose request for access can be cancelled. -/
  request : Option Nat := none
  binding : Nat := 0
  attempts : List Attempt := []
  /-- Abandoned calls whose devices are still being opened. -/
  strays : List Nat := []

/-- What a step of a channel does to the world. -/
inductive Effect where
  /-- A helper was started and is asked for the device at a place. -/
  | asked (call : Nat) (bus address : UInt8)
  /-- The input of a call's helper was closed. -/
  | inputClosed (call : Nat)
  /-- The opening of a device was begun in the background. -/
  | opening (call : Nat) (key : DeviceKey)
  | closed (handle : Handle)
  | ended (call : Nat) (result : Except RedirectError Unit)

structure Failure where
  /-- The device that was bound. -/
  device : Option RegisteredDevice
  /-- Whether it was connected, and now is closed and unbound. -/
  released : Bool
  fault : DeviceFault
  deriving DecidableEq, Repr

def Failure.toError (f : Failure) : RedirectError :=
  .device f.fault ((f.device.map (·.info.description)).getD "USB device")

namespace Channel

/-- Disconnected, and no device is bound. -/
def isFree (c : Channel) : Bool := c.state == .disconnected && c.device.isNone

def key? (c : Channel) : Option DeviceKey := c.device.map (·.key)

def handle? (c : Channel) : Option Handle := c.host.bind (·.handle)

def guestFilter (c : Channel) : Option Filter := c.host.bind (·.guestFilter)

/-- Closes the device, drops its grant and unbinds it. -/
def release (c : Channel) : Channel × List Effect :=
  ({ c with
      state := .disconnected
      device := none
      host := c.host.map Host.detach
      grant := none
      request := none
      binding := c.binding + 1 },
    (c.handle?.map Effect.closed).toList ++ (c.grant.map Effect.inputClosed).toList)

def stop (c : Channel) (call : Nat) : Channel :=
  { c with attempts := c.attempts.map fun a => if a.call = call then { a with stopped := true } else a }

/-- Cancels the request for access, if there is one. -/
def stopRequest (c : Channel) : Channel :=
  match c.request with
  | some call => c.stop call
  | none => c

/-- Turns a pending request for access into a cancellation. -/
def cancelRequest (c : Channel) : Channel := { c.stopRequest with state := .disconnecting }

/-- Gives the channel a new host, which was made for it; refused unless the channel is free. -/
def setContext (c : Channel) (host : Host) : Except RedirectError Channel :=
  if c.isFree then .ok { c with host := some host, hasFactory := true } else .error .channelBusy

def bind (c : Channel) (device : RegisteredDevice) : Except RedirectError Channel :=
  if c.host.isNone then .error .contextNotSet
  else if c.isFree then .ok { c with device := some device, binding := c.binding + 1 }
  else .error .channelBusy

/-- Disconnects the bound device. A connected device is closed and unbound at once and answered; a
pending request for access is cancelled, and the attempt unbinds the device when it ends. -/
def disconnect (c : Channel) : Channel × List Effect × Option RegisteredDevice :=
  match c.state with
  | .disconnected | .disconnecting => (c, [], none)
  | .waitingForAccess => (c.cancelRequest, [], none)
  | .connected =>
    let (c', effects) := c.release
    (c', effects, c.device)

/-- Replaces the host after a reset, if hosts can be made for the channel at all; also answers the
host that goes away. Where none could be made the channel is left without one. -/
def renew (c : Channel) (made : Option Host) : Channel × Option Host :=
  if c.hasFactory then ({ c with host := made }, c.host) else (c, none)

/-- Takes the bound device off after a failure. A pending request for access is cancelled. -/
def failDevice (c : Channel) (fault : DeviceFault) : Channel × List Effect × Failure :=
  match c.state with
  | .connected =>
    let (c', effects) := c.release
    (c', effects, { device := c.device, released := true, fault })
  | .waitingForAccess => (c.cancelRequest, [], { device := c.device, released := false, fault })
  | .disconnected | .disconnecting => (c, [], { device := c.device, released := false, fault })

/-- Takes the bound device off after a failure that was reported under a binding. It counts only while
that binding is the current one and the device is connected. -/
def failBinding (c : Channel) (binding : Nat) (fault : DeviceFault) :
    Channel × List Effect × Option Failure :=
  if c.binding = binding ∧ c.state = .connected then
    let (c', effects) := c.release
    (c', effects, some { device := c.device, released := true, fault })
  else (c, [], none)

end Channel
end RemoteUsb
