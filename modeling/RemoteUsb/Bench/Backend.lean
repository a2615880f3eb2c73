import RemoteUsb.Channel.Host
import RemoteUsb.Channel
import RemoteUsb.Event

/-!
A bus in memory: devices that can be opened, drivers that can be installed, and everything that may go
wrong with them.
-/
namespace RemoteUsb.Bench

inductive DriverCall where
  | install (key : DeviceKey)
  | uninstall (key : DeviceKey)
  deriving DecidableEq, Repr

def DriverCall.text : DriverCall → String
  | .install key => s!"install {key.text}"
  | .uninstall key => s!"uninstall {key.text}"

structure Faults where
  enumerate : Option BackendError := none
  subscribe : Option BackendError := none
  install : Option BackendError := none
  uninstall : Option BackendError := none
  /-- Whether there are no events to register for. -/
  noHotplug : Bool := false
  /-- Whether the work of opening breaks off. -/
  openDies : Bool := false
  /-- How many milliseconds an opening takes. -/
  openTime : Nat := 0

structure Backend where
  addressing : Addressing
  devices : List DeviceInfo := []
  /-- What opening fails with, by device. -/
  openFaults : List (DeviceKey × BackendError) := []
  faults : Faults := {}
  needsDriver : Bool := false
  /-- The keys of the open handles, in the order of opening. -/
  openKeys : List DeviceKey := []
  /-- How often a device was opened. -/
  opens : Nat := 0
  subscribed : Bool := false
  driverCalls : List DriverCall := []
  /-- Whether openings wait before they look at anything. -/
  holding : Bool := false

namespace Backend

def addDevice (b : Backend) (info : DeviceInfo) : Backend := { b with devices := b.devices ++ [info] }

def removeDevice (b : Backend) (key : DeviceKey) : Backend :=
  { b with devices := b.devices.filter fun d => d.key b.addressing != key }

def failOpen (b : Backend) (key : DeviceKey) (error : BackendError) : Backend :=
  { b with openFaults := (key, error) :: b.openFaults.filter (·.1 != key) }

def enumerate (b : Backend) : Except JobFault (List DeviceInfo) :=
  match b.faults.enumerate with
  | some error => .error (.failed error)
  | none => .ok b.devices

def subscription (b : Backend) : Except BackendError Bool :=
  match b.faults.subscribe with
  | some error => .error error
  | none => .ok (!b.faults.noHotplug)

/-- How many milliseconds an opening takes that begins now. One that breaks off does so at once. -/
def openTime (b : Backend) : Nat := if b.faults.openDies then 0 else b.faults.openTime

def openDevice (b : Backend) (key : DeviceKey) : Backend × Except JobFault Handle :=
  if b.faults.openDies then (b, .error .died)
  else match b.openFaults.lookup key with
    | some error => (b, .error (.failed error))
    | none =>
      if b.devices.any (·.key b.addressing == key) then
        ({ b with opens := b.opens + 1, openKeys := b.openKeys ++ [key] },
          .ok { key, ticket := b.opens })
      else (b, .error (.failed .notFound))

def close (b : Backend) (handle : Handle) : Backend :=
  { b with openKeys := b.openKeys.erase handle.key }

/-- Makes a driver call; one that fails leaves no trace. -/
def driver (b : Backend) (fault : Option BackendError) (call : DriverCall) :
    Backend × Except JobFault Unit :=
  match fault with
  | some error => (b, .error (.failed error))
  | none => ({ b with driverCalls := b.driverCalls ++ [call] }, .ok ())

def install (b : Backend) (info : DeviceInfo) : Backend × Except JobFault Unit :=
  b.driver b.faults.install (.install (info.key b.addressing))

def uninstall (b : Backend) (info : DeviceInfo) : Backend × Except JobFault Unit :=
  b.driver b.faults.uninstall (.uninstall (info.key b.addressing))

end Backend

structure Factory where
  /-- The filter that the peers of its hosts publish. -/
  guestFilter : Option Filter := none
  /-- What making a host fails with. -/
  fault : Option HostError := none
  made : Nat := 0

def Factory.newHost (f : Factory) : Except HostError Host :=
  match f.fault with
  | some error => .error error
  | none => .ok { guestFilter := f.guestFilter }

end RemoteUsb.Bench
