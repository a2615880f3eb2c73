import RemoteUsb.Manager.Connect
import RemoteUsb.Wire.Stream

/-!
What happens to a manager from outside: devices that come and go, failures, data, channels that are
added and removed, and the end.
-/
namespace RemoteUsb.Manager

open Act

/-! ## Devices -/

/-- Connects a device that was plugged in, if the policy wants it and nothing speaks against it. -/
def autoConnect (device : RegisteredDevice) : Act Unit := do
  let m ← manager
  if m.settings.autoConnect && m.settings.autoConnectFilter.matchesDevice device.info.descriptor &&
      (m.canRedirect device.key matches .ok ()) then
    connectByPolicy device

/-- Registers a device. Only those that are plugged in later are connected. -/
def arrive (info : DeviceInfo) (arrival : Arrival) : Act Unit := do
  let (registry, outcome) := (← manager).registry.add info arrival
  match outcome with
  | .added key =>
    change fun m => { m with registry }
    match registry.find? key with
    | some device =>
      notify (.added device)
      if arrival = .hotplug then autoConnect device
    | none => return
  | _ => return

/-- A device went away: it is disconnected, its driver is removed, and then it is taken out of the
registry. -/
def leave (w : Surroundings) (task : Nat) (key : DeviceKey) : Act Unit := do
  match (← manager).registry.find? key with
  | none => endCall task (.ok ())
  | some _ => cleanUp w task (.departure key) (← releaseDevice w key)

/-- Deals with the failure of a device. One that was taken off gives back its listener and its
driver. -/
def deviceFailed (w : Surroundings) (failure : Failure) : Act Unit := do
  if failure.released then
    change stopListening
    if let some device := failure.device then tidy w device.info
  if let some device := failure.device then notify (.deviceFailed device failure)

/-- Sends what the host of a channel has queued. A failure to send is nobody's to know. -/
def flush (id : Nat) : Act Unit := do
  match (← manager).channel? id with
  | none => return
  | some channel => change (·.setChannel channel.flush.1)

/-- Takes the device off a channel whose host reported a failure under a binding. -/
def failBinding (w : Surroundings) (id binding : Nat) (fault : DeviceFault) : Act Unit := do
  match (← manager).channel? id with
  | none => return
  | some channel =>
    let (channel, effects, failure) := channel.failBinding binding fault
    settleChannel w channel effects
    if let some failure := failure then deviceFailed w failure

def handleEvent (w : Surroundings) (task : Nat) : Event → Act Unit
  | .arrived info => do
    arrive info .hotplug
    endCall task (.ok ())
  | .left key => leave w task key
  | .dataPending id => do
    flush id
    endCall task (.ok ())
  | .deviceFailed id binding fault => do
    failBinding w id binding fault
    endCall task (.ok ())

/-- The loop takes the next event, if it waits for one. -/
def nextEvent (w : Surroundings) : Act Unit := do
  let m ← manager
  if m.loop = .waiting then
    match m.queue.take? with
    | (queue, some event) =>
      let task := m.nextTask
      change fun m => { m.takeNumber.1 with queue, loop := .handling task }
      handleEvent w task event
    | (_, none) => return

/-- The loop ends once the manager was shut down; an event that is being handled is finished first. -/
def endLoop : Act Unit :=
  change fun m => if m.stopped ∧ m.loop = .waiting then { m with loop := .ended } else m

/-! ## Beginning -/

/-- Begins to register the devices that are there. Only the first call does anything. -/
def start (call : Nat) : Act Unit := do
  if (← manager).initialized then endCall call (.ok ())
  else
    change fun m => { m.setTask call (.enumerating none) with initialized := true }
    emit (.started call .enumerate)

/-- Registers the devices that were found, and then for events of the bus. -/
def enumerated (w : Surroundings) (call : Nat) (outcome : Except JobFault (List DeviceInfo)) :
    Act Unit := do
  match outcome with
  | .error fault => endCall call (.error (fault.toError .usb))
  | .ok devices =>
    each (arrive · .coldplug) devices
    match w.subscription with
    | .error error => endCall call (.error (.usb error))
    | .ok given =>
      if given then change fun m => { m.startListening with registration := true }
      endCall call (.ok ())

/-! ## Tasks -/

def begin (w : Surroundings) (id : Nat) : Act Unit := do
  match (← manager).work? id with
  | some (.idle connect) => beginConnect w id connect
  | some (.tidying info) => uninstall w id .apart info
  | _ => return

/-- The job of a task was done in the background. Nobody waits for it if the task is gone. -/
def jobDone (id : Nat) (outcome : Except JobFault Unit) : Act Unit := do
  match (← manager).work? id with
  | some (.installing connect device none) =>
    change fun m => m.setTask id (.installing connect device (some outcome))
  | some (.uninstalling cleanup none) =>
    change fun m => m.setTask id (.uninstalling cleanup (some outcome))
  | _ => return

def enumerationDone (id : Nat) (outcome : Except JobFault (List DeviceInfo)) : Act Unit := do
  match (← manager).work? id with
  | some (.enumerating none) => change fun m => m.setTask id (.enumerating (some outcome))
  | _ => return

def resume (w : Surroundings) (id : Nat) : Act Unit := do
  match (← manager).work? id with
  | some (.installing connect device (some (.ok ()))) => bindAndConnect w id connect device
  | some (.installing connect _ (some (.error fault))) =>
    endConnect id connect (.error (fault.toError fun e => .driver e.message))
  | some (.connecting _ _ channel) => onChannel w channel fun c => c.resume id
  | some (.enumerating (some outcome)) => enumerated w id outcome
  | some (.uninstalling cleanup (some outcome)) => uninstalled id cleanup outcome
  | _ => return

/-! ## Channels -/

/-- Connects the first device that the policy for new channels wants and that is not bound yet. -/
def redirectOnConnect : Act Unit := do
  let m ← manager
  match m.settings.redirectOnConnect with
  | none => return
  | some filter =>
    match (m.devicesMatching filter).find? (fun d => !m.isConnected d.key) with
    | none => return
    | some device => if m.canRedirect device.key matches .ok () then connectByPolicy device

/-- Adds a channel. Its number is used up even if no host can be made for it. -/
def addChannel (w : Surroundings) (transport : Transport) (withHost : Bool) :
    Act (Except RedirectError Nat) := do
  let m ← manager
  let id := m.nextChannel
  let channel : Channel := { id, transport, threshold := m.settings.compressionThreshold }
  let made : Except RedirectError Channel :=
    if withHost then
      match w.newHost with
      | .error error => .error (.host error)
      | .ok host => channel.setContext host
    else .ok channel
  change fun m => { m with nextChannel := id + 1 }
  match made with
  | .error error => return .error error
  | .ok channel =>
    change fun m => { m with channels := m.channels ++ [channel] }
    redirectOnConnect
    return .ok id

def removeChannel (w : Surroundings) (id : Nat) : Act (Option RegisteredDevice) := do
  match (← manager).channel? id with
  | none => return none
  | some channel =>
    change fun m =>
      { m with channels := m.channels.filter (·.id != id), retired := m.retired ++ [channel] }
    let (channel, effects, released) := channel.disconnect
    settleChannel w channel effects
    if let some device := released then
      change stopListening
      tidy w device.info
    return released

/-- Brings a channel back to its beginning: disconnects its device and gives it a new host. -/
def resetChannel (w : Surroundings) (call id : Nat) : Act Unit := do
  match (← manager).channel? id with
  | none => endCall call (.error (.unknownChannel id))
  | some channel =>
    let (channel, effects, released) := channel.disconnect
    let (renewed, old) := channel.renew w.newHost.toOption
    settleChannel w renewed effects
    if channel.hasFactory then emit (.hostLeft id old renewed.host.isSome)
    if released.isSome then change stopListening
    cleanUp w call .call released

/-- Handles a message from the peer of a channel. A failure that it causes is reported and answered. -/
def receive (w : Surroundings) (id : Nat) (payload : Wire.Payload) :
    Act (Except RedirectError Unit) := do
  match (← manager).channel? id with
  | none => return .error (.unknownChannel id)
  | some channel =>
    let (channel, effects, failure) := channel.receive payload
    settleChannel w channel effects
    match failure with
    | none => return .ok ()
    | some failure =>
      deviceFailed w failure
      return .error failure.toError

inductive Pumped where
  /-- A message was handed over, and whatever came of it, the rest of the stream is next. -/
  | handed (payload : Wire.Payload) (rest : Wire.Stream)
  | ended (result : Except RedirectError Unit)

/-- Reads a message off the stream of a channel and handles it. -/
def pumpNext (w : Surroundings) (id : Nat) (s : Wire.Stream) : Act Pumped := do
  if (← manager).stopped then return .ended (.ok ())
  match Wire.Payload.receive s with
  | (.error error, _) => return .ended (.error (.transport (.decode error)))
  | (.ok none, _) => return .ended (.ok ())
  | (.ok (some payload), rest) =>
    match ← receive w id payload with
    | .error (.unknownChannel id) => return .ended (.error (.unknownChannel id))
    | _ => return .handed payload rest

/-- Handles messages off a stream, of which at most `fuel` are read. -/
def pumpFor (w : Surroundings) (id : Nat) : Nat → Wire.Stream → Act (Except RedirectError Unit)
  | 0, _ => return .ok ()
  | fuel + 1, s => do
    match ← pumpNext w id s with
    | .handed _ rest => pumpFor w id fuel rest
    | .ended result => return result

/-- Handles the messages of a channel until the stream ends, a message cannot be read, or the manager
is shut down. Failures of devices do not end it. Every message takes at least one byte. -/
def pump (w : Surroundings) (id : Nat) (s : Wire.Stream) : Act (Except RedirectError Unit) :=
  pumpFor w id (s.size + 1) s

/-! ## The end -/

def stopPolicy (w : Surroundings) (task : Task) : Act Unit :=
  match task.work with
  | .connecting { policy := some _, .. } _ _ => stopCall w task.id
  | _ => return

/-- Disconnects the device on a channel; its driver stays. -/
def disconnectChannel (w : Surroundings) (id : Nat) : Act Unit := do
  match (← manager).channel? id with
  | none => return
  | some channel =>
    let (channel, effects, released) := channel.disconnect
    settleChannel w channel effects
    if released.isSome then change stopListening

/-- Disconnects everything and ends the registration. The tokens of all policies are cancelled. -/
def shutdown (w : Surroundings) : Act Unit := do
  let m ← manager
  if m.stopped then return
  change fun m => { m with stopped := true }
  each (stopPolicy w) m.tasks
  each (fun channel => disconnectChannel w channel.id) m.channels
  if (← manager).registration then
    change fun m => { m.stopListening with registration := false }

def configure (f : Settings → Settings) : Act Unit :=
  change fun m => { m with settings := f m.settings }

/-- Replaces the settings, unless the new ones are an error. -/
def replaceSettings (new : Settings → Except FilterError Settings) :
    Act (Except FilterError Settings) := do
  let result := new (← manager).settings
  if let .ok settings := result then configure fun _ => settings
  return result

end RemoteUsb.Manager
