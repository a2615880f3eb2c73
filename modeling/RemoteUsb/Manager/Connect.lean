import RemoteUsb.Manager

/-!
Connecting and disconnecting through the manager.

A connect takes the device from the registry, has its driver installed if the bus wants that, counts a
listener, binds the device to the first free channel and lets the channel connect it. If it fails, or
is dropped, what it took is given back: the listener, and the driver in a task of its own. The driver
stays if the device turns out to be connected already, since it belongs to that connection. It also
stays if the step is taken on a thread outside the runtime, where no task can be started.
-/
namespace RemoteUsb.Manager

open Act

/-- Ends a call. The loop that waited for it is free again. -/
def endCall (call : Nat) (result : Except RedirectError Unit) : Act Unit := do
  change fun m =>
    { m.dropTask call with loop := if m.loop = .handling call then .waiting else m.loop }
  emit (.ended call result)

/-- Ends a connect, and reports a failure if a policy wanted it. -/
def endConnect (call : Nat) (connect : Connect) (result : Except RedirectError Unit) :
    Act Unit := do
  endCall call result
  match connect.policy, result with
  | some device, .error error => notify (.autoConnectFailed device error)
  | _, _ => return

/-- Starts a task that removes the driver of a device, if the bus wants drivers and tasks can be
started. -/
def tidy (w : Surroundings) (info : DeviceInfo) : Act Unit :=
  if w.tidies then change fun m => m.spawn (.tidying info) else return

/-- Begins to remove the driver of a device; without drivers there is nothing to wait for. -/
def uninstall (w : Surroundings) (task : Nat) (cleanup : Cleanup) (info : DeviceInfo) :
    Act Unit := do
  if w.needsDriver then
    change fun m => m.setTask task (.uninstalling cleanup none)
    emit (.started task (.uninstall info))
  else
    change fun m => m.setTask task (.uninstalling cleanup (some (.ok ())))

/-- Gives back what a connect took that did not succeed on its channel. -/
def undoConnect (w : Surroundings) (info : DeviceInfo) : Act Unit := do
  change stopListening
  tidy w info

def attemptEnded (w : Surroundings) (call : Nat) (result : Except RedirectError Unit) :
    Act Unit := do
  match (← manager).work? call with
  | some (.connecting connect device _) =>
    if result matches .error _ then undoConnect w device.info
    endConnect call connect result
  | _ => endCall call result

def settleEffect (w : Surroundings) (channel : Nat) : Effect → Act Unit
  | .ended call result => attemptEnded w call result
  | effect => emit (.effect channel effect)

/-- Puts a channel back after a step, with what the step did. -/
def settleChannel (w : Surroundings) (channel : Channel) (effects : List Effect) : Act Unit := do
  change (·.setChannel channel)
  each (settleEffect w channel.id) effects

def onChannel (w : Surroundings) (id : Nat) (step : Channel → Channel × List Effect) : Act Unit := do
  match (← manager).anyChannel? id with
  | none => return
  | some channel =>
    let (channel, effects) := step channel
    settleChannel w channel effects

/-- How a new attempt gets access. -/
def entry (w : Surroundings) (settings : Settings) : Entry :=
  match settings.accessHelper, w.launch with
  | none, _ => .unguarded
  | some _, .error text => .barred text
  | some _, .ok () => .guarded

/-- Goes on with a connect for which the driver is there: counts a listener, binds the device and
begins the attempt. The token of a policy is cancelled by a shutdown. -/
def bindAndConnect (w : Surroundings) (call : Nat) (connect : Connect) (device : RegisteredDevice) :
    Act Unit := do
  change startListening
  let m ← manager
  match m.bindFree device with
  | .error error =>
    change stopListening
    unless error matches .alreadyConnected _ do tidy w device.info
    endConnect call connect (.error error)
  | .ok channel =>
    change fun m => m.setTask call (.connecting connect device channel.id)
    let stopped := connect.stopped || (connect.policy.isSome && m.stopped)
    let (channel, effects) := channel.beginConnect call (entry w m.settings) stopped
    settleChannel w channel effects

def beginConnect (w : Surroundings) (call : Nat) (connect : Connect) : Act Unit := do
  match (← manager).registry.find? connect.key with
  | none => endConnect call connect (.error (.deviceNotFound connect.key))
  | some device =>
    if w.needsDriver then
      change fun m => m.setTask call (.installing connect device none)
      emit (.started call (.install device.info))
    else
      change fun m => m.setTask call (.installing connect device (some (.ok ())))
      bindAndConnect w call connect device

def callConnect (call : Nat) (key : DeviceKey) (stopped : Bool) : Act Unit :=
  change fun m => m.setTask call (.idle { key, stopped })

def connectByPolicy (device : RegisteredDevice) : Act Unit :=
  change fun m => m.spawn (.idle { key := device.key, policy := some device })

/-- Cancels the token of a call. -/
def stopCall (w : Surroundings) (call : Nat) : Act Unit := do
  match (← manager).work? call with
  | some (.idle connect) => change fun m => m.setTask call (.idle { connect with stopped := true })
  | some (.installing connect device outcome) =>
    change fun m => m.setTask call (.installing { connect with stopped := true } device outcome)
  | some (.connecting _ _ channel) => onChannel w channel fun c => (c.stop call, [])
  | _ => return

/-- Drops a call. One that waits for its driver leaves the installation to the background; one that
goes on at a channel gives back what it took. -/
def abandon (w : Surroundings) (call : Nat) : Act Unit := do
  match (← manager).work? call with
  | some (.connecting _ device channel) =>
    change (·.dropTask call)
    onChannel w channel fun c => c.abandon call
    undoConnect w device.info
  | some _ => change (·.dropTask call)
  | none => return

/-! ## Disconnecting -/

/-- Takes a device off the channel to which it is bound; answers the device if it was connected. -/
def releaseDevice (w : Surroundings) (key : DeviceKey) : Act (Option RegisteredDevice) := do
  match (← manager).channelFor? key with
  | none => return none
  | some channel =>
    let (channel, effects, released) := channel.disconnect
    settleChannel w channel effects
    if released.isSome then change stopListening
    return released

/-- Disconnects a device. The driver is removed in a task of its own. -/
def disconnect (w : Surroundings) (key : DeviceKey) : Act (Option RegisteredDevice) := do
  let released ← releaseDevice w key
  if let some device := released then tidy w device.info
  return released

/-- Goes on after the driver of a device was removed, or was not to be removed. -/
def uninstalled (task : Nat) (cleanup : Cleanup) (outcome : Except JobFault Unit) : Act Unit := do
  match cleanup with
  | .apart => change (·.dropTask task)
  | .call => endCall task (outcome.mapError (·.toError fun e => .driver e.message))
  | .departure key =>
    let (registry, removed) := (← manager).registry.remove key
    change fun m => { m with registry }
    if let some device := removed then notify (.removed device)
    endCall task (.ok ())

/-- Removes the driver of a released device as a part of the task, and goes on at once if there is
nothing to wait for. -/
def cleanUp (w : Surroundings) (task : Nat) (cleanup : Cleanup) (released : Option RegisteredDevice) :
    Act Unit := do
  match released with
  | some device =>
    if w.needsDriver then uninstall w task cleanup device.info
    else uninstalled task cleanup (.ok ())
  | none => uninstalled task cleanup (.ok ())

/-- Disconnects a device and waits until its driver is removed. -/
def disconnectAndWait (w : Surroundings) (call : Nat) (key : DeviceKey) : Act Unit := do
  cleanUp w call .call (← releaseDevice w key)

end RemoteUsb.Manager
