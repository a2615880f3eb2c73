import RemoteUsb.Bench.Call

/-!
What is done to the hosts, the bus and the channels of a stand.
-/
namespace RemoteUsb.Bench

/-! ## Hosts -/

/-- Does something with the last host made for a channel; answers whether there is one. -/
def withHost (channel : Nat) (act : Trial Unit) : Trial Bool := do
  if ((← get).latestHost? channel).isSome then
    act
    return true
  else return false

def changeHost (channel : Nat) (f : Host → Host) : Trial Bool :=
  withHost channel (modify fun s => s.changeHost channel f)

/-- Queues an event. A sender on a thread of its own waits until there is room; others do not. -/
def post (event : Event) (waits : Bool) : Trial Unit := do
  if waits && EventQueue.capacity ≤ (← get).manager.queue.waiting.length then settle
  modify fun s => Stand.lineUp { s with manager := s.manager.post event }

def queueData (channel : Nat) (bytes : Bytes) (times : Nat) (waits : Bool) : Trial Bool :=
  withHost channel do
    for _ in [0:times] do
      modify fun s => s.changeHost channel (·.queue bytes)
      post (.dataPending channel) waits

def reportFault (channel : Nat) (fault : DeviceFault) : Trial Bool :=
  withHost channel do
    let binding := (((← get).manager.anyChannel? channel).map (·.binding)).getD 0
    post (.deviceFailed channel binding fault) false

def failFactory (fault : Option HostError) : Trial Unit :=
  modify fun s => { s with factory := { s.factory with fault } }

/-! ## The bus -/

def changeBackend (f : Backend → Backend) : Trial Unit :=
  modify fun s => { s with backend := f s.backend }

def waitForOpening : Trial Unit := waitUntil fun s => s.errands.any (·.held)

/-- Plugs a device in; answers whether somebody is told. -/
def plug (info : DeviceInfo) : Trial Bool := do
  changeBackend (·.addDevice info)
  let told := (← get).backend.subscribed
  if told then post (.arrived info) false
  return told

/-- Unplugs a device; answers whether somebody is told. -/
def unplug (key : DeviceKey) : Trial Bool := do
  changeBackend (·.removeDevice key)
  let told := (← get).backend.subscribed
  if told then post (.left key) false
  return told

/-! ## Channels -/

def addChannel (transport : Transport) (hasContext : Bool) : Trial (Except RedirectError Nat) := do
  let made ← step fun w => Manager.addChannel w transport hasContext
  if hasContext && (made matches .ok _) then modify Stand.countHost
  return made

def setContext (channel : Nat) : Trial (Except RedirectError Unit) := do
  let s ← get
  match s.factory.newHost, s.manager.anyChannel? channel with
  | .error error, _ => return .error (.host error)
  | .ok _, none => return .error (.unknownChannel channel)
  | .ok host, some c =>
    let s := (s.forgetStray channel).countHost
    match c.setContext host with
    | .ok c =>
      set { s with manager := s.manager.setChannel c }
      return .ok ()
    | .error error =>
      set { s with strays := (channel, host) :: s.strays }
      return .error error

def channelStep {α : Type} (channel : Nat) (f : Channel → Channel × List Effect × α) :
    Trial (Option α) := do
  match (← get).manager.anyChannel? channel with
  | none => return none
  | some c =>
    let (c, effects, answer) := f c
    step fun w => Manager.settleChannel w c effects
    return some answer

def resetChannel (channel : Nat) : Trial (Option RegisteredDevice) := do
  let released ← channelStep channel Channel.disconnect
  step fun w => do
    match (← Act.manager).anyChannel? channel with
    | none => return
    | some c =>
      let (renewed, old) := c.renew w.newHost.toOption
      Act.change (·.setChannel renewed)
      if c.hasFactory then Act.emit (.hostLeft channel old renewed.host.isSome)
  return released.join

/-- Announces to the peer of a channel what can be read here; nothing unless frames are sent. -/
def announce (channel : Nat) : Trial (Option (Except TransportError Unit)) := do
  match ((← get).manager.anyChannel? channel).map (·.transport.isFramed) with
  | some true =>
    channelStep channel fun c =>
      let (transport, answer) := c.transport.announce
      ({ c with transport }, [], answer)
  | _ => return none

def closeTransport (channel : Nat) : Trial Unit := do
  let _ ← channelStep channel fun c => ({ c with transport := c.transport.close }, [], ())

def takeEvent : Trial (Option Event) := do
  let s ← get
  let (queue, event) := s.manager.queue.take?
  set { s with manager := { s.manager with queue } }
  return event

def Stand.withChannel (s : Stand) (channel : Channel) : Stand :=
  { s with manager := { s.manager with channels := [channel], loop := .ended } }

def Stand.sentCount (s : Stand) (channel : Nat) : Nat :=
  ((s.manager.anyChannel? channel).map (·.transport.count)).getD 0

end RemoteUsb.Bench
