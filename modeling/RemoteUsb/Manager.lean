import RemoteUsb.Channel.Connect
import RemoteUsb.Channel.Traffic
import RemoteUsb.Event
import RemoteUsb.Listening
import RemoteUsb.Manager.Settings

/-!
The manager of a session: its devices, its channels, and the calls and policies that connect them.

Calls that wait for something are tasks. A task goes from one wait to the next in a single step, and
between its steps anything else may happen: other tasks go on, events are handled, calls are dropped.
Every step answers what it did to the world outside.
-/
namespace RemoteUsb

/-- What observers of a manager are told. -/
inductive Notification where
  | added (device : RegisteredDevice)
  | removed (device : RegisteredDevice)
  /-- A policy could not connect a device. -/
  | autoConnectFailed (device : RegisteredDevice) (error : RedirectError)
  /-- A connected device failed and was taken off. -/
  | deviceFailed (device : RegisteredDevice) (failure : Failure)

inductive Job where
  | enumerate
  | install (info : DeviceInfo)
  | uninstall (info : DeviceInfo)

structure Connect where
  key : DeviceKey
  /-- The device that a policy wants connected; missing if a caller does. -/
  policy : Option RegisteredDevice := none
  /-- Whether the caller's token was cancelled. -/
  stopped : Bool := false

/-- What a removal of a driver belongs to. -/
inductive Cleanup where
  /-- A task of its own that nobody waits for. -/
  | apart
  /-- The device under the key is leaving and is taken out of the registry afterwards. -/
  | departure (key : DeviceKey)
  /-- A call that answers whether the removal succeeded. -/
  | call

/-- What a task is doing. An outcome is there once the job was done in the background. -/
inductive Work where
  /-- A connect that has not begun. -/
  | idle (connect : Connect)
  | installing (connect : Connect) (device : RegisteredDevice)
      (outcome : Option (Except JobFault Unit))
  /-- The device is bound to a channel, where an attempt to connect it goes on. -/
  | connecting (connect : Connect) (device : RegisteredDevice) (channel : Nat)
  | enumerating (outcome : Option (Except JobFault (List DeviceInfo)))
  /-- A removal of a driver that has not begun. -/
  | tidying (info : DeviceInfo)
  | uninstalling (cleanup : Cleanup) (outcome : Option (Except JobFault Unit))

structure Task where
  id : Nat
  work : Work

def Task.connects (t : Task) : Bool :=
  match t.work with
  | .installing .. | .connecting .. => true
  | _ => false

/-- The loop that takes events, one after another. -/
inductive EventLoop where
  | waiting
  /-- An event is being handled by the task. -/
  | handling (task : Nat)
  | ended
  deriving DecidableEq, Repr

structure Manager where
  registry : Registry
  settings : Settings := {}
  channels : List Channel := []
  /-- Channels that were removed. Attempts on them may still go on. -/
  retired : List Channel := []
  listening : Listening := {}
  queue : EventQueue := {}
  /-- Whether a registration for events of the bus is held. -/
  registration : Bool := false
  /-- The number of the next channel. -/
  nextChannel : Nat := 1
  initialized : Bool := false
  stopped : Bool := false
  loop : EventLoop := .waiting
  tasks : List Task := []
  /-- The number of the next task. -/
  nextTask : Nat := 0

/-- What a step of the manager did to the world outside. -/
inductive Output where
  | notified (notification : Notification)
  /-- A call came to its end. -/
  | ended (call : Nat) (result : Except RedirectError Unit)
  /-- A job was given to the background for a task. -/
  | started (task : Nat) (job : Job)
  | effect (channel : Nat) (effect : Effect)
  /-- The host of a channel was to be replaced; `renewed` says whether there is a new one. -/
  | hostLeft (channel : Nat) (host : Option Host) (renewed : Bool)

/-- What a step finds in the world outside. -/
structure Surroundings where
  /-- Whether the bus wants a driver to be installed for a device. -/
  needsDriver : Bool := false
  /-- Whether the caller is inside the runtime, where tasks can be started. -/
  inRuntime : Bool := true
  /-- What comes of starting the helper. -/
  launch : Except String Unit := .ok ()
  /-- What comes of making a host. -/
  newHost : Except HostError Host := .ok {}
  /-- What comes of registering for events of the bus; it may be that there are none. -/
  subscription : Except BackendError Bool := .ok true

/-- Whether a task can be started that removes a driver, and the bus wants that. -/
def Surroundings.tidies (w : Surroundings) : Bool := w.needsDriver && w.inRuntime

/-- A step of a manager, or a part of one: the answer, the manager afterwards, and what happened
outside. -/
def Act (α : Type) : Type := Manager → α × Manager × List Output

namespace Manager

def new (addressing : Addressing) (settings : Settings) : Manager :=
  { registry := { addressing }, settings }

/-! ## Looking -/

/-- The channel with a number, if it was not removed. -/
def channel? (m : Manager) (id : Nat) : Option Channel := m.channels.find? (·.id == id)

/-- The channel with a number, even if it was removed. -/
def anyChannel? (m : Manager) (id : Nat) : Option Channel :=
  (m.channels ++ m.retired).find? (·.id == id)

/-- The first channel to which the device under a key is bound. -/
def channelFor? (m : Manager) (key : DeviceKey) : Option Channel :=
  m.channels.find? (·.key? == some key)

/-- Whether the device under a key is bound to a channel. -/
def isConnected (m : Manager) (key : DeviceKey) : Bool := (m.channelFor? key).isSome

def task? (m : Manager) (id : Nat) : Option Task := m.tasks.find? (·.id == id)

def work? (m : Manager) (id : Nat) : Option Work := (m.task? id).map (·.work)

def isRedirecting (m : Manager) : Bool := m.tasks.any Task.connects

/-- The devices that a filter matches, in the order of the registry. -/
def devicesMatching (m : Manager) (filter : Filter) : List RegisteredDevice :=
  m.registry.devices.filter fun d => filter.matchesDevice d.info.descriptor

/-- Whether the device under a key could be connected now. The filter of the first channel whose peer
publishes one counts for all of them. -/
def canRedirect (m : Manager) (key : DeviceKey) : Except Denial Unit :=
  if !m.settings.redirectionEnabled then .error .disabled
  else if m.channels.isEmpty then .error .noChannels
  else if m.isConnected key then .ok ()
  else match m.registry.find? key with
    | none => .error .unknownDevice
    | some device =>
      if (m.channels.findSome? Channel.guestFilter).any fun f => !f.permits device.info.descriptor then
        .error .blockedByGuestFilter
      else if m.channels.any Channel.isFree then .ok ()
      else .error .noFreeChannel

def bindFree (m : Manager) (device : RegisteredDevice) : Except RedirectError Channel :=
  if m.isConnected device.key then .error (.alreadyConnected device.key)
  else match m.channels.find? Channel.isFree with
    | none => .error .noFreeChannel
    | some channel => channel.bind device

/-! ## Changing -/

/-- Puts a channel in the place of the one with its number. -/
def setChannel (m : Manager) (channel : Channel) : Manager :=
  let put (c : Channel) : Channel := if c.id = channel.id then channel else c
  { m with channels := m.channels.map put, retired := m.retired.map put }

def dropTask (m : Manager) (id : Nat) : Manager :=
  { m with tasks := m.tasks.filter (·.id != id) }

/-- Gives a task something else to do; a new task comes behind the others. -/
def setTask (m : Manager) (id : Nat) (work : Work) : Manager :=
  if (m.task? id).isSome then
    { m with tasks := m.tasks.map fun t => if t.id = id then { t with work } else t }
  else { m with tasks := m.tasks ++ [{ id, work }] }

def takeNumber (m : Manager) : Manager × Nat := ({ m with nextTask := m.nextTask + 1 }, m.nextTask)

def spawn (m : Manager) (work : Work) : Manager := m.takeNumber.1.setTask m.nextTask work

def startListening (m : Manager) : Manager := { m with listening := m.listening.start }

def stopListening (m : Manager) : Manager := { m with listening := m.listening.stop }

/-- Queues an event for the loop, unless there is no room for it. -/
def post (m : Manager) (event : Event) : Manager := { m with queue := (m.queue.post event).1 }

end Manager

namespace Act

instance : Monad Act where
  pure a := fun m => (a, m, [])
  bind act next := fun m =>
    let (a, m, outputs) := act m
    let (b, m, more) := next a m
    (b, m, outputs ++ more)

def manager : Act Manager := fun m => (m, m, [])

def change (f : Manager → Manager) : Act Unit := fun m => ((), f m, [])

def emit (output : Output) : Act Unit := fun m => ((), m, [output])

def notify (notification : Notification) : Act Unit := emit (.notified notification)

/-- Does something for each of the items, the first one first. -/
def each {α : Type} (act : α → Act Unit) : List α → Act Unit
  | [] => return
  | a :: rest => do
    act a
    each act rest

/-- The step as a function: the answer, the manager afterwards, and what happened outside. -/
def perform {α : Type} (act : Act α) (m : Manager) : α × Manager × List Output := act m

end Act
end RemoteUsb
