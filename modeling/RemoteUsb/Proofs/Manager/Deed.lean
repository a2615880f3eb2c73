import RemoteUsb.Proofs.Channel.Outcome
import RemoteUsb.Proofs.Manager.Bindings

/-! What a manager does, told in deeds. A deed keeps everything together that belongs together: a call
that comes to its end on a channel takes its task, its listener and its binding along, and a device that
is taken off takes its listener along. So what is true of managers between their turns is true between
deeds, and is shown for one deed at a time.

The first such truth is `Matched`: a task connects a device on a channel exactly if the channel has an
attempt of it. -/

namespace RemoteUsb

/-- Whether a job for a driver was given to the background. -/
def Output.isDriving : Output → Bool
  | .started _ (.install _) | .started _ (.uninstall _) => true
  | _ => false

/-- Whether a task can be let go at any time: it has no driver, and no device. -/
def Work.isLoose : Work → Bool
  | .idle _ | .enumerating _ | .uninstalling .. => true
  | _ => false

namespace Manager

/-- What is special about a deed. -/
inductive Kind where
  | plain
  /-- A connect is asked for. -/
  | call
  /-- A device is registered. -/
  | arrival
  /-- The devices that are there are asked for. -/
  | beginning
  /-- A task hears of the devices that were asked for. -/
  | finding (task : Nat) (outcome : Except JobFault (List DeviceInfo))
  /-- The registration for events of the bus is given up. -/
  | leaving
  /-- The driver of a device is left without anybody who uses it or removes it. -/
  | stranding (info : DeviceInfo)

/-- Two managers of which only the books matter, and whose books agree. -/
structure Still (m n : Manager) : Prop where
  registry : n.registry = m.registry
  channels : n.channels = m.channels
  retired : n.retired = m.retired
  nextChannel : n.nextChannel = m.nextChannel
  tasks : n.tasks = m.tasks
  nextTask : m.nextTask ≤ n.nextTask
  listeners : n.listening.listeners = m.listening.listeners
  registration : n.registration = m.registration
  initialized : n.initialized = m.initialized

/-- Gives a task something to do, or takes it out. -/
def putTask (m : Manager) (id : Nat) : Option Work → Manager
  | some work => m.setTask id work
  | none => m.dropTask id

def Tidies (m : Manager) (info : DeviceInfo) : Prop := ∃ id, m.work? id = some (.tidying info)

/-- What a task may do after what it did, as far as no channel has to do with it. -/
inductive Advance (m : Manager) (drivers : Bool) (id : Nat) :
    Kind → Option Work → Option Work → List Output → Prop where
  | called (connect : Connect) (_ : id < m.nextTask) :
    Advance m drivers id .call none (some (.idle connect)) []
  | recalled {connect : Connect} (other : Connect) (_ : other.key = connect.key) :
    Advance m drivers id .plain (some (.idle connect)) (some (.idle other)) []
  /-- A connect begins with a device of the registry. -/
  | begun {connect : Connect} {device : RegisteredDevice}
      (_ : m.registry.find? connect.key = some device) :
    Advance m drivers id .plain (some (.idle connect))
      (some (.installing connect device (if drivers then none else some (.ok ()))))
      (if drivers then [.started id (.install device.info)] else [])
  | installed {connect : Connect} {device : RegisteredDevice}
      {outcome : Option (Except JobFault Unit)} (other : Connect)
      (next : Option (Except JobFault Unit)) (_ : outcome = none ∨ next = outcome) :
    Advance m drivers id .plain (some (.installing connect device outcome))
      (some (.installing other device next)) []
  /-- A connect ends without having bound its device. Somebody takes care of the driver. -/
  | spared {connect : Connect} {device : RegisteredDevice} {outcome : Option (Except JobFault Unit)}
      (_ : drivers = true → m.Tidies device.info ∨ m.isConnected device.key = true) :
    Advance m drivers id .plain (some (.installing connect device outcome)) none []
  | lost {connect : Connect} {device : RegisteredDevice} {outcome : Option (Except JobFault Unit)} :
    Advance m drivers id (.stranding device.info) (some (.installing connect device outcome)) none []
  | forgotten {info : DeviceInfo} :
    Advance m drivers id (.stranding info) (some (.tidying info)) none []
  | removing {info : DeviceInfo} :
    Advance m drivers id .plain (some (.tidying info))
      (some (.uninstalling .apart (if drivers then none else some (.ok ()))))
      (if drivers then [.started id (.uninstall info)] else [])
  | cleaning (cleanup : Cleanup) (outcome : Option (Except JobFault Unit)) (_ : id < m.nextTask) :
    Advance m drivers id .plain none (some (.uninstalling cleanup outcome)) []
  | uninstalled {cleanup : Cleanup} (outcome : Except JobFault Unit) :
    Advance m drivers id .plain (some (.uninstalling cleanup none))
      (some (.uninstalling cleanup (some outcome))) []
  | enumerated (outcome : Except JobFault (List DeviceInfo)) :
    Advance m drivers id (.finding id outcome) (some (.enumerating none))
      (some (.enumerating (some outcome))) []
  | closed {work : Option Work} (_ : ∀ w, work = some w → w.isLoose = true) :
    Advance m drivers id .plain work none []

/-- What a manager does at once. -/
inductive Deed (drivers : Bool) : Kind → Manager → List Output → Manager → Prop where
  | still {m n : Manager} (_ : m.Still n) : Deed drivers .plain m [] n
  | told {m : Manager} (output : Output) (_ : output.isDriving = false) :
    Deed drivers .plain m [output] m
  | task {m : Manager} {kind : Kind} (id : Nat) {work : Option Work} {outputs : List Output}
      (_ : m.Advance drivers id kind (m.work? id) work outputs) :
    Deed drivers kind m outputs (m.putTask id work)
  | spawned {m : Manager} (info : DeviceInfo) : Deed drivers .plain m [] (m.spawn (.tidying info))
  | begun {m : Manager} (id : Nat) (_ : id < m.nextTask) (_ : m.work? id = none)
      (_ : m.initialized = false) :
    Deed drivers .beginning m [] { m.setTask id (.enumerating none) with initialized := true }
  | subscribed {m : Manager} (id : Nat) {devices : List DeviceInfo}
      (_ : m.work? id = some (.enumerating (some (.ok devices)))) :
    Deed drivers .plain m [] { (m.dropTask id).startListening with registration := true }
  | unsubscribed {m : Manager} (_ : m.registration = true) :
    Deed drivers .leaving m [] { m.stopListening with registration := false }
  /-- The device of a connect whose driver is there is bound to the first free channel. -/
  | bound {m : Manager} (call : Nat) {connect : Connect} {device : RegisteredDevice}
      {channel : Channel} {a : Attempt} (entry : Entry) (stopped : Bool)
      (_ : m.work? call = some (.installing connect device (some (.ok ()))))
      (_ : m.isConnected device.key = false) (_ : m.channels.find? Channel.isFree = some channel)
      (_ : (channel.connect call device entry stopped).1.Pending a) (_ : a.call = call)
      (_ : a.device = device) :
    Deed drivers .plain m []
      ((m.startListening.setTask call (.connecting connect device channel.id)).setChannel
        (channel.connect call device entry stopped).1)
  /-- A free channel is bound, but the helper cannot be started. -/
  | barred {m : Manager} (call : Nat) {device : RegisteredDevice} {channel : Channel} (entry : Entry)
      (stopped : Bool) (_ : m.isConnected device.key = false)
      (_ : m.channels.find? Channel.isFree = some channel) (_ : channel.Idle)
      (_ : (channel.connect call device entry stopped).1.Idle) :
    Deed drivers .plain m [] (m.setChannel (channel.connect call device entry stopped).1)
  /-- A channel goes on with what it has. Those that were removed get no new hosts. -/
  | moved {m : Manager} {channel : Channel} (now : Nat) (move : Channel.Move)
      (_ : channel ∈ m.channels ++ m.retired) (_ : move.connects = false)
      (_ : channel ∈ m.retired → move.proceeds = true)
      (_ : channel.Steady (channel.step now move).1) :
    Deed drivers .plain m [] (m.setChannel (channel.step now move).1)
  /-- A call ends connected. Nobody disconnects the device if the channel was removed. -/
  | connected {m : Manager} {kind : Kind} {channel : Channel} (now : Nat) (move : Channel.Move)
      {a : Attempt} {handle : Handle} {connect : Connect} (_ : channel ∈ m.channels ++ m.retired)
      (_ : move.connects = false) (_ : channel.Pending a)
      (_ : a.phase.handle? = some handle)
      (_ : (channel.step now move).1.Holding a.device handle)
      (_ : m.work? a.call = some (.connecting connect a.device channel.id))
      (_ : channel ∈ m.channels ∧ kind = .plain ∨
        channel ∈ m.retired ∧ kind = .stranding a.device.info) :
    Deed drivers kind m [] ((m.setChannel (channel.step now move).1).dropTask a.call)
  /-- A call ends without a connection, or is dropped. Its driver is to be removed, or stays behind. -/
  | failed {m : Manager} {kind : Kind} {channel : Channel} (now : Nat) (move : Channel.Move) {a : Attempt}
      {connect : Connect} (_ : channel ∈ m.channels ++ m.retired) (_ : move.connects = false)
      (_ : channel.Pending a) (_ : (channel.step now move).1.Idle)
      (_ : m.work? a.call = some (.connecting connect a.device channel.id))
      (_ : kind = .plain ∧ (drivers = true → m.Tidies a.device.info) ∨ kind = .stranding a.device.info) :
    Deed drivers kind m []
      ((m.setChannel (channel.step now move).1).stopListening.dropTask a.call)
  /-- A device is taken off. Its driver is to be removed, or is being removed, or stays behind. -/
  | released {m : Manager} {kind : Kind} {channel : Channel} (now : Nat) (move : Channel.Move)
      {device : RegisteredDevice} {handle : Handle} {outputs : List Output}
      (_ : channel ∈ m.channels) (_ : move.connects = false) (_ : channel.Holding device handle)
      (_ : (channel.step now move).1.Idle)
      (_ : kind = .plain ∧ outputs = [] ∧ (drivers = true → m.Tidies device.info) ∨
        kind = .plain ∧ (∃ id, outputs = [.started id (.uninstall device.info)]) ∨
        kind = .stranding device.info ∧ outputs = []) :
    Deed drivers kind m outputs (m.setChannel (channel.step now move).1).stopListening
  | added {m : Manager} (transport : Transport) (host : Option Host)
      (_ : host.bind (·.handle) = none) :
    Deed drivers .plain m [] { m with
      nextChannel := m.nextChannel + 1
      channels := m.channels ++ [{
        Channel.new m.nextChannel transport m.settings.compressionThreshold with
        host, hasFactory := host.isSome }] }
  | skipped {m : Manager} : Deed drivers .plain m [] { m with nextChannel := m.nextChannel + 1 }
  /-- A channel that is not connected is taken out of the set, and told to disconnect. -/
  | removed {m : Manager} {channel : Channel} (_ : channel ∈ m.channels)
      (_ : channel.state ≠ .connected) :
    Deed drivers .plain m [] { m with
      channels := m.channels.filter (·.id != channel.id)
      retired := m.retired ++ [channel.disconnect.1] }
  | registered {m : Manager} {info : DeviceInfo} (arrival : Arrival) {key : DeviceKey}
      (_ : (m.registry.add info arrival).2 = .added key) :
    Deed drivers .arrival m [] { m with registry := (m.registry.add info arrival).1 }
  | departed {m : Manager} (key : DeviceKey) :
    Deed drivers .plain m [] { m with registry := (m.registry.remove key).1 }

/-- A row of deeds that are plain, or of the kinds that are allowed. -/
inductive Deeds (drivers : Bool) (allowed : Kind → Prop) : Manager → List Output → Manager → Prop where
  | refl (m : Manager) : Deeds drivers allowed m [] m
  | head {m n p : Manager} {kind : Kind} {outputs more : List Output} (_ : kind = .plain ∨ allowed kind)
      (_ : Deed drivers kind m outputs n) (_ : Deeds drivers allowed n more p) :
    Deeds drivers allowed m (outputs ++ more) p

end Manager
end RemoteUsb
