import RemoteUsb.Manager.Events
import RemoteUsb.Proofs.Channel.Moves

/-! The life of a manager as a row of turns. In a turn, one of those who have to do with the manager does
what it does between two waits: callers, tasks, the background, helpers, hosts, peers and the loop that
takes events. Turns come in any order. What a turn finds in the world outside may be different each time,
only whether drivers are wanted is up to the bus and stays. A turn may be taken on a thread outside the
runtime, where nobody can be told to remove a driver. -/

namespace RemoteUsb

def Surroundings.Fresh (w : Surroundings) : Prop := ∀ host, w.newHost = .ok host → host.handle = none

namespace Manager

/-- What may happen to a manager next. -/
inductive Move where
  /-- A caller wants a device connected. -/
  | connect (key : DeviceKey) (stopped : Bool)
  /-- A task begins. -/
  | begin (task : Nat)
  /-- The token of a call is cancelled. -/
  | stop (call : Nat)
  /-- A call is dropped. -/
  | abandon (call : Nat)
  /-- The job of a task is done in the background. -/
  | jobDone (task : Nat) (outcome : Except JobFault Unit)
  | enumerationDone (task : Nat) (outcome : Except JobFault (List DeviceInfo))
  /-- A task goes on after a job or an opening. -/
  | resume (task : Nat)
  /-- The talk of a call with its helper goes on. -/
  | signal (channel call : Nat) (signal : Access.Signal)
  /-- The opening for a call is done in the background. -/
  | opened (channel call ticket : Nat) (outcome : Except JobFault DeviceKey)
  | disconnect (key : DeviceKey)
  | disconnectAndWait (key : DeviceKey)
  | addChannel (transport : Transport) (withHost : Bool)
  | removeChannel (channel : Nat)
  | resetChannel (channel : Nat)
  /-- A message comes from the peer of a channel. -/
  | receive (channel : Nat) (payload : Wire.Payload)
  /-- The host of a channel does something on its own. -/
  | stir (channel : Nat) (act : Host → Host)
  | post (event : Event)
  /-- Somebody hands an event to the manager past the queue. -/
  | handle (event : Event)
  | nextEvent
  | endLoop
  | start
  | shutdown
  | configure (f : Settings → Settings)

def number : Act Nat := fun m => (m.nextTask, m.takeNumber.1, [])

/-- What is done in a move. -/
def Move.act (w : Surroundings) : Move → Act Unit
  | .connect key stopped => do callConnect (← number) key stopped
  | .begin task => Manager.begin w task
  | .stop call => stopCall w call
  | .abandon call => Manager.abandon w call
  | .jobDone task outcome => Manager.jobDone task outcome
  | .enumerationDone task outcome => Manager.enumerationDone task outcome
  | .resume task => Manager.resume w task
  | .signal channel call heard => onChannel w channel fun c => c.signal call heard
  | .opened channel call ticket outcome => onChannel w channel fun c => c.step ticket (.opened call outcome)
  | .disconnect key => do let _ ← Manager.disconnect w key
  | .disconnectAndWait key => do Manager.disconnectAndWait w (← number) key
  | .addChannel transport withHost => do let _ ← Manager.addChannel w transport withHost
  | .removeChannel channel => do let _ ← Manager.removeChannel w channel
  | .resetChannel channel => do Manager.resetChannel w (← number) channel
  | .receive channel payload => do let _ ← Manager.receive w channel payload
  | .stir channel act => onChannel w channel fun c => c.step 0 (.stir act)
  | .post event => Act.change (·.post event)
  | .handle event => do handleEvent w (← number) event
  | .nextEvent => Manager.nextEvent w
  | .endLoop => Manager.endLoop
  | .start => do Manager.start (← number)
  | .shutdown => Manager.shutdown w
  | .configure f => Manager.configure f

/-- A move with what it finds in the world outside. -/
structure Turn where
  move : Move
  /-- Whether the turn is taken inside the runtime. -/
  inRuntime : Bool := true
  /-- What comes of starting a helper. -/
  launch : Except String Unit := .ok ()
  /-- What comes of making a host. -/
  newHost : Except HostError Host := .ok {}
  /-- What comes of registering for events of the bus. -/
  subscription : Except BackendError Bool := .ok true

def Turn.surroundings (t : Turn) (drivers : Bool) : Surroundings :=
  { needsDriver := drivers
    inRuntime := t.inRuntime
    launch := t.launch
    newHost := t.newHost.map Host.detach
    subscription := t.subscription }

theorem Turn.surroundings_fresh (t : Turn) (drivers : Bool) : (t.surroundings drivers).Fresh := by
  intro host h
  obtain ⟨move, inRuntime, launch, newHost, subscription⟩ := t
  cases newHost with
  | error error => cases h
  | ok made =>
    cases h
    rfl

variable (m : Manager) (drivers : Bool)

/-- The manager after a turn, and what happened outside. -/
def turn (t : Turn) : Manager × List Output :=
  ((t.move.act (t.surroundings drivers)).perform m).2

def run (m : Manager) (drivers : Bool) : List Turn → Manager
  | [] => m
  | t :: turns => (m.turn drivers t).1.run drivers turns

theorem run_append (first others : List Turn) :
    m.run drivers (first ++ others) = (m.run drivers first).run drivers others := by
  induction first generalizing m with
  | nil => rfl
  | cons t first ih => exact ih _

/-- What happened outside in a row of turns. -/
def told (m : Manager) (drivers : Bool) : List Turn → List Output
  | [] => []
  | t :: turns => (m.turn drivers t).2 ++ (m.turn drivers t).1.told drivers turns

theorem told_append (first others : List Turn) :
    m.told drivers (first ++ others) = m.told drivers first ++ (m.run drivers first).told drivers others := by
  induction first generalizing m with
  | nil => rfl
  | cons t first ih =>
    rw [List.cons_append, told, told, ih, List.append_assoc]
    rfl

/-- The device under a key is not registered before, between and after the turns. -/
def Away (m : Manager) (drivers : Bool) (key : DeviceKey) : List Turn → Prop
  | [] => m.registry.find? key = none
  | t :: turns => m.registry.find? key = none ∧ (m.turn drivers t).1.Away drivers key turns

variable {m drivers} {key : DeviceKey}

theorem Away.now {turns : List Turn} (h : m.Away drivers key turns) :
    m.registry.find? key = none := by
  cases turns with
  | nil => exact h
  | cons t turns => exact h.1

theorem Away.append {first others : List Turn} (h : m.Away drivers key first)
    (h' : (m.run drivers first).Away drivers key others) : m.Away drivers key (first ++ others) := by
  induction first generalizing m with
  | nil => exact h'
  | cons t first ih => exact ⟨h.1, ih h.2 h'⟩

end Manager
end RemoteUsb
