import RemoteUsb.Error

/-!
Events for the manager's loop, and the bounded queue that carries them there from other threads.
-/
namespace RemoteUsb

inductive Event where
  | arrived (device : DeviceInfo)
  | left (key : DeviceKey)
  /-- The host of a channel has data for the peer. -/
  | dataPending (channel : Nat)
  /-- The host of a channel reports that its device failed under the given binding. -/
  | deviceFailed (channel : Nat) (binding : Nat) (fault : DeviceFault)
  deriving DecidableEq, Repr, Inhabited

/-- Events that wait, the oldest first. The queue is closed for one end once the other is gone. -/
structure EventQueue where
  waiting : List Event := []
  senderGone : Bool := false
  receiverGone : Bool := false
  deriving DecidableEq, Repr

namespace EventQueue

def capacity : Nat := 256

inductive Fault where
  | full
  | closed
  /-- There is nothing left to receive and nobody to send more. -/
  | ended
  deriving DecidableEq, Repr

def Fault.message : Fault → String
  | .full => "sending into a full channel"
  | .closed => "sending into a closed channel"
  | .ended => "receiving from an empty and closed channel"

/-- Queues an event without waiting for room. -/
def post (q : EventQueue) (event : Event) : EventQueue × Except Fault Unit :=
  if q.receiverGone then (q, .error .closed)
  else if capacity ≤ q.waiting.length then (q, .error .full)
  else ({ q with waiting := q.waiting ++ [event] }, .ok ())

/-- Queues an event from a thread that may wait for room; `none` means that it waits. -/
def send? (q : EventQueue) (event : Event) : Option (EventQueue × Except Fault Unit) :=
  match q.post event with
  | (_, .error .full) => none
  | answer => some answer

def take? (q : EventQueue) : EventQueue × Option Event :=
  match q.waiting with
  | [] => (q, none)
  | event :: waiting => ({ q with waiting }, some event)

/-- Takes the oldest event or says that there will be none; `none` means that the receiver waits. -/
def receive? (q : EventQueue) : Option (EventQueue × Except Fault Event) :=
  match q.take? with
  | (q, some event) => some (q, .ok event)
  | (q, none) => if q.senderGone then some (q, .error .ended) else none

/-- The receiving end goes away, and what waits with it. -/
def dropReceiver (q : EventQueue) : EventQueue := { q with waiting := [], receiverGone := true }

/-- The sending end goes away; what waits can still be received. -/
def dropSender (q : EventQueue) : EventQueue := { q with senderGone := true }

end EventQueue
end RemoteUsb
