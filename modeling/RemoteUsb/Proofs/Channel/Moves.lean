import RemoteUsb.Channel.Connect
import RemoteUsb.Channel.Traffic

/-! The life of a channel as a row of moves. A move is what happens between two waits of whoever has to
do with the channel: the calls that connect devices, the helpers, the openings in the background, the
peer and the host. Moves come in any order. A call, and a handle that is opened, has the moment at which
it came into being as its number, so that no two calls and no two handles are alike. -/

namespace RemoteUsb.Channel

def new (id : Nat) (transport : Transport) (threshold : Nat) : Channel := { id, transport, threshold }

/-- What may happen to a channel next. -/
inductive Move where
  /-- A call is made that binds and connects a device. -/
  | connect (device : RegisteredDevice) (entry : Entry) (stopped : Bool)
  /-- The token of a call is cancelled. -/
  | stop (call : Nat)
  /-- The talk of a call with its helper goes on. -/
  | signal (call : Nat) (signal : Access.Signal)
  /-- The opening for a call is done. -/
  | opened (call : Nat) (outcome : Except JobFault DeviceKey)
  /-- A call whose opening is done goes on. -/
  | resume (call : Nat)
  /-- A call is dropped. -/
  | abandon (call : Nat)
  | disconnect
  | reset (made : Option Host)
  | failDevice (fault : DeviceFault)
  | failBinding (binding : Nat) (fault : DeviceFault)
  | receive (payload : Wire.Payload)
  | setContext (host : Host)
  | flush
  /-- The host does something on its own. -/
  | stir (act : Host → Host)

def Move.connects : Move → Bool
  | .connect .. => true
  | _ => false

def connect (c : Channel) (call : Nat) (device : RegisteredDevice) (entry : Entry) (stopped : Bool) :
    Channel × List Effect :=
  match c.bind device with
  | .error error => (c, [.ended call (.error error)])
  | .ok c => c.beginConnect call entry stopped

/-- The handle that is opened for a call: one of the device that the call connects. -/
def handleFor (c : Channel) (call ticket : Nat) (key : DeviceKey) : Handle :=
  { key := ((c.attempt? call).map (·.device.key)).getD key, ticket }

def reset (c : Channel) (made : Option Host) : Channel × List Effect :=
  let (c, effects, _) := c.disconnect
  ((c.renew made).1, effects)

/-- The move at a moment. Hosts are made without a device, and keep the one that they have. -/
def step (c : Channel) (now : Nat) : Move → Channel × List Effect
  | .connect device entry stopped => c.connect now device entry stopped
  | .stop call => (c.stop call, [])
  | .signal call signal => c.signal call signal
  | .opened call outcome => c.opened call (outcome.map (c.handleFor call now))
  | .resume call => c.resume call
  | .abandon call => c.abandon call
  | .disconnect => (c.disconnect.1, c.disconnect.2.1)
  | .reset made => c.reset (made.map Host.detach)
  | .failDevice fault => ((c.failDevice fault).1, (c.failDevice fault).2.1)
  | .failBinding binding fault => ((c.failBinding binding fault).1, (c.failBinding binding fault).2.1)
  | .receive payload => ((c.receive payload).1, (c.receive payload).2.1)
  | .setContext host => ((c.setContext host.detach).toOption.getD c, [])
  | .flush => (c.flush.1, [])
  | .stir act => ({ c with host := c.host.map fun h => { act h with handle := h.handle } }, [])

/-- The channel after a row of moves, the first of which is made at the moment `now`. -/
def after (c : Channel) (now : Nat) : List Move → Channel
  | [] => c
  | move :: moves => (c.step now move).1.after (now + 1) moves

theorem after_append (c : Channel) (now : Nat) (first others : List Move) :
    c.after now (first ++ others) = (c.after now first).after (now + first.length) others := by
  induction first generalizing c now with
  | nil => rfl
  | cons move first ih =>
    simp only [List.cons_append, after, List.length_cons]
    rw [ih, Nat.add_assoc, Nat.add_comm 1]

end RemoteUsb.Channel
