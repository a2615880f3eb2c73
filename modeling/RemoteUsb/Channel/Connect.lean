import RemoteUsb.Channel

/-!
Connecting the bound device, in the steps between which other things may happen to the channel: the
beginning, each turn of the talk with the helper, the end of the opening in the background, and the
attachment to the host. An attempt may be abandoned between any two of them.
-/
namespace RemoteUsb

/-- How an attempt gets access to the device. -/
inductive Entry where
  /-- Nobody is asked. -/
  | unguarded
  /-- A helper is to be asked, but cannot be started. -/
  | barred (text : String)
  /-- A helper was started. -/
  | guarded
  deriving DecidableEq, Repr

namespace Channel

def attempt? (c : Channel) (call : Nat) : Option Attempt := c.attempts.find? (·.call == call)

def forget (c : Channel) (call : Nat) : Channel :=
  { c with attempts := c.attempts.filter (·.call != call) }

def setPhase (c : Channel) (call : Nat) (phase : Phase) : Channel :=
  { c with attempts := c.attempts.map fun a => if a.call = call then { a with phase } else a }

def beginConnect (c : Channel) (call : Nat) (entry : Entry) (stopped : Bool) :
    Channel × List Effect :=
  match c.device with
  | none => (c, [.ended call (.error .cancelled)])
  | some device =>
    let attempt (phase : Phase) : Attempt := { call, device, binding := c.binding, stopped, phase }
    match entry with
    | .unguarded =>
      ({ c with attempts := c.attempts ++ [attempt (.opening false none)] },
        [.opening call device.key])
    | .barred text =>
      let (c, effects) := c.release
      (c, effects ++ [.ended call (.error (.accessControl (.spawn text)))])
    | .guarded =>
      let bus := device.info.bus
      let address := device.info.address
      ({ c with
          state := .waitingForAccess
          request := some call
          attempts := c.attempts ++ [attempt (.asking (.start bus address))] },
        [.asked call bus address])

/-- Goes on after the talk with the helper came to an end. A request that was called off in the
meantime ends as cancelled even if access was granted. -/
def accessDecided (c : Channel) (a : Attempt) (result : Except AccessError Unit) :
    Channel × List Effect :=
  let closing := Effect.inputClosed a.call
  if c.state = .disconnecting then
    let (released, effects) := (c.forget a.call).release
    (released,
      (if result matches .ok () then effects ++ [closing] else closing :: effects) ++
        [.ended a.call (.error .cancelled)])
  else match result with
    | .ok () =>
      ({ c.setPhase a.call (.opening true none) with request := none },
        [.opening a.call a.device.key])
    | .error error =>
      let (released, effects) := (c.forget a.call).release
      let error := if error = .cancelled then .cancelled else .accessControl error
      (released, closing :: effects ++ [.ended a.call (.error error)])

/-- Gives a signal to the talk that a call has with its helper. -/
def signal (c : Channel) (call : Nat) (signal : Access.Signal) : Channel × List Effect :=
  match c.attempt? call with
  | none => (c, [])
  | some a =>
    match a.phase with
    | .opening .. => (c, [])
    | .asking exchange =>
      match exchange.step signal with
      | .goes exchange => (c.setPhase call (.asking exchange), [])
      | .ends result => c.accessDecided a result

/-- The opening for a call was done in the background. What was opened for a call that nobody waits
for any more is closed. -/
def opened (c : Channel) (call : Nat) (outcome : Except JobFault Handle) :
    Channel × List Effect :=
  match c.attempt? call with
  | some ⟨_, _, _, _, .opening granted none⟩ =>
    (c.setPhase call (.opening granted (some outcome)), [])
  | _ =>
    ({ c with strays := c.strays.erase call }, (outcome.toOption.map Effect.closed).toList)

/-- Ends an attempt with an error: the device is unbound, and the input of the helper is closed if
access was granted. -/
def failAttempt (c : Channel) (call : Nat) (granted : Bool) (error : RedirectError) :
    Channel × List Effect :=
  let (c, effects) := (c.forget call).release
  (c, effects ++ (if granted then [.inputClosed call] else []) ++ [.ended call (.error error)])

def attach (c : Channel) (call : Nat) (granted : Bool) (handle : Handle) :
    Channel × List Effect :=
  if c.state = .disconnecting then
    let (c, effects) := c.failAttempt call granted .cancelled
    (c, .closed handle :: effects)
  else match c.host with
    | none =>
      let (c, effects) := c.failAttempt call granted .contextNotSet
      (c, .closed handle :: effects)
    | some host =>
      match host.attach handle with
      | (host, closed, .error error) =>
        let (c, effects) := { c with host := some host }.failAttempt call granted (.host error)
        (c, (closed.map Effect.closed).toList ++ effects)
      | (host, closed, .ok ()) =>
        ({ c.forget call with
            host := some host
            grant := if granted then some call else none
            request := none
            state := .connected },
          (closed.map Effect.closed).toList ++ (c.grant.map Effect.inputClosed).toList ++
            [.ended call (.ok ())])

def resume (c : Channel) (call : Nat) : Channel × List Effect :=
  match c.attempt? call with
  | some ⟨_, _, _, _, .opening granted (some (.ok handle))⟩ => c.attach call granted handle
  | some ⟨_, _, _, _, .opening granted (some (.error fault))⟩ =>
    c.failAttempt call granted (fault.toError .openFailed)
  | _ => (c, [])

/-- What is closed when a call is dropped that waits in the given phase. -/
def abandoned (call : Nat) : Phase → List Effect
  | .asking _ => [.inputClosed call]
  | .opening granted outcome =>
    ((outcome.bind Except.toOption).map Effect.closed).toList ++
      (if granted then [.inputClosed call] else [])

/-- Drops a call. It unbinds its device, unless that is connected or another one is bound by now. -/
def abandon (c : Channel) (call : Nat) : Channel × List Effect :=
  match c.attempt? call with
  | none => (c, [])
  | some a =>
    let left := { c.forget call with
      strays := if a.phase matches .opening _ none then c.strays ++ [call] else c.strays }
    let dropped := abandoned call a.phase
    if c.binding = a.binding ∧ c.state ≠ .connected then
      let (c, effects) := left.stopRequest.release
      (c, dropped ++ effects)
    else (left, dropped)

end Channel
end RemoteUsb
