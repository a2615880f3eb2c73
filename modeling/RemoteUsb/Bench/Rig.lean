import RemoteUsb.Bus.Session

/-!
A native bus on the bench: a rig of the bus with the handles and the registration held on it.
-/
namespace RemoteUsb.Bench

structure Rig where
  addressing : Addressing
  bus : Bus
  /-- The handles, in the order of opening. -/
  handles : List Bus.Handle := []
  /-- Whether events are still received. -/
  receiving : Bool := true

inductive RigRequest where
  | change (change : Bus.Change)
  | enumerate
  | openDevice (key : DeviceKey)
  /-- Closes the first handle of a device. To drop it without that makes the same calls. -/
  | closeDevice (key : DeviceKey)
  | subscribe
  | unsubscribe
  | handleEvents
  | stopReceiving

inductive RigAnswer where
  | nothing
  | devices (devices : List DeviceInfo)
  | opened (key : DeviceKey)
  | closed
  | told (value : Bool)
  | done
  | failed (error : BackendError)

structure RigTurn where
  rig : Rig
  calls : List Bus.Call := []
  events : List Event := []
  answer : RigAnswer

namespace Rig

def answerOf {α : Type} (f : α → RigAnswer) : Except BackendError α → RigAnswer
  | .ok a => f a
  | .error error => .failed error

def serve (r : Rig) : RigRequest → RigTurn
  | .change change => { rig := { r with bus := r.bus.apply change }, answer := .nothing }
  | .enumerate =>
    let (calls, found) := r.bus.enumerate
    { rig := r, calls, answer := answerOf .devices found }
  | .openDevice key =>
    let (calls, opened) := r.bus.openDevice r.addressing key
    { rig := { r with handles := r.handles ++ opened.toOption.toList }, calls
      answer := answerOf (fun h => .opened h.key) opened }
  | .closeDevice key =>
    match r.handles.find? (·.key == key) with
    | some handle =>
      { rig := { r with handles := r.handles.eraseP (·.key == key) }, calls := handle.close
        answer := .closed }
    | none => { rig := r, answer := .nothing }
  | .subscribe =>
    let (bus, calls, given) := r.bus.subscribe
    { rig := { r with bus }, calls, answer := answerOf .told given }
  | .unsubscribe =>
    let (bus, calls, was) := r.bus.unsubscribe
    { rig := { r with bus }, calls, answer := .told was }
  | .handleEvents =>
    let (bus, events, result) := r.bus.handleEvents r.addressing
    { rig := { r with bus }, events := if r.receiving then events else []
      answer := answerOf (fun _ => .done) result }
  | .stopReceiving => { rig := { r with receiving := false }, answer := .told r.receiving }

/-- The calls when everything that is held goes away: the handles, in the order of opening, and then
the registration. -/
def ending (r : Rig) : List Bus.Call := r.handles.flatMap (·.drop) ++ r.bus.unsubscribe.2.1

end Rig
end RemoteUsb.Bench
