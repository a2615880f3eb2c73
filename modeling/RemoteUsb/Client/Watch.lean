import RemoteUsb.Bus.Session
import RemoteUsb.Manager.Events

/-!
Watching a native bus: a manager without channels, and the lines that tell of its devices.
-/
namespace RemoteUsb.Client

structure Watch where
  bus : Bus
  manager : Manager
  /-- The lines that were printed. -/
  lines : List String := []

def deviceLine (word : String) (device : RegisteredDevice) : String :=
  s!"{word} {device.key.text} {device.info.description}"

def notificationLine : Notification → String
  | .added device => deviceLine "added   " device
  | .removed device => deviceLine "removed " device
  | .autoConnectFailed device error => s!"failed   {device.key.text} {error.message}"
  | .deviceFailed device failure => s!"error    {device.key.text} {failure.toError.message}"

def linesOf (outputs : List Output) : List String :=
  outputs.filterMap fun
    | .notified notification => some (notificationLine notification)
    | _ => none

namespace Watch

/-- Begins to watch: registers the devices that are there, and then for what happens. -/
def start (bus : Bus) (addressing : Addressing) (settings : Settings) :
    Except RedirectError Watch :=
  let (subscribed, _, subscription) := bus.subscribe
  let call := 0
  let begin : Act Unit := do
    Manager.start call
    Manager.enumerationDone call (bus.enumerate.2.mapError .failed)
    Manager.resume { subscription } call
  let ((), manager, outputs) := begin.perform (Manager.new addressing settings).takeNumber.1
  let result? : Option (Except RedirectError Unit) := outputs.findSome? fun
    | .ended _ result => some result
    | _ => none
  match result? with
  | some (.error error) => .error error
  | _ =>
    .ok { bus := subscribed, manager, lines := manager.registry.devices.map (deviceLine "present ") }

def handle (w : Watch) (event : Event) : Watch :=
  let act : Act Unit := do
    Act.change (·.post event)
    Manager.nextEvent {}
    for task in (← Act.manager).tasks do Manager.resume {} task.id
  let ((), manager, outputs) := act.perform w.manager
  { w with manager, lines := w.lines ++ linesOf outputs }

/-- Something happens on the bus, and what the bus tells of it is handled. -/
def change (w : Watch) (change : Bus.Change) : Watch :=
  let (bus, events, _) := (w.bus.apply change).handleEvents w.manager.registry.addressing
  events.foldl handle { w with bus }

end Watch
end RemoteUsb.Client
