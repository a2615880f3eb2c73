import RemoteUsb.Device

/-!
The devices that are present, in the order in which they were registered, under keys that are never
shared. Hubs are not registered.
-/
namespace RemoteUsb

inductive Arrival where
  /-- It was there at the first enumeration. -/
  | coldplug
  /-- It was reported later. -/
  | hotplug
  deriving DecidableEq, Repr

instance : Inhabited Arrival := ⟨.hotplug⟩

structure RegisteredDevice where
  key : DeviceKey
  info : DeviceInfo
  arrival : Arrival
  deriving DecidableEq, Repr

structure Registry where
  addressing : Addressing
  devices : List RegisteredDevice := []
  deriving DecidableEq, Repr

namespace Registry

/-- What became of a device that was offered. -/
inductive Outcome where
  | added (key : DeviceKey)
  /-- A device under this key is registered already. -/
  | duplicate (key : DeviceKey)
  /-- Hubs are passed over. -/
  | skipped
  deriving DecidableEq, Repr

def find? (r : Registry) (key : DeviceKey) : Option RegisteredDevice :=
  r.devices.find? (·.key == key)

/-- Registers a device behind the others, unless it is a hub or its key is taken. -/
def add (r : Registry) (info : DeviceInfo) (arrival : Arrival) : Registry × Outcome :=
  if info.isHub then (r, .skipped)
  else
    let key := info.key r.addressing
    match r.find? key with
    | some _ => (r, .duplicate key)
    | none => ({ r with devices := r.devices ++ [{ key, info, arrival }] }, .added key)

def remove (r : Registry) (key : DeviceKey) : Registry × Option RegisteredDevice :=
  match r.find? key with
  | some device => ({ r with devices := r.devices.eraseP (·.key == key) }, some device)
  | none => (r, none)

end Registry
end RemoteUsb
