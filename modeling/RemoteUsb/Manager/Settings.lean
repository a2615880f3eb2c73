import RemoteUsb.Access.Exchange
import RemoteUsb.Filter.Text

/-!
What a manager is told about its policies.
-/
namespace RemoteUsb

structure Settings where
  redirectionEnabled : Bool := true
  /-- Whether devices that are plugged in are connected at once. -/
  autoConnect : Bool := true
  autoConnectFilter : Filter := Filter.standard
  /-- The devices to be connected as soon as there is a channel. -/
  redirectOnConnect : Option Filter := none
  /-- Longer data for a peer may be compressed. -/
  compressionThreshold : Nat := 1000
  /-- The helper that is asked before a device is opened. -/
  accessHelper : Option Access.Helper := none
  deriving DecidableEq, Repr

instance : Inhabited Settings := ⟨{}⟩

namespace Settings

/-- Replaces the filter for devices that are plugged in; a text that is no filter changes nothing. -/
def setAutoConnectFilter (s : Settings) (text : String) : Except FilterError Settings :=
  (Filter.parse text).map fun filter => { s with autoConnectFilter := filter }

/-- Replaces the filter for new channels; without a text nothing is connected to them. -/
def setRedirectOnConnect (s : Settings) : Option String → Except FilterError Settings
  | none => .ok { s with redirectOnConnect := none }
  | some text => (Filter.parse text).map fun filter => { s with redirectOnConnect := some filter }

end Settings
end RemoteUsb
