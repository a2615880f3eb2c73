import RemoteUsb.Error
import RemoteUsb.Wire.Message

/-!
The host of a channel: it holds the opened device and turns the peer's data into transfers on it.
This one is a session in memory, which keeps what it is given and hands out what was queued in it.
-/
namespace RemoteUsb

/-- An opened device. The ticket tells apart two openings of one device. -/
structure Handle where
  key : DeviceKey
  ticket : Nat
  deriving DecidableEq, Repr

structure Host where
  handle : Option Handle := none
  /-- The data from the peer, one entry a message, the first one first. -/
  received : List Bytes := []
  /-- The data for the peer, as it was queued. -/
  queued : List Bytes := []
  /-- The filter that the peer publishes. -/
  guestFilter : Option Filter := none
  /-- What the next attachment fails with. -/
  attachFault : Option HostError := none
  /-- What the next reading fails with. -/
  readFault : Option DeviceFault := none
  deriving DecidableEq, Repr

namespace Host

/-- Takes an opened device; also answers the handle that is closed by it, which is the new one if the
host refuses it and the one held before if not. -/
def attach (h : Host) (handle : Handle) : Host × Option Handle × Except HostError Unit :=
  match h.attachFault with
  | some error => ({ h with attachFault := none }, some handle, .error error)
  | none => ({ h with handle := some handle }, h.handle, .ok ())

def detach (h : Host) : Host := { h with handle := none }

def read (h : Host) (bytes : Bytes) : Host × Except DeviceFault Unit :=
  match h.readFault with
  | some fault => ({ h with readFault := none }, .error fault)
  | none => ({ h with received := h.received ++ [bytes] }, .ok ())

def queue (h : Host) (bytes : Bytes) : Host := { h with queued := h.queued ++ [bytes] }

/-- Takes everything that is queued, in order; nothing if no data was queued at all. -/
def drain (h : Host) : Host × Option Bytes :=
  match h.queued with
  | [] => (h, none)
  | chunks => ({ h with queued := [] }, some chunks.flatten)

end Host
end RemoteUsb
