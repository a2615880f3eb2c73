import RemoteUsb.Error
import RemoteUsb.Wire.Packing

/-!
The way of messages to the peer of a channel.
-/
namespace RemoteUsb

inductive Outlet where
  /-- They are kept as they are. -/
  | memory (sent : List Wire.Payload)
  /-- They are put into frames, for whoever holds the other end of the pipe. -/
  | pipe (frames : List Bytes) (closed : Bool)
  deriving DecidableEq, Repr

structure Transport where
  outlet : Outlet
  /-- Whether the peer announced that it reads compressed data. -/
  peerUnpacks : Bool
  /-- Whether the peer is on this machine. -/
  isLocal : Bool
  deriving DecidableEq, Repr

namespace Transport

def recording (peerUnpacks isLocal : Bool) : Transport :=
  { outlet := .memory [], peerUnpacks, isLocal }

instance : Inhabited Transport := ⟨recording true false⟩

/-- A transport that writes frames. It assumes nothing about the peer before that announces
something. -/
def framed (isLocal : Bool) : Transport :=
  { outlet := .pipe [] false, peerUnpacks := false, isLocal }

/-- Sends a message under the current version. A message that fits no frame is refused before it is
seen that nobody would receive it. -/
def send (t : Transport) (payload : Wire.Payload) : Transport × Except TransportError Unit :=
  match t.outlet with
  | .memory sent => ({ t with outlet := .memory (sent ++ [payload]) }, .ok ())
  | .pipe frames closed =>
    match Wire.Message.frame ⟨.current, payload⟩ with
    | .error error => (t, .error (.encode error))
    | .ok frame =>
      if closed then (t, .error .closed)
      else ({ t with outlet := .pipe (frames ++ [frame]) false }, .ok ())

/-- Announces to the peer that compressed data can be read here. -/
def announce (t : Transport) : Transport × Except TransportError Unit := t.send (.capabilities true)

/-- The other end of the pipe goes away; what is kept in memory has no other end. -/
def close (t : Transport) : Transport :=
  match t.outlet with
  | .memory _ => t
  | .pipe frames _ => { t with outlet := .pipe frames true }

def isFramed (t : Transport) : Bool :=
  match t.outlet with
  | .memory _ => false
  | .pipe .. => true

def count (t : Transport) : Nat :=
  match t.outlet with
  | .memory sent => sent.length
  | .pipe frames _ => frames.length

def mayCompress (t : Transport) (isochronous : Bool) : Bool :=
  t.peerUnpacks && !t.isLocal && !isochronous

end Transport
end RemoteUsb
