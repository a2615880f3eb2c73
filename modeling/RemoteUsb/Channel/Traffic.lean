import RemoteUsb.Channel

/-!
Messages of a channel: those from the peer go to the host, and what the host has queued goes to the
peer.
-/
namespace RemoteUsb.Channel

/-- Gives data to the host. Data for a channel without a host is dropped. -/
def give (c : Channel) (bytes : Bytes) : Channel × Option DeviceFault :=
  match c.host with
  | none => (c, none)
  | some host =>
    let (host, result) := host.read bytes
    let c := { c with host := some host }
    match result with
    | .ok () => (c, none)
    | .error fault => (c, some fault)

/-- Takes in a message from the peer, up to the failure that it causes. -/
def hear (c : Channel) : Wire.Payload → Channel × Option DeviceFault
  | .capabilities compression =>
    ({ c with transport := { c.transport with peerUnpacks := compression } }, none)
  | .data bytes => c.give bytes
  | .compressed algorithm size block =>
    match algorithm.unpack block size with
    | .ok bytes => c.give bytes
    | .error _ => (c, some .parse)

/-- Handles a message from the peer. A failure that it causes takes the device off. -/
def receive (c : Channel) (payload : Wire.Payload) : Channel × List Effect × Option Failure :=
  match c.hear payload with
  | (c, none) => (c, [], none)
  | (c, some fault) =>
    let (c, effects, failure) := c.failDevice fault
    (c, effects, some failure)

def isIsochronous (c : Channel) : Bool := c.device.any (·.info.isochronous)

/-- Sends everything that the host has queued as one message, compressed in a given way if at all;
answers whether there was something to send. -/
def flushBy (pack : Bytes → Bytes) (c : Channel) : Channel × Except TransportError Bool :=
  match c.host.map Host.drain with
  | some (host, some bytes) =>
    let payload := Wire.Payload.outboundBy pack bytes c.threshold
      (c.transport.mayCompress c.isIsochronous)
    let (transport, result) := c.transport.send payload
    ({ c with host := some host, transport }, result.map fun _ => true)
  | _ => (c, .ok false)

/-- Sends everything that the host has queued as one message. -/
def flush : Channel → Channel × Except TransportError Bool := flushBy Wire.Compression.lz4.pack

end RemoteUsb.Channel
