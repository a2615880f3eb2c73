import RemoteUsb.Wire.Frame

/-!
Frames off a byte stream that arrives in pieces. How the bytes are cut into pieces does not matter to
what is read.
-/
namespace RemoteUsb.Wire

/-- The bytes still to come, as the pieces in which they will arrive. -/
abbrev Stream := List Bytes

namespace Stream

def size (s : Stream) : Nat := s.foldl (fun n piece => n + piece.length) 0

/-- The next byte, or nothing at the end. -/
def next? : Stream → Option UInt8 × Stream
  | [] => (none, [])
  | [] :: rest => next? rest
  | (b :: piece) :: rest => (some b, piece :: rest)

/-- The next `n` bytes, or nothing if there are fewer; those are used up then. -/
def take? : Nat → Stream → Option Bytes × Stream
  | 0, s => (some [], s)
  | _ + 1, [] => (none, [])
  | n + 1, piece :: rest =>
    let part := piece.take (n + 1)
    let missing := n + 1 - part.length
    if missing = 0 then (some part, piece.drop (n + 1) :: rest)
    else match take? missing rest with
      | (some more, rest) => (some (part ++ more), rest)
      | (none, rest) => (none, rest)

end Stream

/-- Reads the next frame: nothing if the stream ends before it, an error if it ends inside. -/
def Message.next (s : Stream) : Except WireError (Option Message) × Stream :=
  match s.next? with
  | (none, s) => (.ok none, s)
  | (some first, s) =>
    match s.take? 3 with
    | (none, s) => (.error .streamCut, s)
    | (some others, s) =>
      let length := readWord (first :: others)
      match checkLength length with
      | .error e => (.error e, s)
      | .ok () =>
        match s.take? length with
        | (none, s) => (.error .streamCut, s)
        | (some body, s) => ((Message.decode body).map some, s)

/-- What a message means to the receiver. A peer whose version cannot read compressed data does not
announce that it can. -/
def Message.accepted (m : Message) : Payload :=
  match m.payload with
  | .capabilities compression => .capabilities (compression && m.version.supportsCompression)
  | payload => payload

/-- Reads the next message of a version that this library understands. -/
def Payload.receive (s : Stream) : Except WireError (Option Payload) × Stream :=
  match Message.next s with
  | (.error e, s) => (.error e, s)
  | (.ok none, s) => (.ok none, s)
  | (.ok (some m), s) => (m.version.validate.map fun _ => some m.accepted, s)

/-- Reads at most `fuel` times, up to the end of the stream or an error; answers what was read, how it
ended and what is left. -/
def Stream.readFor {α : Type} (read : Stream → Except WireError (Option α) × Stream) :
    Nat → Stream → List α × Except WireError Unit × Stream
  | 0, s => ([], .ok (), s)
  | fuel + 1, s =>
    match read s with
    | (.error e, s) => ([], .error e, s)
    | (.ok none, s) => ([], .ok (), s)
    | (.ok (some a), s) =>
      let (rest, ending, s) := readFor read fuel s
      (a :: rest, ending, s)

/-- Reads up to the end of the stream or an error. Whatever is read takes at least one byte. -/
def Stream.readAll {α : Type} (read : Stream → Except WireError (Option α) × Stream) (s : Stream) :
    List α × Except WireError Unit × Stream :=
  s.readFor read (s.size + 1)

end RemoteUsb.Wire
