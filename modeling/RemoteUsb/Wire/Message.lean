import RemoteUsb.Wire.Version

/-!
The messages of a redirection channel.
-/
namespace RemoteUsb

abbrev Bytes := List UInt8

namespace Wire

/-- The ways in which data may be compressed. -/
inductive Compression where
  | lz4
  deriving DecidableEq, Repr

/-- What a message carries. -/
inductive Payload where
  /-- Whether the sender reads compressed data. -/
  | capabilities (compression : Bool)
  | data (bytes : Bytes)
  /-- A compressed block and the number of bytes that it stands for. -/
  | compressed (algorithm : Compression) (size : UInt32) (block : Bytes)
  deriving DecidableEq, Repr, Inhabited

structure Message where
  version : Version
  payload : Payload
  deriving DecidableEq, Repr

def Payload.wireLength : Payload → Nat
  | .capabilities _ => 0
  | .data bytes => bytes.length
  | .compressed _ _ block => block.length

end Wire
end RemoteUsb
