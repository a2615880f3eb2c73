import RemoteUsb.Lz4.Block
import RemoteUsb.Wire.Version

/-!
What goes wrong between bytes and messages.
-/
namespace RemoteUsb.Wire

inductive CodecFault where
  /-- The bytes end too early. -/
  | cut
  /-- A varint is longer or larger than its type allows. -/
  | varint
  /-- A truth value is neither zero nor one. -/
  | bool
  /-- There is no alternative with this number. -/
  | alternative
  deriving DecidableEq, Repr

def CodecFault.message : CodecFault → String
  | .cut => "Hit the end of buffer, expected more data"
  | .varint => "Found a varint that didn't terminate. Is the usize too big for this platform?"
  | .bool => "Found a bool that wasn't 0 or 1"
  | .alternative => "Serde Deserialization Error"

/-- What goes wrong on the wire. -/
inductive WireError where
  | codec (fault : CodecFault)
  | incompatibleVersion (version : Version)
  /-- Compressed data that claims to stand for nothing. -/
  | emptyCompressedPayload
  | block (fault : Lz4.Fault)
  | payloadTooLarge (size limit : Nat)
  | sizeMismatch (expected actual : Nat)
  | frameTooLarge (size limit : Nat)
  | incompleteFrame (expected actual : Nat)
  /-- The stream ended inside a frame. -/
  | streamCut
  deriving DecidableEq, Repr

def WireError.message : WireError → String
  | .codec fault => s!"Serialization error: {fault.message}"
  | .incompatibleVersion version =>
    s!"Incompatible protocol version: {version.major.toNat}.{version.minor.toNat} (expected " ++
      s!"{Version.current.major.toNat}.{Version.current.minor.toNat})"
  | .emptyCompressedPayload => "Compressed data message with zero uncompressed size"
  | .block fault => s!"Decompression failed: {fault.message}"
  | .payloadTooLarge size limit =>
    s!"Decompressed payload too large: {size} bytes (max: {limit})"
  | .sizeMismatch expected actual =>
    s!"Decompressed size mismatch: expected {expected} bytes, got {actual}"
  | .frameTooLarge size limit => s!"Frame too large: {size} bytes (max: {limit})"
  | .incompleteFrame expected actual =>
    s!"Incomplete frame: expected {expected} bytes, got {actual}"
  | .streamCut => "I/O error: early eof"

end RemoteUsb.Wire
