import RemoteUsb.Wire.Message
import RemoteUsb.Wire.Varint

/-!
Messages as bytes: the three numbers of the version, the number of the alternative, and its fields in
order. Readers answer the rest of the bytes, and what follows a message is left alone.
-/
namespace RemoteUsb.Wire

def writeBytes (bytes : Bytes) : Bytes := Varint.write bytes.length ++ bytes

def Compression.write : Compression → Bytes
  | .lz4 => Varint.write 0

def Payload.write : Payload → Bytes
  | .capabilities compression => Varint.write 0 ++ [if compression then 1 else 0]
  | .data bytes => Varint.write 1 ++ writeBytes bytes
  | .compressed algorithm size block =>
    Varint.write 2 ++ (algorithm.write ++ (Varint.write size.toNat ++ writeBytes block))

def Message.write (m : Message) : Bytes :=
  m.version.major :: m.version.minor :: m.version.patch :: m.payload.write

def readByte : Bytes → Except WireError (UInt8 × Bytes)
  | [] => .error (.codec .cut)
  | b :: rest => .ok (b, rest)

def readBool (input : Bytes) : Except WireError (Bool × Bytes) := do
  let (b, rest) ← readByte input
  if b = 0 then return (false, rest)
  else if b = 1 then return (true, rest)
  else throw (.codec .bool)

def readBytes (input : Bytes) : Except WireError (Bytes × Bytes) := do
  let (length, rest) ← Varint.read Varint.word64 input
  let bytes := rest.take length
  if bytes.length < length then throw (.codec .cut)
  return (bytes, rest.drop length)

def Compression.read (input : Bytes) : Except WireError (Compression × Bytes) := do
  let (index, rest) ← Varint.read Varint.word32 input
  match index with
  | 0 => return (.lz4, rest)
  | _ => throw (.codec .alternative)

def Payload.read (input : Bytes) : Except WireError (Payload × Bytes) := do
  let (index, rest) ← Varint.read Varint.word32 input
  match index with
  | 0 =>
    let (compression, rest) ← readBool rest
    return (.capabilities compression, rest)
  | 1 =>
    let (bytes, rest) ← readBytes rest
    return (.data bytes, rest)
  | 2 =>
    let (algorithm, rest) ← Compression.read rest
    let (size, rest) ← Varint.read Varint.word32 rest
    let (block, rest) ← readBytes rest
    return (.compressed algorithm size.toUInt32 block, rest)
  | _ => throw (.codec .alternative)

def Version.read (input : Bytes) : Except WireError (Version × Bytes) := do
  let (major, rest) ← readByte input
  let (minor, rest) ← readByte rest
  let (patch, rest) ← readByte rest
  return (⟨major, minor, patch⟩, rest)

def Message.read (input : Bytes) : Except WireError (Message × Bytes) := do
  let (version, rest) ← Version.read input
  let (payload, rest) ← Payload.read rest
  return (⟨version, payload⟩, rest)

def Message.decode (input : Bytes) : Except WireError Message :=
  (Message.read input).map (·.1)

end RemoteUsb.Wire
