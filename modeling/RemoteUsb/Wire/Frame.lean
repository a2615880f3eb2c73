import RemoteUsb.Wire.Codec

/-!
Frames: messages behind their length in four bytes, the highest first, of bounded size.
-/
namespace RemoteUsb.Wire

/-- The largest message that a frame may hold, and the largest payload that may be unpacked. -/
def frameLimit : Nat := 4 * 1024 * 1024

/-- A number below 2³² in four bytes, the highest first. -/
def writeWord (n : Nat) : Bytes :=
  [(n / 16777216).toUInt8, (n / 65536 % 256).toUInt8, (n / 256 % 256).toUInt8, (n % 256).toUInt8]

/-- The number that bytes denote, the highest first. -/
def readWord (bytes : Bytes) : Nat := bytes.foldl (fun n b => n * 256 + b.toNat) 0

def checkLength (length : Nat) : Except WireError Unit :=
  if frameLimit < length then .error (.frameTooLarge length frameLimit) else .ok ()

/-- The frame of a message, if the message is not too large for one. -/
def Message.frame (m : Message) : Except WireError Bytes := do
  let body := m.write
  let length := body.length
  checkLength length
  return writeWord length ++ body

/-- The message in the frame that the bytes begin with. The length is judged before the bytes behind
it are looked at. -/
def Message.unframe (input : Bytes) : Except WireError Message := do
  let start := input.take 4
  if start.length < 4 then throw (.incompleteFrame 4 input.length)
  let length := readWord start
  checkLength length
  let body := (input.drop 4).take length
  if body.length < length then throw (.incompleteFrame (4 + length) input.length)
  Message.decode body

/-- Refuses messages of versions that this library does not understand. -/
def Version.validate (v : Version) : Except WireError Unit :=
  if v.isCompatible then .ok () else .error (.incompatibleVersion v)

end RemoteUsb.Wire
