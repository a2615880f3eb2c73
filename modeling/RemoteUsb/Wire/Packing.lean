import RemoteUsb.Lz4.Encoder
import RemoteUsb.Wire.Frame

/-!
Data in messages, compressed where that is allowed and pays.
-/
namespace RemoteUsb.Wire

/-- A block that stands for the bytes, as the encoder at hand writes it. -/
def Compression.pack : Compression → Bytes → Bytes
  | .lz4, bytes => Lz4.compress bytes

/-- The bytes that a block stands for. The announced size is judged before the block is looked at,
and the block must stand for exactly that many bytes. -/
def Compression.unpack (algorithm : Compression) (block : Bytes) (size : UInt32) :
    Except WireError Bytes :=
  let size := size.toNat
  if size = 0 then .error .emptyCompressedPayload
  else if frameLimit < size then .error (.payloadTooLarge size frameLimit)
  else
    let unpacked := match algorithm with
      | .lz4 => Lz4.decompress block size
    match unpacked with
    | .error fault => .error (.block fault)
    | .ok bytes =>
      let actual := bytes.length
      if actual = size then .ok bytes else .error (.sizeMismatch size actual)

/-- The message for data on its way out, compressed in a given way. Only data longer than the threshold
is compressed, and only if that makes it shorter. -/
def Payload.outboundBy (pack : Bytes → Bytes) (bytes : Bytes) (threshold : Nat) (mayCompress : Bool) :
    Payload :=
  let size := bytes.length
  if mayCompress && threshold < size && size < UInt32.size then
    let block := pack bytes
    if block.length < size then .compressed .lz4 size.toUInt32 block else .data bytes
  else .data bytes

def Payload.outbound : Bytes → Nat → Bool → Payload := Payload.outboundBy Compression.lz4.pack

end RemoteUsb.Wire
