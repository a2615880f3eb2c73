import RemoteUsb.Wire.Error

/-!
Numbers of variable length: seven bits to a byte, the lowest first, with the top bit set in every
byte but the last.
-/
namespace RemoteUsb.Wire.Varint

def write (n : Nat) : Bytes :=
  if n < 128 then [n.toUInt8] else (n % 128 + 128).toUInt8 :: write (n / 128)

/-- The bounds of a type of numbers: how many bytes it may take, and what the last of that many may
hold. Zero groups may pad a number up to that. -/
structure Width where
  count : Nat
  last : UInt8
  deriving DecidableEq, Repr

def word32 : Width := ⟨5, 0x0f⟩

def word64 : Width := ⟨10, 0x01⟩

/-- Reads a number of which at most `left` bytes are still to come, the last of them at most
`last`. -/
def readGroups (last : UInt8) : Nat → Bytes → Except WireError (Nat × Bytes)
  | 0, _ => .error (.codec .varint)
  | _ + 1, [] => .error (.codec .cut)
  | left + 1, b :: rest =>
    if b < 128 then
      if left = 0 ∧ last < b then .error (.codec .varint) else .ok (b.toNat, rest)
    else do
      let (high, rest) ← readGroups last left rest
      return (b.toNat - 128 + 128 * high, rest)

def read (w : Width) (input : Bytes) : Except WireError (Nat × Bytes) :=
  readGroups w.last w.count input

end RemoteUsb.Wire.Varint
