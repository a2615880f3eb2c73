import RemoteUsb.Text.Digits

/-!
Bytes as text: two hexadecimal digits for each.
-/
namespace RemoteUsb.Text

/-- The digits of bytes, in small letters. -/
def writeHex (bytes : List UInt8) : String :=
  String.ofList (bytes.flatMap fun b => hexDigits 2 b.toNat)

def bytesOfDigits? : List Char → Option (List UInt8)
  | [] => some []
  | high :: low :: rest => do
    let byte := (← digit? 16 high) * 16 + (← digit? 16 low)
    return byte.toUInt8 :: (← bytesOfDigits? rest)
  | [_] => none

def readHex? (s : String) : Option (List UInt8) := bytesOfDigits? s.toList

end RemoteUsb.Text
