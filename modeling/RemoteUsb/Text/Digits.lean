/-!
Numbers as text: hexadecimal numerals of a least width, decimal numerals of a least width, and the
reading of signed numerals that must fit 64 bits.
-/
namespace RemoteUsb.Text

/-- The characters with zeros in front up to the given width; longer ones stay as they are. -/
def zeroPad (width : Nat) (cs : List Char) : List Char :=
  List.replicate (width - cs.length) '0' ++ cs

/-- The hexadecimal numeral of a number, in small letters, of at least `width` digits. -/
def hexDigits (width n : Nat) : List Char := zeroPad width (Nat.toDigits 16 n)

/-- `hexDigits` as a string. -/
def hex (width n : Nat) : String := String.ofList (hexDigits width n)

/-- The decimal numeral of a number, of at least `width` digits. -/
def decimal (width n : Nat) : String := String.ofList (zeroPad width (Nat.toDigits 10 n))

/-- The value of one digit, for bases up to sixteen. -/
def digit? (base : Nat) (c : Char) : Option Nat :=
  let n := c.toNat
  let value :=
    if '0'.toNat ≤ n ∧ n ≤ '9'.toNat then some (n - '0'.toNat)
    else if 'a'.toNat ≤ n ∧ n ≤ 'f'.toNat then some (n - 'a'.toNat + 10)
    else if 'A'.toNat ≤ n ∧ n ≤ 'F'.toNat then some (n - 'A'.toNat + 10)
    else none
  value.filter (· < base)

/-- The value of the digits after those already read, whose value is `n`. -/
def readDigits? (base : Nat) : Nat → List Char → Option Nat
  | n, [] => some n
  | n, c :: cs => (digit? base c).bind fun d => readDigits? base (n * base + d) cs

/-- The value of a numeral of one digit or more and nothing else. -/
def readNatural? (base : Nat) : List Char → Option Nat
  | [] => none
  | cs => readDigits? base 0 cs

def readInteger? (base : Nat) : List Char → Option Int
  | '-' :: cs => (readNatural? base cs).map fun n => -(n : Int)
  | '+' :: cs => (readNatural? base cs).map fun n => (n : Int)
  | cs => (readNatural? base cs).map fun n => (n : Int)

/-- The least number that a word of 64 bits with a sign is too short for. -/
def signedBound : Nat := 0x8000000000000000

/-- `readInteger?` for the values of a signed 64-bit word only. -/
def readInt64? (base : Nat) (cs : List Char) : Option Int :=
  (readInteger? base cs).filter fun v => -(signedBound : Int) ≤ v ∧ v < signedBound

end RemoteUsb.Text
