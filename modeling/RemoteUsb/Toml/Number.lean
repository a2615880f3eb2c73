import RemoteUsb.Text.Digits
import RemoteUsb.Toml.Reader

/-!
Numbers in TOML: whole ones in four bases that fit a signed word of 64 bits, and decimal ones that do
not exceed the largest float.
-/
namespace RemoteUsb.Toml

open Reader

def digit (base : Nat) : Reader Char := one fun c => (Text.digit? base c).isSome

/-- Digits, with single underscores allowed between them. -/
def digits (base : Nat) : Reader (List Char) := do
  return (← digit base) :: (← many (optionally (exactly '_') *> digit base))

/-- An optional sign; whether it is a minus. -/
def sign : Reader Bool := do
  return (← optionally (one fun c => c == '+' || c == '-')) == some '-'

def wholeDigits : Reader (List Char) := do
  match ← digits 10 with
  | '0' :: _ :: _ => failure
  | cs => return cs

def significant (cs : List Char) : List Char := cs.dropWhile (· == '0')

/-- The value of a numeral if it is no more than the bound, which is one of 64 bits. -/
def within (base bound : Nat) (cs : List Char) : Reader Nat :=
  if 64 < (significant cs).length then failure
  else match Text.readNatural? base cs with
    | some n => if n ≤ bound then return n else failure
    | none => failure

/-- A numeral of a base that is named in front. It has no sign. -/
def based (letter : Char) (base : Nat) : Reader Int := do
  word ['0', letter]
  return (← within base (Text.signedBound - 1) (← digits base) : Nat)

def integer : Reader Int :=
  based 'x' 16 <|> based 'o' 8 <|> based 'b' 2 <|> do
    if ← sign then return -(← within 10 Text.signedBound (← wholeDigits) : Nat)
    else return (← within 10 (Text.signedBound - 1) (← wholeDigits) : Nat)

/-- The number from which on floats of 64 bits round to infinity. -/
def floatBound : Nat := .pow 2 1024 - .pow 2 970

/-- Whether `digits · 10 ^ exponent` lies below the bound for floats, which has 309 places in front of
the point. -/
def fitsFloat (cs : List Char) (exponent : Int) : Bool :=
  let cs := significant cs
  let places := cs.length + exponent
  if cs.isEmpty || places < 309 then true
  else if 309 < places then false
  else
    let n := (Text.readNatural? 10 cs).getD 0
    match exponent with
    | .ofNat e => n * .pow 10 e < floatBound
    | .negSucc e => n < floatBound * .pow 10 (e + 1)

def fraction : Reader (List Char) := exactly '.' *> digits 10

/-- A power of ten that stands for all that are higher: no number has as many digits to make up for
it. -/
def highestPower : Nat := 1000000000000000000

def exponent : Reader Int := do
  discard (one fun c => c == 'e' || c == 'E')
  let negative ← sign
  let cs := significant (← digits 10)
  let n : Int :=
    if 18 < cs.length then highestPower else (Text.readNatural? 10 cs).getD 0
  return if negative then -n else n

/-- A decimal number with a fraction, an exponent or both. Only numbers that are not negative can be
too large. -/
def decimal : Reader Unit := do
  let negative ← sign
  let whole ← wholeDigits
  let places ← optionally fraction
  let power ← optionally exponent
  if places.isNone && power.isNone then failure
  let places := places.getD []
  if !negative && !fitsFloat (whole ++ places) (power.getD 0 - places.length) then failure

/-- A float. What number it is does not matter to anybody. -/
def float : Reader Unit :=
  decimal <|> discard sign *> (word ['i', 'n', 'f'] <|> word ['n', 'a', 'n'])

end RemoteUsb.Toml
