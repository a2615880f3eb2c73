import RemoteUsb.Text.Digits

/-!
Lengths of time as text: a decimal number of the largest unit that gives at least one, with as many
places as are needed.
-/
namespace RemoteUsb.Text

/-- A length of time in seconds and billionths of a second. -/
structure Span where
  seconds : Nat
  nanoseconds : Nat
  deriving DecidableEq, Repr

/-- The places behind the point for a fraction of `10 ^ width`, without zeros at the end. -/
def fractionDigits (width n : Nat) : List Char :=
  ((zeroPad width (Nat.toDigits 10 n)).reverse.dropWhile (· == '0')).reverse

/-- A number of units and a fraction of `10 ^ width`. -/
def decimalFraction (whole width fraction : Nat) : String :=
  if fraction = 0 then s!"{whole}"
  else s!"{whole}." ++ String.ofList (fractionDigits width fraction)

/-- The text of a length of time, in seconds, milliseconds, microseconds or nanoseconds. -/
def Span.text (t : Span) : String :=
  let seconds := t.seconds + t.nanoseconds / 1000000000
  let rest := t.nanoseconds % 1000000000
  if 0 < seconds then decimalFraction seconds 9 rest ++ "s"
  else if 1000000 ≤ rest then decimalFraction (rest / 1000000) 6 (rest % 1000000) ++ "ms"
  else if 1000 ≤ rest then decimalFraction (rest / 1000) 3 (rest % 1000) ++ "µs"
  else s!"{rest}ns"

def timeoutMessage (t : Span) : String := s!"Test timed out after {t.text}"

end RemoteUsb.Text
