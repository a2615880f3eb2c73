import RemoteUsb.Text.Digits
import RemoteUsb.Toml.Reader

/-!
Moments in TOML: days, times of day, and both together with or without an offset.
-/
namespace RemoteUsb.Toml

open Reader

def fixed (width low high : Nat) : Reader Nat := do
  let cs ← (List.replicate width ()).mapM fun _ => one fun c => (Text.digit? 10 c).isSome
  let n := (Text.readNatural? 10 cs).getD 0
  if low ≤ n ∧ n ≤ high then return n else failure

def isLeapYear (year : Nat) : Bool := year % 4 == 0 && (year % 100 != 0 || year % 400 == 0)

def daysIn (year month : Nat) : Nat :=
  if month = 2 then if isLeapYear year then 29 else 28
  else if month = 4 ∨ month = 6 ∨ month = 9 ∨ month = 11 then 30
  else 31

def day : Reader Unit := do
  let year ← fixed 4 0 9999
  exactly '-'
  let month ← fixed 2 1 12
  exactly '-'
  discard (fixed 2 1 (daysIn year month))

def clock : Reader Unit := do
  discard (fixed 2 0 23)
  exactly ':'
  discard (fixed 2 0 59)

/-- A time of day; the second may be a leap second. -/
def timeOfDay : Reader Unit := do
  clock
  exactly ':'
  discard (fixed 2 0 60)
  discard (optionally (exactly '.' *> fixed 1 0 9 <* run fun c => (Text.digit? 10 c).isSome))

def offset : Reader Unit :=
  discard (one fun c => c == 'Z' || c == 'z') <|>
    discard (one fun c => c == '+' || c == '-') *> clock

/-- A moment. Which one it is does not matter to anybody. -/
def moment : Reader Unit :=
  (do
    day
    discard (optionally (do
      discard (one fun c => c == 'T' || c == 't' || c == ' ')
      timeOfDay
      discard (optionally offset)))) <|> timeOfDay

end RemoteUsb.Toml
