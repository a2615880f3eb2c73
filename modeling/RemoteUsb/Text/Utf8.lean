/-!
Bytes read as UTF-8. A byte that opens a character says which ranges the bytes behind it must lie in;
the first byte outside its range, or the end of the bytes, makes the character a fault.
-/
namespace RemoteUsb.Text.Utf8

/-- Where bytes stop being UTF-8. `length` counts the bytes of the spoilt character up to the one
that spoils it; it is missing where the bytes end inside a character. -/
structure Fault where
  start : Nat
  length : Option Nat
  deriving DecidableEq, Repr

def Fault.message (fault : Fault) : String :=
  match fault.length with
  | some n => s!"invalid utf-8 sequence of {n} bytes from index {fault.start}"
  | none => s!"incomplete utf-8 byte sequence from index {fault.start}"

structure Range where
  low : UInt8
  high : UInt8
  deriving DecidableEq, Repr

def Range.contains (r : Range) (b : UInt8) : Bool := r.low ≤ b && b ≤ r.high

/-- The bytes that continue a character unless its first byte says more. -/
def tail : Range := ⟨0x80, 0xbf⟩

/-- What the first byte of a character gives to its code point, and the ranges of the bytes behind
it. Longer forms than needed, surrogates and numbers above the last code point are no characters. -/
def opening (b : UInt8) : Option (Nat × List Range) :=
  let n := b.toNat
  if b < 0x80 then some (n, [])
  else if b < 0xc2 then none
  else if b < 0xe0 then some (n - 0xc0, [tail])
  else if b < 0xf0 then
    let second : Range :=
      if b = 0xe0 then ⟨0xa0, 0xbf⟩ else if b = 0xed then ⟨0x80, 0x9f⟩ else tail
    some (n - 0xe0, [second, tail])
  else if b < 0xf5 then
    let second : Range :=
      if b = 0xf0 then ⟨0x90, 0xbf⟩ else if b = 0xf4 then ⟨0x80, 0x8f⟩ else tail
    some (n - 0xf0, [second, tail, tail])
  else none

/-- A character of which some bytes are still to come. -/
structure Partial where
  start : Nat
  /-- How many of its bytes are there. -/
  count : Nat
  value : Nat
  missing : List Range
  deriving DecidableEq, Repr

/-- Takes one more byte, or names the fault. `index` is the place of the byte. -/
def feed (index : Nat) (b : UInt8) : Option Partial → Except Fault Partial
  | none =>
    match opening b with
    | none => .error ⟨index, some 1⟩
    | some (value, missing) => .ok ⟨index, 1, value, missing⟩
  | some p =>
    match p.missing with
    | [] => .ok p
    | range :: missing =>
      if range.contains b then
        .ok { p with count := p.count + 1, value := p.value * 64 + (b.toNat - 0x80), missing }
      else .error ⟨p.start, some p.count⟩

/-- The characters of the bytes from the given place on, behind a character that is not complete. -/
def readFrom (index : Nat) : Option Partial → List UInt8 → Except Fault (List Char)
  | none, [] => .ok []
  | some p, [] => .error ⟨p.start, none⟩
  | pending, b :: rest =>
    match feed index b pending with
    | .error fault => .error fault
    | .ok p =>
      if p.missing.isEmpty then (readFrom (index + 1) none rest).map (Char.ofNat p.value :: ·)
      else readFrom (index + 1) (some p) rest

def decode (bytes : List UInt8) : Except Fault String :=
  (readFrom 0 none bytes).map String.ofList

def encode (s : String) : List UInt8 := s.toUTF8.toList

end RemoteUsb.Text.Utf8
