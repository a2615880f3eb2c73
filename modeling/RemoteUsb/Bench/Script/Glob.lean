/-!
Patterns for texts: characters that stand for themselves, for any one, for one of a class, or for any
number of any.
-/
namespace RemoteUsb.Bench.Script

inductive ClassItem where
  | range (low high : UInt8)
  deriving DecidableEq, Repr

def ClassItem.holds (b : UInt8) : ClassItem → Bool
  | .range low high => low ≤ b && b ≤ high

inductive GlobPart where
  | byte (b : UInt8)
  | anyOne
  | anyMany
  | oneOf (items : List ClassItem) (inverse : Bool)
  deriving DecidableEq, Repr

abbrev Glob := List GlobPart

def GlobPart.takes (b : UInt8) : GlobPart → Bool
  | .byte c => b == c
  | .anyOne | .anyMany => true
  | .oneOf items inverse => items.any (·.holds b) != inverse

namespace Glob

def named? (name : List UInt8) : Option (List ClassItem) :=
  let range (low high : Char) : ClassItem := .range low.toNat.toUInt8 high.toNat.toUInt8
  match String.ofList (name.map fun b => Char.ofNat b.toNat) with
  | "digit" => some [range '0' '9']
  | "lower" => some [range 'a' 'z']
  | "upper" => some [range 'A' 'Z']
  | "alpha" => some [range 'a' 'z', range 'A' 'Z']
  | "alnum" => some [range '0' '9', range 'a' 'z', range 'A' 'Z']
  | "xdigit" => some [range '0' '9', range 'a' 'f', range 'A' 'F']
  | "space" => some [.range 0x09 0x0d, .range 0x20 0x20]
  | "blank" => some [.range 0x09 0x09, .range 0x20 0x20]
  | "punct" => some [range '!' '/', range ':' '@', .range 0x5b 0x60, .range 0x7b 0x7e]
  | _ => none

def readNamed? (cs : List (UInt8 × Bool)) : Option (List ClassItem × List (UInt8 × Bool)) :=
  match cs with
  | (0x5b, false) :: (0x3a, false) :: rest =>
    let name := rest.takeWhile (· != (0x3a, false))
    match rest.drop name.length with
    | (0x3a, false) :: (0x5d, false) :: rest => (named? (name.map (·.1))).map (·, rest)
    | _ => none
  | _ => none

/-- The items of a class and what is behind the bracket that ends it. A bracket that is the first thing
in a class does not end it, nor one that stood in quotes; such bytes have a mark. `fuel` is as many
items as there can be. -/
def readItems : Nat → Bool → List (UInt8 × Bool) → Option (List ClassItem × List (UInt8 × Bool))
  | 0, _, _ | _, _, [] => none
  | fuel + 1, first, (b, quoted) :: rest =>
    let more (items : List ClassItem) (rest : List (UInt8 × Bool)) :
        Option (List ClassItem × List (UInt8 × Bool)) :=
      (readItems fuel false rest).map fun (others, rest) => (items ++ others, rest)
    if b = 0x5d && !quoted && !first then some ([], rest)
    else match readNamed? ((b, quoted) :: rest) with
      | some (items, rest) => more items rest
      | none =>
        match rest with
        | (0x2d, false) :: (high, mark) :: behind =>
          if high = 0x5d && !mark then more [.range b b] rest else more [.range b high] behind
        | _ => more [.range b b] rest

def readSet (cs : List (UInt8 × Bool)) : Option (GlobPart × List (UInt8 × Bool)) :=
  let (inverse, cs) := match cs with
    | (0x21, false) :: rest => (true, rest)
    | cs => (false, cs)
  (readItems (cs.length + 1) true cs).map fun (items, rest) => (.oneOf items inverse, rest)

/-- The pattern that bytes are, of which those with a mark stood in quotes and stand for themselves.
`fuel` is as many parts as there can be. -/
def readFor : Nat → List (UInt8 × Bool) → Glob
  | 0, _ | _, [] => []
  | fuel + 1, (b, true) :: rest => .byte b :: readFor fuel rest
  | fuel + 1, (0x2a, false) :: rest => .anyMany :: readFor fuel rest
  | fuel + 1, (0x3f, false) :: rest => .anyOne :: readFor fuel rest
  | fuel + 1, (0x5b, false) :: rest =>
    match readSet rest with
    | some (part, rest) => part :: readFor fuel rest
    | none => .byte 0x5b :: readFor fuel rest
  | fuel + 1, (b, false) :: rest => .byte b :: readFor fuel rest

def read (cs : List (UInt8 × Bool)) : Glob := readFor cs.length cs

def suffixes : List UInt8 → List (List UInt8)
  | [] => [[]]
  | b :: rest => (b :: rest) :: suffixes rest

def rests : Glob → List UInt8 → List (List UInt8)
  | [], text => [text]
  | .anyMany :: glob, text => (suffixes text).flatMap (rests glob)
  | part :: glob, b :: text => if part.takes b then rests glob text else []
  | _ :: _, [] => []

def fits (glob : Glob) (text : List UInt8) : Bool := (rests glob text).any (·.isEmpty)

end Glob
end RemoteUsb.Bench.Script
