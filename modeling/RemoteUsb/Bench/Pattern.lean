/-!
Bytes made by a rule, for trying the library with more of them than anybody writes down.
-/
namespace RemoteUsb.Bench

def ramp (modulus count : Nat) : List UInt8 :=
  (List.range count).map fun i => (i % modulus).toUInt8

def nextSeed (x : UInt32) : UInt32 := x * 1103515245 + 12345

def scrambled (seed : UInt32) (count : Nat) : List UInt8 :=
  let step (state : UInt32 × List UInt8) (_ : Nat) : UInt32 × List UInt8 :=
    let x := nextSeed state.1
    (x, (x >>> 16).toUInt8 :: state.2)
  ((List.range count).foldl step (seed, [])).2.reverse

/-- A short number for bytes that are too many to be compared by eye: each byte is mixed into a word of
64 bits, which is then multiplied by a prime. -/
def digest (bytes : List UInt8) : UInt64 :=
  bytes.foldl (fun h b => (h ^^^ b.toUInt64) * 0x100000001b3) 0xcbf29ce484222325

end RemoteUsb.Bench
