import RemoteUsb.Lz4.Block
import Std.Data.HashMap

/-!
The writing of LZ4 blocks. The format leaves it to an encoder which matches it takes, and so how long its
blocks are; this is one encoder, which can be run. In it, matches are looked up by their first four bytes
and measured by comparing bytes, and the end of the block is left to literals as the format asks: a match
starts at least twelve bytes before the end and stops at least five bytes before it.
-/
namespace RemoteUsb.Lz4

/-- The extension bytes of a length that fills its half of the token. -/
def writeExtension (n : Nat) : Bytes :=
  List.replicate (n / 255) 255 ++ [(n % 255).toUInt8]

/-- The half of the token for a length, and its extension bytes. -/
def writeLength (n : Nat) : Nat × Bytes :=
  if n < 15 then (n, []) else (15, writeExtension (n - 15))

/-- A sequence that ends in a match of four bytes or more. -/
structure Sequence where
  literals : Bytes
  offset : Nat
  length : Nat
  deriving DecidableEq, Repr

def Sequence.write (s : Sequence) : Bytes :=
  let (high, more) := writeLength s.literals.length
  let (low, extra) := writeLength (s.length - 4)
  (high * 16 + low).toUInt8 :: (more ++ (s.literals ++
    ((s.offset % 256).toUInt8 :: (s.offset / 256).toUInt8 :: extra)))

/-- The last sequence of a block, which is literals only. -/
def writeLast (literals : Bytes) : Bytes :=
  let (high, more) := writeLength literals.length
  (high * 16).toUInt8 :: (more ++ literals)

/-- How many of the bytes from `i` on equal those from `j` on; `k` of them are known to, and none
from `limit` on are looked at. -/
def commonLength (data : Array UInt8) (j i limit k : Nat) : Nat :=
  if i + k < limit ∧ data.getD (j + k) 0 = data.getD (i + k) 0 then
    commonLength data j i limit (k + 1)
  else k
termination_by limit - (i + k)

/-- The four bytes from `i` on as one number. -/
def wordAt (data : Array UInt8) (i : Nat) : UInt32 :=
  (data.getD i 0).toUInt32 ||| ((data.getD (i + 1) 0).toUInt32 <<< 8) |||
    ((data.getD (i + 2) 0).toUInt32 <<< 16) ||| ((data.getD (i + 3) 0).toUInt32 <<< 24)

/-- The latest place at which each word was seen. -/
abbrev Places := Std.HashMap UInt32 Nat

/-- How far the match of the bytes from `i` on with those from `j` on goes beyond four bytes; nothing
if it may not be used because it is too far back or too short. -/
def measureMatch? (data : Array UInt8) (j i : Nat) : Option Nat :=
  if j < i ∧ i - j ≤ 65535 then
    let length := commonLength data j i (data.size - 5) 0
    if 4 ≤ length then some (length - 4) else none
  else none

/-- The sequences that cover the data from `start` on, behind those found already; bytes from
`start` to `i` are literals so far. The second answer is where the last literals begin. -/
def findSequences (data : Array UInt8) (places : Places) (start i : Nat) (found : Array Sequence) :
    Array Sequence × Nat :=
  if i + 12 ≤ data.size then
    let word := wordAt data i
    let earlier := places.get? word
    let later := places.insert word i
    match earlier with
    | none => findSequences data later start (i + 1) found
    | some j =>
      match measureMatch? data j i with
      | none => findSequences data later start (i + 1) found
      | some beyond =>
        let length := beyond + 4
        let literals := (data.extract start i).toList
        findSequences data later (i + length) (i + length)
          (found.push { literals, offset := i - j, length })
  else (found, start)
termination_by data.size - i

/-- A block that stands for the bytes, one of many. -/
def compress (bytes : Bytes) : Bytes :=
  let data := bytes.toArray
  let (sequences, start) := findSequences data {} 0 0 #[]
  sequences.toList.flatMap Sequence.write ++ writeLast (data.extract start data.size).toList

end RemoteUsb.Lz4
