import RemoteUsb.Wire.Message

/-!
The reading of LZ4 blocks into an output of bounded size.

A block is a row of sequences. Each is a token, whose upper half counts literals and whose lower half
counts the bytes of a match beyond four, with extension bytes after a full half; the literals; and,
unless the block ends here, the distance back to the match in two bytes, the lower first.
-/
namespace RemoteUsb.Lz4

inductive Fault where
  /-- The output has room for `actual` bytes and would need `expected`. -/
  | outputTooSmall (expected actual : Nat)
  /-- The block ends inside the literals. -/
  | literalCut
  /-- The block ends where another byte is due. -/
  | blockCut
  | zeroOffset
  /-- A match starts before the output. -/
  | offsetTooLarge
  deriving DecidableEq, Repr

def Fault.message : Fault → String
  | .outputTooSmall expected actual =>
    s!"provided output is too small for the decompressed data, actual {actual}, expected {expected}"
  | .literalCut => "literal is out of bounds of the input"
  | .blockCut => "expected another byte, found none"
  | .zeroOffset => "0 is not a valid match offset"
  | .offsetTooLarge => "the offset to copy is not contained in the decompressed buffer"

/-- Adds the extension bytes of a length: every one counts, and the first below 255 is the last. -/
def readExtension : Nat → Bytes → Except Fault (Nat × Bytes)
  | _, [] => .error .blockCut
  | n, b :: rest => if b = 255 then readExtension (n + 255) rest else .ok (n + b.toNat, rest)

/-- The length that half a token announces, with the extension bytes of a full half. -/
def readLength (half : Nat) (input : Bytes) : Except Fault (Nat × Bytes) :=
  if half = 15 then readExtension 15 input else .ok (half, input)

/-- Appends `length` bytes, each a copy of the one `offset` places before it, so that a match may
run into its own output. -/
def copyBack (offset : Nat) : Nat → Array UInt8 → Array UInt8
  | 0, out => out
  | length + 1, out => copyBack offset length (out.push (out.getD (out.size - offset) 0))

def readLiterals (size length : Nat) (input : Bytes) (out : Array UInt8) :
    Except Fault (Array UInt8 × Bytes) :=
  let literals := input.take length
  if literals.length < length then .error .literalCut
  else if size < out.size + length then .error (.outputTooSmall (out.size + length) size)
  else .ok (out ++ literals, input.drop length)

/-- Reads the match of a sequence whose token has the given lower half. -/
def readMatch (size half : Nat) (input : Bytes) (out : Array UInt8) :
    Except Fault (Array UInt8 × Bytes) :=
  match input with
  | low :: high :: rest => do
    let offset := low.toNat + 256 * high.toNat
    if offset = 0 then throw .zeroOffset
    let (length, rest) ← readLength half rest
    let length := length + 4
    if size < out.size + length then throw (.outputTooSmall (out.size + length) size)
    if out.size < offset then throw .offsetTooLarge
    return (copyBack offset length out, rest)
  | _ => .error .blockCut

theorem readExtension_shortens {n m : Nat} {input rest : Bytes}
    (h : readExtension n input = .ok (m, rest)) : rest.length < input.length := by
  induction input generalizing n with
  | nil => simp [readExtension] at h
  | cons b bs ih =>
    simp only [readExtension] at h
    split at h
    · exact Nat.lt_succ_of_lt (ih h)
    · cases h; simp

theorem readLength_shortens {half m : Nat} {input rest : Bytes}
    (h : readLength half input = .ok (m, rest)) : rest.length ≤ input.length := by
  simp only [readLength] at h
  split at h
  · exact Nat.le_of_lt (readExtension_shortens h)
  · cases h; exact Nat.le_refl _

theorem readLiterals_shortens {size length : Nat} {input rest : Bytes} {out out' : Array UInt8}
    (h : readLiterals size length input out = .ok (out', rest)) : rest.length ≤ input.length := by
  simp only [readLiterals] at h
  split at h
  · cases h
  · split at h <;> cases h
    simp

theorem readMatch_shortens {size half : Nat} {input rest : Bytes} {out out' : Array UInt8}
    (h : readMatch size half input out = .ok (out', rest)) : rest.length ≤ input.length := by
  unfold readMatch at h
  split at h
  · rename_i low high tail
    simp only [bind, Except.bind, pure, Except.pure, throw, throwThe, MonadExceptOf.throw] at h
    split at h
    · cases h
    · cases hl : readLength half tail with
      | error e => simp [hl] at h
      | ok p =>
        obtain ⟨length, rest'⟩ := p
        simp only [hl] at h
        have := readLength_shortens hl
        split at h
        · cases h
        · split at h <;> cases h
          simp only [List.length_cons]
          omega
  · cases h

/-- Reads one sequence; the rest is missing if the block ended after the literals. -/
def readSequence (size : Nat) (input : Bytes) (out : Array UInt8) :
    Except Fault (Array UInt8 × Option Bytes) :=
  match input with
  | [] => .error .blockCut
  | token :: rest =>
    match readLength (token.toNat / 16) rest with
    | .error e => .error e
    | .ok (length, rest) =>
      match readLiterals size length rest out with
      | .error e => .error e
      | .ok (out, []) => .ok (out, none)
      | .ok (out, rest) =>
        match readMatch size (token.toNat % 16) rest out with
        | .error e => .error e
        | .ok (out, rest) => .ok (out, some rest)

theorem readSequence_shortens {size : Nat} {input rest : Bytes} {out out' : Array UInt8}
    (h : readSequence size input out = .ok (out', some rest)) : rest.length < input.length := by
  unfold readSequence at h
  split at h
  · cases h
  · split at h
    · cases h
    · rename_i hl
      have h1 := readLength_shortens hl
      split at h
      · cases h
      · cases h
      · rename_i hr
        have h2 := readLiterals_shortens hr
        split at h
        · cases h
        · rename_i hm
          have h3 := readMatch_shortens hm
          cases h
          simp only [List.length_cons]
          omega

def readBlock (size : Nat) (input : Bytes) (out : Array UInt8) : Except Fault (Array UInt8) :=
  match _h : readSequence size input out with
  | .error e => .error e
  | .ok (out, none) => .ok out
  | .ok (out, some rest) => readBlock size rest out
termination_by input.length
decreasing_by exact readSequence_shortens _h

/-- The bytes that a block stands for, if they are at most `size`. -/
def decompress (block : Bytes) (size : Nat) : Except Fault Bytes :=
  (readBlock size block #[]).map Array.toList

end RemoteUsb.Lz4
