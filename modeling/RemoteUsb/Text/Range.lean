/-!
Classes of characters, given by rows of code points.
-/
namespace RemoteUsb.Text

/-- The first and the last code point of a row of characters. -/
abbrev CodeRange := Nat × Nat

def inRanges (ranges : List CodeRange) (c : Char) : Bool :=
  ranges.any fun (first, last) => first ≤ c.toNat && c.toNat ≤ last

end RemoteUsb.Text
