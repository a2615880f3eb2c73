import RemoteUsb.Text.Range

/-!
Blank characters, and texts without the blanks around them.
-/
namespace RemoteUsb.Text

/-- The characters with the Unicode property White_Space. -/
def blankRanges : List CodeRange :=
  [(0x09, 0x0d), (0x20, 0x20), (0x85, 0x85), (0xa0, 0xa0), (0x1680, 0x1680), (0x2000, 0x200a),
    (0x2028, 0x2029), (0x202f, 0x202f), (0x205f, 0x205f), (0x3000, 0x3000)]

/-- Whether a character has the property White_Space. -/
def isBlank (c : Char) : Bool := inRanges blankRanges c

/-- Drops the blanks at both ends and keeps those between other characters. -/
def strip (cs : List Char) : List Char :=
  ((cs.dropWhile isBlank).reverse.dropWhile isBlank).reverse

def trim (s : String) : String := String.ofList (strip s.toList)

end RemoteUsb.Text
