import RemoteUsb.Toml.Moment
import RemoteUsb.Toml.Number
import RemoteUsb.Toml.Quoted
import RemoteUsb.Toml.Tree

/-!
Whole TOML texts: lines with values under keys, and headers that open tables.
-/
namespace RemoteUsb.Toml

open Reader

/-- Arrays and tables between braces may stand this deep in each other, less one; so many parts may a
key have, less one. -/
def depthLimit : Nat := 80

/-! ## Keys and values -/

def isBare (c : Char) : Bool := c.isAlphanum || c == '_' || c == '-'

def simpleKey : Reader String := do
  let bare : Reader (List Char) := do return (← one isBare) :: (← run isBare)
  return String.ofList (← quoted <|> literal <|> bare)

def key : Reader (List String) := do
  let path ← separated (spaces *> simpleKey <* spaces) (exactly '.')
  if path.length < depthLimit then return path else failure

/-- A value under a key, without what stands behind it. -/
def pair (value : Reader Value) : Reader (List String × Value) := do
  let path ← key
  exactly '='
  spaces
  return (path, ← value)

def array (value : Reader Value) : Reader Value := do
  exactly '['
  let items ← optionally (separated (gaps *> value <* gaps) (exactly ',') <*
    optionally (exactly ','))
  gaps
  exactly ']'
  return .array (items.getD [])

/-- A table between braces. All of it stands in one line. -/
def inline (value : Reader Value) : Reader Value := do
  exactly '\x7b'
  let pairs ← optionally (separated (pair value <* spaces) (exactly ','))
  spaces
  exactly '\x7d'
  match Entries.fill [] (pairs.getD []) with
  | some entries => return .inline entries
  | none => failure

def scalar : Reader Value :=
  .text <$> text <|> (fun _ => .boolean true) <$> word "true".toList <|>
    (fun _ => .boolean false) <$> word "false".toList <|> (fun _ => .moment) <$> moment <|>
    (fun _ => .float) <$> float <|> .integer <$> integer

/-- A value, with arrays and tables between braces at most so deep in each other. -/
def value : Nat → Reader Value
  | 0 => scalar
  | depth + 1 => scalar <|> array (value depth) <|> inline (value depth)

/-! ## Lines -/

inductive Line where
  | blank
  | pair (path : List String) (value : Value)
  /-- The header of a table, or of one more table of its name. -/
  | header (more : Bool) (path : List String)

def header : Reader Line :=
  (do
    word ['[', '[']
    let path ← key
    word [']', ']']
    return .header true path) <|>
  (do
    exactly '['
    let path ← key
    exactly ']'
    return .header false path)

def line : Reader Line :=
  (fun _ => .blank) <$> (comment *> (newline <|> ending)) <|> (fun _ => .blank) <$> newline <|>
    header <* lineEnd <|>
    (do
      let (path, v) ← pair (value (depthLimit - 1))
      return .pair path v) <* lineEnd

/-- All lines of a text. A mark of the byte order in front does not count. -/
def lines : Reader (List Line) := do
  let _ ← optionally (exactly '\ufeff')
  spaces
  many (line <* spaces) <* ending

/-! ## Tables -/

/-- A header with the pairs up to the next one. -/
structure Part where
  more : Bool
  path : List String
  pairs : Pairs

/-- The pairs in front of all headers, and the headers with theirs. -/
def partsOf : List Line → Pairs × List Part
  | [] => ([], [])
  | .blank :: rest => partsOf rest
  | .pair path v :: rest =>
    let (pairs, parts) := partsOf rest
    ((path, v) :: pairs, parts)
  | .header more path :: rest =>
    let (pairs, parts) := partsOf rest
    ([], { more, path, pairs } :: parts)

def Entries.addPart (entries : Entries) (part : Part) : Option Entries :=
  if part.more then entries.addTable part.path part.pairs
  else entries.openTable part.path part.pairs

/-- The tree of a text; nothing if it is no TOML. -/
def parse? (s : String) : Option Entries := do
  let (found, _) ← lines s.toList
  let (pairs, parts) := partsOf found
  parts.foldlM Entries.addPart (← Entries.fill [] pairs)

end RemoteUsb.Toml
