import RemoteUsb.Text.Blank
import RemoteUsb.Text.Digits
import RemoteUsb.Text.Letter

/-!
Regular expressions for the values of fields. They are run by automata that know the classes and cases
of ASCII only. Here it is decided which of them are valid: those that can be read, that are not nested
too deeply, that need nothing an automaton does not know, and that match nothing but text.
-/
namespace RemoteUsb.Logging.Pattern

structure Flags where
  /-- Blanks and comments do not count. -/
  spaced : Bool := false
  /-- Letters match in either case. -/
  folded : Bool := false
  /-- Characters are matched, and not bytes. -/
  unicode : Bool := true
  deriving DecidableEq, Repr

def skipBlanks (inComment : Bool) : List Char → List Char
  | [] => []
  | c :: rest =>
    if inComment then skipBlanks (c != '\n') rest
    else if Text.isBlank c then skipBlanks false rest
    else if c = '#' then skipBlanks true rest
    else c :: rest

def Flags.skip (f : Flags) (cs : List Char) : List Char :=
  if f.spaced then skipBlanks false cs else cs

/-- The next character that counts. Of a comment the first character does. -/
def Flags.peek? (f : Flags) (cs : List Char) : Option Char :=
  if f.spaced then
    match cs.dropWhile Text.isBlank with
    | '#' :: rest => (rest.dropWhile Text.isBlank).head?
    | rest => rest.head?
  else cs.head?

/-! ## Single characters -/

/-- What a backslash and the characters behind it stand for. -/
inductive Escape where
  /-- A character; `byte` if it was given as the number of a byte. -/
  | literal (c : Char) (byte : Bool)
  /-- A class of characters. -/
  | chars
  /-- A condition on a place in the text. -/
  | place
  deriving DecidableEq, Repr

/-- Whether a character may stand for itself. Cases are not known where characters are matched, and a
byte alone must be a character. -/
def Flags.allows (f : Flags) (c : Char) (byte : Bool) : Bool :=
  if f.unicode then !f.folded else !byte || c.toNat < 0x80

def Flags.allowsInClass (f : Flags) (c : Char) (byte : Bool) : Bool :=
  f.allows c byte && (f.unicode || c.toNat < 0x80)

/-- Reads hexadecimal digits, behind a number. -/
def readHex? (f : Flags) : Nat → Nat → List Char → Option (Nat × List Char)
  | 0, n, cs => some (n, cs)
  | _ + 1, _, [] => none
  | count + 1, n, c :: rest =>
    (Text.digit? 16 c).bind fun d => readHex? f count (n * 16 + d) (f.skip rest)

def hexCount? : Char → Option Nat
  | 'x' => some 2
  | 'u' => some 4
  | 'U' => some 8
  | _ => none

/-- Reads what stands behind a backslash. Classes and words are known for bytes only, and only those
classes are text that are not negated. -/
def readEscape? (f : Flags) : List Char → Option (Escape × List Char)
  | [] => none
  | c :: rest =>
    match hexCount? c with
    | some count => do
      let (n, rest) ← readHex? f count 0 (f.skip rest)
      if n.isValidChar then some (.literal (Char.ofNat n) (count == 2), rest) else none
    | none =>
      if "afnrtv".toList.contains c then some (.literal c false, rest)
      else if "Az".toList.contains c then some (.place, rest)
      else if "bB<>".toList.contains c then if f.unicode then none else some (.place, rest)
      else if "dsw".toList.contains c then if f.unicode then none else some (.chars, rest)
      else if c.isAlphanum || 0x80 ≤ c.toNat then none
      else some (.literal c false, rest)

/-! ## Classes -/

/-- Parts next to each other: how many there are and how deep the deepest is. -/
structure Row where
  count : Nat := 0
  deepest : Nat := 0
  deriving DecidableEq, Repr

namespace Row

def add (r : Row) (depth : Nat) : Row := ⟨r.count + 1, max r.deepest depth⟩

/-- Several parts are one level deeper than the deepest of them. -/
def depth (r : Row) : Nat := if r.count ≤ 1 then r.deepest else r.deepest + 1

end Row

/-- Reads one end of a range, or what stands alone in a class: a character, or a class. -/
def readItem? (f : Flags) : List Char → Option (Option Char × List Char)
  | [] => none
  | '\\' :: rest =>
    match readEscape? f rest with
    | some (.literal c byte, rest) => if f.allowsInClass c byte then some (some c, rest) else none
    | some (.chars, rest) => some (none, rest)
    | _ => none
  | c :: rest => if f.allowsInClass c false then some (some c, rest) else none

/-- Reads a range or a single item of a class. A hyphen in front of the end of the class or of another
hyphen makes no range. -/
def readRange? (f : Flags) (cs : List Char) : Option (List Char) := do
  let (low, rest) ← readItem? f cs
  match f.skip rest with
  | [] => none
  | '-' :: more =>
    let next := f.peek? more
    if next = some ']' ∨ next = some '-' then some ('-' :: more)
    else
      let (high, rest) ← readItem? f (f.skip more)
      if (← low) ≤ (← high) then some rest else none
  | rest => some rest

def classNames : List String :=
  ["alnum", "alpha", "ascii", "blank", "cntrl", "digit", "graph", "lower", "print", "punct", "space",
    "upper", "word", "xdigit"]

/-- Reads a class by its name, behind the bracket; answers whether it is negated. -/
def readNamed? : List Char → Option (Bool × List Char)
  | ':' :: rest =>
    let (negated, rest) := match rest with
      | '^' :: rest => (true, rest)
      | rest => (false, rest)
    let name := rest.takeWhile (· != ':')
    match rest.drop name.length with
    | ':' :: ']' :: rest =>
      if classNames.contains (String.ofList name) then some (negated, rest) else none
    | _ => none
  | _ => none

/-- Reads hyphens in front of a class, which stand for themselves; at most as many as the bound has
characters. -/
def readHyphens (f : Flags) : List Char → Row → List Char → Row × List Char
  | _ :: bound, row, '-' :: rest => readHyphens f bound (row.add 0) (f.skip rest)
  | _, row, cs => (row, cs)

/-- Reads the beginning of a class, behind its bracket: the sign of negation, hyphens, and a closing
bracket that stands for itself. What a negated class of bytes matches is no text. -/
def openClass? (f : Flags) (cs : List Char) : Option (Row × List Char) :=
  let cs := f.skip cs
  let (negated, cs) := match cs with
    | '^' :: rest => (true, f.skip rest)
    | cs => (false, cs)
  let (row, cs) := readHyphens f cs {} cs
  if negated && !f.unicode || row.count != 0 && !f.allows '-' false then none
  else match cs with
    | ']' :: rest =>
      if row.count ≠ 0 then some (row, cs)
      else if f.allows ']' false then some (row.add 0, f.skip rest)
      else none
    | cs => some (row, cs)

/-- Reads a class to its end, behind operands of which `left` is the depth and items that are `row`;
answers the depth. -/
def readClass? (f : Flags) : Nat → Option Nat → Row → List Char → Option (Nat × List Char)
  | 0, _, _, _ => none
  | fuel + 1, left, row, cs =>
    let depth := match left with
      | none => row.depth
      | some left => max left row.depth + 1
    match f.skip cs with
    | [] => none
    | ']' :: rest => some (depth, rest)
    | '&' :: '&' :: rest => readClass? f fuel (some depth) {} rest
    | '-' :: '-' :: rest => readClass? f fuel (some depth) {} rest
    | '~' :: '~' :: rest => readClass? f fuel (some depth) {} rest
    | '[' :: rest =>
      match readNamed? rest with
      | some (negated, rest) =>
        if f.allows 'a' false && (f.unicode || !negated) then
          readClass? f fuel left (row.add 0) rest
        else none
      | none => do
        let (inner, rest) ← openClass? f rest
        let (depth, rest) ← readClass? f fuel none inner rest
        readClass? f fuel left (row.add (depth + 1)) rest
    | cs => do readClass? f fuel left (row.add 0) (← readRange? f cs)

/-! ## Groups -/

def flagLetters : List Char := "imsUuRx".toList

def Flags.set (f : Flags) (letter : Char) (value : Bool) : Flags :=
  match letter with
  | 'i' => { f with folded := value }
  | 'u' => { f with unicode := value }
  | 'x' => { f with spaced := value }
  | _ => f

/-- Reads flags up to the sign behind them; answers that sign. Each flag may stand once, and so may the
hyphen in front of those that are turned off, which must not be the last. -/
def readFlags? (f : Flags) (seen : List Char) : List Char → Option (Flags × Char × List Char)
  | [] => none
  | c :: rest =>
    if c = ':' ∨ c = ')' then
      if seen.head? = some '-' then none else some (f, c, rest)
    else if seen.contains c then none
    else if c = '-' then readFlags? f (c :: seen) rest
    else if flagLetters.contains c then readFlags? (f.set c (!seen.contains '-')) (c :: seen) rest
    else none

def isNameChar (first : Bool) (c : Char) : Bool :=
  c == '_' || Text.isLetter c || !first && (Text.isNumber c || ['.', '[', ']'].contains c)

inductive Opening where
  /-- Flags for the rest of the group around. -/
  | flags (f : Flags)
  | group (f : Flags) (name : Option (List Char))

def readName? (f : Flags) (cs : List Char) : Option (Opening × List Char) :=
  let name := cs.takeWhile (· != '>')
  match cs.drop name.length with
  | '>' :: rest =>
    if name.head?.any (isNameChar true) && name.tail.all (isNameChar false) then
      some (.group f (some name), rest)
    else none
  | _ => none

/-- Reads the beginning of a group, behind its bracket. Conditions on the text around are not known. -/
def readOpening? (f : Flags) : List Char → Option (Opening × List Char)
  | '?' :: 'P' :: '<' :: rest => readName? f rest
  | '?' :: '<' :: '=' :: _ => none
  | '?' :: '<' :: '!' :: _ => none
  | '?' :: '<' :: rest => readName? f rest
  | '?' :: ')' :: _ => none
  | '?' :: rest => do
    let (inner, sign, rest) ← readFlags? f [] rest
    return (if sign = ':' then .group inner none else .flags inner, rest)
  | rest => some (.group f none, rest)

/-! ## Expressions -/

structure Part where
  depth : Nat
  /-- Whether it may be repeated; flags may not. -/
  repeatable : Bool

def readAtom? (f : Flags) : List Char → Option (List Char)
  | [] => none
  | '\\' :: rest =>
    match readEscape? f rest with
    | some (.literal c byte, rest) => if f.allows c byte then some rest else none
    | some (_, rest) => some rest
    | none => none
  | '.' :: rest => if f.unicode then some rest else none
  | '^' :: rest => some rest
  | '$' :: rest => some rest
  | c :: rest => if f.allows c false then some rest else none

/-- Reads an expression up to a closing bracket or the end: `branches` were read before the last bar,
and `before` and `last` behind it. `names` are taken. Answers the depth, the names that are taken then,
and the rest. A counted repetition never closes, since a closing brace ends the field. -/
def readParts? : Nat → Flags → List (List Char) → Row → Row → Option Part → List Char →
    Option (Nat × List (List Char) × List Char)
  | 0, _, _, _, _, _, _ => none
  | fuel + 1, f, names, branches, before, last, cs =>
    let row := match last with
      | none => before
      | some part => before.add part.depth
    let depth := (branches.add row.depth).depth
    match f.skip cs with
    | [] => some (depth, names, [])
    | ')' :: rest => some (depth, names, ')' :: rest)
    | '|' :: rest => readParts? fuel f names (branches.add row.depth) {} none rest
    | '(' :: rest => do
      match ← readOpening? f (f.skip rest) with
      | (.flags f, rest) => readParts? fuel f names branches row (some ⟨0, false⟩) rest
      | (.group inner name, rest) =>
        if name.any names.contains then none
        else
          let (depth, names, rest) ← readParts? fuel inner (name.toList ++ names) {} {} none rest
          match rest with
          | ')' :: rest => readParts? fuel f names branches row (some ⟨depth + 1, true⟩) rest
          | _ => none
    | '[' :: rest => do
      let (inner, rest) ← openClass? f rest
      let (depth, rest) ← readClass? f fuel none inner rest
      readParts? fuel f names branches row (some ⟨depth + 1, true⟩) rest
    | c :: rest =>
      if ['?', '*', '+'].contains c then
        match last with
        | some ⟨depth, true⟩ =>
          let rest := if rest.head? = some '?' then rest.tail else rest
          readParts? fuel f names branches before (some ⟨depth + 1, true⟩) rest
        | _ => none
      else if c = '\x7b' then none
      else do readParts? fuel f names branches row (some ⟨0, true⟩) (← readAtom? f (c :: rest))

def depthLimit : Nat := 250

/-- Whether a text without braces that close is a valid expression. -/
def isValid (cs : List Char) : Bool :=
  match readParts? (cs.length + 1) {} [] {} {} none cs with
  | some (depth, _, []) => depth ≤ depthLimit
  | _ => false

end RemoteUsb.Logging.Pattern
