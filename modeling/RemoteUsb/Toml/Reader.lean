/-!
Readers of TOML text. A reader takes characters off the front and gives what they mean together with
the rest, or nothing if they do not fit. After a choice that fails, the next one begins where the
first one did.
-/
namespace RemoteUsb.Toml

abbrev Reader := StateT (List Char) Option

namespace Reader

def one (kind : Char → Bool) : Reader Char
  | [] => none
  | c :: rest => if kind c then some (c, rest) else none

def exactly (c : Char) : Reader Unit := discard (one (· == c))

/-- The given characters, one after another. -/
def word (cs : List Char) : Reader Unit := cs.forM exactly

def run (kind : Char → Bool) : Reader (List Char) := fun s => some (s.span kind)

def ending : Reader Unit
  | [] => some ((), [])
  | _ :: _ => none

def optionally {α : Type} (r : Reader α) : Reader (Option α) := (some <$> r) <|> pure none

/-- A part as often as it fits, at most once for each character of the bound. -/
def manyWithin {α : Type} (r : Reader α) : List Char → Reader (List α)
  | [] => pure []
  | _ :: bound => (do return (← r) :: (← manyWithin r bound)) <|> pure []

/-- A part as often as it fits. The part takes at least one character, so that there can be no more of
them than characters. -/
def many {α : Type} (r : Reader α) : Reader (List α) := fun s => manyWithin r s s

/-- One part or more, with separators between them. -/
def separated {α : Type} (r : Reader α) (separator : Reader Unit) : Reader (List α) := do
  return (← r) :: (← many (separator *> r))

end Reader

/-! ## Characters -/

/-- Characters that stand for themselves in comments and texts, quotes and backslashes included: the
tab, and all that are no control characters of ASCII. -/
def isPlain (c : Char) : Bool := c == '\t' || (' ' ≤ c && c != '\x7f')

def isSpace (c : Char) : Bool := c == ' ' || c == '\t'

def spaces : Reader Unit := discard (Reader.run isSpace)

def newline : Reader Unit := Reader.word ['\n'] <|> Reader.word ['\r', '\n']

def comment : Reader Unit := Reader.exactly '#' <* Reader.run isPlain

/-- What may stand behind an expression: blanks, a comment, and the end of the line or of the text. -/
def lineEnd : Reader Unit := do
  spaces
  let _ ← Reader.optionally comment
  newline <|> Reader.ending

/-- Blanks, ends of lines and comments. -/
def gaps : Reader Unit := do
  spaces
  let _ ← Reader.many ((newline <|> comment *> newline) *> spaces)

end RemoteUsb.Toml
