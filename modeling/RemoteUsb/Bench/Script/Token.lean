import RemoteUsb.Text.Digits

/-!
The words and signs of a helper script.

A script is a text in the command language of the system: words between blanks, quotes that keep
blanks, names and scripts behind a dollar sign, and signs that separate commands or redirect their
output. Reading goes character by character, with the word that is being read as the state.
-/
namespace RemoteUsb.Bench.Script

structure Parameter where
  name : String
  operator : String := ""
  argument : List Char := []
  deriving DecidableEq, Repr

/-- A part of a word. What stands in quotes is never split, and never taken for a keyword or a
pattern. -/
inductive Piece where
  | literal (cs : List Char) (quoted : Bool)
  | parameter (p : Parameter) (quoted : Bool)
  /-- What a script writes. -/
  | output (script : List Char) (quoted : Bool)
  /-- The value of an expression. -/
  | number (expression : List Char) (quoted : Bool)
  deriving DecidableEq, Repr

abbrev Word := List Piece

inductive Flow where
  | truncate
  | append
  /-- To where another output goes. -/
  | same
  | input
  /-- From where another input comes. -/
  | sameInput
  deriving DecidableEq, Repr

inductive Token where
  | word (w : Word)
  /-- A semicolon or the end of a line. -/
  | next
  /-- Two semicolons, which end a choice among several. -/
  | endArm
  | background
  | andThen
  | orElse
  | pipe
  | openGroup
  | closeGroup
  | redirect (source : Option Nat) (flow : Flow)
  deriving DecidableEq, Repr

inductive Quote where
  | none
  | single
  | double
  deriving DecidableEq, Repr

inductive Bracket where
  | brace
  | round
  | backtick
  deriving DecidableEq, Repr

inductive Mode where
  | plain
  | escaped
  | single
  | double
  | doubleEscaped
  | dollar (quoted : Bool)
  | name (cs : List Char) (quoted : Bool)
  /-- In a text that belongs together: how many brackets are open in it, and its characters so far. -/
  | inside (bracket : Bracket) (depth : Nat) (quote : Quote) (escaped : Bool) (cs : List Char)
      (quoted : Bool)
  | comment
  | semicolon
  | ampersand
  | bar
  | greater (source : Option Nat)
  | less (source : Option Nat)
  deriving DecidableEq, Repr

/-- The tokens so far, the last one first, and the pieces of the word that is being read, the last one
first. -/
structure Scan where
  tokens : List Token := []
  word : Option Word := none
  mode : Mode := .plain
  /-- Whether everything belongs to one word, blanks and signs too. -/
  whole : Bool := false
  deriving DecidableEq, Repr

def backtick : Char := '\x60'

def isNameStart (c : Char) : Bool := c.isAlpha || c == '_'

def isNamePart (c : Char) : Bool := isNameStart c || c.isDigit

def isSpecialName (c : Char) : Bool := c.isDigit || "?#@*$!-".toList.contains c

def operators : List String :=
  [":-", ":=", ":+", ":?", "%%", "##", "-", "=", "+", "?", "%", "#"]

def Parameter.read (cs : List Char) : Parameter :=
  match cs with
  | '#' :: c :: rest =>
    if isNamePart c then { name := String.ofList (c :: rest), operator := "length" }
    else { name := "#" }
  | c :: rest =>
    let name := if isNameStart c then cs.takeWhile isNamePart
      else if c.isDigit then cs.takeWhile (·.isDigit) else [c]
    let rest := if name.length = 1 then rest else cs.drop name.length
    match operators.find? fun o => o.toList.isPrefixOf rest with
    | some operator =>
      { name := String.ofList name, operator, argument := rest.drop operator.length }
    | none => { name := String.ofList name }
  | [] => { name := "" }

def Piece.ofInside (bracket : Bracket) (cs : List Char) (quoted : Bool) : Piece :=
  match bracket with
  | .brace => .parameter (.read cs) quoted
  | .backtick => .output cs quoted
  | .round =>
    match cs, cs.getLast? with
    | '(' :: rest, some ')' => .number rest.dropLast quoted
    | _, _ => .output cs quoted

namespace Scan

def push (s : Scan) (c : Char) (quoted : Bool) : Scan :=
  match s.word with
  | some (.literal cs q :: rest) =>
    if q = quoted then { s with word := some (.literal (cs ++ [c]) q :: rest) }
    else { s with word := some (.literal [c] quoted :: .literal cs q :: rest) }
  | some pieces => { s with word := some (.literal [c] quoted :: pieces) }
  | none => { s with word := some [.literal [c] quoted] }

def piece (s : Scan) (p : Piece) : Scan := { s with word := some (p :: s.word.getD []) }

/-- Ends the word, if there is one. -/
def endWord (s : Scan) : Scan :=
  match s.word with
  | some pieces => { s with tokens := .word pieces.reverse :: s.tokens, word := none }
  | none => s

def sign (s : Scan) (t : Token) : Scan :=
  let s := s.endWord
  { s with tokens := t :: s.tokens }

def enter (s : Scan) (mode : Mode) : Scan := { s with mode }

def back (s : Scan) (quoted : Bool) : Scan := s.enter (if quoted then .double else .plain)

/-- Begins a redirection. A word of digits right before the sign is the number of what is
redirected. -/
def redirecting (s : Scan) (mode : Option Nat → Mode) : Scan :=
  match s.word with
  | some [.literal cs false] =>
    match Text.readNatural? 10 cs with
    | some n => { s with word := none, mode := mode (some n) }
    | none => s.endWord.enter (mode none)
  | _ => s.endWord.enter (mode none)

def enclose (s : Scan) (bracket : Bracket) (quoted : Bool) : Scan :=
  s.enter (.inside bracket 0 .none false [] quoted)

def wordChar (s : Scan) (c : Char) : Scan :=
  match c with
  | '\'' => (s.piece (.literal [] true)).enter .single
  | '"' => (s.piece (.literal [] true)).enter .double
  | '\\' => s.enter .escaped
  | '$' => s.enter (.dollar false)
  | _ => if c = backtick then s.enclose .backtick false else s.push c false

def plain (s : Scan) (c : Char) : Scan :=
  let s := s.enter .plain
  if s.whole then s.wordChar c
  else match c with
    | ' ' | '\t' => s.endWord
    | '\n' => s.sign .next
    | ';' => s.endWord.enter .semicolon
    | '(' => s.sign .openGroup
    | ')' => s.sign .closeGroup
    | '&' => s.endWord.enter .ampersand
    | '|' => s.endWord.enter .bar
    | '>' => s.redirecting .greater
    | '<' => s.redirecting .less
    | '#' => if s.word.isSome then s.push c false else s.enter .comment
    | _ => s.wordChar c

def double (s : Scan) (c : Char) : Scan :=
  match c with
  | '"' => s.enter .plain
  | '\\' => s.enter .doubleEscaped
  | '$' => s.enter (.dollar true)
  | _ => if c = backtick then s.enclose .backtick true else (s.push c true).enter .double

def resume (s : Scan) (c : Char) (quoted : Bool) : Scan :=
  if quoted then s.double c else s.plain c

def isProtected (c : Char) : Bool := c == '"' || c == '\\' || c == '$' || c == backtick

def dollar (s : Scan) (c : Char) (quoted : Bool) : Scan :=
  if c = '\x7b' then s.enclose .brace quoted
  else if c = '(' then s.enclose .round quoted
  else if isNameStart c then s.enter (.name [c] quoted)
  else if isSpecialName c then
    (s.piece (.parameter { name := String.singleton c } quoted)).back quoted
  else ((s.push '$' quoted).back quoted).resume c quoted

/-- A character in a text that belongs together, which ends at the bracket that closes it. Brackets
in quotes do not count. -/
def within (s : Scan) (bracket : Bracket) (depth : Nat) (quote : Quote) (escaped : Bool)
    (cs : List Char) (quoted : Bool) (c : Char) : Scan :=
  let goes (depth : Nat) (quote : Quote) (escaped : Bool) : Scan :=
    s.enter (.inside bracket depth quote escaped (cs ++ [c]) quoted)
  let ends : Scan := (s.piece (.ofInside bracket cs quoted)).back quoted
  if bracket = .backtick then
    if escaped then
      let kept := if c = backtick || c = '\\' || c = '$' then cs.dropLast ++ [c] else cs ++ [c]
      s.enter (.inside bracket depth quote false kept quoted)
    else if c = backtick then ends
    else goes depth quote (c == '\\')
  else if escaped then goes depth quote false
  else match quote, c with
    | .single, '\'' => goes depth .none false
    | .single, _ => goes depth .single false
    | .double, '"' => goes depth .none false
    | quote, '\\' => goes depth quote true
    | .double, _ => goes depth .double false
    | .none, '\'' => goes depth .single false
    | .none, '"' => goes depth .double false
    | .none, c =>
      let opening := if bracket = .brace then '\x7b' else '('
      let closing := if bracket = .brace then '\x7d' else ')'
      if c = opening then goes (depth + 1) .none false
      else if c = closing then if depth = 0 then ends else goes (depth - 1) .none false
      else goes depth .none false

def step (s : Scan) (c : Char) : Scan :=
  match s.mode with
  | .plain => s.plain c
  | .escaped => if c = '\n' then s.enter .plain else (s.push c true).enter .plain
  | .single => if c = '\'' then s.enter .plain else s.push c true
  | .double => s.double c
  | .doubleEscaped =>
    if c = '\n' then s.enter .double
    else if isProtected c then (s.push c true).enter .double
    else ((s.push '\\' true).push c true).enter .double
  | .dollar quoted => s.dollar c quoted
  | .name cs quoted =>
    if isNamePart c then s.enter (.name (cs ++ [c]) quoted)
    else ((s.piece (.parameter { name := String.ofList cs } quoted)).back quoted).resume c quoted
  | .inside bracket depth quote escaped cs quoted => s.within bracket depth quote escaped cs quoted c
  | .comment => if c = '\n' then (s.enter .plain).sign .next else s
  | .semicolon =>
    if c = ';' then (s.enter .plain).sign .endArm else ((s.enter .plain).sign .next).plain c
  | .ampersand =>
    if c = '&' then (s.enter .plain).sign .andThen
    else ((s.enter .plain).sign .background).plain c
  | .bar => if c = '|' then (s.enter .plain).sign .orElse else ((s.enter .plain).sign .pipe).plain c
  | .greater source =>
    if c = '>' then (s.enter .plain).sign (.redirect source .append)
    else if c = '&' then (s.enter .plain).sign (.redirect source .same)
    else if c = '|' then (s.enter .plain).sign (.redirect source .truncate)
    else ((s.enter .plain).sign (.redirect source .truncate)).plain c
  | .less source =>
    if c = '&' then (s.enter .plain).sign (.redirect source .sameInput)
    else ((s.enter .plain).sign (.redirect source .input)).plain c

/-- Ends what is being read; nothing if quotes or brackets are open. -/
def finish? (s : Scan) : Option (List Token) :=
  let s? : Option Scan := match s.mode with
    | .single | .double | .doubleEscaped | .inside .. => none
    | .name cs quoted =>
      if quoted then none else some (s.piece (.parameter { name := String.ofList cs } quoted))
    | .dollar quoted => if quoted then none else some (s.push '$' quoted)
    | .escaped => some (s.push '\\' true)
    | .semicolon => some (s.sign .next)
    | .ampersand => some (s.sign .background)
    | .bar => some (s.sign .pipe)
    | .greater source => some (s.sign (.redirect source .truncate))
    | .less source => some (s.sign (.redirect source .input))
    | .plain | .comment => some s
  s?.map fun s => s.endWord.tokens.reverse

end Scan

/-- The tokens of a script; nothing if quotes or brackets are left open. -/
def tokens? (script : List Char) : Option (List Token) := (script.foldl Scan.step {}).finish?

def Word.ofText (cs : List Char) : Word :=
  match (cs.foldl Scan.step { whole := true }).finish? with
  | some (.word w :: _) => w
  | _ => []

end RemoteUsb.Bench.Script
