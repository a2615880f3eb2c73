import RemoteUsb.Text.Digits
import RemoteUsb.Toml.Reader

/-!
Texts in TOML: between quotes with escapes, between apostrophes without, and both over several lines
between three of them. Texts are written between quotes.
-/
namespace RemoteUsb.Toml

open Reader

/-! ## Reading -/

/-- The character with the code point that so many hexadecimal digits denote. -/
def codePoint (digits : Nat) : Reader Char := do
  let cs ← (List.replicate digits ()).mapM fun _ => one fun c => (Text.digit? 16 c).isSome
  let n := (Text.readNatural? 16 cs).getD 0
  if n.isValidChar then return .ofNat n else failure

def escape : Reader Char := do
  match ← one fun _ => true with
  | 'b' => return '\x08'
  | 't' => return '\t'
  | 'n' => return '\n'
  | 'f' => return '\x0c'
  | 'r' => return '\r'
  | '"' => return '"'
  | '\\' => return '\\'
  | 'u' => codePoint 4
  | 'U' => codePoint 8
  | _ => failure

def quotedChar : Reader Char :=
  one (fun c => isPlain c && c != '"' && c != '\\') <|> exactly '\\' *> escape

def quoted : Reader (List Char) := exactly '"' *> many quotedChar <* exactly '"'

def literal : Reader (List Char) :=
  exactly '\'' *> run (fun c => isPlain c && c != '\'') <* exactly '\''

/-- A backslash at the end of a line takes the end of the line, and all blanks and ends of lines behind
it, out of the text. -/
def continuation : Reader Unit := do
  exactly '\\'
  spaces
  newline
  discard (many (discard (one isSpace) <|> newline))

/-- Three marks around several lines. One or two marks may stand anywhere in the text, also right
before the three that close it. An end of line right behind the opening marks does not count. -/
def block (mark : Char) (part : Reader (List Char)) : Reader (List Char) := do
  word [mark, mark, mark]
  let _ ← optionally newline
  let few : Reader (List Char) := do
    let marks ← run (· == mark)
    if 0 < marks.length ∧ marks.length ≤ 2 then return marks else failure
  let parts ← many (part <|> few)
  let marks ← run (· == mark)
  if 3 ≤ marks.length ∧ marks.length ≤ 5 then return parts.flatten ++ marks.drop 3 else failure

def quotedBlock : Reader (List Char) :=
  block '"' ((fun c => [c]) <$> quotedChar <|> (fun _ => ['\n']) <$> newline <|>
    (fun _ => []) <$> continuation)

def literalBlock : Reader (List Char) :=
  block '\'' ((fun c => [c]) <$> one (fun c => isPlain c && c != '\'') <|>
    (fun _ => ['\n']) <$> newline)

def text : Reader String :=
  String.ofList <$> (quotedBlock <|> quoted <|> literalBlock <|> literal)

/-! ## Writing -/

def writeChar (c : Char) : List Char :=
  match c with
  | '"' => ['\\', '"']
  | '\\' => ['\\', '\\']
  | '\t' => ['\\', 't']
  | '\n' => ['\\', 'n']
  | '\r' => ['\\', 'r']
  | c => if isPlain c then [c] else '\\' :: 'u' :: Text.hexDigits 4 c.toNat

def writeText (s : String) : String :=
  String.ofList ('"' :: s.toList.flatMap writeChar ++ ['"'])

end RemoteUsb.Toml
