import RemoteUsb.Bench.Script.Escape
import RemoteUsb.Bench.Script.Expand

/-!
Reading lines into names.
-/
namespace RemoteUsb.Bench.Script

abbrev LineByte := UInt8 × Bool

/-- The line at the front of an input and what is behind it; nothing behind it if the line does not
end. A backslash protects the byte behind it and joins lines, unless lines are taken as they are. -/
def lineAt (raw : Bool) : Content → List LineByte × Option Content
  | [] => ([], none)
  | b :: rest =>
    if b = newline then ([], some rest)
    else if b = backslash && !raw then
      match rest with
      | [] => ([], none)
      | c :: rest =>
        let (line, rest) := lineAt raw rest
        (if c = newline then line else (c, true) :: line, rest)
    else
      let (line, rest) := lineAt raw rest
      ((b, false) :: line, rest)

def separates (separators : Content) (b : LineByte) : Bool := !b.2 && separators.contains b.1

def blankSeparates (separators : Content) (b : LineByte) : Bool :=
  separates separators b && isBlankByte b.1

/-- What is behind the separator of a field: blanks and at most one other. -/
def behindSeparator (separators : Content) (line : List LineByte) : List LineByte :=
  let line := line.dropWhile (blankSeparates separators)
  match line with
  | b :: rest =>
    if separates separators b then rest.dropWhile (blankSeparates separators) else line
  | [] => []

/-- The last field: all that is left, without the blanks behind it and without a separator that ends
it. -/
def lastField (separators : Content) (line : List LineByte) : List LineByte :=
  let strip (line : List LineByte) : List LineByte :=
    (line.reverse.dropWhile (blankSeparates separators)).reverse
  let line := strip line
  let field := line.takeWhile (!separates separators ·)
  if (behindSeparator separators (line.drop field.length)).isEmpty then field else line

/-- Gives names the fields of a line; the last name takes all that is left. -/
def assignFields (separators : Content) : List String → List LineByte → Process → Process
  | [], _, p => p
  | [name], line, p => p.setValue name ((lastField separators line).map (·.1))
  | name :: names, line, p =>
    let field := line.takeWhile (!separates separators ·)
    assignFields separators names (behindSeparator separators (line.drop field.length))
      (p.setValue name (field.map (·.1)))

def readLine (raw : Bool) (names : List String) (p : Process) : Process :=
  let (line, rest) := lineAt raw p.input
  let separators := separators p
  let line := line.dropWhile (blankSeparates separators)
  match rest with
  | some rest => (assignFields separators names line { p with input := rest }).done 0
  | none =>
    if p.inputClosed then (assignFields separators names line p.endInput).done 1
    else { p with state := .waiting }

end RemoteUsb.Bench.Script
