import RemoteUsb.Bench.Script.Process

/-!
Backslashes and formats: what scripts write byte by byte.
-/
namespace RemoteUsb.Bench.Script

def backslash : UInt8 := 0x5c

def percent : UInt8 := 0x25

def escapeOf? (b : UInt8) : Option UInt8 :=
  match Char.ofNat b.toNat with
  | 'a' => some 0x07
  | 'b' => some 0x08
  | 'e' => some 0x1b
  | 'f' => some 0x0c
  | 'n' => some 0x0a
  | 'r' => some 0x0d
  | 't' => some 0x09
  | 'v' => some 0x0b
  | '\\' => some 0x5c
  | _ => none

def isOctal (b : UInt8) : Bool := 0x30 ≤ b && b ≤ 0x37

def octal (bytes : Content) : UInt8 × Content :=
  let digits := (bytes.take 3).takeWhile isOctal
  ((digits.foldl (fun n (d : UInt8) => n * 8 + (d.toNat - 0x30)) 0).toUInt8, bytes.drop digits.length)

/-- Where backslashes are replaced: in a format, or in an argument, where an octal number may have a zero
in front of its digits and nothing is written any more from one letter on. -/
inductive EscapePlace where
  | format
  | argument
  deriving DecidableEq, Repr

/-- Replaces backslashes and what is behind them; also answers whether nothing may be written any more.
`fuel` is as many bytes as there are. -/
def unescapeFor (place : EscapePlace) : Nat → Content → Content × Bool
  | 0, _ | _, [] => ([], false)
  | fuel + 1, b :: rest =>
    let behind (front : Content) (rest : Content) : Content × Bool :=
      let (content, stop) := unescapeFor place fuel rest
      (front ++ content, stop)
    if b != backslash then behind [b] rest
    else match rest with
      | [] => ([backslash], false)
      | c :: more =>
        if place = .argument && c == 0x63 then ([], true)
        else if isOctal c then
          let (byte, more) := octal (if place = .argument && c == 0x30 then more else rest)
          behind [byte] more
        else match escapeOf? c with
          | some e => behind [e] more
          | none => behind [backslash, c] more

def unescape (place : EscapePlace) (bytes : Content) : Content × Bool :=
  unescapeFor place (bytes.length + 1) bytes

/-! ## Formats -/

/-- How an argument is written: the signs before the width, the width, the greatest length, and the
letter. -/
structure Conversion where
  flags : Content := []
  width : Nat := 0
  precision : Option Nat := none
  letter : UInt8

def digitsAt (bytes : Content) : Option Nat × Content :=
  let digits := bytes.takeWhile fun b => 0x30 ≤ b && b ≤ 0x39
  (Text.readNatural? 10 (digits.map fun b => Char.ofNat b.toNat), bytes.drop digits.length)

def Conversion.read (bytes : Content) : Option (Conversion × Content) :=
  let flags := bytes.takeWhile ((bytesOf "-+ 0#").contains ·)
  let (width, rest) := digitsAt (bytes.drop flags.length)
  let (precision, rest) := match rest with
    | 0x2e :: rest =>
      let (n, rest) := digitsAt rest
      (some (n.getD 0), rest)
    | rest => (none, rest)
  match rest with
  | letter :: rest => some ({ flags, width := width.getD 0, precision, letter }, rest)
  | [] => none

def numberAt (argument : Content) : Int :=
  match argument with
  | 0x27 :: b :: _ | 0x22 :: b :: _ => b.toNat
  | argument =>
    let cs := (textOf argument).toList.dropWhile Char.isWhitespace
    let (negative, cs) := match cs with
      | '-' :: cs => (true, cs)
      | '+' :: cs => (false, cs)
      | cs => (false, cs)
    let value := match cs with
      | '0' :: 'x' :: rest => (Text.readNatural? 16 rest).getD 0
      | '0' :: rest =>
        (Text.readNatural? 8 (rest.takeWhile fun c => (Text.digit? 8 c).isSome)).getD 0
      | cs => (Text.readNatural? 10 (cs.takeWhile (·.isDigit))).getD 0
    if negative then -value else value

/-- A text at a width, on the left if a sign says so. -/
def Conversion.pad (c : Conversion) (content : Content) : Content :=
  let filling := List.replicate (c.width - content.length) space
  if c.flags.contains 0x2d then content ++ filling else filling ++ content

/-- A number at a width, with zeros in front if a sign says so. -/
def Conversion.padNumber (c : Conversion) (sign : Content) (digits : Content) : Content :=
  let digits := List.replicate (c.precision.getD 0 - digits.length) 0x30 ++ digits
  if c.flags.contains 0x30 && !c.flags.contains 0x2d && c.precision.isNone then
    sign ++ List.replicate (c.width - sign.length - digits.length) 0x30 ++ digits
  else c.pad (sign ++ digits)

/-- Writes an argument; also answers whether nothing may be written any more. Nothing if the letter
means nothing. -/
def Conversion.apply? (c : Conversion) (argument : Content) : Option (Content × Bool) :=
  let cut (content : Content) : Content := match c.precision with
    | some n => content.take n
    | none => content
  let signed (n : Int) : Content :=
    let sign := if n < 0 then "-" else if c.flags.contains 0x2b then "+"
      else if c.flags.contains space then " " else ""
    c.padNumber (bytesOf sign) (bytesOf (toString n.natAbs))
  let unsigned (base : Nat) : Content :=
    let word := (Int64.ofInt (numberAt argument)).toUInt64
    c.padNumber [] (bytesOf (String.ofList (Nat.toDigits base word.toNat)))
  match Char.ofNat c.letter.toNat with
  | 's' => some (c.pad (cut argument), false)
  | 'b' =>
    let (content, stop) := unescape .argument argument
    some (c.pad (cut content), stop)
  | 'c' => some (c.pad (argument.take 1), false)
  | 'd' | 'i' => some (signed (numberAt argument), false)
  | 'u' => some (unsigned 10, false)
  | 'o' => some (unsigned 8, false)
  | 'x' => some (unsigned 16, false)
  | 'X' => some ((unsigned 16).map fun b => if 0x61 ≤ b && b ≤ 0x7a then b - 0x20 else b, false)
  | _ => none

structure Filled where
  content : Content := []
  left : List Content
  /-- Whether a conversion asked for an argument. -/
  asked : Bool := false
  stop : Bool := false

/-- Goes through a format once, with the arguments in order; those that are missing are empty. `fuel` is
as many bytes as there are. -/
def fillFor : Nat → Content → Filled → Filled
  | 0, _, f | _, [], f => f
  | fuel + 1, b :: rest, f =>
    let write (content : Content) : Filled := { f with content := f.content ++ content }
    if b = backslash then
      match rest with
      | [] => write [backslash]
      | c :: more =>
        if isOctal c then
          let (byte, more) := octal rest
          fillFor fuel more (write [byte])
        else match escapeOf? c with
          | some e => fillFor fuel more (write [e])
          | none => fillFor fuel more (write [backslash, c])
    else if b != percent then fillFor fuel rest (write [b])
    else match rest with
      | 0x25 :: rest => fillFor fuel rest (write [percent])
      | rest =>
        match Conversion.read rest with
        | none => { f with stop := true }
        | some (conversion, rest) =>
          match conversion.apply? (f.left.headD []) with
          | none => { f with stop := true }
          | some (content, stop) =>
            let f := { write content with left := f.left.tail, asked := true, stop }
            if stop then f else fillFor fuel rest f

/-- Goes through a format until there are no arguments left, at most as often as there are arguments. -/
def formatFor : Nat → Content → List Content → Content
  | 0, _, _ => []
  | fuel + 1, format, arguments =>
    let f := fillFor (format.length + 1) format { left := arguments }
    if f.left.isEmpty || !f.asked || f.stop then f.content
    else f.content ++ formatFor fuel format f.left

def format (format : Content) (arguments : List Content) : Content :=
  formatFor (arguments.length + 1) format arguments

end RemoteUsb.Bench.Script
