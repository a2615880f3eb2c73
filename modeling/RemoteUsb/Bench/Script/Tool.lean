import RemoteUsb.Bench.Script.Escape
import RemoteUsb.Text.Parts

/-!
Programs that helper scripts use: they read their input or files and write.
-/
namespace RemoteUsb.Bench.Script

def linesOf (content : Content) : List Content :=
  let parts := Text.splitAt newline content
  let last := parts.getLast?.getD []
  parts.dropLast.map (· ++ [newline]) ++ (if last.isEmpty then [] else [last])

/-- Reads the whole input and writes something for it, once it is there. -/
def onInput (p : Process) (write : Content → Content) : Process :=
  if p.inputClosed then (p.endInput.emit (write p.input)).done 0
  else { p with state := .waiting }

def copyInput (p : Process) : Process :=
  let copied := { p.emit p.input with input := [] }
  if p.inputClosed then copied.endInput.done 0 else { copied with state := .waiting }

def onFiles (p : Process) (paths : List Content) (write : Content → Content) : Process :=
  if paths.isEmpty then onInput p write
  else (p.emit (write (paths.flatMap fun path => p.file (textOf path)))).done 0

def takeFront (p : Process) (count : Nat) (byBytes : Bool) : Process :=
  let content := if byBytes then p.input.take count else ((linesOf p.input).take count).flatten
  let complete := if byBytes then content.length == count
    else (linesOf p.input).countP (·.getLast? == some newline) ≥ count
  if complete then ({ p with input := p.input.drop content.length }.emit content).done 0
  else if p.inputClosed then (p.endInput.emit content).done 0
  else { p with state := .waiting }

def optionOf (letter : Char) : List String → Option String × List String
  | [] => (none, [])
  | word :: words =>
    if word == String.ofList ['-', letter] then (words.head?, words.tail)
    else if word.startsWith (String.ofList ['-', letter]) then
      (some (String.ofList (word.toList.drop 2)), words)
    else
      let (value, others) := optionOf letter words
      (value, word :: others)

def runEnds (p : Process) (front : Bool) (arguments : List String) : Process :=
  let (lines, arguments) := optionOf 'n' arguments
  let (bytes, arguments) := optionOf 'c' arguments
  let bare := (arguments.find? fun w => w.startsWith "-" && w.length > 1)
  let paths := arguments.filter fun w => !(w.startsWith "-")
  let count := (((bytes.or lines).or (bare.map fun w => String.ofList (w.toList.drop 1))).bind
    fun s => Text.readNatural? 10 s.toList).getD 10
  let cut (content : Content) : Content :=
    if bytes.isSome then if front then content.take count else content.drop (content.length - count)
    else
      let lines := linesOf content
      (if front then lines.take count else lines.drop (lines.length - count)).flatten
  if front && paths.isEmpty then takeFront p count bytes.isSome
  else onFiles p (paths.map bytesOf) cut

/-- The bytes that a set of characters stands for, with ranges and classes. `fuel` is as many bytes as
there are. -/
def setFor : Nat → Content → Content
  | 0, _ | _, [] => []
  | fuel + 1, low :: 0x2d :: high :: rest =>
    (List.range (high.toNat + 1 - low.toNat)).map (fun n => low + n.toUInt8) ++ setFor fuel rest
  | fuel + 1, b :: rest => b :: setFor fuel rest

def setOf (argument : String) : Content :=
  let range (low high : Char) : Content := setFor 1 [low.toNat.toUInt8, 0x2d, high.toNat.toUInt8]
  match argument with
  | "[:lower:]" => range 'a' 'z'
  | "[:upper:]" => range 'A' 'Z'
  | "[:digit:]" => range '0' '9'
  | "[:space:]" => [0x09, 0x0a, 0x0b, 0x0c, 0x0d, space]
  | _ =>
    let bytes := (unescape .format (bytesOf argument)).1
    setFor (bytes.length + 1) bytes

/-- Replaces the bytes of one set by those of another, the last of which stands for all that are
missing. -/
def exchange (before after : Content) (content : Content) : Content :=
  content.map fun b =>
    match before.idxOf? b with
    | some i => ((after[i]?).or after.getLast?).getD b
    | none => b

/-- Drops bytes of a set that come again at once. -/
def squeeze (set : Content) : Content → Content
  | a :: b :: rest =>
    if a == b && set.contains a then squeeze set (b :: rest) else a :: squeeze set (b :: rest)
  | rest => rest

def runExchange (p : Process) : List String → Process
  | ["-d", set] => onInput p fun content => content.filter fun b => !(setOf set).contains b
  | ["-s", set] => onInput p (squeeze (setOf set))
  | ["-cd", set] | ["-dc", set] => onInput p fun content => content.filter ((setOf set).contains ·)
  | [before, after] => onInput p (exchange (setOf before) (setOf after))
  | _ => p.done 1

/-- The places of a list such as `1,3-4`. -/
def placesOf (list : String) : List Nat :=
  (list.splitOn ",").flatMap fun part =>
    match (part.splitOn "-").map fun s => Text.readNatural? 10 s.toList with
    | [some n] => [n]
    | [some low, some high] => (List.range (high + 1 - low)).map (low + ·)
    | [some low, none] => (List.range 256).map (low + ·)
    | [none, some high] => (List.range high).map (· + 1)
    | _ => []

def runCut (p : Process) (arguments : List String) : Process :=
  let (delimiter, arguments) := optionOf 'd' arguments
  let (fields, arguments) := optionOf 'f' arguments
  let (bytes, paths) := optionOf 'c' arguments
  let separator := ((delimiter.map bytesOf).bind List.head?).getD 0x09
  let choose {α : Type} (places : List Nat) (parts : List α) : List α :=
    (parts.zipIdx 1).filterMap fun (a, n) => if places.contains n then some a else none
  let cutLine (line : Content) : Content :=
    let line := line.filter (· != newline)
    let kept := match fields, bytes with
      | some list, _ =>
        let parts := Text.splitAt separator line
        if parts.length = 1 then line else [separator].intercalate (choose (placesOf list) parts)
      | none, some list => choose (placesOf list) line
      | none, none => line
    kept ++ [newline]
  onFiles p (paths.map bytesOf) fun content => (linesOf content).flatMap cutLine

def runCount (p : Process) (arguments : List String) : Process :=
  onInput p fun content =>
    let words := Text.splitAt space (content.map fun b => if isBlankByte b then space else b)
    let number (n : Nat) : Content := bytesOf (toString n)
    let lines := number (content.count newline)
    let words := number (words.countP fun word => !word.isEmpty)
    let bytes := number content.length
    match arguments with
    | ["-l"] => lines ++ [newline]
    | ["-w"] => words ++ [newline]
    | ["-c"] => bytes ++ [newline]
    | _ => format (bytesOf "%7s %7s %7s\n") [lines, words, bytes]

def runRow (p : Process) (arguments : List String) : Process :=
  let (low, high) := match arguments.map fun s => (Text.readInteger? 10 s.toList).getD 0 with
    | [high] => (1, high)
    | [low, high] => (low, high)
    | [low, _, high] => (low, high)
    | _ => (1, 0)
  let step := match arguments with
    | [_, step, _] => ((Text.readNatural? 10 step.toList).getD 1)
    | _ => 1
  let count := (high + 1 - low).toNat
  let numbers : List Nat := (List.range count).filter fun n => n % (max step 1) = 0
  (p.emit (numbers.flatMap fun (n : Nat) => bytesOf (toString (low + (n : Int))) ++ [newline])).done 0

def runTee (p : Process) (arguments : List String) : Process :=
  let append := arguments.head? == some "-a"
  let paths := if append then arguments.tail else arguments
  let p := if append then p else paths.foldl (fun p path => p.setFile path []) p
  copyInput (paths.foldl (fun p path => p.emitTo (.file path) p.input) p)

/-- Whether a line holds a text; marks at both ends of the text stand for the ends of the line. -/
def holdsText (pattern : Content) (line : Content) : Bool :=
  let fromStart := pattern.head? == some 0x5e
  let toEnd := pattern.getLast? == some 0x24
  let text := (if fromStart then pattern.drop 1 else pattern)
  let text := if toEnd then text.dropLast else text
  let line := line.filter (· != newline)
  let places := if fromStart then [0] else List.range (line.length + 1)
  places.any fun n =>
    let rest := line.drop n
    text.isPrefixOf rest && (!toEnd || rest.length == text.length)

def runSearch (p : Process) (arguments : List String) : Process :=
  let isOption (word : String) : Bool := word.startsWith "-" && word.length > 1
  let flags := (arguments.takeWhile isOption).flatMap (·.toList.drop 1)
  let others := arguments.dropWhile isOption
  match others with
  | [] => p.done 2
  | pattern :: paths =>
    let found (content : Content) : List Content :=
      (linesOf content).filter fun line =>
        holdsText (bytesOf pattern) line != flags.contains 'v'
    let write (content : Content) : Content :=
      if flags.contains 'q' then []
      else if flags.contains 'c' then bytesOf s!"{(found content).length}\n"
      else (found content).flatMap fun line =>
        if line.getLast? == some newline then line else line ++ [newline]
    let all := if paths.isEmpty then p.input else paths.flatMap p.file
    let q := onFiles p (paths.map bytesOf) write
    if q.state = .waiting then q else q.judged (!(found all).isEmpty)

def tool? (name : String) : Option (Process → List String → Process) :=
  match name with
  | "cat" => some fun p paths =>
    if paths.isEmpty || paths == ["-"] then copyInput p else onFiles p (paths.map bytesOf) id
  | "head" => some fun p arguments => runEnds p true arguments
  | "tail" => some fun p arguments => runEnds p false arguments
  | "tr" => some runExchange
  | "cut" => some runCut
  | "wc" => some runCount
  | "seq" => some runRow
  | "tee" => some runTee
  | "grep" => some runSearch
  | "yes" => some fun p words =>
    let line := bytesOf (if words.isEmpty then "y" else " ".intercalate words) ++ [newline]
    p.emit (List.replicate 64 line).flatten
  | _ => none

end RemoteUsb.Bench.Script
