import RemoteUsb.Bench.Script.Reading
import RemoteUsb.Bench.Script.Tool
import RemoteUsb.Bench.System

/-!
The commands that are built into the command language and change nothing but the process.
-/
namespace RemoteUsb.Bench.Script

def milliseconds (text : String) : Nat :=
  match text.splitOn "." with
  | [whole] => whole.toNat?.getD 0 * 1000
  | [whole, fraction] =>
    let places := (fraction.toList ++ ['0', '0', '0']).take 3
    whole.toNat?.getD 0 * 1000 + (Text.readNatural? 10 places).getD 0
  | _ => 0

/-! ## Conditions -/

def compareNumbers (operator : String) (a b : Int) : Option Bool :=
  match operator with
  | "-eq" => some (a == b)
  | "-ne" => some (a != b)
  | "-lt" => some (a < b)
  | "-le" => some (a ≤ b)
  | "-gt" => some (b < a)
  | "-ge" => some (b ≤ a)
  | _ => none

def unaryCondition? (p : Process) (operator : String) (a : Content) : Option Bool :=
  match operator with
  | "-n" => some !a.isEmpty
  | "-z" => some a.isEmpty
  | "-e" | "-r" | "-w" => some ((p.files.lookup (textOf a)).isSome || system.holds (textOf a))
  | "-f" => some ((p.files.lookup (textOf a)).isSome || system.find (textOf a) matches .ok (.file _))
  | "-s" => some !(p.file (textOf a)).isEmpty
  | "-d" => some (system.isDirectory (textOf a))
  | "-x" => some (system.isDirectory (textOf a) || programAt (textOf a) matches .ok _)
  | "-t" => some false
  | _ => none

def binaryCondition? (operator : String) (a b : Content) : Option Bool :=
  match operator with
  | "=" | "==" => some (a == b)
  | "!=" => some (a != b)
  | "<" => some ((textOf a) < (textOf b))
  | ">" => some ((textOf b) < (textOf a))
  | _ => compareNumbers operator (numberAt a) (numberAt b)

/-- The value of a condition; nothing if it is none. -/
def condition? (p : Process) : Nat → List Content → Option Bool
  | 0, _ | _, [] => some false
  | _ + 1, [a] => some !a.isEmpty
  | fuel + 1, first :: second :: rest =>
    let words := first :: second :: rest
    let simple : Option Bool :=
      match rest with
      | [] => if textOf first = "!" then some second.isEmpty
        else unaryCondition? p (textOf first) second
      | [third] => binaryCondition? (textOf second) first third
      | _ => none
    let split (word : String) : Option (List Content × List Content) :=
      let front := words.takeWhile fun w => textOf w != word
      match words.drop front.length with
      | _ :: back => if front.isEmpty || back.isEmpty then none else some (front, back)
      | [] => none
    simple.or <|
      match split "-o" with
      | some (a, b) => do return (← condition? p fuel a) || (← condition? p fuel b)
      | none =>
        match split "-a" with
        | some (a, b) => do return (← condition? p fuel a) && (← condition? p fuel b)
        | none =>
          if textOf first = "!" then (condition? p fuel (second :: rest)).map (!·)
          else none

def runTest (p : Process) (words : List Content) : Process :=
  match condition? p (words.length + 1) words with
  | some value => p.judged value
  | none => p.done 2

/-! ## Writing -/

/-- Writes the arguments with a space between each two, and a newline unless the first is `-n`. -/
def runEcho (p : Process) (arguments : List Content) : Process :=
  let quiet := (arguments.head?.map textOf) == some "-n"
  let shown := if quiet then arguments.tail else arguments
  let (content, stop) := unescape .argument ([space].intercalate shown)
  (p.emit (if quiet || stop then content else content ++ [newline])).done 0

def runFormat (p : Process) (arguments : List Content) : Process :=
  match if (arguments.head?.map textOf) == some "--" then arguments.tail else arguments with
  | [] => p.complain "printf: usage: printf format [arg ...]" 2
  | pattern :: values => (p.emit (format pattern values)).done 0

/-! ## Names -/

def runRead (p : Process) (arguments : List String) : Process :=
  let raw := arguments.contains "-r"
  let (_, names) := optionOf 'p' (arguments.filter (· != "-r"))
  if names.isEmpty || names.any (·.startsWith "-") then p.complain "read: arg count" 2
  else readLine raw names p

def splitAssignment (word : Content) : String × Option Content :=
  let name := word.takeWhile (· != 0x3d)
  (textOf name, if name.length < word.length then some (word.drop (name.length + 1)) else none)

def runDeclare (p : Process) (words : List Content) : Process :=
  (words.foldl (fun p word =>
    match splitAssignment word with
    | (name, some value) => p.setValue name value
    | (_, none) => p) p).done 0

def Process.switch (p : Process) (on : Bool) (letters : String) : Process :=
  { p with
    strict := if letters.contains 'e' then on else p.strict
    namesNeeded := if letters.contains 'u' then on else p.namesNeeded }

def runSet (p : Process) : List Content → Process
  | [] => p.done 0
  | word :: words =>
    let name := textOf word
    if name = "--" then { p with arguments := p.arguments.take 1 ++ words, status := 0 }
    else if name.startsWith "-" then runSet (p.switch true name) words
    else if name.startsWith "+" then runSet (p.switch false name) words
    else { p with arguments := p.arguments.take 1 ++ word :: words, status := 0 }

def runShift (p : Process) (words : List String) : Process :=
  let count := (words.head?.bind String.toNat?).getD 1
  if p.arguments.length ≤ count then (p.complain "shift: can't shift that many" 2).exit 2
  else { p with arguments := p.arguments.take 1 ++ p.arguments.drop (count + 1), status := 0 }

/-- Ends a process; the script itself among those named ends at once. -/
def runKill (p : Process) (words : List String) : Process :=
  if words.contains (toString processNumber) && !words.contains "-0" then
    { p with state := .ended, farewell := [], status := 137 }
  else p.done 0

def countAt (words : List String) (default : Nat) : Nat := (words.head?.bind String.toNat?).getD default

def builtin? (name : String) : Option (Process → List Content → Process) :=
  let onTexts (act : Process → List String → Process) : Process → List Content → Process :=
    fun p words => act p (words.map textOf)
  match name with
  | "read" => some (onTexts runRead)
  | "echo" => some runEcho
  | "printf" => some runFormat
  | "test" => some runTest
  | "[" => some fun p words => runTest p words.dropLast
  | "sleep" => some (onTexts fun p words =>
    { p with elapsed := words.foldl (fun n word => n + milliseconds word) p.elapsed, status := 0 })
  | "exit" => some (onTexts fun p words => p.exit (countAt words p.status))
  | "return" => some (onTexts fun p words =>
    { p with state := .returning, status := countAt words p.status })
  | "break" => some (onTexts fun p words => { p with state := .leaving (countAt words 1), status := 0 })
  | "continue" =>
    some (onTexts fun p words => { p with state := .repeating (countAt words 1), status := 0 })
  | "export" | "readonly" | "local" => some runDeclare
  | "unset" => some (onTexts fun p words => (words.foldl Process.unset p).done 0)
  | "set" => some runSet
  | "shift" => some (onTexts runShift)
  | "kill" => some (onTexts runKill)
  | "trap" => some fun p words =>
    match words with
    | action :: signals =>
      if signals.any fun s => ["EXIT", "0"].contains (textOf s) then
        { p with farewell := if textOf action = "-" then [] else action, status := 0 }
      else p.done 0
    | [] => p.done 0
  | "true" | ":" | "wait" | "umask" | "cd" | "ulimit" => some fun p _ => p.done 0
  | "false" => some fun p _ => p.done 1
  | _ => none

end RemoteUsb.Bench.Script
