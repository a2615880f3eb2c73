import RemoteUsb.Bench.Script.Expression
import RemoteUsb.Bench.Script.Glob
import RemoteUsb.Bench.Script.Process

/-!
What the words of a script stand for: values are put in for names, what scripts write for those scripts,
and what came without quotes is split at blanks.
-/
namespace RemoteUsb.Bench.Script

abbrev Work := StateM Process

/-! ## Splitting -/

def separators (p : Process) : Content := (p.value? "IFS").getD [space, 0x09, newline]

/-- The fields so far, the last one first, and the one that is being made. `blank` says that the last one
was ended by a blank, to which a separator that is no blank may still belong. -/
structure Fields where
  complete : List Content := []
  current : Option Content := none
  blank : Bool := false

namespace Fields

def add (f : Fields) (content : Content) : Fields :=
  { f with current := some (f.current.getD [] ++ content), blank := false }

/-- Ends the field that is being made, if there is one. -/
def close (f : Fields) : Fields :=
  match f.current with
  | some content => { complete := content :: f.complete }
  | none => f

/-- Adds bytes that are split at separators. Blanks end a field; any other separator ends one even if
there is nothing in it. -/
def addSplit (separators : Content) (f : Fields) (content : Content) : Fields :=
  content.foldl (fun f b =>
    if !separators.contains b then f.add [b]
    else if isBlankByte b then
      if f.current.isSome then { f.close with blank := true } else f
    else match f.current with
      | some content => { complete := content :: f.complete }
      | none => if f.blank then { f with blank := false } else { f with complete := [] :: f.complete })
    f

def toList (f : Fields) : List Content := f.close.complete.reverse

end Fields

/-! ## Values -/

inductive Shard where
  | text (content : Content) (quoted : Bool)
  /-- What came without quotes from a name or a script, and is split. -/
  | value (content : Content)
  /-- Between two arguments. -/
  | boundary
  deriving DecidableEq, Repr

def processNumber : Nat := 4242

def decimalBytes (n : Int) : Content := bytesOf (toString n)

def valueOf? (p : Process) (name : String) : Option Content :=
  match name with
  | "?" => some (decimalBytes p.status)
  | "#" => some (decimalBytes p.arguments.tail.length)
  | "$" => some (decimalBytes processNumber)
  | "-" => some []
  | "@" | "*" =>
    if p.arguments.tail.isEmpty then none
    else
      let between := if name = "@" then [space] else ((p.value? "IFS").getD [space]).take 1
      some (between.intercalate p.arguments.tail)
  | name =>
    match name.toNat? with
    | some n => p.arguments[n]?
    | none => p.value? name

def shard (content : Content) (quoted : Bool) : Shard :=
  if quoted then .text content true else .value content

def dropFront (glob : Glob) (longest : Bool) (text : Content) : Content :=
  let rests := Glob.rests glob text
  let better (a b : Content) : Content :=
    if (a.length < b.length) == longest then a else b
  match rests with
  | [] => text
  | rest :: rests => rests.foldl better rest

def dropBack (glob : Glob) (longest : Bool) (text : Content) : Content :=
  let places := (List.range (text.length + 1)).filter fun n => glob.fits (text.drop n)
  match if longest then places.head? else places.getLast? with
  | some n => text.take n
  | none => text

def marked (shards : List Shard) : List (UInt8 × Bool) :=
  shards.flatMap fun
    | .text content quoted => content.map (·, quoted)
    | .value content => content.map (·, false)
    | .boundary => [(space, true)]

def joined (shards : List Shard) : Content := (marked shards).map (·.1)

def numberOf (p : Process) (name : String) : Int :=
  (((valueOf? p name).map textOf).bind fun s => Text.readInteger? 10 s.toList).getD 0

def assigned? (cs : List Char) : Option (String × String × List Char) :=
  let cs := cs.dropWhile Char.isWhitespace
  let name := cs.takeWhile isNamePart
  let rest := (cs.drop name.length).dropWhile Char.isWhitespace
  if !name.head?.any isNameStart then none
  else match rest with
    | '=' :: '=' :: _ => none
    | '=' :: rest => some (String.ofList name, "", rest)
    | o :: '=' :: rest =>
      if "+-*/%".toList.contains o then some (String.ofList name, String.singleton o, rest) else none
    | _ => none

def calculate (cs : List Char) : Work Content := do
  let p ← get
  let (name, operator, cs) := (assigned? cs).getD ("", "", cs)
  let value := (Expression.eval? (numberOf p) cs).bind fun n =>
    if operator = "" then some n else Expression.combine operator (numberOf p name) n
  match value with
  | some n =>
    unless name.isEmpty do set (p.setValue name (decimalBytes n))
    return decimalBytes n
  | none =>
    set ((p.complain "arithmetic expression: syntax error" 2).exit 2)
    return []

def outputOf (runText : List Char → Work Unit) (script : List Char) : Work Content := do
  let (p, content) := (← get).capture fun p => (runText script p).2
  set { p with answered := some p.status }
  return (content.reverse.dropWhile (· == newline)).reverse

/-- The parts of what a word stands for. `runText` runs a script, and `fuel` bounds how deep words stand
in words. -/
def shards (runText : List Char → Work Unit) : Nat → Word → Work (List Shard)
  | 0, _ => return []
  | fuel + 1, w => do
    let parts ← w.mapM fun piece => do
      match piece with
      | .literal cs quoted => return [Shard.text (bytesOf (String.ofList cs)) quoted]
      | .output script quoted => return [shard (← outputOf runText script) quoted]
      | .number cs quoted =>
        let cs := joined (← shards runText fuel (Word.ofText cs))
        return [shard (← calculate (textOf cs).toList) quoted]
      | .parameter parameter quoted =>
        let p ← get
        let value := valueOf? p parameter.name
        let content := value.getD []
        let argument : Work (List Shard) := do
          let parts ← shards runText fuel (Word.ofText parameter.argument)
          return if quoted then [.text (joined parts) true] else parts
        let glob : Work Glob := do
          return Glob.read (marked (← shards runText fuel (Word.ofText parameter.argument)))
        let kept : List Shard := [shard content quoted]
        match parameter.operator with
        | "length" => return [shard (decimalBytes content.length) quoted]
        | ":-" => if content.isEmpty then argument else return kept
        | "-" => if value.isNone then argument else return kept
        | ":+" => if content.isEmpty then return [shard [] quoted] else argument
        | "+" => if value.isNone then return [shard [] quoted] else argument
        | ":=" | "=" =>
          if value.isNone || (parameter.operator == ":=" && content.isEmpty) then do
            let parts ← argument
            modify (·.setValue parameter.name (joined parts))
            return parts
          else return kept
        | ":?" | "?" =>
          if value.isNone || (parameter.operator == ":?" && content.isEmpty) then do
            let text := textOf (joined (← argument))
            modify fun p => (p.complain s!"{parameter.name}: {text}" 2).exit 2
            return []
          else return kept
        | "#" => return [shard (dropFront (← glob) false content) quoted]
        | "##" => return [shard (dropFront (← glob) true content) quoted]
        | "%" => return [shard (dropBack (← glob) false content) quoted]
        | "%%" => return [shard (dropBack (← glob) true content) quoted]
        | _ =>
          if value.isNone && p.namesNeeded && parameter.name != "@" && parameter.name != "*" then
            set ((p.complain s!"{parameter.name}: parameter not set" 2).exit 2)
            return []
          else if parameter.name == "@" || (parameter.name == "*" && !quoted) then
            return (p.arguments.tail.map fun a => [shard a quoted]).intersperse [.boundary] |>.flatten
          else return kept
    return parts.flatten

def maxDepth : Nat := 32

def expand (runText : List Char → Work Unit) (w : Word) : Work (List Content) := do
  let shards ← shards runText maxDepth w
  let separators := separators (← get)
  return (shards.foldl (fun f shard =>
    match shard with
    | .text content _ => f.add content
    | .value content => f.addSplit separators content
    | .boundary => f.close) ({} : Fields)).toList

def expandWhole (runText : List Char → Work Unit) (w : Word) : Work Content :=
  return joined (← shards runText maxDepth w)

def expandGlob (runText : List Char → Work Unit) (w : Word) : Work Glob :=
  return Glob.read (marked (← shards runText maxDepth w))

end RemoteUsb.Bench.Script
