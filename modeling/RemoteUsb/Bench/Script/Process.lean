import RemoteUsb.Bench.Script.Command
import RemoteUsb.Text.Utf8

/-!
A helper script at work: what it was given to read so far, what it wrote, and what it keeps.
-/
namespace RemoteUsb.Bench.Script

abbrev Content := List UInt8

def newline : UInt8 := 0x0a

def space : UInt8 := 0x20

def isBlankByte (b : UInt8) : Bool := b == space || b == 0x09 || b == newline

def bytesOf (s : String) : Content := Text.Utf8.encode s

def textOf (content : Content) : String := (Text.Utf8.decode content).toOption.getD ""

inductive State where
  | running
  /-- The script wants to read what is not there yet. -/
  | waiting
  | ended
  /-- So many loops are being left. -/
  | leaving (loops : Nat)
  /-- So many loops are being left, the last of which goes on. -/
  | repeating (loops : Nat)
  /-- A function is being left. -/
  | returning
  deriving DecidableEq, Repr

inductive Sink where
  | output
  /-- To whoever put the command into a text or before another command. -/
  | captured
  | file (path : String)
  | nowhere
  deriving DecidableEq, Repr

/-- `firstLine` holds the files, and the milliseconds that had gone by, when the first line of output
was complete. -/
structure Process where
  state : State := .running
  input : Content := []
  inputClosed : Bool := false
  /-- Whether the input is that of the script, and not one that a command was given. -/
  ownInput : Bool := true
  /-- Whether the end of the script's input was seen. By then nobody reads the output any more. -/
  sawEnd : Bool := false
  output : Content := []
  /-- Whether nothing can be written to the output any more. -/
  outputClosed : Bool := false
  captured : Content := []
  sink : Sink := .output
  /-- Where complaints go. -/
  errors : Sink := .nowhere
  /-- Where other outputs go, by number. -/
  others : List (Nat × Sink) := []
  files : List (String × Content) := []
  bindings : List (String × Content) := []
  functions : List (String × Command) := []
  arguments : List Content := []
  /-- Whether the script ends when a command fails whose success nobody asks for. -/
  strict : Bool := false
  /-- Whether names without a value end the script. -/
  namesNeeded : Bool := false
  /-- Whether the success of what is being done is asked for. -/
  tested : Bool := false
  /-- What is done at the end. -/
  farewell : Content := []
  status : Nat := 0
  /-- How the last script ended whose output was put into a word of the command at work. -/
  answered : Option Nat := none
  elapsed : Nat := 0
  firstLine : Option (List (String × Content) × Nat) := none

namespace Process

def file (p : Process) (path : String) : Content := (p.files.lookup path).getD []

def setFile (p : Process) (path : String) (content : Content) : Process :=
  { p with files := (path, content) :: p.files.filter (·.1 != path) }

def value? (p : Process) (name : String) : Option Content := p.bindings.lookup name

def setValue (p : Process) (name : String) (content : Content) : Process :=
  { p with bindings := (name, content) :: p.bindings.filter (·.1 != name) }

def unset (p : Process) (name : String) : Process :=
  { p with bindings := p.bindings.filter (·.1 != name) }

def done (p : Process) (status : Nat) : Process := { p with status }

def judged (p : Process) (success : Bool) : Process := p.done (if success then 0 else 1)

def exit (p : Process) (status : Nat) : Process := { p with state := .ended, status }

def endInput (p : Process) : Process :=
  { p with input := [], sawEnd := p.sawEnd || p.ownInput }

def readFrom (p : Process) (input : Content) (closed : Bool) : Process :=
  { p with input, inputClosed := closed, ownInput := false }

def readLike (p q : Process) : Process :=
  { p with input := q.input, inputClosed := q.inputClosed, ownInput := q.ownInput }

def emitTo (p : Process) (sink : Sink) (content : Content) : Process :=
  match sink with
  | .nowhere => p
  | .file path => p.setFile path (p.file path ++ content)
  | .captured => { p with captured := p.captured ++ content }
  | .output =>
    if p.outputClosed || content.isEmpty then p
    else if p.sawEnd then { p with state := .ended, farewell := [], status := 141 }
    else
      let complete := p.firstLine.isNone && content.contains newline
      { p with
        output := p.output ++ content
        firstLine := if complete then some (p.files, p.elapsed) else p.firstLine }

def emit (p : Process) (content : Content) : Process := p.emitTo p.sink content

def isRunning (p : Process) : Bool := p.state = .running

def complain (p : Process) (text : String) (status : Nat) : Process :=
  (p.emitTo p.errors (bytesOf s!"/bin/sh: 1: {text}\n")).done status

/-- Does something whose changes to names, functions and arguments are lost, and which cannot end the
script. -/
def apart (p : Process) (act : Process → Process) : Process :=
  let q := act { p with farewell := [] }
  { q with
    bindings := p.bindings, functions := p.functions, arguments := p.arguments
    strict := p.strict, namesNeeded := p.namesNeeded, tested := p.tested
    sink := p.sink, errors := p.errors, others := p.others, outputClosed := p.outputClosed
    farewell := p.farewell
    state := if q.state = .waiting then .waiting else .running }

def capture (p : Process) (act : Process → Process) : Process × Content :=
  let q := p.apart fun p => act { p with sink := .captured, captured := [] }
  ({ q with captured := p.captured }, q.captured)

end Process
end RemoteUsb.Bench.Script
