import RemoteUsb.Access.Exchange
import RemoteUsb.Bench.Script.Run

/-!
Helpers on the bench: which programs can be started, what a running one answers, and a whole request
for access.
-/
namespace RemoteUsb.Bench

inductive Launch where
  /-- It cannot be started. -/
  | refused (text : String)
  | started (program : Script.Program)

def launch (helper : Access.Helper) : Launch :=
  if (helper.program :: helper.arguments).any (·.contains '\x00') then
    .refused "nul byte found in provided data"
  else match programOf helper.program with
    | .error fault => .refused fault.message
    | .ok name =>
      if shells.contains name then
        .started (.ofShell (Script.bytesOf helper.program) (helper.arguments.map Script.bytesOf))
      else
        let words : List Script.Word :=
          (name :: helper.arguments).map fun word => [.literal word.toList true]
        .started { command := .simple words [], length := 16 }

/-! ## Answers -/

/-- The first line of what was written with what ends it, as far as it is complete or nothing more will
come. -/
def firstReply? (p : Script.Process) : Option Access.Reply :=
  let line := p.output.takeWhile (· != Script.newline)
  if line.length < p.output.length then some (.line (line ++ [Script.newline]))
  else if p.state ≠ .ended && !p.outputClosed then none
  else if line.isEmpty then some .ended
  else some (.line line)

/-- What a helper answers once it has read `input`, if anything yet. -/
def reply? (program : Script.Program) (input : List UInt8) : Option Access.Reply :=
  firstReply? (Script.execute program input false)

def lines (content : List UInt8) : List String :=
  let parts := (Script.textOf content).splitOn "\n"
  if parts.getLast? = some "" then parts.dropLast else parts

structure Log where
  /-- The word in arguments that stands for the path. -/
  word : String
  path : String
  deriving DecidableEq, Repr

def log : Log := ⟨"$LOG", "/bench/log"⟩

def withLog (helper : Access.Helper) : Access.Helper :=
  { helper with arguments := helper.arguments.map (·.replace log.word log.path) }

/-- What a request for access came to, and the lines of the log when access was granted and in the
end. -/
structure Acquired where
  result : Except AccessError Unit
  granted : Option (List String)
  final : List String

def answered (p : Script.Process) : List (String × Script.Content) × Nat :=
  p.firstLine.getD (p.files, p.elapsed)

/-- Whether a request that is called off after some milliseconds is called off before the helper has
answered. -/
def withdrawalWins (p : Script.Process) (milliseconds : Nat) : Bool :=
  (firstReply? p).isNone || milliseconds ≤ (answered p).2

/-- The end of an exchange under the signals that come, if there is one. -/
def converse (x : Access.Exchange) :
    List Access.Signal → Access.Exchange × Option (Except AccessError Unit)
  | [] => (x, none)
  | signal :: signals =>
    match x.step signal with
    | .goes x => converse x signals
    | .ends result => (x, some result)

/-- A whole request: the helper gets everything that is written, its input is closed in the end, and
it runs until it has nothing left to do. `withdrawal` says after how many milliseconds the request is
called off, if it is. -/
def acquire (helper : Access.Helper) (bus address : UInt8) (withdrawal : Option Nat) : Acquired :=
  match launch (withLog helper) with
  | .refused text => { result := .error (.spawn text), granted := none, final := [] }
  | .started program =>
    let request := Access.requestLine bus address
    let asked := Script.execute program request false
    let withdrawn := withdrawal.any (withdrawalWins asked)
    let signals : List Access.Signal :=
      if withdrawn then
        let reply := (reply? program (request ++ Access.cancelLine)).getD .ended
        [.accepted request.length, .cancelled, .accepted Access.cancelLine.length, .replied reply]
      else [.accepted request.length, .replied ((firstReply? asked).getD .ended)]
    let (x, ending) := converse (.start bus address) signals
    let result := ending.getD (.error .unexpectedEnd)
    let final := Script.execute program x.written true
    let logOf (files : List (String × Script.Content)) : List String :=
      lines ((files.lookup log.path).getD [])
    { result
      granted := match result with
        | .ok () => some (logOf (answered asked).1)
        | .error _ => none
      final := logOf final.files }

end RemoteUsb.Bench
