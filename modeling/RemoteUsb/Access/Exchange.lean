import RemoteUsb.Error
import RemoteUsb.Text.Utf8

/-!
Asking a helper for access to one device.

The helper reads a line with the bus number and the address and answers with a line. While it has not
answered it may be told to cancel. What it grants lasts as long as its input stays open. An exchange is
the state of one such conversation, and signals are what the world does to it.
-/
namespace RemoteUsb.Access

/-- A program to be started as the helper, with its arguments. -/
structure Helper where
  program : String
  arguments : List String := []
  deriving DecidableEq, Repr, Inhabited

def requestLine (bus address : UInt8) : List UInt8 :=
  Text.Utf8.encode s!"{bus.toNat} {address.toNat}\n"

def cancelLine : List UInt8 := Text.Utf8.encode "CANCEL\n"

/-- What becomes of waiting for a line from the helper. -/
inductive Reply where
  | line (bytes : List UInt8)
  /-- The helper closed its output. -/
  | ended
  | failed (text : String)
  deriving DecidableEq, Repr

/-- A line without what ends it, which may be a carriage return before the line feed. -/
def lineContent (line : List UInt8) : List UInt8 :=
  match line.reverse with
  | 0x0a :: 0x0d :: rest | 0x0a :: rest => rest.reverse
  | _ => line

/-- What a reply means. Blanks around it do not count, and whatever is no known word is the reason of
a denial. -/
def Reply.verdict : Reply → Except AccessError Unit
  | .ended => .error .unexpectedEnd
  | .failed text => .error (.io text)
  | .line bytes =>
    match Text.Utf8.decode (lineContent bytes) with
    | .error fault => .error (.io fault.message)
    | .ok text =>
      match Text.trim text with
      | "SUCCESS" => .ok ()
      | "CANCELED" => .error .cancelled
      | reason => .error (.denied reason)

inductive Stage where
  /-- The request is being written, and `left` of it is still to go. -/
  | asking (left : List UInt8)
  /-- The reply is awaited, or that somebody cancels. -/
  | waiting
  /-- The cancellation is being written. -/
  | withdrawing (left : List UInt8)
  /-- The reply to the cancellation is awaited; it makes no difference. -/
  | draining
  deriving DecidableEq, Repr

/-- What the world does to a conversation. -/
inductive Signal where
  /-- The helper's input took so many more bytes. -/
  | accepted (count : Nat)
  /-- The helper's input broke. -/
  | broken (text : String)
  | replied (reply : Reply)
  /-- Somebody cancels. -/
  | cancelled
  deriving DecidableEq, Repr

/-- A conversation, and every byte written in it. -/
structure Exchange where
  written : List UInt8 := []
  stage : Stage
  deriving DecidableEq, Repr

namespace Exchange

def start (bus address : UInt8) : Exchange := { stage := .asking (requestLine bus address) }

/-- The state after `count` of the bytes `left` were written. -/
def progress (x : Exchange) (left : List UInt8) (count : Nat) (more : List UInt8 → Stage)
    (done : Stage) : Exchange :=
  let rest := left.drop count
  { written := x.written ++ left.take count, stage := if rest.isEmpty then done else more rest }

/-- What a signal makes of a conversation. -/
inductive Turn where
  | goes (x : Exchange)
  | ends (result : Except AccessError Unit)

/-- Takes a signal. Signals that mean nothing at the stage change nothing. A cancellation that was
taken ends as cancelled whatever the helper does then. -/
def step (x : Exchange) (signal : Signal) : Turn :=
  match x.stage, signal with
  | .asking left, .accepted count => .goes (x.progress left count .asking .waiting)
  | .asking _, .broken text => .ends (.error (.io text))
  | .waiting, .replied reply => .ends reply.verdict
  | .waiting, .cancelled => .goes { x with stage := .withdrawing cancelLine }
  | .withdrawing left, .accepted count => .goes (x.progress left count .withdrawing .draining)
  | .withdrawing _, .broken _ => .goes { x with stage := .draining }
  | .draining, .replied _ => .ends (.error .cancelled)
  | _, _ => .goes x

end Exchange
end RemoteUsb.Access
