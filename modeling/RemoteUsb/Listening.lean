/-!
The thread that pumps native USB events while somebody listens.

Listeners are counted. The first one starts a thread of its own, and when the last one goes that
thread is told to stop without being waited for. A thread that was told to stop finishes the poll that
it is in and ends. Every thread has a flag of its own, so one that has not ended yet is in nobody's way.
-/
namespace RemoteUsb

/-- A thread that was started. It polls as long as its flag `mayRun` is set when a poll ends. -/
structure Pump where
  mayRun : Bool := true
  finished : Bool := false
  deriving DecidableEq, Repr

/-- The thread looks at its flag, as it does between two polls however the poll before ended. It ends if
the flag is cleared. -/
def Pump.look (p : Pump) : Pump := if p.mayRun then p else { p with finished := true }

def Pump.clear (p : Pump) : Pump := { p with mayRun := false }

/-- The listeners and every thread started for them, the first one first. -/
structure Listening where
  listeners : Nat := 0
  pumps : List Pump := []
  /-- The thread whose flag is held. -/
  held : Option Nat := none
  deriving DecidableEq, Repr

namespace Listening

/-- Counts a listener, and starts a thread for the first. -/
def start (l : Listening) : Listening :=
  if l.listeners = 0 then { listeners := 1, pumps := l.pumps ++ [{}], held := some l.pumps.length }
  else { l with listeners := l.listeners + 1 }

/-- Clears the flag that is held, and lets it go. So it is done as well when the owner of the threads
goes away. -/
def letGo (l : Listening) : Listening :=
  match l.held with
  | none => l
  | some thread => { l with pumps := l.pumps.modify thread Pump.clear, held := none }

/-- Counts a listener off, and stops the thread with the last one. Nobody to count off is no
change. -/
def stop (l : Listening) : Listening :=
  match l.listeners with
  | 0 => l
  | 1 => { l.letGo with listeners := 0 }
  | n + 2 => { l with listeners := n + 1 }

def look (l : Listening) (thread : Nat) : Listening :=
  { l with pumps := l.pumps.modify thread Pump.look }

/-- Every thread looks once. -/
def lookAll (l : Listening) : Listening := { l with pumps := l.pumps.map Pump.look }

/-- Whether the thread started last has not ended. -/
def isRunning (l : Listening) : Bool := l.pumps.getLast?.any (!·.finished)

/-- Whether some thread goes on polling. -/
def isPolling (l : Listening) : Bool := l.pumps.any fun p => p.mayRun && !p.finished

end Listening
end RemoteUsb
