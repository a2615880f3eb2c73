import RemoteUsb.Bench.Backend
import RemoteUsb.Bench.Helpers
import RemoteUsb.Manager.Events

/-!
A manager on the bench: with a bus in memory, hosts that can be spoken to, helpers that run scripts, a
background that works on its own, and a line in which everybody stands who can go on.
-/
namespace RemoteUsb.Bench

inductive Chore where
  | job (job : Job)
  /-- A device is opened for a call of a channel. -/
  | opening (channel : Nat) (key : DeviceKey)

structure Errand where
  task : Nat
  chore : Chore
  /-- When it will be done. -/
  due : Nat
  /-- Whether it waits before it does anything, so that the time is not known. -/
  held : Bool := false

structure ChannelCall where
  call : Nat
  channel : Nat
  device : RegisteredDevice
  stopped : Bool

inductive Turn where
  /-- The loop of the manager. -/
  | loop
  | task (id : Nat)
  deriving DecidableEq, Repr

structure Stand where
  manager : Manager
  backend : Backend
  factory : Factory := {}
  /-- Hosts that are the latest made for their channel and that the channel does not have. -/
  strays : List (Nat × Host) := []
  /-- What the helpers run, by call. -/
  scripts : List (Nat × Script.Program) := []
  /-- How many milliseconds have passed. -/
  clock : Nat := 0
  /-- What is done in the background, in the order in which it was begun. -/
  errands : List Errand := []
  /-- The calls on channels that have not begun. -/
  starting : List ChannelCall := []
  /-- The tasks that are dropped when their turn comes. -/
  unwanted : List Nat := []
  /-- Who can go on, in the order in which they became able to. -/
  turns : List Turn := []
  /-- The call that the caller on the bench makes himself, and that does not stand in line. -/
  own : Option Nat := none
  /-- The connects that were begun by name. -/
  calls : List (String × Nat) := []
  /-- The calls that came to an end, with their results. -/
  results : List (Nat × Except RedirectError Unit) := []
  notifications : List Notification := []

abbrev Trial := StateM Stand

namespace Stand

def surroundings (s : Stand) : Surroundings :=
  { needsDriver := s.backend.needsDriver
    launch := match s.manager.settings.accessHelper.map launch with
      | some (.refused text) => .error text
      | _ => .ok ()
    newHost := s.factory.newHost
    subscription := s.backend.subscription }

def close (s : Stand) (handle : Handle) : Stand := { s with backend := s.backend.close handle }

/-! ## Hosts -/

def latestHost? (s : Stand) (channel : Nat) : Option Host :=
  (s.strays.lookup channel).or ((s.manager.anyChannel? channel).bind (·.host))

def changeHost (s : Stand) (channel : Nat) (f : Host → Host) : Stand :=
  if (s.strays.lookup channel).isSome then
    let change : Nat × Host → Nat × Host
      | (id, host) => if id = channel then (id, f host) else (id, host)
    { s with strays := s.strays.map change }
  else match s.manager.anyChannel? channel with
    | some c => { s with manager := s.manager.setChannel { c with host := c.host.map f } }
    | none => s

def forgetStray (s : Stand) (channel : Nat) : Stand :=
  { s with strays := s.strays.filter (·.1 != channel) }

def countHost (s : Stand) : Stand := { s with factory := { s.factory with made := s.factory.made + 1 } }

/-- A channel lost its host. The host goes away with what it holds, unless it is still the last one
made for the channel: that one stays in reach. -/
def hostLeft (s : Stand) (channel : Nat) (host : Option Host) (renewed : Bool) : Stand :=
  let closing (s : Stand) : Stand :=
    match host.bind (·.handle) with
    | some handle => s.close handle
    | none => s
  if renewed then (closing (s.forgetStray channel)).countHost
  else if (s.strays.lookup channel).isSome then closing s
  else match host with
    | some host => { s with strays := (channel, host) :: s.strays }
    | none => s

/-! ## What steps lead to -/

def send (s : Stand) (errand : Errand) : Stand := { s with errands := s.errands ++ [errand] }

def effect (s : Stand) (channel : Nat) : Effect → Stand
  | .asked call _ _ =>
    match s.manager.settings.accessHelper.map launch with
    | some (.started program) => { s with scripts := (call, program) :: s.scripts }
    | _ => s
  | .inputClosed call => { s with scripts := s.scripts.filter (·.1 != call) }
  | .opening call key =>
    s.send { task := call, chore := .opening channel key
             due := s.clock + s.backend.openTime, held := s.backend.holding }
  | .closed handle => s.close handle
  | .ended call result => { s with results := (call, result) :: s.results }

def output (s : Stand) : Output → Stand
  | .notified notification => { s with notifications := s.notifications ++ [notification] }
  | .ended call result => { s with results := (call, result) :: s.results }
  | .started task job => s.send { task, chore := .job job, due := s.clock }
  | .effect channel effect => s.effect channel effect
  | .hostLeft channel host renewed => s.hostLeft channel host renewed

def result? (s : Stand) (call : Nat) : Option (Except RedirectError Unit) := s.results.lookup call

/-! ## Who can go on -/

/-- Whether a task can go on: it has not begun, what it waited for is there, or it was called off while
a reply was awaited. -/
def canGoOn (s : Stand) (t : Task) : Bool :=
  match t.work with
  | .idle _ | .tidying _ => true
  | .installing _ _ outcome | .uninstalling _ outcome => outcome.isSome
  | .enumerating outcome => outcome.isSome
  | .connecting _ _ channel =>
    match (s.manager.anyChannel? channel).bind (·.attempt? t.id) with
    | none => false
    | some a =>
      match a.phase with
      | .opening _ outcome => outcome.isSome
      | .asking x => a.stopped && x.stage == .waiting

def loopCanGoOn (s : Stand) : Bool :=
  match s.manager.loop with
  | .waiting => s.manager.stopped || !s.manager.queue.waiting.isEmpty
  | .handling task => (s.manager.task? task).any s.canGoOn
  | .ended => false

def able (s : Stand) : List Turn :=
  let inLine (t : Task) : Bool :=
    s.own != some t.id && s.manager.loop != .handling t.id &&
      (s.unwanted.contains t.id || s.canGoOn t)
  (if s.loopCanGoOn then [.loop] else []) ++ s.starting.map (.task ·.call) ++
    (s.manager.tasks.filter inLine).map (.task ·.id)

def lineUp (s : Stand) : Stand :=
  { s with turns := s.turns ++ s.able.filter fun turn => !s.turns.contains turn }

end Stand

def step {α : Type} (act : Surroundings → Act α) : Trial α := do
  let s ← get
  let (answer, manager, outputs) := (act s.surroundings).perform s.manager
  let s := outputs.foldl Stand.output { s with manager }
  set (Stand.lineUp { s with backend := { s.backend with
    subscribed := s.backend.subscribed || manager.registration } })
  return answer

end RemoteUsb.Bench
