import RemoteUsb.Bench.Stand

/-!
The order in which things go on at the bench.

Whoever can go on stands in line, and goes on as far as possible when the turn comes. Only when nobody
stands in line does the background get something done: first what is due, in the order in which it was
begun, then what helpers answer, and then what is due next. A caller on the bench who waits for a call
of his own goes on when nobody stands in line; when he has his result, everything else stays as it is.
-/
namespace RemoteUsb.Bench

/-! ## Calls on channels -/

def bind (channel : Nat) (device : RegisteredDevice) : Trial (Except RedirectError Unit) := do
  let s ← get
  match s.manager.anyChannel? channel with
  | none => return .error (.unknownChannel channel)
  | some c =>
    match c.bind device with
    | .error error => return .error error
    | .ok c =>
      set { s with manager := s.manager.setChannel c }
      return .ok ()

def beginBound (call channel : Nat) (stopped : Bool) : Trial Unit :=
  step fun w => do
    let m ← Act.manager
    match (m.anyChannel? channel).bind (·.device) with
    | none => Manager.endCall call (.error .cancelled)
    | some device =>
      Act.change fun m => m.setTask call (.connecting { key := device.key } device channel)
      Manager.onChannel w channel fun c =>
        c.beginConnect call (Manager.entry w m.settings) stopped

def ChannelCall.begin (c : ChannelCall) : Trial Unit := do
  match ← bind c.channel c.device with
  | .ok () => beginBound c.call c.channel c.stopped
  | .error error => step fun _ => Manager.endCall c.call (.error error)

/-! ## Turns -/

def goOn (t : Task) : Trial Unit :=
  step fun w =>
    match t.work with
    | .idle _ | .tidying _ => Manager.begin w t.id
    | .connecting _ _ channel => do
      match ((← Act.manager).anyChannel? channel).bind (·.attempt? t.id) with
      | some { phase := .asking _, .. } =>
        Manager.onChannel w channel fun c => c.signal t.id .cancelled
      | _ => Manager.resume w t.id
    | _ => Manager.resume w t.id

/-- What a task does next, if it can go on. -/
def taskMove? (s : Stand) (id : Nat) : Option (Trial Unit) :=
  ((s.manager.task? id).filter s.canGoOn).map goOn

/-- What the loop does next, if it can go on. After a shutdown it ends before it takes another
event. -/
def loopMove? (s : Stand) : Option (Trial Unit) :=
  match s.manager.loop with
  | .handling task => taskMove? s task
  | _ =>
    if !s.loopCanGoOn then none
    else if s.manager.stopped then some (step fun _ => Manager.endLoop)
    else some (step Manager.nextEvent)

/-- Does what a choice says until it has nothing more to say, at most `fuel` times. -/
def repeatFor (choose : Stand → Option (Trial Unit)) : Nat → Trial Unit
  | 0 => return
  | fuel + 1 => do
    match choose (← get) with
    | none => return
    | some act =>
      act
      repeatFor choose fuel

def movesEach : Nat := 64

def Stand.moves (s : Stand) : Nat :=
  movesEach * (s.manager.queue.waiting.length + s.manager.tasks.length + s.errands.length +
    s.starting.length + s.turns.length + 1)

def exhaust (choose : Stand → Option (Trial Unit)) : Trial Unit := do
  repeatFor choose (← get).moves

def dismiss (call : Nat) : Trial Unit := do
  modify fun s => { s with
    unwanted := s.unwanted.filter (· != call), starting := s.starting.filter (·.call != call) }
  step fun w => Manager.abandon w call

def follow (id : Nat) : Trial Unit := do
  let s ← get
  if s.unwanted.contains id then dismiss id
  else
    if let some c := s.starting.find? (·.call == id) then
      set { s with starting := s.starting.filter (·.call != id) }
      c.begin
    exhaust (taskMove? · id)

def take (turn : Turn) : Trial Unit := do
  match turn with
  | .loop => exhaust loopMove?
  | .task id => follow id
  modify fun s => Stand.lineUp { s with turns := s.turns.filter (· != turn) }

def turn? (s : Stand) : Option (Trial Unit) := s.turns.head?.map take

/-! ## The background -/

def Errand.run (e : Errand) : Trial Unit := do
  let s ← get
  let s := { s with clock := max s.clock e.due, errands := s.errands.filter (·.task != e.task) }
  match e.chore with
  | .job .enumerate =>
    set s
    step fun _ => Manager.enumerationDone e.task s.backend.enumerate
  | .job (.install info) =>
    let (backend, outcome) := s.backend.install info
    set { s with backend }
    step fun _ => Manager.jobDone e.task outcome
  | .job (.uninstall info) =>
    let (backend, outcome) := s.backend.uninstall info
    set { s with backend }
    step fun _ => Manager.jobDone e.task outcome
  | .opening channel key =>
    let (backend, outcome) := s.backend.openDevice key
    set { s with backend }
    step fun w => Manager.onChannel w channel fun c => c.opened e.task outcome

def release : Trial Unit :=
  modify fun s => { s with
    backend := { s.backend with holding := false }
    errands := s.errands.map fun e =>
      if e.held then { e with held := false, due := s.clock + s.backend.openTime } else e }

/-- The next signal in the talk of an attempt with its helper, if there is one. -/
def nextSignal? (program : Script.Program) (x : Access.Exchange) : Option Access.Signal :=
  match x.stage with
  | .asking left | .withdrawing left => some (.accepted left.length)
  | .waiting | .draining => (reply? program x.written).map .replied

/-- What the helper of a task does next, if anything. -/
def helperMove? (s : Stand) (t : Task) : Option (Trial Unit) :=
  match t.work with
  | .connecting _ _ channel => do
    let c ← s.manager.anyChannel? channel
    match (← c.attempt? t.id).phase with
    | .opening .. => none
    | .asking x =>
      let signal ← nextSignal? (← s.scripts.lookup t.id) x
      some (step fun w => Manager.onChannel w channel fun c => c.signal t.id signal)
  | _ => none

/-- The errand that is done first; of two that are done at the same time, the one begun first. -/
def soonest? : List Errand → Option Errand
  | [] => none
  | e :: errands =>
    match soonest? errands with
    | some later => if later.due < e.due then some later else some e
    | none => some e

def backgroundMove? (s : Stand) : Option (Trial Unit) :=
  let going := s.errands.filter fun e => !e.held
  ((going.find? fun e => e.due ≤ s.clock).map Errand.run).or
    ((s.manager.tasks.findSome? (helperMove? s)).or ((soonest? going).map Errand.run))

/-! ## Waiting -/

def settle : Trial Unit := exhaust fun s => (turn? s).or (backgroundMove? s)

/-- Waits until something holds: whoever stands in line then still goes on. -/
def waitUntil (holds : Stand → Bool) : Trial Unit := do
  unless holds (← get) do
    exhaust fun s =>
      (turn? s).or (if holds s then none else backgroundMove? s)

/-- The caller on the bench makes a call of his own, which `begin` begins under its number, and waits
for its end. -/
def await (begin : Nat → Trial Unit) : Trial (Option (Except RedirectError Unit)) := do
  let call := (← get).manager.nextTask
  modify fun s => { s with manager := s.manager.takeNumber.1, own := some call }
  begin call
  follow call
  exhaust fun s =>
    if (s.result? call).isSome then none
    else (turn? s).or ((taskMove? s call).or (backgroundMove? s))
  modify fun s => { s with own := none }
  return (← get).result? call

end RemoteUsb.Bench
