import RemoteUsb.Bench.Turn

/-!
Calls at the bench: those that the caller makes himself and waits for, and connects that are begun under
a name and go on by themselves.
-/
namespace RemoteUsb.Bench

/-! ## Calls of one's own -/

def call (act : Surroundings → Nat → Act Unit) : Trial (Option (Except RedirectError Unit)) :=
  await fun id => step fun w => act w id

def connect (key : DeviceKey) (stopped : Bool) : Trial (Option (Except RedirectError Unit)) :=
  call fun _ id => Manager.callConnect id key stopped

def connectAt (channel : Nat) (device : RegisteredDevice) (stopped : Bool) :
    Trial (Option (Except RedirectError Unit)) :=
  await fun call => ChannelCall.begin { call, channel, device, stopped }

def connectBound (channel : Nat) (stopped : Bool) : Trial (Option (Except RedirectError Unit)) :=
  await fun call => beginBound call channel stopped

/-! ## Calls by name -/

def startCall (name : String) (start : Nat → Trial Unit) : Trial Unit := do
  let id := (← get).manager.nextTask
  modify fun s => { s with
    manager := s.manager.takeNumber.1, calls := (name, id) :: s.calls.filter (·.1 != name) }
  start id

def startConnect (name : String) (key : DeviceKey) (stopped : Bool) : Trial Unit :=
  startCall name fun id => step fun _ => Manager.callConnect id key stopped

def startConnectAt (name : String) (channel : Nat) (device : RegisteredDevice) (stopped : Bool) :
    Trial Unit :=
  startCall name fun call => modify fun s =>
    Stand.lineUp { s with starting := s.starting ++ [{ call, channel, device, stopped }] }

def Stand.unresolved (s : Stand) : Nat := s.calls.countP fun (_, id) => (s.result? id).isNone

def forgetCall (name : String) : Trial Unit :=
  modify fun s => { s with calls := s.calls.filter (·.1 != name) }

/-- Waits for a connect that was made by name; nothing if there is none. -/
def waitFor (name : String) : Trial (Option (Option (Except RedirectError Unit))) := do
  match (← get).calls.lookup name with
  | none => return none
  | some id =>
    waitUntil fun s => (s.result? id).isSome
    forgetCall name
    return some ((← get).result? id)

/-- Cancels the token of a connect that was made by name; answers whether there is one. -/
def cancel (name : String) : Trial Bool := do
  match (← get).calls.lookup name with
  | none => return false
  | some id =>
    modify fun s => { s with starting := s.starting.map fun c =>
      if c.call = id then { c with stopped := true } else c }
    step fun w => Manager.stopCall w id
    return true

/-- Drops a connect that was made by name, which happens when its turn comes; answers whether it had
not ended, or nothing if there is no such connect. -/
def drop (name : String) : Trial (Option Bool) := do
  match (← get).calls.lookup name with
  | none => return none
  | some id =>
    forgetCall name
    if ((← get).result? id).isSome then return some false
    modify fun s => Stand.lineUp { s with unwanted := id :: s.unwanted }
    exhaust turn?
    return some true

end RemoteUsb.Bench
