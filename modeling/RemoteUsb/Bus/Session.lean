import RemoteUsb.Bus.Handle
import RemoteUsb.Event

/-!
A session with the native bus: enumeration, opening, and notifications of devices that come and go.
Every operation answers the calls that it makes into the bus.
-/
namespace RemoteUsb

namespace Bus

/-- That the device at a place of the listing came or went. -/
structure Notice where
  place : Nat
  arrived : Bool
  deriving DecidableEq, Repr

end Bus

/-- A native bus: its devices in the order of the listing, the result codes of making a session, of
listing, of registering for notifications and of handling events, and the notices not yet
delivered. -/
structure Bus where
  devices : List Bus.Node := []
  sessionCode : Bus.Code := 0
  listCode : Bus.Code := 0
  registerCode : Bus.Code := 0
  eventCode : Bus.Code := 0
  /-- Whether the bus can notify at all. -/
  hotplug : Bool := true
  notices : List Bus.Notice := []
  /-- Whether somebody holds a registration for notices. -/
  registered : Bool := false
  /-- Whether notices are delivered. There is one place for whoever they are delivered to, and the end
  of any registration empties it, even if another one was made before. -/
  delivers : Bool := false
  deriving DecidableEq, Repr

instance : Inhabited Bus := ⟨{}⟩

namespace Bus

/-- Makes a session, or says why the bus cannot be used. -/
def start (bus : Bus) : Except BackendError Unit :=
  bus.sessionCode.check.mapError fun fault => .context fault.message

def list (bus : Bus) : Except BackendError (List Node) :=
  (bus.listCode.check.mapError Fault.toBackend).map fun _ => bus.devices.filter (·.present)

/-- Lists the devices with their strings. A device whose descriptor cannot be read is passed over. -/
def enumerate (bus : Bus) : List Call × Except BackendError (List DeviceInfo) :=
  match bus.list with
  | .error error => ([], .error error)
  | .ok nodes =>
    let readable := nodes.filterMap fun node => node.describe.toOption.map (node, ·)
    (readable.flatMap fun (node, _) => node.textCalls,
      .ok (readable.map fun (node, info) => node.withTexts info))

def openDevice (bus : Bus) (addressing : Addressing) (key : DeviceKey) :
    List Call × Except BackendError Handle :=
  match bus.list with
  | .error error => ([], .error error)
  | .ok nodes =>
    match nodes.find? (fun node => node.key? addressing == some key) with
    | none => ([], .error .notFound)
    | some node =>
      let (calls, result) := node.takeOver key
      (calls, result.mapError Fault.toBackend)

/-- Registers for notices; answers whether the bus can notify. A registration held before ends after
the new one was made, so that nothing is delivered from then on, and stays if that fails. -/
def subscribe (bus : Bus) : Bus × List Call × Except BackendError Bool :=
  let ending := if bus.registered then [Call.deregister] else []
  if bus.hotplug then
    let registering := Call.register bus.registerCode
    match bus.registerCode.check with
    | .error fault => (bus, [registering], .error fault.toBackend)
    | .ok () =>
      ({ bus with registered := true, delivers := !bus.registered }, registering :: ending, .ok true)
  else ({ bus with registered := false, delivers := false }, ending, .ok false)

/-- Ends the registration; answers whether there was one. -/
def unsubscribe (bus : Bus) : Bus × List Call × Bool :=
  ({ bus with registered := false, delivers := false },
    if bus.registered then [.deregister] else [], bus.registered)

/-- The event for a notice, with what the bus says of the device now. Strings are not read while
notices are delivered; a device that cannot be identified gives no event. -/
def eventOf? (bus : Bus) (addressing : Addressing) (notice : Notice) : Option Event := do
  let node ← bus.devices[notice.place]?
  if notice.arrived then node.describe.toOption.map Event.arrived
  else (node.key? addressing).map Event.left

/-- Delivers the notices, the oldest first, unless there is nobody to deliver them to. An interruption
is no failure. -/
def handleEvents (bus : Bus) (addressing : Addressing) :
    Bus × List Event × Except BackendError Unit :=
  let result : Except BackendError Unit :=
    match bus.eventCode.check with
    | .ok () => .ok ()
    | .error .interrupted => .ok ()
    | .error fault => .error fault.toBackend
  if bus.delivers then
    ({ bus with notices := [] }, bus.notices.filterMap (bus.eventOf? addressing), result)
  else (bus, [], result)

inductive Change where
  | arrive (place : Nat)
  | leave (place : Nat)
  /-- New result codes of reading the descriptor, of reading the configuration and of opening. -/
  | codes (place : Nat) (descriptor configuration opening : Code)
  | listCode (code : Code)
  | registerCode (code : Code)
  | eventCode (code : Code)
  deriving DecidableEq, Repr, Inhabited

/-- Sets whether a device is there, with a notice if notices are delivered. -/
def setPresent (bus : Bus) (place : Nat) (present : Bool) : Bus :=
  { bus with
    devices := bus.devices.modify place fun node => { node with present }
    notices := if bus.delivers then bus.notices ++ [⟨place, present⟩] else bus.notices }

def apply (bus : Bus) : Change → Bus
  | .arrive place => bus.setPresent place true
  | .leave place => bus.setPresent place false
  | .codes place descriptor configuration opening =>
    { bus with devices := bus.devices.modify place fun node =>
        { node with
          descriptorCode := descriptor, configurationCode := configuration, openCode := opening } }
  | .listCode code => { bus with listCode := code }
  | .registerCode code => { bus with registerCode := code }
  | .eventCode code => { bus with eventCode := code }

def Change.ofLine? (line : String) : Option Change := do
  let (word, numbers) ← match line.splitOn " " with
    | [] => none
    | word :: numbers => (numbers.mapM fun n => Text.readInteger? 10 n.toList).map (word, ·)
  match word, numbers with
  | "arrive", [n] => some (.arrive n.toNat)
  | "leave", [n] => some (.leave n.toNat)
  | "errors", [n, d, c, o] => some (.codes n.toNat d c o)
  | "list", [code] => some (.listCode code)
  | "register", [code] => some (.registerCode code)
  | "event", [code] => some (.eventCode code)
  | _, _ => none

end Bus
end RemoteUsb
