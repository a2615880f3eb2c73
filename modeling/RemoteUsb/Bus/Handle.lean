import RemoteUsb.Bus.Node

/-!
Opened devices. Opening takes every interface of the active configuration, in order, away from its
kernel driver, and the end of the handle gives all of them back; an opening that fails halfway gives
back what it took.
-/
namespace RemoteUsb.Bus

namespace Node

/-- The calls before an interface is claimed: a kernel driver that is known to be attached is asked
to let go. -/
def freeing (node : Node) (i : Interface) : List Call :=
  node.call (.queryKernel i.number) i.kernel ::
    if i.kernel = 1 then [node.call (.detachKernel i.number) i.detach] else []

def taking (node : Node) (i : Interface) : List Call :=
  node.freeing i ++ [node.call (.claim i.number) i.claim]

def releasing (node : Node) (i : Interface) : Call := node.call (.release i.number) i.release

def returning (node : Node) (i : Interface) : List Call :=
  [node.releasing i, node.call (.attachKernel i.number) i.attach]

end Node

/-- Puts an interface into a list sorted by number that holds every number once. -/
def insertByNumber (i : Interface) : List Interface → List Interface
  | [] => [i]
  | j :: rest =>
    if i.number < j.number then i :: j :: rest
    else if i.number = j.number then j :: rest
    else j :: insertByNumber i rest

/-- What the bus library still holds after an interface was to be released. -/
def withoutReleased (held : List Interface) (i : Interface) : List Interface :=
  if i.release < 0 then held else held.filter (·.number != i.number)

structure Handle where
  key : DeviceKey
  node : Node
  /-- The interfaces to be given back, in the order in which they were claimed. -/
  claimed : List Interface := []
  /-- The interfaces that the bus library has claimed and has not released, by number. -/
  held : List Interface := []
  deriving DecidableEq, Repr

namespace Handle

def hold (handle : Handle) (i : Interface) : Handle :=
  { handle with claimed := handle.claimed ++ [i], held := insertByNumber i handle.held }

/-- Gives the claimed interfaces back, in the order in which they were claimed. Afterwards there are
none to be given back, even if a release failed. -/
def release (handle : Handle) : Handle × List Call :=
  ({ handle with claimed := [], held := handle.claimed.foldl withoutReleased handle.held },
    handle.claimed.flatMap handle.node.returning)

/-- The calls when the handle goes away. What the bus library still holds is released once more, and the
device is closed. -/
def drop (handle : Handle) : List Call :=
  let (handle, calls) := handle.release
  calls ++ handle.held.map handle.node.releasing ++ [handle.node.call .closeDevice 0]

/-- The calls when the handle is closed: it gives everything back, and then goes away. -/
def close (handle : Handle) : List Call :=
  let (handle, calls) := handle.release
  calls ++ handle.drop

/-- Claims more interfaces. If one cannot be claimed, the handle is given up. -/
def claimAll (handle : Handle) : List Interface → List Call × Except Fault Handle
  | [] => ([], .ok handle)
  | i :: rest =>
    match i.claim.check with
    | .error fault => (handle.node.taking i ++ handle.close, .error fault)
    | .ok () =>
      let (calls, result) := (handle.hold i).claimAll rest
      (handle.node.taking i ++ calls, result)

end Handle

def Node.takeOver (node : Node) (key : DeviceKey) : List Call × Except Fault Handle :=
  let opening := node.call .openDevice node.openCode
  match node.openCode.check with
  | .error fault => ([opening], .error fault)
  | .ok () =>
    match node.configurationCode.check with
    | .error fault => ([opening, node.call .closeDevice 0], .error fault)
    | .ok () =>
      let (calls, result) := Handle.claimAll { key, node } node.interfaces
      (opening :: calls, result)

end RemoteUsb.Bus
