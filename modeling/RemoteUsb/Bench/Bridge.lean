import RemoteUsb.Event

/-!
The queue of events with both of its ends on the bench.
-/
namespace RemoteUsb.Bench

inductive QueueRequest where
  /-- An event is posted so many times. -/
  | post (event : Event) (times : Nat)
  | send (event : Event)
  | tryReceive
  | receive
  | dropSender
  | dropReceiver

inductive QueueAnswer where
  | senderGone
  | receiverGone
  /-- So many posts were accepted, and the last one ended like this; it may be that nobody was there
  to post. -/
  | posted (accepted : Nat) (last : Option (Except EventQueue.Fault Unit))
  | sent (result : Except EventQueue.Fault Unit)
  | found (event : Option Event)
  | received (result : Except EventQueue.Fault Event)
  /-- The call waits. -/
  | waits
  /-- The end of the queue is gone now; `was` says whether it was there. -/
  | dropped (was : Bool)

namespace QueueRequest

/-- Posts an event so many times; answers how many were accepted and how the last one ended. -/
def postTimes (q : EventQueue) (event : Event) :
    Nat → EventQueue × Nat × Except EventQueue.Fault Unit
  | 0 => (q, 0, .ok ())
  | n + 1 =>
    let (q, accepted, _) := postTimes q event n
    let (q, last) := q.post event
    (q, if last matches .ok () then accepted + 1 else accepted, last)

def serve (q : EventQueue) : QueueRequest → EventQueue × QueueAnswer
  | post event times =>
    if q.senderGone then (q, .posted 0 (if times = 0 then some (.ok ()) else none))
    else
      let (q, accepted, last) := postTimes q event times
      (q, .posted accepted (some last))
  | send event =>
    if q.senderGone then (q, .senderGone)
    else match q.send? event with
      | some (q, result) => (q, .sent result)
      | none => (q, .waits)
  | tryReceive => if q.receiverGone then (q, .receiverGone) else (q.take?.1, .found q.take?.2)
  | receive =>
    if q.receiverGone then (q, .receiverGone)
    else match q.receive? with
      | some (q, result) => (q, .received result)
      | none => (q, .waits)
  | dropSender => (q.dropSender, .dropped !q.senderGone)
  | dropReceiver => (q.dropReceiver, .dropped !q.receiverGone)

end QueueRequest
end RemoteUsb.Bench
