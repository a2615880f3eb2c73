import RemoteUsb.Proofs.Manager.Failures
import RemoteUsb.Proofs.Manager.Shutdown
import RemoteUsb.Proofs.Wire.Front

/-! What a pump hands over of a stream of any bytes. While the pump waits for bytes everybody else has
turns, so the pump and the others go on in any order. What a row of happenings makes of the pump and of the
manager is said for every order by `pump_hands_over`: whatever came of the earlier messages, those that were
handed over are the first of the longest front of the stream that is understood, and the pump ends as that
front does. -/

namespace RemoteUsb

open Wire (Understood Closes Longest Message Payload Stream WireError)

namespace Manager

variable {m : Manager} {w : Surroundings} {id : Nat} {payload : Payload}

/-- The channel is in the set, and the manager was not shut down. -/
def Serves (m : Manager) (id : Nat) : Prop := (m.channel? id).isSome = true ∧ m.stopped = false

instance (m : Manager) (id : Nat) : Decidable (m.Serves id) := instDecidableAnd

theorem isSome_channel? {n : Manager} (h : n.channels.map (·.id) = m.channels.map (·.id)) :
    (n.channel? id).isSome = (m.channel? id).isSome := by
  have hids : ∀ o : Manager, (o.channel? id).isSome = (o.channels.map (·.id)).any (· == id) := by
    intro o
    rw [channel?, Bool.eq_iff_iff, List.find?_isSome, List.any_map, List.any_eq_true]
    rfl
  rw [hids, hids, h]

theorem deviceFailed_stopped (failure : Failure) :
    ((deviceFailed w failure).perform m).2.1.stopped = m.stopped := by
  have htidy : ∀ (n : Manager) (info : DeviceInfo), ((tidy w info).perform n).2.1.stopped = n.stopped := by
    intro n info
    rw [perform_tidy]
    unfold tidied
    split
    · exact setTask_stopped n.takeNumber.1 n.nextTask (.tidying info)
    · rfl
  obtain ⟨device, released, fault⟩ := failure
  cases released with
  | false => cases device <;> rfl
  | true =>
    cases device with
    | none => rfl
    | some device => exact htidy m.stopListening device.info

/-- A message takes nothing out of the set, and does not shut the manager down. -/
theorem receive_serves (h : m.Serves id) : ((receive w id payload).perform m).2.1.Serves id := by
  obtain ⟨c, hc⟩ := Option.isSome_iff_exists.mp h.1
  rw [receive, perform_manager, hc]
  dsimp only
  rw [perform_bind, settleChannel_told (Channel.endings_receive c payload)]
  have hput : (m.setChannel (c.receive payload).1).Serves id :=
    ⟨(isSome_channel? (setChannel_ids m _)).trans h.1, h.2⟩
  cases (c.receive payload).2.2 with
  | none => exact hput
  | some failure =>
    dsimp only
    rw [perform_bind]
    have hids := congrArg (List.map (·.id))
      (deviceFailed_beside (w := w) (m := m.setChannel (c.receive payload).1) failure).channels
    exact ⟨(isSome_channel? hids).trans hput.1, (deviceFailed_stopped failure).trans hput.2⟩

/-- A message for a channel that is there fails because of its device or not at all. -/
theorem receive_known (h : m.Serves id) (other : Nat) :
    ((receive w id payload).perform m).1 ≠ .error (.unknownChannel other) := by
  obtain ⟨c, hc⟩ := Option.isSome_iff_exists.mp h.1
  rw [receive, perform_manager, hc]
  dsimp only
  rw [perform_bind, settleChannel_told (Channel.endings_receive c payload)]
  intro he
  cases hfailure : (c.receive payload).2.2 with
  | none =>
    rw [hfailure] at he
    cases he
  | some failure =>
    rw [hfailure] at he
    cases he

/-- A message that can be received is handed over, whether or not it fails. -/
theorem pumpNext_handed {s rest : Stream} (h : m.Serves id)
    (hs : Payload.receive s = (.ok (some payload), rest)) :
    (pumpNext w id s).perform m = (.handed payload rest, ((receive w id payload).perform m).2) := by
  have hknown : ∀ other, ((receive w id payload).perform m).1 ≠ .error (.unknownChannel other) :=
    receive_known h
  rw [pumpNext, perform_manager, h.2]
  simp only [hs, Bool.false_eq_true, if_false]
  rw [perform_bind]
  generalize (receive w id payload).perform m = answer at hknown ⊢
  obtain ⟨result, n, outputs⟩ := answer
  dsimp only at hknown ⊢
  split
  · exact absurd rfl (hknown _)
  · exact congrArg (fun outputs => (Pumped.handed payload rest, n, outputs)) (List.append_nil outputs)

def Pumped.conclusion (ending : Except WireError Unit) : Except RedirectError Unit :=
  ending.mapError fun error => .transport (.decode error)

theorem pumpNext_ended {s rest : Stream} {ending : Except WireError Unit} (h : m.Serves id)
    (hs : Payload.receive s = (ending.map fun _ => none, rest)) :
    (pumpNext w id s).perform m = (.ended (Pumped.conclusion ending), m, []) := by
  rw [pumpNext, perform_manager, h.2]
  cases ending with
  | ok =>
    simp only [hs, Bool.false_eq_true, if_false, Except.map]
    rfl
  | error error =>
    simp only [hs, Bool.false_eq_true, if_false, Except.map]
    rfl

def receipts (id : Nat) (messages : List Message) : List Turn :=
  messages.map fun message => { move := .receive id message.accepted }

/-- A pump that is alone has the messages handled one after another, and then ends. -/
theorem pumpFor_understood {drivers : Bool} {front rest : Bytes} {messages : List Message}
    {ending : Except WireError Unit} (hfront : Understood front messages) (hcloses : Closes rest ending) :
    ∀ {m : Manager} {fuel : Nat} {s : Stream}, messages.length < fuel → s.flatten = front ++ rest →
      m.Serves id →
        ((pumpFor { needsDriver := drivers } id fuel s).perform m).1 = Pumped.conclusion ending ∧
        ((pumpFor { needsDriver := drivers } id fuel s).perform m).2.1 =
          m.run drivers (receipts id messages) := by
  induction hfront with
  | nil =>
    intro m fuel s hfuel hs h
    obtain ⟨fuel, rfl⟩ := Nat.exists_eq_succ_of_ne_zero (Nat.ne_of_gt hfuel)
    obtain ⟨others, hreceive⟩ := hcloses.receive hs
    rw [pumpFor, perform_bind, pumpNext_ended h hreceive]
    exact ⟨rfl, rfl⟩
  | cons hheads hm hv _ ih =>
    intro m fuel s hfuel hs h
    obtain ⟨fuel, rfl⟩ := Nat.exists_eq_succ_of_ne_zero (Nat.ne_of_gt (Nat.zero_lt_of_lt hfuel))
    rw [List.append_assoc] at hs
    obtain ⟨others, hreceive, hothers⟩ := Payload.receive_message hheads hm hv hs
    rw [pumpFor, perform_bind, pumpNext_handed h hreceive]
    exact ih (Nat.lt_of_succ_lt_succ hfuel) hothers (receive_serves h)

end Manager

/-! ## A pump among the others -/

/-- A pump with the manager to which it hands messages over, and what came of it so far. -/
structure Inbound where
  manager : Manager
  /-- What is still to be read of the stream. -/
  rest : Stream
  handed : List Payload := []
  /-- How the pump ended. -/
  result : Option (Except RedirectError Unit) := none

namespace Inbound

/-- What happens next: somebody else has a turn, or the pump goes on. -/
inductive Happening where
  | turn (t : Manager.Turn)
  | goesOn

/-- The pump goes on with what can be read next. Whether drivers are wanted is all that the handling of a
message finds out there. -/
def goOn (drivers : Bool) (id : Nat) (p : Inbound) : Inbound :=
  match (Manager.pumpNext { needsDriver := drivers } id p.rest).perform p.manager with
  | (.handed payload rest, manager, _) => { p with manager, rest, handed := p.handed ++ [payload] }
  | (.ended result, manager, _) => { p with manager, result := some result }

def step (drivers : Bool) (id : Nat) (p : Inbound) : Happening → Inbound
  | .turn t => { p with manager := (p.manager.turn drivers t).1 }
  | .goesOn => if p.result.isSome then p else p.goOn drivers id

def run (drivers : Bool) (id : Nat) (p : Inbound) : List Happening → Inbound
  | [] => p
  | h :: row => (p.step drivers id h).run drivers id row

/-- The channel is in the set and the manager is not shut down before, between and after what happens. -/
def Served (drivers : Bool) (id : Nat) (p : Inbound) : List Happening → Prop
  | [] => p.manager.Serves id
  | h :: row => p.manager.Serves id ∧ (p.step drivers id h).Served drivers id row

def goings : List Happening → Nat
  | [] => 0
  | .turn _ :: row => goings row
  | .goesOn :: row => goings row + 1

/-- The turns of a row if the pump has the messages handled: it takes a turn for each of them. -/
def turns (id : Nat) : List Happening → List Payload → List Manager.Turn
  | [], _ => []
  | .turn t :: row, payloads => t :: turns id row payloads
  | .goesOn :: row, [] => turns id row []
  | .goesOn :: row, payload :: payloads => { move := .receive id payload } :: turns id row payloads

variable {drivers : Bool} {id : Nat} {p : Inbound}

/-- The pump hands the next message over, and handling it is a turn of the manager. -/
theorem goOn_handed {start body bytes : Bytes} {message : Message} (h : p.manager.Serves id)
    (hheads : Wire.Heads start body) (hm : Message.decode body = .ok message)
    (hv : message.version.isCompatible = true) (hrest : p.rest.flatten = start ++ body ++ bytes) :
    ∃ rest, rest.flatten = bytes ∧ p.goOn drivers id = { p with
      manager := (p.manager.turn drivers { move := .receive id message.accepted }).1
      rest, handed := p.handed ++ [message.accepted] } := by
  obtain ⟨rest, hreceive, hbytes⟩ := Payload.receive_message hheads hm hv hrest
  refine ⟨rest, hbytes, ?_⟩
  rw [goOn, Manager.pumpNext_handed h hreceive]
  rfl

/-- Where the stream closes, the pump ends. -/
theorem goOn_ended {bytes : Bytes} {ending : Except WireError Unit} (h : p.manager.Serves id)
    (hcloses : Closes bytes ending) (hrest : p.rest.flatten = bytes) :
    p.goOn drivers id = { p with result := some (Manager.Pumped.conclusion ending) } := by
  obtain ⟨rest, hreceive⟩ := hcloses.receive hrest
  rw [goOn, Manager.pumpNext_ended h hreceive]

/-- A pump that ended hands nothing over, and leaves the manager to the others. -/
theorem run_ended {result : Except RedirectError Unit} (h : p.result = some result)
    (row : List Happening) :
    p.run drivers id row = { p with manager := p.manager.run drivers (turns id row []) } := by
  induction row generalizing p with
  | nil => rfl
  | cons happening row ih =>
    cases happening with
    | turn t => exact ih (p := p.step drivers id (.turn t)) h
    | goesOn =>
      have hstep : p.step drivers id .goesOn = p := by
        rw [step, h]
        rfl
      rw [run, hstep]
      exact ih h

/-- What a row of happenings makes of a pump that did not end: it hands over the first messages of the front
of its stream, and ends if it goes on behind the last of them. -/
theorem run_hands {front rest : Bytes} {messages : List Message} {ending : Except WireError Unit}
    (hfront : Understood front messages) (hcloses : Closes rest ending) :
    ∀ {p : Inbound} {row : List Happening}, p.result = none → p.rest.flatten = front ++ rest →
      p.Served drivers id row →
        (p.run drivers id row).handed =
          p.handed ++ (messages.map Message.accepted).take (goings row) ∧
        (p.run drivers id row).manager =
          p.manager.run drivers (turns id row (messages.map Message.accepted)) ∧
        (p.run drivers id row).result =
          if goings row ≤ messages.length then none else some (Manager.Pumped.conclusion ending) := by
  intro p row
  -- The front is used up as the pump goes on, so the induction is on what happens.
  induction row generalizing p front messages with
  | nil => exact fun hresult _ _ => ⟨(List.append_nil _).symm, rfl, hresult⟩
  | cons happening row ih =>
    intro hresult hstream hserved
    cases happening with
    | turn t => exact ih hfront (p := p.step drivers id (.turn t)) hresult hstream hserved.2
    | goesOn =>
      have hstep : p.step drivers id .goesOn = p.goOn drivers id := by
        rw [step, hresult]
        rfl
      rw [run, hstep]
      cases hfront with
      | nil =>
        rw [goOn_ended hserved.1 hcloses hstream, run_ended rfl]
        exact ⟨(List.append_nil _).symm, rfl, rfl⟩
      | @cons start body message bytes messages hheads hm hv htail =>
        rw [List.append_assoc] at hstream
        obtain ⟨others, hothers, hgo⟩ : ∃ others, _ ∧ p.goOn drivers id = _ :=
          goOn_handed hserved.1 hheads hm hv hstream
        obtain ⟨hhanded, hmanager, hended⟩ := ih htail (p := p.goOn drivers id)
          (by rw [hgo]; exact hresult) (by rw [hgo]; exact hothers) (hstep ▸ hserved.2)
        refine ⟨?_, ?_, ?_⟩
        · rw [hhanded, hgo]
          exact List.append_assoc ..
        · rw [hmanager, hgo]
          rfl
        · simp only [hended, goings, List.length_cons, Nat.add_le_add_iff_right]

end Inbound

/-- Of a stream of any bytes in any pieces, a pump for a channel that stays in the set, of a manager that is
not shut down, hands over the messages of the longest front that is understood, in order and each once,
whatever came of those before. Everything else that becomes of the manager is up to the others. Once it goes
on behind the last message it ends: well if the stream is at its end, and else with the error of the frame
that is bad. -/
theorem pump_hands_over (drivers : Bool) (id : Nat) (m : Manager) (s : Stream) :
    ∃ front messages rest ending, Longest s.flatten front messages rest ∧ Closes rest ending ∧
      (ending = .ok () ↔ rest = []) ∧
      (∀ row, ({ manager := m, rest := s } : Inbound).Served drivers id row →
        let p := ({ manager := m, rest := s } : Inbound).run drivers id row
        p.handed = (messages.map Message.accepted).take (Inbound.goings row) ∧
          p.manager = m.run drivers (Inbound.turns id row (messages.map Message.accepted)) ∧
          p.result = if Inbound.goings row ≤ messages.length then none
            else some (Manager.Pumped.conclusion ending)) ∧
      (m.Serves id →
        ((Manager.pump { needsDriver := drivers } id s).perform m).1 = Manager.Pumped.conclusion ending ∧
        ((Manager.pump { needsDriver := drivers } id s).perform m).2.1 =
          m.run drivers (Manager.receipts id messages)) := by
  obtain ⟨front, messages, rest, ending, hs, hrow, hcloses⟩ := Wire.exists_understood s.flatten
  refine ⟨front, messages, rest, ending, hs ▸ hrow.longest hcloses, hcloses, hcloses.ok_iff,
    fun row hserved => Inbound.run_hands hrow hcloses rfl hs hserved, fun h => ?_⟩
  have hfuel : messages.length < s.size + 1 := by
    have hlength := hrow.length_le
    rw [Wire.Stream.size_eq, hs, List.length_append]
    omega
  exact Manager.pumpFor_understood hrow hcloses hfuel hs h

/-- The peer of the first channel sends a message that cannot be unpacked, the capabilities of an old
version, and a message of a version that is not understood. -/
def unruly : Inbound where
  manager := Manager.stickConnected
  rest := [[0, 0, 0, 7, 1, 1], [0, 2, 0, 0, 0, 0], [0, 0, 5, 1, 0, 0, 0, 1], [0, 0, 0, 5, 2, 0, 0, 0, 1]]

/-- The connected device fails because of the first message, which does not keep the pump from the second.
The third is not handed over. -/
theorem pump_hands_over_unruly :
    let row : List Inbound.Happening := [.goesOn, .turn { move := .nextEvent }, .goesOn, .goesOn]
    unruly.Served false 1 row ∧
      (unruly.run false 1 row).handed = [Manager.garbled, .capabilities false] ∧
      (unruly.run false 1 row).manager = unruly.manager.run false
        [{ move := .receive 1 Manager.garbled }, { move := .nextEvent },
          { move := .receive 1 (.capabilities false) }] ∧
      ((unruly.run false 1 row).result matches some (.error _)) = true := by
  intro row
  have hafter : (unruly.run false 1 row).manager.Serves 1 := by decide +kernel
  have hserved : unruly.Served false 1 row :=
    ⟨by decide +kernel, by decide +kernel, by decide +kernel, by decide +kernel, hafter⟩
  have heval : (unruly.run false 1 row).handed = [Manager.garbled, .capabilities false] ∧
      ((unruly.run false 1 row).result matches some (.error _)) = true := by decide +kernel
  obtain ⟨_, messages, _, _, _, _, _, hrow, _⟩ :=
    pump_hands_over false 1 Manager.stickConnected unruly.rest
  obtain ⟨hhanded, hmanager, hended⟩ := hrow row hserved
  -- the pump has ended, so there were no more messages than it handed over
  have hshort : messages.length < 3 := by
    refine Nat.lt_of_not_le fun hle => ?_
    have hresult : (unruly.run false 1 row).result = none := hended.trans (if_pos hle)
    rw [hresult] at heval
    cases heval.2
  have hpayloads : messages.map Message.accepted = [Manager.garbled, .capabilities false] := by
    rw [← heval.1]
    exact (hhanded.trans (List.take_of_length_le (by rw [List.length_map]; exact Nat.le_of_lt hshort))).symm
  rw [hpayloads] at hmanager
  exact ⟨hserved, heval.1, hmanager, heval.2⟩

end RemoteUsb
