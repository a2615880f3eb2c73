import RemoteUsb.Proofs.Manager.Deeds
import RemoteUsb.Proofs.Manager.Ordinary

/-! What observers are told of failures. Only a message from the peer and an event that a host has posted
can make a device fail, and then observers are told once: all other steps are silent. `turn_tells` says
what else such a turn does. -/

namespace RemoteUsb

/-- The failures that observers are told of, in order. -/
def failures (outputs : List Output) : List (RegisteredDevice × Failure) :=
  outputs.filterMap Output.failure?

theorem failures_append (first others : List Output) :
    failures (first ++ others) = failures first ++ failures others := List.filterMap_append

theorem failures_effects (id : Nat) (effects : List Effect) :
    failures (effects.map (.effect id)) = [] := by
  rw [failures, List.filterMap_map]
  exact List.filterMap_eq_nil_iff.mpr fun _ _ => rfl

theorem mem_failures {outputs : List Output} {device : RegisteredDevice} {failure : Failure} :
    (device, failure) ∈ failures outputs ↔ .notified (.deviceFailed device failure) ∈ outputs := by
  rw [failures, List.mem_filterMap]
  constructor
  · rintro ⟨output, ho, he⟩
    unfold Output.failure? at he
    split at he
    · cases he
      exact ho
    · cases he
  · exact fun h => ⟨_, h, rfl⟩

namespace Manager

variable {α β : Type} {w : Surroundings}

/-- Observers are told of no failure in the step, whatever the manager is like. -/
structure Silent (act : Act α) : Prop where
  failures : ∀ m, failures (act.perform m).2.2 = []

theorem Ordinary.silent {act : Act α} (h : Ordinary act) : Silent act where
  failures m := by
    induction h generalizing m with
    | pure | look | change | endCall => rfl
    | bind _ _ ih ih' =>
      rw [perform_bind, failures_append, ih, ih']
      rfl
    | @emit output ho =>
      change [output].filterMap Output.failure? = []
      rw [List.filterMap_cons_none ho]
      rfl

end Manager

/-! ## Failures -/

namespace Channel

/-- What a failure makes of a channel with a device: a connected one is taken off, a request for access is
called off, and anything else goes on. -/
inductive Failed (c : Channel) : Bool → Channel → Prop where
  | takenOff {d : Channel} (_ : c.state = .connected) (_ : c.release.1.Alike d) : Failed c true d
  | calledOff {d : Channel} (_ : c.state = .waitingForAccess) (_ : c.cancelRequest.Alike d) :
    Failed c false d
  | left {d : Channel} (_ : c.state = .disconnected ∨ c.state = .disconnecting) (_ : c.Alike d) :
    Failed c false d

variable {b c d : Channel} {released : Bool}

theorem Failed.before (h : c.Failed released d) (e : b.Alike c) : b.Failed released d := by
  cases h with
  | takenOff hs h => exact .takenOff (e.state.symm.trans hs) (e.release.trans h)
  | calledOff hs h => exact .calledOff (e.state.symm.trans hs) (e.cancelRequest.trans h)
  | left hs h => exact .left (e.state ▸ hs) (e.trans h)

theorem Failed.shaken (h : c.Failed released d) : c.Shaken d := by
  cases h with
  | takenOff hs h => exact .takenOff hs h
  | calledOff hs h => exact .calledOff hs h
  | left _ h => exact .same h

/-- A device that is taken off takes its binding along. -/
theorem Failed.binding_of_connected (h : c.Failed released d) (hs : c.state = .connected) :
    d.binding = c.binding + 1 := by
  cases h with
  | takenOff _ h => exact h.binding
  | calledOff hs' => cases hs.symm.trans hs'
  | left hs' => rcases hs' with hs' | hs' <;> cases hs.symm.trans hs'

/-- What is not connected keeps its device and its binding, and asks for access no more. -/
theorem Failed.kept (h : c.Failed released d) (hs : c.state ≠ .connected) :
    d.device = c.device ∧ d.binding = c.binding ∧ (d.state = .disconnected ∨ d.state = .disconnecting) := by
  cases h with
  | takenOff hs' => exact absurd hs' hs
  | calledOff _ h =>
    obtain ⟨_, hdevice, hbinding⟩ := stopRequest_keeps c
    exact ⟨h.device.trans hdevice, h.binding.trans hbinding, .inr h.state⟩
  | left hs' h => exact ⟨h.device, h.binding, h.state ▸ hs'⟩

theorem failDevice_failed (c : Channel) (fault : DeviceFault) :
    c.Failed (c.failDevice fault).2.2.released (c.failDevice fault).1 ∧
      (c.failDevice fault).2.2.device = c.device := by
  unfold failDevice
  split
  · exact ⟨.takenOff ‹_› (.refl _), rfl⟩
  · exact ⟨.calledOff ‹_› (.refl _), rfl⟩
  · exact ⟨.left (.inl ‹_›) (.refl _), rfl⟩
  · exact ⟨.left (.inr ‹_›) (.refl _), rfl⟩

theorem failBinding_failed {binding : Nat} {fault : DeviceFault} {failure : Failure}
    (h : (c.failBinding binding fault).2.2 = some failure) :
    c.Failed failure.released (c.failBinding binding fault).1 ∧ failure.device = c.device := by
  unfold failBinding at h ⊢
  split at h
  · rename_i hc
    rw [if_pos hc]
    cases h
    exact ⟨.takenOff hc.2 (.refl _), rfl⟩
  · cases h

theorem receive_failed {payload : Wire.Payload} {failure : Failure}
    (h : (c.receive payload).2.2 = some failure) :
    c.Failed failure.released (c.receive payload).1 ∧ failure.device = c.device := by
  have e := hear_alike c payload
  unfold receive at h ⊢
  generalize c.hear payload = heard at e h ⊢
  obtain ⟨d, fault⟩ := heard
  cases fault with
  | none => cases h
  | some fault =>
    cases h
    obtain ⟨hfailed, hdevice⟩ := failDevice_failed d fault
    exact ⟨hfailed.before e, hdevice.trans e.device⟩

end Channel

namespace Manager

variable {w : Surroundings} {m n : Manager}

/-- What observers are told of the failures on channels: nothing, or of one, on a channel that becomes
what the failure makes of it. -/
inductive Tells (before : List Channel) (outputs : List Output) (after : List Channel) : Prop where
  | nothing (_ : failures outputs = [])
  | failure {c d : Channel} {device : RegisteredDevice} {failure : Failure} (_ : c ∈ before)
      (_ : c.Failed failure.released d) (_ : c.device = some device)
      (_ : failures outputs = [(device, failure)]) (_ : after = before.map (put d))

theorem deviceFailed_beside (failure : Failure) : m.Beside ((deviceFailed w failure).perform m).2.1 := by
  obtain ⟨device, released, fault⟩ := failure
  cases released with
  | false => cases device <;> exact .refl m
  | true =>
    cases device with
    | none => exact stopListening_beside m
    | some device => exact (stopListening_beside m).trans (tidy_beside device.info)

theorem deviceFailed_failures (failure : Failure) :
    failures ((deviceFailed w failure).perform m).2.2 =
      (failure.device.map fun device => (device, failure)).toList := by
  obtain ⟨device, released, fault⟩ := failure
  cases released with
  | false => cases device <;> rfl
  | true =>
    cases device with
    | none => rfl
    | some device =>
      have hsilent := (tidy_ordinary (w := w) device.info).silent.failures m.stopListening
      change failures (((tidy w device.info).perform m.stopListening).2.2 ++ [_]) = _
      rw [failures_append, hsilent]
      rfl

/-- The channel whose device failed is put back, and observers are told. -/
theorem deviceFailed_tells {c d : Channel} {failure : Failure} (hc : c ∈ m.channels)
    (hfailed : c.Failed failure.released d) (hdevice : failure.device = c.device)
    {first last : List Output} (hfirst : failures first = []) (hlast : failures last = [])
    {after : List Channel}
    (hafter : after = ((deviceFailed w failure).perform (m.setChannel d)).2.1.channels) :
    Tells m.channels (first ++ (((deviceFailed w failure).perform (m.setChannel d)).2.2 ++ last)) after := by
  have hfailures : failures (first ++ (((deviceFailed w failure).perform (m.setChannel d)).2.2 ++ last)) =
      (failure.device.map fun device => (device, failure)).toList := by
    rw [failures_append, failures_append, hfirst, hlast, deviceFailed_failures, List.append_nil]
    rfl
  cases hd : failure.device with
  | none => exact .nothing (by rw [hfailures, hd]; rfl)
  | some device =>
    refine .failure hc hfailed (hdevice.symm.trans hd) (by rw [hfailures, hd]; rfl) ?_
    exact hafter.trans (deviceFailed_beside failure).channels

theorem receive_tells (hm : m.Sound) (id : Nat) (payload : Wire.Payload) :
    Tells m.channels ((receive w id payload).perform m).2.2
      ((receive w id payload).perform m).2.1.channels := by
  rw [receive, perform_manager]
  cases hfind : m.channel? id with
  | none => exact .nothing rfl
  | some c =>
    have hc := (hm.channel? hfind).1
    dsimp only
    rw [perform_bind, settleChannel_told (Channel.endings_receive c payload)]
    cases hf : (c.receive payload).2.2 with
    | none => exact .nothing (by rw [failures_append, failures_effects]; rfl)
    | some failure =>
      obtain ⟨hfailed, hdevice⟩ := Channel.receive_failed hf
      exact deviceFailed_tells hc hfailed hdevice (failures_effects ..) rfl rfl

theorem failBinding_tells (hm : m.Sound) (id binding : Nat) (fault : DeviceFault) (task : Nat) :
    let act : Act Unit := do failBinding w id binding fault; endCall task (.ok ())
    Tells m.channels (act.perform m).2.2 (act.perform m).2.1.channels := by
  intro act
  have hend := (Ordinary.endCall task (.ok ())).silent.failures
  change Tells m.channels (((failBinding w id binding fault).perform m).2.2 ++
      ((endCall task (.ok ())).perform ((failBinding w id binding fault).perform m).2.1).2.2)
    ((endCall task (.ok ())).perform ((failBinding w id binding fault).perform m).2.1).2.1.channels
  rw [failBinding, perform_manager]
  cases hfind : m.channel? id with
  | none => exact .nothing (by rw [failures_append, hend]; rfl)
  | some c =>
    have hc := (hm.channel? hfind).1
    dsimp only
    rw [perform_bind, settleChannel_told (Channel.endings_failBinding c binding fault)]
    cases hf : (c.failBinding binding fault).2.2 with
    | none =>
      exact .nothing (by rw [failures_append, hend, failures_append, failures_effects]; rfl)
    | some failure =>
      obtain ⟨hfailed, hdevice⟩ := Channel.failBinding_failed hf
      dsimp only
      rw [List.append_assoc]
      exact deviceFailed_tells hc hfailed hdevice (failures_effects ..) (hend _) rfl

theorem handleEvent_tells (hm : m.Sound) (task : Nat) (event : Event) :
    Tells m.channels ((handleEvent w task event).perform m).2.2
      ((handleEvent w task event).perform m).2.1.channels := by
  cases event with
  | arrived info =>
    have hsteps : Ordinary (do arrive info .hotplug; endCall task (.ok ())) :=
      .bind (arrive_ordinary info .hotplug) fun _ => .endCall ..
    exact .nothing (hsteps.silent.failures m)
  | left key => exact .nothing ((leave_ordinary task key).silent.failures m)
  | dataPending id =>
    have hsteps : Ordinary (do flush id; endCall task (.ok ())) :=
      .bind (flush_ordinary id) fun _ => .endCall ..
    exact .nothing (hsteps.silent.failures m)
  | deviceFailed id binding fault => exact failBinding_tells hm id binding fault task

theorem nextEvent_tells (hm : m.Sound) :
    Tells m.channels ((nextEvent w).perform m).2.2 ((nextEvent w).perform m).2.1.channels := by
  rw [nextEvent, perform_manager]
  split
  · split
    · rename_i queue event _
      have hready : Sound { m.takeNumber.1 with queue, loop := .handling m.nextTask } :=
        ⟨hm.registry, hm.channels, hm.tasks.later⟩
      exact handleEvent_tells hready m.nextTask event
    · exact .nothing rfl
  · exact .nothing rfl

/-- In a turn, observers are told of one failure at most. -/
theorem turn_tells (hm : m.Sound) (drivers : Bool) (t : Turn) :
    Tells m.channels (m.turn drivers t).2 (m.turn drivers t).1.channels := by
  obtain ⟨move, inRuntime, launch, newHost, subscription⟩ := t
  have hnumbered : m.takeNumber.1.Sound := ⟨hm.registry, hm.channels, hm.tasks.later⟩
  cases hmove : move.isOrdinary with
  | true => exact .nothing ((act_ordinary _ hmove).silent.failures m)
  | false =>
    cases move with
    | receive channel payload =>
      change Tells m.channels (((receive _ channel payload).perform m).2.2 ++ []) _
      rw [List.append_nil]
      exact receive_tells hm channel payload
    | handle event => exact handleEvent_tells (m := m.takeNumber.1) hnumbered m.nextTask event
    | nextEvent => exact nextEvent_tells hm
    | endLoop => exact .nothing rfl
    | _ => cases hmove

end Manager
end RemoteUsb
