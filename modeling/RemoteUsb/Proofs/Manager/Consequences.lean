import RemoteUsb.Proofs.Manager.Drivers
import RemoteUsb.Proofs.Manager.Failures
import RemoteUsb.Proofs.Manager.Listeners
import RemoteUsb.Proofs.Manager.Loop
import RemoteUsb.Proofs.Manager.Overtaken

/-! # What comes of a failure

A connected device fails in one of two ways. Its host reports the failure by an event under the binding, or
a message comes at which the host fails, or which cannot be unpacked. The first is looked at by the loop and
the second by whoever hands the message over, and each of them takes the device off in its own way.
`same_consequences` says that nothing differs in the end but what the host itself has noted of the
message. -/

namespace RemoteUsb

/-- The host without what it has been given and what it fails with. -/
def Host.unread (h : Host) : Host := { h with received := [], readFault := none }

theorem Host.read_unread (h : Host) (bytes : Bytes) : (h.read bytes).1.unread = h.unread := by
  unfold Host.read
  split <;> rfl

namespace Channel

/-- The channel without what its host has noted of messages. -/
def unread (c : Channel) : Channel := { c with host := c.host.map Host.unread }

/-- The device on a channel fails at a message. -/
inductive FailsAt (c : Channel) : Wire.Payload → DeviceFault → Prop where
  | data {host : Host} {fault : DeviceFault} (bytes : Bytes) (_ : c.host = some host)
      (_ : host.readFault = some fault) : FailsAt c (.data bytes) fault
  | packed {host : Host} {fault : DeviceFault} {algorithm : Wire.Compression} {size : UInt32}
      {block bytes : Bytes} (_ : algorithm.unpack block size = .ok bytes) (_ : c.host = some host)
      (_ : host.readFault = some fault) : FailsAt c (.compressed algorithm size block) fault
  /-- Nobody can tell what was meant to be read. -/
  | broken {algorithm : Wire.Compression} {size : UInt32} {block : Bytes} {error : Wire.WireError}
      (_ : algorithm.unpack block size = .error error) :
    FailsAt c (.compressed algorithm size block) .parse

variable {c d : Channel} {payload : Wire.Payload} {fault : DeviceFault} {device : RegisteredDevice}

theorem give_eq_fault {bytes : Bytes} : (c.give bytes).2 = some fault ↔
    ∃ host, c.host = some host ∧ host.readFault = some fault := by
  unfold give Host.read
  cases c.host with
  | none => simp
  | some host => cases hfault : host.readFault <;> simp [hfault]

/-- These are all messages at which it fails. -/
theorem failsAt_iff : c.FailsAt payload fault ↔ (c.hear payload).2 = some fault := by
  constructor
  · intro h
    cases h with
    | data bytes hhost hfault => exact give_eq_fault.mpr ⟨_, hhost, hfault⟩
    | packed hunpack hhost hfault =>
      rw [hear, hunpack]
      exact give_eq_fault.mpr ⟨_, hhost, hfault⟩
    | broken hunpack => rw [hear, hunpack]
  · intro h
    cases payload with
    | capabilities compression => cases h
    | data bytes =>
      obtain ⟨host, hhost, hfault⟩ := give_eq_fault.mp h
      exact .data bytes hhost hfault
    | compressed algorithm size block =>
      rw [hear] at h
      split at h
      · rename_i bytes hunpack
        obtain ⟨host, hhost, hfault⟩ := give_eq_fault.mp h
        exact .packed hunpack hhost hfault
      · rename_i hunpack
        cases h
        exact .broken hunpack

/-! ## What the host has noted -/

theorem give_unread (c : Channel) (bytes : Bytes) : (c.give bytes).1.unread = c.unread := by
  cases hhost : c.host with
  | none => rw [give, hhost]
  | some host =>
    have hread : (host.read bytes).1.unread = host.unread := host.read_unread bytes
    rw [give, hhost]
    dsimp only
    generalize host.read bytes = outcome at hread ⊢
    obtain ⟨other, result⟩ := outcome
    have hsame : ({ c with host := some other } : Channel).unread = c.unread := by
      unfold unread
      rw [hhost]
      exact congrArg (fun h => { c with host := some h }) hread
    cases result <;> exact hsame

/-- A message at which the device fails leaves a note with the host, if anything. -/
theorem FailsAt.unread (h : c.FailsAt payload fault) : (c.hear payload).1.unread = c.unread := by
  cases h with
  | data bytes => exact c.give_unread bytes
  | packed hunpack =>
    rw [hear, hunpack]
    exact c.give_unread _
  | broken hunpack => rw [hear, hunpack]

theorem unread_handle? (c : Channel) : c.unread.handle? = c.handle? := by
  unfold unread handle?
  cases c.host <;> rfl

theorem unread_release (c : Channel) :
    c.unread.release = (c.release.1.unread, c.release.2) := by
  unfold release unread handle?
  cases c.host <;> rfl

theorem release_of_unread (h : d.unread = c.unread) :
    d.release.1.unread = c.release.1.unread ∧ d.release.2 = c.release.2 := by
  have hrelease := d.unread_release
  rw [h, c.unread_release] at hrelease
  obtain ⟨hchannel, heffects⟩ := Prod.mk.inj hrelease
  exact ⟨hchannel.symm, heffects.symm⟩

/-- A message at which a connected device fails takes it off. -/
theorem FailsAt.receive (h : c.FailsAt payload fault) (hstate : c.state = .connected) :
    c.receive payload = ((c.hear payload).1.release.1, (c.hear payload).1.release.2,
      some { device := c.device, released := true, fault }) := by
  have halike := hear_alike c payload
  have hfault := failsAt_iff.mp h
  rw [Channel.receive]
  generalize c.hear payload = heard at halike hfault ⊢
  obtain ⟨d, _⟩ := heard
  obtain rfl := hfault
  dsimp only at halike ⊢
  rw [failDevice_of_connected (halike.state.trans hstate), halike.device]

theorem failBinding_of_connected (hstate : c.state = .connected) (fault : DeviceFault) :
    c.failBinding c.binding fault =
      (c.release.1, c.release.2, some { device := c.device, released := true, fault }) := by
  rw [failBinding, if_pos ⟨rfl, hstate⟩]

end Channel

namespace Manager

variable {drivers : Bool} {w : Surroundings} {m : Manager} {c d : Channel} {device : RegisteredDevice}
  {payload : Wire.Payload} {fault : DeviceFault} {info : DeviceInfo}

/-- The manager after a device was taken off, where `d` is what is left on its channel. -/
def relieved (m : Manager) (drivers : Bool) (d : Channel) (info : DeviceInfo) : Manager :=
  { m with
    channels := m.channels.map (put d)
    listening := m.listening.stop
    tasks := m.tasks ++ if drivers then [⟨m.nextTask, .tidying info⟩] else []
    nextTask := m.nextTask + drivers.toNat }

/-- What is told of a connected device that fails: what the channel does, and then the failure. -/
def farewell (c : Channel) (device : RegisteredDevice) (fault : DeviceFault) : List Output :=
  c.release.2.map (.effect c.id) ++
    [.notified (.deviceFailed device { device := some device, released := true, fault })]

theorem Sound.relieved_eq (hm : m.Sound) (hc : c ∈ m.channels) (hid : d.id = c.id) :
    (m.setChannel d).stopListening.tidied drivers info = m.relieved drivers d info := by
  have hretired : m.retired.map (put d) = m.retired :=
    map_put_of_ne fun x hx => hid ▸ hm.retired_ne hc hx
  have hset : (m.setChannel d).stopListening =
      { m with channels := m.channels.map (put d), listening := m.listening.stop } := by
    change ({ m with
      channels := m.channels.map (put d)
      retired := m.retired.map (put d)
      listening := m.listening.stop } : Manager) = _
    rw [hretired]
  rw [hset, tidied]
  cases drivers with
  | false => simp [relieved]
  | true =>
    have hspawn := spawn_eq (m := { m with channels := m.channels.map (put d), listening := m.listening.stop })
      hm.tasks (.tidying info)
    rw [if_pos rfl, hspawn]
    rfl

theorem perform_deviceFailed (device : RegisteredDevice) (fault : DeviceFault) :
    (deviceFailed w { device := some device, released := true, fault }).perform m =
      ((), m.stopListening.tidied w.tidies device.info,
        [.notified (.deviceFailed device { device := some device, released := true, fault })]) := by
  change (do tidy w device.info; Act.notify _ : Act Unit).perform m.stopListening = _
  rw [perform_bind, perform_tidy]
  rfl

/-- A failure that is reported under the current binding. -/
theorem Sound.perform_failBinding (hm : m.Sound) (hc : c ∈ m.channels) (hstate : c.state = .connected)
    (hdevice : c.device = some device) (fault : DeviceFault) :
    (failBinding w c.id c.binding fault).perform m =
      ((), m.relieved w.tidies c.release.1 device.info, farewell c device fault) := by
  rw [failBinding, perform_manager, hm.channel?_of_mem hc]
  dsimp only
  rw [Channel.failBinding_of_connected hstate, hdevice]
  dsimp only
  rw [perform_bind, settleChannel_told (Channel.endings_release c)]
  dsimp only
  rw [perform_deviceFailed, hm.relieved_eq (d := c.release.1) hc rfl]
  rfl

/-- A message at which the device fails. -/
theorem Sound.perform_receive (hm : m.Sound) (hc : c ∈ m.channels) (hstate : c.state = .connected)
    (hdevice : c.device = some device) (hfails : c.FailsAt payload fault) :
    (receive w c.id payload).perform m =
      (.error (Failure.toError { device := some device, released := true, fault }),
        m.relieved w.tidies (c.hear payload).1.release.1 device.info, farewell c device fault) := by
  have hid : (c.hear payload).1.release.1.id = c.id := (Channel.hear_alike c payload).id
  have hended : Channel.endings (c.hear payload).1.release.2 = [] := Channel.endings_release _
  rw [receive, perform_manager, hm.channel?_of_mem hc]
  dsimp only
  rw [hfails.receive hstate, hdevice]
  dsimp only
  rw [perform_bind, settleChannel_told hended]
  dsimp only
  rw [perform_bind, perform_deviceFailed, hm.relieved_eq hc hid, hid,
    (Channel.release_of_unread hfails.unread).2]
  exact congrArg (_, _, ·) (congrArg _ (List.append_nil _))

/-! ## The call that handles an event -/

/-- A call without a task is ended. -/
theorem perform_endCall {call : Nat} (hcall : ∀ t ∈ m.tasks, t.id ≠ call) (result : Except RedirectError Unit) :
    (endCall call result).perform m =
      ((), { m with loop := if m.loop = .handling call then .waiting else m.loop }, [.ended call result]) := by
  have hkeep : m.tasks.filter (·.id != call) = m.tasks :=
    List.filter_eq_self.mpr fun t ht => bne_iff_ne.mpr (hcall t ht)
  change ((), ({ m with
    tasks := m.tasks.filter (·.id != call)
    loop := if m.loop = .handling call then .waiting else m.loop } : Manager), _) = _
  rw [hkeep]
  rfl

/-- An event that reports a failure is handled under a number that no task has. -/
theorem Sound.perform_handleEvent (hm : m.Sound) (hc : c ∈ m.channels) (hstate : c.state = .connected)
    (hdevice : c.device = some device) {call : Nat} (hgiven : call < m.nextTask)
    (hcall : ∀ t ∈ m.tasks, t.id ≠ call) (fault : DeviceFault) :
    (handleEvent w call (.deviceFailed c.id c.binding fault)).perform m =
      ((), { m.relieved w.tidies c.release.1 device.info with
          loop := if m.loop = .handling call then .waiting else m.loop },
        farewell c device fault ++ [.ended call (.ok ())]) := by
  have hcall' : ∀ t ∈ (m.relieved w.tidies c.release.1 device.info).tasks, t.id ≠ call := by
    intro t ht
    rcases List.mem_append.mp ht with hold | hnew
    · exact hcall t hold
    · split at hnew
      · rw [List.mem_singleton.mp hnew]
        exact Nat.ne_of_gt hgiven
      · cases hnew
  rw [handleEvent, perform_bind, hm.perform_failBinding hc hstate hdevice]
  dsimp only
  rw [perform_endCall hcall']
  rfl

/-- A step that first takes a number goes on under it. -/
theorem perform_number {α : Type} (next : Nat → Act α) (m : Manager) :
    (number >>= next).perform m = (next m.nextTask).perform m.takeNumber.1 := rfl

/-- An event that is handed to the manager past the queue. -/
theorem Sound.perform_handle (hm : m.Sound) (hc : c ∈ m.channels) (hstate : c.state = .connected)
    (hdevice : c.device = some device) (hloop : m.LoopNumbered) (fault : DeviceFault) :
    ((Move.handle (.deviceFailed c.id c.binding fault)).act w).perform m =
      ((), m.takeNumber.1.relieved w.tidies c.release.1 device.info,
        farewell c device fault ++ [.ended m.nextTask (.ok ())]) := by
  have hsound : m.takeNumber.1.Sound := ⟨hm.registry, hm.channels, hm.tasks.later⟩
  have hidle : m.takeNumber.1.loop ≠ .handling m.nextTask := fun h => Nat.lt_irrefl _ (hloop _ h)
  have hhandle := hsound.perform_handleEvent (w := w) hc hstate hdevice (Nat.lt_succ_self m.nextTask)
    (fun t ht => Nat.ne_of_lt (hm.tasks.numbers t ht)) fault
  rw [if_neg hidle] at hhandle
  rw [Move.act, perform_number]
  exact hhandle

/-- An event that the loop takes from the queue. -/
theorem Sound.perform_nextEvent (hm : m.Sound) (hc : c ∈ m.channels) (hstate : c.state = .connected)
    (hdevice : c.device = some device) (hloop : m.loop = .waiting) {queue : EventQueue}
    (htake : m.queue.take? = (queue, some (.deviceFailed c.id c.binding fault))) :
    (nextEvent w).perform m =
      ((), { m.takeNumber.1.relieved w.tidies c.release.1 device.info with queue },
        farewell c device fault ++ [.ended m.nextTask (.ok ())]) := by
  have hsound : Sound { m.takeNumber.1 with queue, loop := .handling m.nextTask } :=
    ⟨hm.registry, hm.channels, hm.tasks.later⟩
  have hhandle := hsound.perform_handleEvent (w := w) hc hstate hdevice (Nat.lt_succ_self m.nextTask)
    (fun t ht => Nat.ne_of_lt (hm.tasks.numbers t ht)) fault
  rw [nextEvent, perform_manager, if_pos hloop, htake]
  dsimp only
  rw [perform_change]
  refine hhandle.trans ?_
  rw [if_pos rfl, ← hloop]
  rfl

/-! ## What is left -/

/-- The manager without what hosts have noted of messages, and without the numbers of tasks. -/
def bare (m : Manager) : Manager :=
  { m with
    channels := m.channels.map Channel.unread
    tasks := m.tasks.map fun t => { t with id := 0 }
    nextTask := 0 }

/-- What becomes of a manager when the device on a channel is taken off after a failure. -/
structure TakenOff (m : Manager) (drivers : Bool) (c : Channel) (device : RegisteredDevice)
    (n : Manager) : Prop where
  /-- No channel but this one is touched. -/
  channels : ∃ d, n.channels = m.channels.map (put d) ∧ d.id = c.id ∧ d.isFree = true ∧
    d.handle? = none ∧ d.grant = none ∧ d.binding = c.binding + 1
  listeners : n.listening.listeners + 1 = m.listening.listeners
  /-- One task more removes the driver, if there is one that can be removed. -/
  driver : ∃ number, n.tasks = m.tasks ++ if drivers then [⟨number, .tidying device.info⟩] else []
  retired : n.retired = m.retired
  registry : n.registry = m.registry
  settings : n.settings = m.settings
  queue : n.queue = m.queue
  loop : n.loop = m.loop
  registration : n.registration = m.registration
  initialized : n.initialized = m.initialized
  stopped : n.stopped = m.stopped
  nextChannel : n.nextChannel = m.nextChannel

/-- What the host has noted, and the number that the task has, make no difference. -/
theorem relieved_bare {d d' : Channel} (h : d.unread = d'.unread) (next : Nat) :
    (({ m with nextTask := next } : Manager).relieved drivers d info).bare =
      (m.relieved drivers d' info).bare := by
  have hid : d.id = d'.id := congrArg (·.id) h
  have hput : ∀ x : Channel, (put d x).unread = (put d' x).unread := by
    intro x
    unfold put
    rw [hid]
    split
    · exact h
    · rfl
  have hchannels : (m.channels.map (put d)).map Channel.unread =
      (m.channels.map (put d')).map Channel.unread := by
    rw [List.map_map, List.map_map]
    exact List.map_congr_left fun x _ => hput x
  unfold bare relieved
  dsimp only
  rw [hchannels]
  cases drivers <;> simp

theorem Counted.relieved_takenOff (hm : m.Counted) (hc : c ∈ m.channels) (hstate : c.state = .connected)
    (h : d.unread = c.release.1.unread) (device : RegisteredDevice) (next : Nat) :
    m.TakenOff drivers c device (({ m with nextTask := next } : Manager).relieved drivers d device.info) where
  channels := by
    have hfree : d.unread.isFree = true := h ▸ rfl
    have hhandle : d.handle? = none := by
      rw [← d.unread_handle?, h, c.release.1.unread_handle?]
      exact Channel.handle?_detach c.host
    have hgrant : d.unread.grant = none := h ▸ rfl
    have hbinding : d.unread.binding = c.binding + 1 := h ▸ rfl
    have hid : d.unread.id = c.id := h ▸ rfl
    exact ⟨d, rfl, hid, hfree, hhandle, hgrant, hbinding⟩
  listeners := by
    have hpos : 0 < m.listening.listeners := hm.pos (List.mem_append_left _ hc) hstate
    change m.listening.stop.listeners + 1 = _
    rw [listeners_stop]
    omega
  driver := ⟨next, rfl⟩
  retired := rfl
  registry := rfl
  settings := rfl
  queue := rfl
  loop := rfl
  registration := rfl
  initialized := rfl
  stopped := rfl
  nextChannel := rfl

/-- Whatever a manager goes through, and whatever its other channels and its tasks are at, it is all the
same whether a connected device fails by an event under the binding or at a message from the peer. Either
way the manager is the same afterwards, up to what the host has noted of the message and to the number that
the call for the event took: the device is unbound under the next binding, a listener is counted off, and
one task removes the driver, where tasks can be started. The handle and the grant are given up, and
observers are told once of the device and the fault. An event that the loop takes from the queue is no
different. -/
theorem same_consequences (addressing : Addressing) (settings : Settings) (drivers : Bool)
    (turns : List Turn) (w : Surroundings) {c : Channel} {device : RegisteredDevice}
    {payload : Wire.Payload} {fault : DeviceFault}
    (hc : c ∈ ((new addressing settings).run drivers turns).channels) (hstate : c.state = .connected)
    (hdevice : c.device = some device) (hfails : c.FailsAt payload fault) :
    let m := (new addressing settings).run drivers turns
    let event := Event.deviceFailed c.id c.binding fault
    let failure : Failure := { device := some device, released := true, fault }
    let byEvent := ((Move.handle event).act w).perform m
    let byMessage := (receive w c.id payload).perform m
    byEvent.2.1.bare = byMessage.2.1.bare ∧
      m.TakenOff w.tidies c device byEvent.2.1 ∧ m.TakenOff w.tidies c device byMessage.2.1 ∧
      (∃ handle, c.handle? = some handle ∧ byMessage.2.2 =
        .effect c.id (.closed handle) :: (c.grant.map fun call => .effect c.id (.inputClosed call)).toList ++
          [.notified (.deviceFailed device failure)]) ∧
      byEvent.2.2 = byMessage.2.2 ++ [.ended m.nextTask (.ok ())] ∧
      byMessage.1 = .error failure.toError ∧
      ∀ queue, m.loop = .waiting → m.queue.take? = (queue, some event) →
        ((nextEvent w).perform m).2 = ({ byEvent.2.1 with queue }, byEvent.2.2) := by
  have hrun := run_matched (new_matched addressing settings) drivers turns
  have hcount := run_counted (new_matched addressing settings) (new_registers addressing settings)
    (m := new addressing settings) rfl drivers turns
  have hloop := run_loopNumbered (new_loopNumbered addressing settings) drivers turns
  intro m event failure byEvent byMessage
  have hm : m.Sound := hrun.sound
  have hunread : (c.hear payload).1.release.1.unread = c.release.1.unread :=
    (Channel.release_of_unread hfails.unread).1
  have hevent : byEvent = _ := hm.perform_handle hc hstate hdevice hloop fault
  have hmessage : byMessage = _ := hm.perform_receive hc hstate hdevice hfails
  obtain ⟨_, handle, hold⟩ := (hm.channels.sound c (List.mem_append_left _ hc)).holding_of_connected hstate
  have htold : farewell c device fault = .effect c.id (.closed handle) ::
      (c.grant.map fun call => .effect c.id (.inputClosed call)).toList ++
        [.notified (.deviceFailed device failure)] := by
    unfold farewell Channel.release
    rw [hold.handle]
    cases c.grant <;> rfl
  rw [hevent, hmessage]
  refine ⟨relieved_bare hunread.symm _, hcount.relieved_takenOff hc hstate rfl device _,
    hcount.relieved_takenOff hc hstate hunread device m.nextTask, ⟨handle, hold.handle, htold⟩, rfl, rfl,
    fun queue hwaiting htake => ?_⟩
  rw [hm.perform_nextEvent hc hstate hdevice hwaiting htake]

/-- The device is connected over a driver, and its host is about to fail. -/
def stickFailing : List Turn :=
  stickInstalled ++ stickOpened ++ [{ move := .stir 1 fun h => { h with readFault := some .lost } }]

/-- The host fails at data, or says so: either way the same becomes of the manager. -/
theorem stick_fails_either_way :
    ∃ c ∈ ((new .busAddress { autoConnect := false }).run true stickFailing).channels,
      c.state = .connected ∧ c.device = some stick ∧ c.FailsAt (.data [7]) .lost ∧
      let m := (new .busAddress { autoConnect := false }).run true stickFailing
      let byEvent := ((Move.handle (.deviceFailed c.id c.binding .lost)).act { needsDriver := true }).perform m
      let byMessage := (receive { needsDriver := true } c.id (.data [7])).perform m
      byEvent.2.1.bare = byMessage.2.1.bare ∧ m.TakenOff true c stick byMessage.2.1 := by
  have hfacts : ((new .busAddress { autoConnect := false }).run true stickFailing).channels.any
      (fun c => c.state == .connected && c.device == some stick && (c.hear (.data [7])).2 == some .lost)
      = true := by decide +kernel
  obtain ⟨c, hc, hall⟩ := List.any_eq_true.mp hfacts
  simp only [Bool.and_eq_true, beq_iff_eq] at hall
  obtain ⟨⟨hstate, hdevice⟩, hfault⟩ := hall
  have hfails : c.FailsAt (.data [7]) .lost := Channel.failsAt_iff.mpr hfault
  have h := same_consequences .busAddress { autoConnect := false } true stickFailing
    { needsDriver := true } hc hstate hdevice hfails
  exact ⟨c, hc, hstate, hdevice, hfails, h.1, h.2.2.1⟩

end Manager
end RemoteUsb
