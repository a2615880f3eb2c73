import RemoteUsb.Proofs.Manager.Drivers
import RemoteUsb.Proofs.Manager.Lineup

/-! # New channels and the devices that they take

The policy for new channels chooses a device from what is bound when a channel is added, and its connect
runs later. `channels_take_iff` says what that comes to when nothing goes wrong: the devices that are wanted are
connected in their order, one for each channel that was added, except for those channels that were added in
haste, while a connect for the device that they were to take was still waiting. Each of these ends with a
failure, and its channel stays free, though there may be devices left that are wanted. -/

namespace RemoteUsb

/-- Whether observers are told that a policy could not connect a device. -/
def Output.isAutoFailure : Output → Bool
  | .notified (.autoConnectFailed ..) => true
  | _ => false

/-- How often observers are told that a policy could not connect a device. -/
def autoFailures (outputs : List Output) : Nat := outputs.countP Output.isAutoFailure

theorem autoFailures_append (first others : List Output) :
    autoFailures (first ++ others) = autoFailures first + autoFailures others := List.countP_append

theorem autoFailures_effects (id : Nat) (effects : List Effect) :
    autoFailures (effects.map (.effect id)) = 0 := by
  refine List.countP_eq_zero.mpr fun output ho => ?_
  obtain ⟨effect, _, rfl⟩ := List.mem_map.mp ho
  exact Bool.false_ne_true

namespace Manager

def Turn.adds (t : Turn) : Bool := t.move matches .addChannel ..

/-- A turn in which a channel is added, or a connect goes on, and in which nothing goes wrong. -/
def Smooth (m : Manager) (t : Turn) : Prop :=
  t.launch = .ok () ∧ match t.move with
    | .addChannel _ withHost => withHost = true ∧
      ∃ host, t.newHost = .ok host ∧ host.attachFault = none ∧ host.guestFilter = none
    | .begin _ | .resume _ => True
    | .jobDone _ outcome => outcome = .ok ()
    | .signal channel call heard => ∀ c ∈ m.channels, c.id = channel → c.Smooth (.signal call heard)
    | .opened _ _ _ outcome => ∃ key, outcome = .ok key
    | _ => False

def Smoothly (m : Manager) (drivers : Bool) : List Turn → Prop
  | [] => True
  | t :: turns => m.Smooth t ∧ (m.turn drivers t).1.Smoothly drivers turns

/-- How many channels are added while a connect waits for the device that they are to take. -/
def haste (m : Manager) (drivers : Bool) : List Turn → Nat
  | [] => 0
  | t :: turns => (t.adds && m.engaged).toNat + (m.turn drivers t).1.haste drivers turns

/-- The devices that are connected, in the order of the channels. -/
def connectedDevices (m : Manager) : List RegisteredDevice :=
  m.channels.filterMap fun c => if c.state = .connected then c.device else none

/-- There are devices and a policy for new channels, but no channel yet, and nothing goes on. -/
structure Ready (m : Manager) (filter : Filter) : Prop where
  enabled : m.settings.redirectionEnabled = true
  policy : m.settings.redirectOnConnect = some filter
  distinct : m.registry.Distinct
  channels : m.channels = []
  retired : m.retired = []
  tasks : m.tasks = []

variable {m : Manager} {w : Surroundings} {drivers : Bool} {filter : Filter}
  {wanted : List RegisteredDevice} {device : RegisteredDevice} {taken spare hasty lost id : Nat}
  {work : Work}

/-! ## Steps of connects -/

/-- After the step the devices and channels are in line, on as many channels as before. -/
def Continues (m : Manager) (act : Act Unit) (filter : Filter) (wanted : List RegisteredDevice)
    (channels hasty lost : Nat) : Prop :=
  ∃ taken spare, taken + spare = channels ∧ (act.perform m).2.1.Lineup filter wanted taken spare hasty
    (lost + autoFailures (act.perform m).2.2)

theorem Lineup.stays (h : m.Lineup filter wanted taken spare hasty lost) :
    m.Continues (pure ()) filter wanted (taken + spare) hasty lost := ⟨taken, spare, rfl, h⟩

theorem bindAndConnect_refused (hc : m.isConnected device.key = true) (connect : Connect) :
    (bindAndConnect w id connect device).perform m =
      (endConnect id connect (.error (.alreadyConnected device.key))).perform
        m.startListening.stopListening := by
  have hbind : m.startListening.bindFree device = .error (.alreadyConnected device.key) := if_pos hc
  rw [bindAndConnect, perform_change, perform_manager, hbind]
  rfl

/-- A connect whose driver is there binds its device, or is lost. -/
theorem Lineup.binds (h : m.Lineup filter wanted taken spare hasty lost) (hm : m.Sound)
    (hl : w.launch = .ok ()) {connect : Connect}
    (hw : m.work? id = some (.installing connect device (some (.ok ())))) :
    m.Continues (bindAndConnect w id connect device) filter wanted (taken + spare) hasty lost := by
  obtain ⟨_, hd, hfor⟩ := h.isFor hw rfl
  cases hfor
  cases hc : m.isConnected device.key with
  | true =>
    rw [Continues, bindAndConnect_refused hc]
    exact ⟨taken, spare, rfl, (h.refused hm hw .installed hc).same rfl rfl rfl rfl rfl⟩
  | false =>
    have hstart : m.startListening.Lineup filter wanted taken spare hasty lost :=
      h.same rfl rfl rfl rfl rfl
    have hsound : m.startListening.Sound := ⟨hm.registry, hm.channels, hm.tasks⟩
    obtain ⟨left, rfl, c, hin, hfind, hput⟩ := hstart.bound hsound hw .installed hd hc
    have hfit := hstart.row.fit c hin
    obtain ⟨host, hhost, _⟩ := hfit.host
    have hfree := List.find?_some hfind
    let connect : Connect := { key := device.key, policy := some device }
    let stopped := connect.stopped || (connect.policy.isSome && m.stopped)
    obtain ⟨hdevice, hends⟩ := connect_begun hfree hhost hl m.settings id device stopped
    have hlineup := hput connect _ (Channel.connect_id ..)
      (hfit.connect hfree (entry_of_launch hl m.settings) id device stopped) hdevice
    have hperform := (perform_bindAndConnect (w := w) hc hfind hhost id connect).trans
      (settleChannel_told hends _)
    rw [Continues, hperform, autoFailures_effects]
    exact ⟨taken + 1, left, by omega, hlineup⟩

/-- A connect begins, and goes on at once if no driver is wanted. -/
theorem Lineup.starts (h : m.Lineup filter wanted taken spare hasty lost) (hm : m.Sound)
    (hl : w.launch = .ok ()) (hd : device ∈ wanted.take (taken + 1))
    (hw : m.work? id = some (.idle { key := device.key, policy := some device })) :
    m.Continues (beginConnect w id { key := device.key, policy := some device }) filter wanted
      (taken + spare) hasty lost := by
  rw [Continues, beginConnect, perform_manager, h.offers.find? (List.mem_of_mem_take hd)]
  dsimp only
  split
  · exact ⟨taken, spare, rfl, h.goes_on hm hw hd .idle .awaiting⟩
  · have hgoes := h.goes_on hm hw hd .idle .installed
    exact hgoes.binds (hm.set (knows_of_work? hw) _) hl (work?_setTask_self ..)

theorem Lineup.begins (h : m.Lineup filter wanted taken spare hasty lost) (hm : m.Sound)
    (hl : w.launch = .ok ()) (id : Nat) :
    m.Continues (begin w id) filter wanted (taken + spare) hasty lost := by
  rw [Continues, begin, perform_manager]
  split
  · rename_i connect hw
    obtain ⟨_, hd, hfor⟩ := h.isFor hw rfl
    cases hfor
    exact h.starts hm hl hd hw
  · rename_i hw
    obtain ⟨_, _, hfor⟩ := h.isFor hw rfl
    cases hfor
  · exact h.stays

/-- A driver is installed. -/
theorem Lineup.installs (h : m.Lineup filter wanted taken spare hasty lost) (hm : m.Sound) (id : Nat) :
    m.Continues (jobDone id (.ok ())) filter wanted (taken + spare) hasty lost := by
  rw [Continues, jobDone, perform_manager]
  split
  · rename_i hw
    obtain ⟨_, hd, hfor⟩ := h.isFor hw rfl
    cases hfor
    exact ⟨taken, spare, rfl, h.goes_on hm hw hd .awaiting .installed⟩
  · rename_i hw
    obtain ⟨_, _, hfor⟩ := h.isFor hw rfl
    cases hfor
  · exact h.stays

/-! ## Steps on channels -/

/-- The end of a connect that has succeeded. -/
theorem endConnect_ok (connect : Connect) : (endConnect id connect (.ok ())).perform m =
    ((), { m.dropTask id with loop := if m.loop = .handling id then .waiting else m.loop },
      [.ended id (.ok ())]) := by
  unfold endConnect
  cases connect.policy <;> rfl

/-- A call goes on on its channel, or ends connected. -/
theorem Lineup.advances (h : m.Lineup filter wanted taken spare hasty lost) (hm : m.Matched)
    (now : Nat) (move : Channel.Move) (hs : ∀ c ∈ m.channels, c.id = id → c.Smooth move) :
    m.Continues (onChannel w id (·.step now move)) filter wanted (taken + spare) hasty lost := by
  rw [Continues, onChannel, perform_manager]
  split
  · exact h.stays
  · rename_i c hfound
    have hin : c ∈ m.channels := by
      have hin := mem_of_anyChannel? hfound
      rwa [h.row.retired, List.append_nil] at hin
    have hall := List.mem_append_left m.retired hin
    have hsmooth := hs c hin (id_of_anyChannel? hfound)
    have hsound := hm.sound.channels.sound c hall
    have hid := Channel.step_id hsound now move
    have hmoved := hm.sound.moved hall now (Channel.Move.connects_of_proceeds hsmooth.proceeds)
    obtain ⟨hfit, hadvances⟩ := (h.row.fit c hin).progress hsound now hsmooth
    dsimp only
    generalize hd : (c.step now move).1 = d, hended : Channel.endings (c.step now move).2 = ended
      at hid hfit hadvances hmoved
    cases hadvances with
    | steady hsteady =>
      rw [settleChannel_told hended, autoFailures_effects]
      exact ⟨taken, spare, rfl, h.steady hm.sound hin hid hsteady.device hfit⟩
    | @connects _ a hp hstate hdevice =>
      obtain ⟨connect, hw⟩ := hm.work? hall hp
      obtain ⟨first, others, hperform⟩ := perform_settleChannel_ended (w := w) (n := m) hended d
      have hw' : (m.setChannel d).work? a.call = some (.connecting connect a.device c.id) := hw
      have hline := h.steady hm.sound hin hid (hdevice.trans hp.device.symm) hfit
      rw [hperform, attemptEnded_ok hw', endConnect_ok, autoFailures_append, autoFailures_append,
        autoFailures_effects, autoFailures_effects]
      exact ⟨taken, spare, rfl, (hline.ended hmoved hw' rfl).same rfl rfl rfl rfl rfl⟩

/-- A task whose job or opening is done goes on. -/
theorem Lineup.resumes (h : m.Lineup filter wanted taken spare hasty lost) (hm : m.Matched)
    (hl : w.launch = .ok ()) (id : Nat) :
    m.Continues (resume w id) filter wanted (taken + spare) hasty lost := by
  rw [Continues, resume, perform_manager]
  split
  · exact h.binds hm.sound hl ‹_›
  · rename_i hw
    obtain ⟨_, _, hfor⟩ := h.isFor hw rfl
    cases hfor with | installing _ ho => exact absurd rfl (ho _)
  · exact h.advances hm 0 (.resume id) fun _ _ _ => trivial
  · rename_i hw
    obtain ⟨_, _, hfor⟩ := h.isFor hw rfl
    cases hfor
  · rename_i hw
    obtain ⟨_, _, hfor⟩ := h.isFor hw rfl
    cases hfor
  · exact h.stays

/-! ## Turns -/

/-- A channel is added, with a host. -/
theorem Lineup.adds (h : m.Lineup filter wanted taken spare hasty lost) (hm : m.Sound)
    (transport : Transport) {host : Host} (hmade : w.newHost = .ok host) (hfault : host.attachFault = none)
    (hguest : host.guestFilter = none) :
    m.Continues (do let _ ← addChannel w transport true) filter wanted (taken + spare + 1)
      (hasty + m.engaged.toNat) lost := by
  obtain ⟨n, hperform, hlineup⟩ := h.added hm
    (Channel.new_fit m.nextChannel transport m.settings.compressionThreshold hfault hguest) rfl
    (m.nextChannel + 1)
  have hadd : ((addChannel w transport true).perform m).2 = (n, []) := by
    rw [addChannel, perform_manager, hmade]
    exact congrArg (fun r : Unit × Manager × List Output => (r.2.1, r.2.2 ++ [])) hperform
  rw [Continues, perform_bind, hadd]
  exact ⟨taken, spare + 1, rfl, hlineup⟩

/-- A turn in which nothing goes wrong keeps devices and channels in line. -/
theorem Lineup.turn (h : m.Lineup filter wanted taken spare hasty lost) (hm : m.Matched) (drivers : Bool)
    {t : Turn} (hs : m.Smooth t) : ∃ taken' spare', taken' + spare' = taken + spare + t.adds.toNat ∧
      (m.turn drivers t).1.Lineup filter wanted taken' spare' (hasty + (t.adds && m.engaged).toNat)
        (lost + autoFailures (m.turn drivers t).2) := by
  obtain ⟨hl, hmove⟩ := hs
  have hlaunch : (t.surroundings drivers).launch = .ok () := hl
  have hcontinues : m.Continues (t.move.act (t.surroundings drivers)) filter wanted
      (taken + spare + t.adds.toNat) (hasty + (t.adds && m.engaged).toNat) lost := by
    obtain ⟨move, inRuntime, launch, newHost, subscription⟩ := t
    cases move with
    | addChannel transport withHost =>
      obtain ⟨rfl, host, hmade, hfault, hguest⟩ := hmove
      obtain rfl : newHost = .ok host := hmade
      exact h.adds hm.sound transport rfl hfault hguest
    | begin id => exact h.begins hm.sound hlaunch id
    | jobDone id outcome =>
      obtain rfl : outcome = .ok () := hmove
      exact h.installs hm.sound id
    | resume id => exact h.resumes hm hlaunch id
    | signal channel call heard => exact h.advances hm 0 (.signal call heard) hmove
    | opened channel call ticket outcome =>
      exact h.advances hm ticket (.opened call outcome) fun _ _ _ => hmove
    | _ => exact hmove.elim
  exact hcontinues

/-- Whatever order the turns come in. -/
theorem Lineup.run (h : m.Lineup filter wanted taken spare hasty lost) (hm : m.Matched)
    {turns : List Turn} (hs : m.Smoothly drivers turns) :
    ∃ taken' spare', taken' + spare' = taken + spare + turns.countP Turn.adds ∧
      (m.run drivers turns).Lineup filter wanted taken' spare' (hasty + m.haste drivers turns)
        (lost + autoFailures (m.told drivers turns)) := by
  induction turns generalizing m taken spare hasty lost with
  | nil => exact ⟨taken, spare, rfl, h⟩
  | cons t turns ih =>
    obtain ⟨taken', spare', hchannels, hturn⟩ := h.turn hm drivers hs.1
    obtain ⟨taken'', spare'', hchannels', hrun⟩ := ih hturn (turn_matched hm drivers t) hs.2
    refine ⟨taken'', spare'', ?_, ?_⟩
    · rw [hchannels', hchannels, List.countP_cons]
      cases t.adds <;> simp +arith
    · rw [haste, told, autoFailures_append, ← Nat.add_assoc, ← Nat.add_assoc]
      exact hrun

/-! ## Before and after the turns -/

theorem waiting_of_rest (h : m.tasks = []) (means : RegisteredDevice → Bool) : m.waiting means = 0 := by
  rw [waiting, h]
  rfl

theorem engaged_of_rest (h : m.tasks = []) : m.engaged = false := by
  rw [engaged]
  cases m.next? with
  | none => rfl
  | some device =>
    rw [Option.any_some, waiting_of_rest h]
    rfl

theorem Ready.matched (h : m.Ready filter) : m.Matched where
  sound :=
    { registry := h.distinct
      channels := by
        rw [h.channels, h.retired]
        exact ⟨List.nodup_nil, fun _ hc => absurd hc List.not_mem_nil,
          fun _ hc => absurd hc List.not_mem_nil, fun _ hc => absurd hc List.not_mem_nil⟩
      tasks := by
        rw [h.tasks]
        exact ⟨List.nodup_nil, fun _ ht => absurd ht List.not_mem_nil⟩ }
  agree id device channel := by
    refine iff_of_false (fun ⟨connect, hw⟩ => ?_) fun ⟨c, hc, _⟩ => ?_
    · exact absurd (h.tasks ▸ mem_tasks_of_work? hw) List.not_mem_nil
    · rw [h.channels, h.retired] at hc
      exact absurd hc List.not_mem_nil

theorem Ready.lineup (h : m.Ready filter) : m.Lineup filter (m.devicesMatching filter) 0 0 0 0 where
  offers := ⟨h.enabled, h.policy, rfl, h.distinct⟩
  row := ⟨h.retired, fun c hc => absurd (h.channels ▸ hc) List.not_mem_nil, by rw [h.channels]; rfl⟩
  tends t ht := absurd (h.tasks ▸ ht) List.not_mem_nil
  taken_le := Nat.zero_le _
  room := Nat.le_of_eq (by rw [pending, waiting_of_rest h.tasks])
  full _ := by rw [pending, waiting_of_rest h.tasks]
  tally := by
    rw [engaged_of_rest h.tasks, pending, waiting_of_rest h.tasks]
    rfl

/-- Once every call has ended, what is bound is connected. -/
theorem Lineup.connected (h : m.Lineup filter wanted taken spare hasty lost) (hm : m.Matched)
    (hrest : m.tasks = []) : m.connectedDevices = wanted.take taken := by
  have hbound : m.connectedDevices = m.channels.filterMap (·.device) := by
    refine List.filterMap_congr fun c hc => ?_
    have hall := List.mem_append_left m.retired hc
    cases hm.sound.channels.sound c hall with
    | idle hidle => rw [hidle.device, ite_self]
    | holding device handle hold => rw [if_pos hold.state]
    | pending a hp =>
      obtain ⟨connect, hw⟩ := hm.work? hall hp
      have hin := mem_tasks_of_work? hw
      rw [hrest] at hin
      cases hin
  have hmap : m.channels.filterMap (·.device) = (m.channels.map (·.device)).filterMap id := by
    rw [List.filterMap_map]
    rfl
  rw [hbound, hmap, h.row.devices, List.filterMap_append, List.filterMap_map]
  simp

/-! ## What the channels take -/

/-- When channels were added and nothing went wrong, as many connects have failed as channels were added in
haste. The first devices that are wanted are connected, as many as there are channels without these. So
every channel has taken the next device, and no connect has failed, exactly if no channel was added while a
connect for the device that it was to take was still waiting. -/
theorem channels_take_iff (m : Manager) (filter : Filter) (drivers : Bool) (turns : List Turn)
    (ready : m.Ready filter) (smooth : m.Smoothly drivers turns) (rest : (m.run drivers turns).tasks = []) :
    let wanted := m.devicesMatching filter
    let added := turns.countP Turn.adds
    let connected := (m.run drivers turns).connectedDevices
    let failures := autoFailures (m.told drivers turns)
    failures = m.haste drivers turns ∧ connected = wanted.take (added - failures) ∧
      (connected = wanted.take (min added wanted.length) ∧ failures = 0 ↔ m.haste drivers turns = 0) := by
  intro wanted added connected failures
  obtain ⟨taken, spare, hchannels, hline⟩ := ready.lineup.run ready.matched smooth
  have hconnected : connected = wanted.take taken :=
    hline.connected (run_matched ready.matched drivers turns) rest
  have htally := hline.tally
  have hroom := hline.room
  have hfull := hline.full
  have htaken := hline.taken_le
  -- no connect is left, so in the account there are channels that took a device, and failures
  rw [engaged_of_rest rest, pending, waiting_of_rest rest, Bool.toNat_false] at htally
  rw [pending, waiting_of_rest rest] at hroom hfull
  change taken + spare = 0 + 0 + added at hchannels
  change 0 + m.haste drivers turns + 0 = 0 + failures + 0 at htally
  change 0 + failures + 0 ≤ spare at hroom
  change taken < wanted.length → 0 + failures + 0 = spare at hfull
  have hfailures : failures = m.haste drivers turns := by omega
  have htake : connected = wanted.take (added - failures) := by
    rw [hconnected, List.take_eq_take_iff]
    omega
  refine ⟨hfailures, htake, fun h => hfailures ▸ h.2, fun h => ⟨?_, hfailures.trans h⟩⟩
  rw [htake, List.take_eq_take_iff]
  omega

/-! ## Two devices and two channels -/

/-- A device in a slot of the first bus, which is there from the beginning. -/
def stickAt (address : UInt8) : RegisteredDevice :=
  ⟨.busAddress 1 address, { bus := 1, address }, .coldplug⟩

def sticks : List RegisteredDevice := [stickAt 1, stickAt 2]

/-- The manager that has registered two devices, and wants any device on a new channel. -/
def sticksThere : Manager :=
  (new .busAddress { redirectOnConnect := some [{ allow := true }] }).run false
    [{ move := .start }, { move := .enumerationDone 0 (.ok (sticks.map (·.info))) }, { move := .resume 0 }]

def channelComes : Turn := { move := .addChannel (.recording true false) true }

/-- The device of a call is opened on the channel with the same number. -/
def opens (call : Nat) (device : RegisteredDevice) : List Turn :=
  [{ move := .opened call call 0 (.ok device.key) }, { move := .resume call }]

/-- The second channel comes when the device of the first one is bound. -/
def patiently : List Turn :=
  [channelComes, { move := .begin 1 }, channelComes, { move := .begin 2 }] ++ opens 1 (stickAt 1) ++
    opens 2 (stickAt 2)

/-- The second channel comes when the device of the first one is not bound yet. -/
def hastily : List Turn :=
  [channelComes, channelComes, { move := .begin 1 }, { move := .begin 2 }] ++ opens 1 (stickAt 1)

theorem sticksThere_ready : sticksThere.Ready [{ allow := true }] where
  enabled := by decide +kernel
  policy := by decide +kernel
  distinct := by unfold Registry.Distinct; decide +kernel
  channels := by decide +kernel
  retired := by decide +kernel
  tasks := by decide +kernel

theorem channelComes_smooth (m : Manager) : m.Smooth channelComes := ⟨rfl, rfl, {}, rfl, rfl, rfl⟩

/-- Two channels that come one after the other take the two devices. -/
theorem patient_channels_take :
    sticksThere.Smoothly false patiently ∧ (sticksThere.run false patiently).tasks = [] ∧
      (sticksThere.run false patiently).connectedDevices = sticks ∧
        autoFailures (sticksThere.told false patiently) = 0 := by
  have smooth : sticksThere.Smoothly false patiently :=
    ⟨channelComes_smooth _, ⟨rfl, trivial⟩, channelComes_smooth _, ⟨rfl, trivial⟩, ⟨rfl, _, rfl⟩,
      ⟨rfl, trivial⟩, ⟨rfl, _, rfl⟩, ⟨rfl, trivial⟩, trivial⟩
  have rest : (sticksThere.run false patiently).tasks = [] := by decide +kernel
  have hhaste : sticksThere.haste false patiently = 0 := by decide +kernel
  have htakes := channels_take_iff sticksThere _ false patiently sticksThere_ready smooth rest
  obtain ⟨hconnected, hfailures⟩ := htakes.2.2.mpr hhaste
  refine ⟨smooth, rest, hconnected.trans ?_, hfailures⟩
  decide +kernel

/-- Of two channels that come at once, the second one takes nothing, and its connect fails. -/
theorem hasty_channel_stays_free :
    sticksThere.Ready [{ allow := true }] ∧ sticksThere.Smoothly false hastily ∧
      (sticksThere.run false hastily).tasks = [] ∧
      sticksThere.devicesMatching [{ allow := true }] = sticks ∧ hastily.countP Turn.adds = 2 ∧
        (sticksThere.run false hastily).connectedDevices = sticks.take 1 ∧
          autoFailures (sticksThere.told false hastily) = 1 := by
  have smooth : sticksThere.Smoothly false hastily :=
    ⟨channelComes_smooth _, channelComes_smooth _, ⟨rfl, trivial⟩, ⟨rfl, trivial⟩, ⟨rfl, _, rfl⟩,
      ⟨rfl, trivial⟩, trivial⟩
  exact ⟨sticksThere_ready, smooth, by decide +kernel, by decide +kernel, by decide +kernel,
    by decide +kernel, by decide +kernel⟩

end Manager
end RemoteUsb
