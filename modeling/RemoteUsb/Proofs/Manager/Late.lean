import RemoteUsb.Proofs.Manager.Bindings

/-! A call that waits for the driver of its device binds the device once the driver is there, whether the
device is registered or not. It needs no more than a channel that is free. -/

namespace RemoteUsb.Manager

variable {m n p : Manager} {w : Surroundings} {drivers : Bool} {key : DeviceKey}

/-- Two managers that differ in nothing but tasks that are new, and in what is aside. -/
structure Beside (m n : Manager) : Prop where
  registry : n.registry = m.registry
  channels : n.channels = m.channels
  nextTask : m.nextTask ≤ n.nextTask
  work? : ∀ id < m.nextTask, n.work? id = m.work? id

theorem Beside.refl (m : Manager) : m.Beside m := ⟨rfl, rfl, Nat.le_refl _, fun _ _ => rfl⟩

theorem Beside.trans (h : m.Beside n) (h' : n.Beside p) : m.Beside p where
  registry := h'.registry.trans h.registry
  channels := h'.channels.trans h.channels
  nextTask := Nat.le_trans h.nextTask h'.nextTask
  work? id hid := (h'.work? id (Nat.lt_of_lt_of_le hid h.nextTask)).trans (h.work? id hid)

theorem Aside.beside (h : m.Aside n) : m.Beside n where
  registry := h.registry
  channels := h.channels
  nextTask := Nat.le_of_eq h.nextTask.symm
  work? id _ := by rw [Manager.work?, Manager.work?, task?, task?, h.tasks]

theorem stopListening_beside (m : Manager) : m.Beside m.stopListening :=
  Aside.beside ⟨rfl, rfl, rfl, rfl, rfl, rfl⟩

theorem spawn_beside (m : Manager) (work : Work) : m.Beside (m.spawn work) where
  registry := setTask_registry ..
  channels := setTask_channels ..
  nextTask := by
    rw [spawn, setTask_nextTask]
    exact Nat.le_succ _
  work? id hid := by
    rw [spawn, work?_setTask, if_neg (Nat.ne_of_lt hid)]
    rfl

theorem tidy_beside (info : DeviceInfo) : m.Beside ((tidy w info).perform m).2.1 := by
  unfold tidy
  split
  · exact spawn_beside m _
  · exact .refl m

theorem tidy_settings (info : DeviceInfo) : ((tidy w info).perform m).2.1.settings = m.settings := by
  unfold tidy
  split
  · exact setTask_settings ..
  · rfl

theorem redirectOnConnect_settings (m : Manager) :
    (redirectOnConnect.perform m).2.1.settings = m.settings := by
  rw [redirectOnConnect, perform_manager]
  split
  · rfl
  · split
    · rfl
    · split
      · exact setTask_settings ..
      · rfl

theorem redirectOnConnect_beside : m.Beside (redirectOnConnect.perform m).2.1 := by
  rw [redirectOnConnect, perform_manager]
  split
  · exact .refl m
  · split
    · exact .refl m
    · split
      · exact spawn_beside m _
      · exact .refl m

/-- Effects that end no call leave the manager as it is. -/
theorem settle_same {effects : List Effect} (h : Channel.endings effects = []) (id : Nat) :
    ((Act.each (settleEffect w id) effects).perform m).2.1 = m := by
  induction effects with
  | nil => rfl
  | cons effect effects ih =>
    cases effect with
    | ended call result => cases h
    | asked | inputClosed | opening | closed => exact ih h

theorem settleChannel_after {effects : List Effect} (h : Channel.endings effects = []) (c : Channel) :
    ((settleChannel w c effects).perform m).2.1 = m.setChannel c := settle_same h c.id

/-- The channels after a removal, and what stays. -/
theorem removeChannel_after {id : Nat} {c : Channel} (h : m.channel? id = some c) :
    let n := ((removeChannel w id).perform m).2.1
    n.settings = m.settings ∧ Beside
      { m with
        channels := (m.channels.filter (·.id != id)).map (put c.disconnect.1)
        retired := (m.retired ++ [c]).map (put c.disconnect.1) } n := by
  have hends := Channel.endings_disconnect c
  rw [removeChannel, perform_manager, h, perform_change]
  generalize c.disconnect = left at hends ⊢
  obtain ⟨d, effects, released⟩ := left
  have hsettle := settleChannel_after (w := w) hends d (m := { m with
    channels := m.channels.filter (·.id != id), retired := m.retired ++ [c] })
  cases released with
  | none =>
    show ((settleChannel w d effects).perform _).2.1.settings = _ ∧
      Beside _ ((settleChannel w d effects).perform _).2.1
    rw [hsettle]
    exact ⟨rfl, .refl _⟩
  | some device =>
    show ((tidy w device.info).perform
        (((settleChannel w d effects).perform _).2.1.stopListening)).2.1.settings = _ ∧
      Beside _ ((tidy w device.info).perform
        (((settleChannel w d effects).perform _).2.1.stopListening)).2.1
    rw [hsettle]
    exact ⟨tidy_settings device.info, (stopListening_beside _).trans (tidy_beside device.info)⟩

/-! ## Room for one device -/

/-- Something is true of the manager before, between and after the turns. -/
def Along (P : Manager → Prop) (m : Manager) (drivers : Bool) : List Turn → Prop
  | [] => P m
  | t :: turns => P m ∧ Along P (m.turn drivers t).1 drivers turns

instance Along.decidable {P : Manager → Prop} [DecidablePred P] (m : Manager) (drivers : Bool) :
    (turns : List Turn) → Decidable (m.Along P drivers turns)
  | [] => inferInstanceAs (Decidable (P m))
  | t :: turns =>
    have : Decidable ((m.turn drivers t).1.Along P drivers turns) := decidable _ _ turns
    inferInstanceAs (Decidable (P m ∧ (m.turn drivers t).1.Along P drivers turns))

theorem Along.now {P : Manager → Prop} {turns : List Turn} (h : m.Along P drivers turns) : P m := by
  cases turns with
  | nil => exact h
  | cons t turns => exact h.1

theorem Along.mono {P Q : Manager → Prop} {turns : List Turn} (h : m.Along P drivers turns)
    (h' : ∀ n, P n → Q n) : m.Along Q drivers turns := by
  induction turns generalizing m with
  | nil => exact h' m h
  | cons t turns ih => exact ⟨h' m h.1, ih h.2⟩

theorem Along.append {P : Manager → Prop} {first others : List Turn} (h : m.Along P drivers first)
    (h' : (m.run drivers first).Along P drivers others) : m.Along P drivers (first ++ others) := by
  induction first generalizing m with
  | nil => exact h'
  | cons t first ih => exact ⟨h.1, ih h.2 h'⟩

theorem Along.last {P : Manager → Prop} {turns : List Turn} (h : m.Along P drivers turns) :
    P (m.run drivers turns) := by
  induction turns generalizing m with
  | nil => exact h
  | cons t turns ih => exact ih h.2

theorem Along.away {turns : List Turn} (h : m.Along (·.registry.find? key = none) drivers turns) :
    m.Away drivers key turns := by
  induction turns generalizing m with
  | nil => exact h
  | cons t turns ih => exact ⟨h.1, ih h.2⟩

def removals (m : Manager) : List Turn := m.channels.map fun c => { move := .removeChannel c.id }

/-- Turns that take the channels out and add a new one. -/
def clearing (m : Manager) : List Turn :=
  m.removals ++ [{ move := .addChannel (.recording true false) true }]

theorem clearing_moves {t : Turn} (h : t ∈ m.clearing) :
    (∃ id, t.move = .removeChannel id) ∨ ∃ transport, t.move = .addChannel transport true := by
  rcases List.mem_append.mp h with h | h
  · obtain ⟨c, _, rfl⟩ := List.mem_map.mp h
    exact .inl ⟨c.id, rfl⟩
  · rw [List.mem_singleton.mp h]
    exact .inr ⟨_, rfl⟩

/-- A removal takes all channels with the number out, if there are any. -/
theorem removeChannel_leaves (m : Manager) (w : Surroundings) (id : Nat) :
    let n := ((removeChannel w id).perform m).2.1
    n.settings = m.settings ∧ ∃ channels, Beside { m with channels } n ∧
      ∀ c ∈ channels, c.id ≠ id ∧ ∃ d ∈ m.channels, d.id = c.id := by
  cases h : m.channel? id with
  | none =>
    rw [removeChannel, perform_manager, h]
    refine ⟨rfl, m.channels, .refl m, fun c hc => ⟨?_, c, hc, rfl⟩⟩
    simpa using List.find?_eq_none.mp h c hc
  | some c =>
    obtain ⟨hsettings, hafter⟩ := removeChannel_after (w := w) h
    refine ⟨hsettings, _, ⟨hafter.registry, hafter.channels, hafter.nextTask, hafter.work?⟩,
      fun x hx => ?_⟩
    obtain ⟨d, hd, rfl⟩ := List.mem_map.mp hx
    rw [put_id]
    obtain ⟨hd, hne⟩ := List.mem_filter.mp hd
    exact ⟨by simpa using hne, d, hd, rfl⟩

variable (drivers) in
theorem removals_after (ids : List Nat) (h : ∀ c ∈ m.channels, c.id ∈ ids) :
    let turns := ids.map fun id => ({ move := .removeChannel id } : Turn)
    Beside { m with channels := [] } (m.run drivers turns) ∧
      m.Along (fun n => n.registry = m.registry ∧ n.settings = m.settings) drivers turns := by
  induction ids generalizing m with
  | nil =>
    have hnil : m.channels = [] := List.eq_nil_iff_forall_not_mem.mpr fun c hc => nomatch h c hc
    exact ⟨⟨rfl, hnil, Nat.le_refl _, fun _ _ => rfl⟩, rfl, rfl⟩
  | cons id ids ih =>
    let t : Turn := { move := .removeChannel id }
    obtain ⟨hsettings, channels, hafter, hleft⟩ := removeChannel_leaves m (t.surroundings drivers) id
    have hids : ∀ c ∈ (m.turn drivers t).1.channels, c.id ∈ ids := by
      intro c hc
      have hin : c ∈ channels := Eq.mp (congrArg (c ∈ ·) hafter.channels) hc
      obtain ⟨hne, d, hd, he⟩ := hleft c hin
      exact (List.mem_cons.mp (he ▸ h d hd)).resolve_left hne
    obtain ⟨hrest, halong⟩ := ih hids
    refine ⟨⟨hrest.registry.trans hafter.registry, hrest.channels,
      Nat.le_trans hafter.nextTask hrest.nextTask, fun task hlt => ?_⟩, ⟨rfl, rfl⟩, ?_⟩
    · exact (hrest.work? task (Nat.lt_of_lt_of_le hlt hafter.nextTask)).trans (hafter.work? task hlt)
    · exact halong.mono fun n hn => ⟨hn.1.trans hafter.registry, hn.2.trans hsettings⟩

/-- A channel that is added is free. -/
theorem addChannel_after (m : Manager) (drivers : Bool) :
    let n := (m.turn drivers { move := .addChannel (.recording true false) true }).1
    n.settings = m.settings ∧ ∃ c, c.isFree = true ∧ c.host = some {} ∧
      Beside { m with channels := m.channels ++ [c] } n := by
  let c : Channel := { Channel.new m.nextChannel (.recording true false)
    m.settings.compressionThreshold with host := some {}, hasFactory := true }
  let added : Manager := { m with nextChannel := m.nextChannel + 1, channels := m.channels ++ [c] }
  have hafter : added.Beside (redirectOnConnect.perform added).2.1 := redirectOnConnect_beside
  exact ⟨redirectOnConnect_settings added, c, rfl, rfl,
    hafter.registry, hafter.channels, hafter.nextTask, hafter.work?⟩

/-- The new channel is free then, and the only one. -/
theorem clearing_after (m : Manager) (drivers : Bool) :
    m.Along (fun n => n.registry = m.registry ∧ n.settings = m.settings) drivers m.clearing ∧
      ∃ c, c.isFree = true ∧ c.host = some {} ∧
        Beside { m with channels := [c] } (m.run drivers m.clearing) := by
  have hremovals : m.removals = (m.channels.map (·.id)).map fun id => { move := .removeChannel id } := by
    rw [removals, List.map_map]
    rfl
  obtain ⟨hcleared, halong⟩ := removals_after drivers (m.channels.map (·.id))
    fun c hc => List.mem_map_of_mem hc
  rw [← hremovals] at hcleared halong
  have hlast := halong.last
  obtain ⟨hsettings, c, hfree, hhost, hadded⟩ := addChannel_after (m.run drivers m.removals) drivers
  have hchannels := hadded.channels
  rw [hcleared.channels] at hchannels
  rw [clearing, run_append]
  refine ⟨halong.append ⟨hlast, hadded.registry.trans hlast.1, hsettings.trans hlast.2⟩, c, hfree, hhost,
    hadded.registry.trans hlast.1, hchannels, Nat.le_trans hcleared.nextTask hadded.nextTask,
    fun id hlt => ?_⟩
  exact (hadded.work? id (Nat.lt_of_lt_of_le hlt hcleared.nextTask)).trans (hcleared.work? id hlt)

theorem connect_free {c : Channel} (hfree : c.isFree = true) {host : Host} (hhost : c.host = some host)
    (call : Nat) (device : RegisteredDevice) (entry : Entry) (stopped : Bool) :
    c.connect call device entry stopped =
      { c with device := some device, binding := c.binding + 1 }.beginConnect call entry stopped := by
  rw [Channel.connect, Channel.bind, hhost, if_neg (by simp), if_pos hfree]

/-- A connect whose driver is there binds its device to the first free channel. -/
theorem perform_bindAndConnect {c : Channel} {device : RegisteredDevice} {host : Host}
    (hc : m.isConnected device.key = false) (hfind : m.channels.find? Channel.isFree = some c)
    (hhost : c.host = some host) (id : Nat) (connect : Connect) :
    (bindAndConnect w id connect device).perform m =
      let begun := c.connect id device (entry w m.settings)
        (connect.stopped || (connect.policy.isSome && m.stopped))
      (settleChannel w begun.1 begun.2).perform
        (m.startListening.setTask id (.connecting connect device c.id)) := by
  have hfree := List.find?_some hfind
  have hbind : m.startListening.bindFree device =
      .ok { c with device := some device, binding := c.binding + 1 } := by
    have hconnected : m.startListening.isConnected device.key = false := hc
    have hfirst : m.startListening.channels.find? Channel.isFree = some c := hfind
    rw [bindFree, hconnected, if_neg (by decide), hfirst]
    dsimp only
    rw [Channel.bind, hhost, if_neg (by simp), if_pos hfree]
  rw [bindAndConnect, perform_change, perform_manager, hbind, connect_free hfree hhost]
  rfl

/-- A helper that can be started bars nothing. -/
theorem entry_of_launch (hw : w.launch = .ok ()) (settings : Settings) :
    entry w settings = .unguarded ∨ entry w settings = .guarded := by
  unfold entry
  rw [hw]
  cases settings.accessHelper with
  | none => exact .inl rfl
  | some helper => exact .inr rfl

/-- An attempt goes on with the device, unless the helper cannot be started. -/
theorem connect_begun {c : Channel} (hfree : c.isFree = true) {host : Host} (hhost : c.host = some host)
    (hw : w.launch = .ok ()) (settings : Settings) (call : Nat) (device : RegisteredDevice)
    (stopped : Bool) :
    let begun := c.connect call device (entry w settings) stopped
    begun.1.device = some device ∧ Channel.endings begun.2 = [] := by
  rw [connect_free hfree hhost]
  rcases entry_of_launch hw settings with he | he
  · rw [he]
    exact ⟨rfl, rfl⟩
  · rw [he]
    exact ⟨rfl, rfl⟩

theorem bindAndConnect_after {c : Channel} {device : RegisteredDevice} {host : Host}
    (hc : m.isConnected device.key = false) (hfind : m.channels.find? Channel.isFree = some c)
    (hhost : c.host = some host) (hw : w.launch = .ok ()) (id : Nat) (connect : Connect) :
    ((bindAndConnect w id connect device).perform m).2.1 =
      (m.startListening.setTask id (.connecting connect device c.id)).setChannel
        (c.connect id device (entry w m.settings)
          (connect.stopped || (connect.policy.isSome && m.stopped))).1 := by
  obtain ⟨_, hends⟩ := connect_begun (List.find?_some hfind) hhost hw m.settings id device
    (connect.stopped || (connect.policy.isSome && m.stopped))
  rw [perform_bindAndConnect hc hfind hhost]
  exact settleChannel_after hends _

theorem turn_begin {id : Nat} {connect : Connect} (h : m.work? id = some (.idle connect)) (drivers : Bool) :
    let t : Turn := { move := .begin id }
    (m.turn drivers t).1 = ((beginConnect (t.surroundings drivers) id connect).perform m).2.1 := by
  intro t
  show ((begin (t.surroundings drivers) id).perform m).2.1 = _
  rw [begin, perform_manager, h]

theorem turn_jobDone {id : Nat} {connect : Connect} {device : RegisteredDevice}
    (h : m.work? id = some (.installing connect device none)) (drivers : Bool) :
    (m.turn drivers { move := .jobDone id (.ok ()) }).1 =
      m.setTask id (.installing connect device (some (.ok ()))) := by
  show ((jobDone id (.ok ())).perform m).2.1 = _
  rw [jobDone, perform_manager, h]
  rfl

theorem turn_resume {id : Nat} {connect : Connect} {device : RegisteredDevice}
    (h : m.work? id = some (.installing connect device (some (.ok ())))) (drivers : Bool) :
    let t : Turn := { move := .resume id }
    (m.turn drivers t).1 = ((bindAndConnect (t.surroundings drivers) id connect device).perform m).2.1 := by
  intro t
  show ((resume (t.surroundings drivers) id).perform m).2.1 = _
  rw [resume, perform_manager, h]

theorem setChannel_only {c d : Channel} (hc : m.channels = [c]) (hid : d.id = c.id) :
    (m.setChannel d).channels = [d] := by
  show m.channels.map _ = _
  rw [hc, List.map_singleton, if_pos hid.symm]

theorem isConnected_of_free (h : ∀ c ∈ m.channels, c.isFree = true) (key : DeviceKey) :
    m.isConnected key = false := by
  refine isConnected_eq_false_iff.mpr fun c hc => ?_
  have hfree := h c hc
  simp only [Channel.isFree, Bool.and_eq_true, Option.isNone_iff_eq_none] at hfree
  simp [Channel.key?, hfree.2]

/-! ## A call that waits -/

/-- The call of a task waits for the driver of the device under a key, or has got it, and the device is
not registered. -/
structure Waits (m : Manager) (key : DeviceKey) (id : Nat) (work : Work) : Prop where
  sound : m.Sound
  away : m.registry.find? key = none
  work : m.work? id = some work

theorem Waits.lt {id : Nat} {work : Work} (h : m.Waits key id work) : id < m.nextTask :=
  h.sound.tasks.numbers _ (mem_tasks_of_work? h.work)

/-- There are turns, with the device under a key not registered, that make of the manager what is wanted. -/
def Reaches (m : Manager) (drivers : Bool) (key : DeviceKey) (wanted : Manager → Prop) : Prop :=
  ∃ turns, m.Away drivers key turns ∧ wanted (m.run drivers turns)

theorem Reaches.here {wanted : Manager → Prop} (h : m.registry.find? key = none) (hw : wanted m) :
    m.Reaches drivers key wanted := ⟨[], h, hw⟩

theorem Reaches.turn {wanted : Manager → Prop} (h : m.registry.find? key = none) (t : Turn)
    (h' : (m.turn drivers t).1.Reaches drivers key wanted) : m.Reaches drivers key wanted := by
  obtain ⟨turns, haway, hw⟩ := h'
  exact ⟨t :: turns, ⟨h, haway⟩, hw⟩

theorem Reaches.bind {wanted next : Manager → Prop} (h : m.Reaches drivers key wanted)
    (h' : ∀ n, wanted n → n.Reaches drivers key next) : m.Reaches drivers key next := by
  obtain ⟨first, haway, hw⟩ := h
  obtain ⟨others, haway', hn⟩ := h' _ hw
  exact ⟨first ++ others, haway.append haway', run_append .. ▸ hn⟩

/-- The driver is there, if it was not there yet. -/
theorem Waits.driver {id : Nat} {connect : Connect} {device : RegisteredDevice}
    (h : m.Waits key id (.installing connect device none)) :
    m.Reaches drivers key (·.Waits key id (.installing connect device (some (.ok ())))) := by
  let t : Turn := { move := .jobDone id (.ok ()) }
  have hafter : (m.turn drivers t).1 = m.setTask id (.installing connect device (some (.ok ()))) :=
    turn_jobDone h.work drivers
  have haway : (m.turn drivers t).1.registry.find? key = none := by
    rw [hafter, setTask_registry]
    exact h.away
  refine .turn h.away t (.here haway ⟨(turn_turned m drivers t).sound h.sound, haway, ?_⟩)
  rw [hafter, work?_setTask_self]

/-- The channels can be taken out, and a free one added. -/
theorem Waits.cleared {id : Nat} {work : Work} (h : m.Waits key id work) :
    m.Reaches drivers key fun n => n.Waits key id work ∧
      ∃ c, n.channels = [c] ∧ c.isFree = true ∧ c.host = some {} := by
  obtain ⟨halong, c, hfree, hhost, hafter⟩ := clearing_after m drivers
  have haway : (m.run drivers m.clearing).registry.find? key = none := hafter.registry ▸ h.away
  refine ⟨m.clearing, (halong.mono fun n hn => ?_).away, ?_⟩
  · rw [hn.1]
    exact h.away
  · exact ⟨⟨run_sound h.sound drivers m.clearing, haway, (hafter.work? id h.lt).trans h.work⟩, c,
      hafter.channels, hfree, hhost⟩

theorem Waits.bind {id : Nat} {connect : Connect} {device : RegisteredDevice}
    (h : m.Waits key id (.installing connect device (some (.ok ())))) {c : Channel}
    (hc : m.channels = [c]) (hfree : c.isFree = true) (hhost : c.host = some {}) :
    m.Reaches drivers key fun n => ∃ d ∈ n.channels, d.key? = some device.key := by
  let t : Turn := { move := .resume id }
  have hresume : (m.turn drivers t).1 =
      ((bindAndConnect (t.surroundings drivers) id connect device).perform m).2.1 :=
    turn_resume h.work drivers
  have hregistry : (m.turn drivers t).1.registry = m.registry :=
    hresume ▸ Changes.registry (bindAndConnect_goes h.work)
  have hnone : m.isConnected device.key = false :=
    isConnected_of_free (fun d hd => List.mem_singleton.mp (hc ▸ hd) ▸ hfree) device.key
  have hfind : m.channels.find? Channel.isFree = some c := by
    rw [hc, List.find?_cons_of_pos hfree]
  refine .turn h.away t (.here (hregistry ▸ h.away) ?_)
  rw [hresume, bindAndConnect_after hnone hfind hhost rfl]
  have hw : (t.surroundings drivers).launch = .ok () := rfl
  let stopped := connect.stopped || (connect.policy.isSome && m.stopped)
  let d := (c.connect id device (entry (t.surroundings drivers) m.settings) stopped).1
  have hd : d.device = some device := (connect_begun hfree hhost hw m.settings id device stopped).1
  refine ⟨d, ?_, by rw [Channel.key?, hd]; rfl⟩
  have hset : (m.startListening.setTask id (.connecting connect device c.id)).channels = [c] :=
    (setTask_channels ..).trans hc
  rw [setChannel_only hset (Channel.connect_id ..)]
  exact List.mem_singleton_self _

/-- So a call that waits for its driver, or has got it, can bind its device. -/
theorem Waits.binds {id : Nat} {connect : Connect} {device : RegisteredDevice}
    {outcome : Option (Except JobFault Unit)}
    (h : m.Waits key id (.installing connect device outcome))
    (ho : ∀ fault, outcome ≠ some (.error fault)) :
    m.Reaches drivers key fun n => ∃ d ∈ n.channels, d.key? = some device.key := by
  have ready : m.Reaches drivers key (·.Waits key id (.installing connect device (some (.ok ())))) := by
    match outcome with
    | none => exact h.driver
    | some (.ok ()) => exact .here h.away h
    | some (.error fault) => exact absurd rfl (ho fault)
  refine ready.bind fun n hn => hn.cleared.bind fun n ⟨hwaits, c, hc, hfree, hhost⟩ => ?_
  exact hwaits.bind hc hfree hhost

end RemoteUsb.Manager
