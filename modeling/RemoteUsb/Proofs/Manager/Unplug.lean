import RemoteUsb.Proofs.Manager.Late

/-! # A device that was taken out, and the channels

When a device leaves, it is disconnected before it is taken out of the registry. But a call that opens it,
without or after the talk with a helper, goes on, and so does a call for which its driver is being
installed. `removed_iff` says exactly when a device that was taken out stays off the channels for good,
and `opening_is_connected` shows one that does not: it is being opened when it leaves, and is connected then. -/

namespace RemoteUsb.Manager

/-- Nothing goes on with the device under a key: no call connects it on a channel of the set, no host
holds a handle of it, and no call waits for its driver, or has got it. -/
structure Unattended (m : Manager) (key : DeviceKey) : Prop where
  attempts : ∀ c ∈ m.channels, ∀ a ∈ c.attempts, a.device.key ≠ key
  handles : ∀ c ∈ m.channels, ∀ handle, c.handle? = some handle → handle.key ≠ key
  drivers : ∀ id connect device outcome, ⟨id, .installing connect device outcome⟩ ∈ m.tasks →
    device.key = key → ∃ fault, outcome = some (.error fault)

variable {b : Bool} {m n : Manager} {outputs : List Output} {key : DeviceKey}

theorem Unattended.key? (h : m.Unattended key) (hs : m.Sound) : ∀ c ∈ m.channels, c.key? ≠ some key := by
  intro c hc hk
  rcases ((hs.channels.sound c (List.mem_append_left _ hc)).key?_iff key).mp hk with
    ⟨a, ha, hkey⟩ | ⟨handle, hh, hkey⟩
  · exact h.attempts c hc a ha hkey
  · exact h.handles c hc handle hh hkey

theorem unattended_of_key? (hs : m.Sound) (hc : ∀ c ∈ m.channels, c.key? ≠ some key)
    (hd : ∀ id connect device outcome, ⟨id, .installing connect device outcome⟩ ∈ m.tasks →
      device.key = key → ∃ fault, outcome = some (.error fault)) : m.Unattended key where
  attempts c hm a ha hkey :=
    hc c hm (((hs.channels.sound c (List.mem_append_left _ hm)).key?_iff key).mpr (.inl ⟨a, ha, hkey⟩))
  handles c hm handle hh hkey :=
    hc c hm (((hs.channels.sound c (List.mem_append_left _ hm)).key?_iff key).mpr
      (.inr ⟨handle, hh, hkey⟩))
  drivers := hd

/-! ## It stays so while the device is not registered -/

/-- What is not registered after changes was not registered before them. -/
theorem Change.unregistered (c : Change b m outputs n) (h : n.registry.find? key = none) :
    m.registry.find? key = none := by
  cases c with
  | aside e => rw [← e.registry]; exact h
  | worked | begun | installed => rwa [setTask_registry] at h
  | bound => exact (setTask_registry ..) ▸ h
  | registered => exact Registry.find?_add_of_none h
  | told | numbered | dropped | moved | added | skipped | removed => exact h

theorem Changes.unregistered (c : Changes b m outputs n) (h : n.registry.find? key = none) :
    m.registry.find? key = none := by
  induction c with
  | refl => exact h
  | head c _ ih => exact c.unregistered (ih h)

/-- Calls that wait for the driver of the device are not there unless they were there before. -/
theorem Change.drivers (c : Change b m outputs n) (hr : m.registry.find? key = none)
    (h : m.Unattended key) (id : Nat) (connect : Connect) (device : RegisteredDevice)
    (outcome : Option (Except JobFault Unit)) (hm : ⟨id, .installing connect device outcome⟩ ∈ n.tasks)
    (hkey : device.key = key) : ∃ fault, outcome = some (.error fault) := by
  have old : ⟨id, .installing connect device outcome⟩ ∈ m.tasks →
      ∃ fault, outcome = some (.error fault) := fun hm => h.drivers id connect device outcome hm hkey
  have set : ∀ {other : Nat} {work : Work},
      ⟨id, .installing connect device outcome⟩ ∈ (m.setTask other work).tasks →
      (work = .installing connect device outcome → ∃ fault, outcome = some (.error fault)) →
      ∃ fault, outcome = some (.error fault) := by
    intro other work hm hnew
    rcases mem_setTask hm with ⟨hm, _⟩ | heq
    · exact old hm
    · cases heq
      exact hnew rfl
  cases c with
  | aside e => exact old (e.tasks ▸ hm)
  | told | numbered | moved | added | skipped | removed | registered => exact old hm
  | dropped other => exact old (List.mem_of_mem_filter hm)
  | worked other work _ hw =>
    refine set hm fun heq => ?_
    rw [heq] at hw
    cases hw
  | begun other _ _ _ hf =>
    refine set hm fun heq => ?_
    cases heq
    rw [← Registry.key_of_find? hf, hkey, hr] at hf
    cases hf
  | installed other _ _ hw ho =>
    refine set hm fun heq => ?_
    cases heq
    obtain ⟨fault, hfault⟩ := h.drivers _ _ _ _ (mem_tasks_of_work? hw) hkey
    rcases ho with hnone | hsame
    · rw [hnone] at hfault
      cases hfault
    · exact ⟨fault, hsame.trans hfault⟩
  | bound call _ _ _ => exact set hm nofun

/-- The device is bound to no channel that it was not bound to before. -/
theorem Change.key? (c : Change b m outputs n) (hs : m.Sound) (h : m.Unattended key) :
    ∀ channel ∈ n.channels, channel.key? ≠ some key := by
  have hclear := h.key? hs
  intro channel hc
  cases c with
  | aside e => exact hclear channel (e.channels ▸ hc)
  | worked | begun | installed => exact hclear channel (setTask_channels .. ▸ hc)
  | told | numbered | dropped | skipped | registered => exact hclear channel hc
  | removed => exact hclear channel (List.mem_of_mem_filter hc)
  | added transport host =>
    rcases List.mem_append.mp hc with hc | hc
    · exact hclear channel hc
    · rw [List.mem_singleton.mp hc]
      exact nofun
  | @moved _ _ old now move hold hm =>
    have hsound := hs.channels.sound old hold
    rcases mem_map_put hc with ⟨rfl, d, hd, e⟩ | ⟨hc, _⟩
    · have : d = old := hs.channels.eq (List.mem_append_left _ hd) hold
        (e.trans (Channel.step_id hsound now move))
      subst this
      exact fun hk => hclear d hd (Channel.step_key? hsound now hm hk)
    · exact hclear channel hc
  | @bound _ _ call connect device free entry stopped hw hfree hfind =>
    have hin : free ∈ m.channels := List.mem_of_find?_eq_some hfind
    have hsound := hs.channels.sound free (List.mem_append_left _ hin)
    have hother : device.key ≠ key := by
      intro hkey
      obtain ⟨fault, hfault⟩ := h.drivers _ _ _ _ (mem_tasks_of_work? hw) hkey
      cases hfault
    rcases mem_map_put hc with ⟨rfl, _⟩ | ⟨hc, _⟩
    · intro hk
      rcases Channel.connect_key? hsound hk with hk | hkey
      · exact hclear free hin hk
      · exact hother hkey
    · exact hclear channel (setTask_channels .. ▸ hc)

theorem Change.unattended (c : Change b m outputs n) (hs : m.Sound)
    (hr : m.registry.find? key = none) (h : m.Unattended key) : n.Unattended key :=
  unattended_of_key? (c.sound hs) (c.key? hs h) (c.drivers hr h)

theorem Changes.unattended (c : Changes b m outputs n) (hs : m.Sound)
    (hn : n.registry.find? key = none) (h : m.Unattended key) : n.Unattended key := by
  induction c with
  | refl => exact h
  | head c rest ih =>
    have hr := rest.unregistered hn
    exact ih (c.sound hs) hn (c.unattended hs (c.unregistered hr) h)

theorem Turned.unattended (t : Turned m outputs n) (hs : m.Sound) (hm : m.registry.find? key = none)
    (hn : n.registry.find? key = none) (h : m.Unattended key) : n.Unattended key := by
  cases t with
  | goes c => exact c.unattended hs hn h
  | @departs _ p _ _ device c _ c' =>
    have hp := c.unattended hs (c.registry ▸ hm) h
    have hsp := c.sound hs
    exact c'.unattended ⟨hsp.registry.remove _, hsp.channels, hsp.tasks⟩ hn
      ⟨hp.attempts, hp.handles, hp.drivers⟩

theorem run_unattended (hs : m.Sound) (h : m.Unattended key) {drivers : Bool} {turns : List Turn}
    (ha : m.Away drivers key turns) : (m.run drivers turns).Unattended key := by
  induction turns generalizing m with
  | nil => exact h
  | cons t turns ih =>
    have t' := turn_turned m drivers t
    exact ih (t'.sound hs) (t'.unattended hs ha.1 ha.2.now h) ha.2

/-! ## Departures -/

/-- A device that observers are told was taken out is not registered. -/
theorem Turned.removed (t : Turned m outputs n) (hs : m.Sound) {device : RegisteredDevice}
    (h : .notified (.removed device) ∈ outputs) : n.registry.find? device.key = none := by
  have silent : ∀ {b : Bool} {m n : Manager} {outputs : List Output}, Changes b m outputs n →
      .notified (.removed device) ∉ outputs := by
    intro b m n outputs c hm
    obtain ⟨other, he⟩ := c.notice _ hm rfl
    cases he
  cases t with
  | goes c => exact absurd h (silent c)
  | departs c _ c' =>
    rcases List.mem_append.mp h with h | h
    · exact absurd h (silent c)
    rcases List.mem_cons.mp h with heq | h
    · cases heq
      rw [c'.registry]
      exact (c.sound hs).registry.find?_remove device.key
    · exact absurd h (silent c')

/-- A device that was taken out stays off the channels until its key is registered again exactly if, at
the moment when observers are told, no call connects it on a channel, no host holds a handle of it, and no
call waits for its driver or has got it. -/
theorem removed_iff (addressing : Addressing) (settings : Settings) (drivers : Bool)
    (turns : List Turn) (t : Turn) (device : RegisteredDevice)
    (told : .notified (.removed device) ∈
      (((new addressing settings).run drivers turns).turn drivers t).2) :
    let m := (((new addressing settings).run drivers turns).turn drivers t).1
    m.registry.find? device.key = none ∧
      ((∀ later, m.Away drivers device.key later →
          ∀ c ∈ (m.run drivers later).channels, c.key? ≠ some device.key) ↔
        m.Unattended device.key) := by
  have before := run_sound (new_sound addressing settings) drivers turns
  have turned := turn_turned ((new addressing settings).run drivers turns) drivers t
  have hs := turned.sound before
  have hgone := turned.removed before told
  intro m
  refine ⟨hgone, fun h => ?_, fun h later haway => (run_unattended hs h haway).key? (run_sound hs ..)⟩
  refine unattended_of_key? hs (h [] hgone) fun id connect other outcome hm hkey => ?_
  -- A call that waits for the driver of the device would bind the device in some later run.
  refine Classical.byContradiction fun ho => ?_
  have hwork : m.Waits device.key id (.installing connect other outcome) :=
    ⟨hs, hgone, hs.tasks.work? hm⟩
  have hbinds : m.Reaches drivers device.key _ := hwork.binds fun fault he => ho ⟨fault, he⟩
  obtain ⟨later, haway, c, hc, hk⟩ := hbinds
  exact h later haway c hc (hkey ▸ hk)

/-! ## One device, two departures -/

/-- A device in the first slot of the first bus, as it is registered when it is plugged in. -/
def stick : RegisteredDevice := ⟨.busAddress 1 1, { bus := 1, address := 1 }, .hotplug⟩

/-- There is a channel, the device is plugged in, and a call begins to open it. -/
def stickOpening : List Turn :=
  [{ move := .addChannel (.recording true false) true }, { move := .handle (.arrived stick.info) },
    { move := .connect stick.key false }, { move := .begin 1 }]

/-- The device is opened, and the call goes on. -/
def stickOpened : List Turn := [{ move := .opened 1 1 0 (.ok stick.key) }, { move := .resume 1 }]

def stickLeaves : Turn := { move := .handle (.left stick.key) }

def stickConnected : Manager :=
  (new .busAddress { autoConnect := false }).run false (stickOpening ++ stickOpened)

/-- Whether observers are told that the device was taken out. -/
def tellsRemoved (device : RegisteredDevice) : Output → Bool
  | .notified (.removed d) => d == device
  | _ => false

theorem eq_of_tellsRemoved {device : RegisteredDevice} {output : Output}
    (h : tellsRemoved device output = true) : output = .notified (.removed device) := by
  unfold tellsRemoved at h
  split at h
  · rw [beq_iff_eq.mp h]
  · cases h

/-- A device that is connected when it leaves stays off the channels. -/
theorem connected_stays_off :
    stickConnected.channels.map (·.state) = [.connected] ∧
      .notified (.removed stick) ∈ (stickConnected.turn false stickLeaves).2 ∧
        ∀ later, (stickConnected.turn false stickLeaves).1.Away false stick.key later →
          ∀ c ∈ ((stickConnected.turn false stickLeaves).1.run false later).channels,
            c.key? ≠ some stick.key := by
  have told : .notified (.removed stick) ∈ (stickConnected.turn false stickLeaves).2 := by
    have hany : (stickConnected.turn false stickLeaves).2.any (tellsRemoved stick) = true := by
      decide +kernel
    obtain ⟨output, hm, he⟩ := List.any_eq_true.mp hany
    exact eq_of_tellsRemoved he ▸ hm
  have hidle : ((stickConnected.turn false stickLeaves).1.channels.all fun c =>
      c.attempts.isEmpty && c.handle?.isNone) = true := by decide +kernel
  have htasks : (stickConnected.turn false stickLeaves).1.tasks.isEmpty = true := by decide +kernel
  simp only [List.all_eq_true, Bool.and_eq_true, List.isEmpty_iff, Option.isNone_iff_eq_none]
    at hidle htasks
  have hun : (stickConnected.turn false stickLeaves).1.Unattended stick.key := by
    refine ⟨fun c hc a ha => ?_, fun c hc handle hh => ?_, fun id connect device outcome hm => ?_⟩
    · exact absurd ((hidle c hc).1 ▸ ha) List.not_mem_nil
    · cases (hidle c hc).2.symm.trans hh
    · exact absurd (htasks ▸ hm) List.not_mem_nil
  exact ⟨by decide +kernel, told,
    (removed_iff .busAddress { autoConnect := false } false (stickOpening ++ stickOpened)
      stickLeaves stick told).2.mpr hun⟩

/-- A device that is being opened when it leaves is connected after it was taken out. -/
theorem opening_is_connected :
    let before := (new .busAddress { autoConnect := false }).run false stickOpening
    let m := (before.turn false stickLeaves).1
    .notified (.removed stick) ∈ (before.turn false stickLeaves).2 ∧
      m.Away false stick.key stickOpened ∧
        ∃ c ∈ (m.run false stickOpened).channels, c.state = .connected ∧ c.key? = some stick.key :=
  ⟨.head _, ⟨rfl, rfl, rfl⟩, _, .head _, rfl, rfl⟩

end RemoteUsb.Manager
