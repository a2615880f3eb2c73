import Mathlib.Data.List.Induction
import RemoteUsb.Proofs.Manager.Keyed
import RemoteUsb.Proofs.Manager.Unplug

/-! # Drivers and connections

Where the bus wants drivers, a connect has the driver of its device installed before it binds the device,
and everything that takes a device off orders the driver to be removed, mostly in a task of its own. On a
thread outside the runtime no such task can be started, and the driver stays.
`drivers_agree_iff` says when this keeps drivers and connections in agreement, for the device under a key:
exactly as long as no removal is issued while somebody uses the driver, and nobody leaves a driver that
nobody else uses or removes. -/

namespace RemoteUsb

/-- What the bus is told to do about the driver of a device. -/
inductive DriverCall where
  | install
  | uninstall
  deriving DecidableEq, Repr

/-- The call for the driver of the device under a key that is issued. -/
def Output.driverCall? (addressing : Addressing) (key : DeviceKey) : Output → Option DriverCall
  | .started _ (.install info) => if info.key addressing = key then some .install else none
  | .started _ (.uninstall info) => if info.key addressing = key then some .uninstall else none
  | _ => none

/-- The calls for the driver of the device under a key, in the order in which they are issued. -/
def driverCalls (addressing : Addressing) (key : DeviceKey) (outputs : List Output) : List DriverCall :=
  outputs.filterMap (·.driverCall? addressing key)

/-- Whether a task uses the driver of the device under a key: it waits for it, or connects the device. -/
def Work.Uses (key : DeviceKey) : Work → Prop
  | .installing _ device _ | .connecting _ device _ => device.key = key
  | _ => False

/-- Whether a task uses the driver of the device under a key, or is to remove it. -/
def Work.Needs (addressing : Addressing) (key : DeviceKey) : Work → Prop
  | .tidying info => info.key addressing = key
  | work => work.Uses key

namespace Manager

/-- The last call for the driver of the device under a key in a row of turns. -/
def lastCall (m : Manager) (addressing : Addressing) (key : DeviceKey) (turns : List Turn) :
    Option DriverCall :=
  (driverCalls addressing key (m.told true turns)).getLast?

/-- The device under a key is connected on a channel of the set. -/
def Connected (m : Manager) (key : DeviceKey) : Prop :=
  ∃ c ∈ m.channels, c.state = .connected ∧ c.key? = some key

/-- A task uses the driver of the device under a key. -/
def Taken (m : Manager) (key : DeviceKey) : Prop := ∃ id work, m.work? id = some work ∧ work.Uses key

/-- A task uses the driver of the device under a key, or is to remove it. -/
def Needed (m : Manager) (addressing : Addressing) (key : DeviceKey) : Prop :=
  ∃ id work, m.work? id = some work ∧ work.Needs addressing key

/-- Somebody uses the driver of the device under a key. -/
def InUse (m : Manager) (key : DeviceKey) : Prop := m.Taken key ∨ m.Connected key

/-- Somebody uses the driver of the device under a key, or is to remove it. -/
def Attended (m : Manager) (addressing : Addressing) (key : DeviceKey) : Prop :=
  m.Needed addressing key ∨ m.Connected key

/-- If somebody uses the driver, the last call was to install it; and if that was the last call, somebody
uses the driver or is to remove it. -/
structure Agrees (m : Manager) (addressing : Addressing) (key : DeviceKey) (last : Option DriverCall) :
    Prop where
  installed : m.InUse key → last = some .install
  attended : last = some .install → m.Attended addressing key

/-- A turn issues no removal while somebody uses the driver, and leaves no driver alone. -/
structure Careful (m : Manager) (addressing : Addressing) (key : DeviceKey) (last : Option DriverCall)
    (t : Turn) : Prop where
  removes : (driverCalls addressing key (m.turn true t).2).getLast? = some .uninstall →
    ¬(m.turn true t).1.InUse key
  strands : (∃ info, t.move.Strands t.inRuntime m info ∧ info.key addressing = key) →
    (driverCalls addressing key (m.turn true t).2).getLast?.or last = some .install →
      (m.turn true t).1.Attended addressing key

/-- No call waits for its driver or connects its device, and no removal of a driver is still to begin. -/
def AtRest (m : Manager) : Prop := ∀ t ∈ m.tasks, t.work.isLoose = true

variable {addressing : Addressing} {key : DeviceKey} {allowed : Kind → Prop} {kind : Kind} {m n : Manager}
  {outputs more : List Output} {last : Option DriverCall} {id : Nat}

/-! ## Calls for drivers -/

@[simp] theorem driverCalls_append (first others : List Output) :
    driverCalls addressing key (first ++ others) =
      driverCalls addressing key first ++ driverCalls addressing key others := List.filterMap_append

theorem driverCalls_install (id : Nat) (info : DeviceInfo) :
    driverCalls addressing key [.started id (.install info)] =
      if info.key addressing = key then [.install] else [] := by
  by_cases h : info.key addressing = key <;> simp [driverCalls, Output.driverCall?, h]

theorem driverCalls_uninstall (id : Nat) (info : DeviceInfo) :
    driverCalls addressing key [.started id (.uninstall info)] =
      if info.key addressing = key then [.uninstall] else [] := by
  by_cases h : info.key addressing = key <;> simp [driverCalls, Output.driverCall?, h]

theorem driverCalls_told {output : Output} (h : output.isDriving = false) :
    driverCalls addressing key [output] = [] := by
  have hnone : output.driverCall? addressing key = none := by
    match output, h with
    | .started _ .enumerate, _ => rfl
    | .notified _, _ | .ended .., _ | .effect .., _ | .hostLeft .., _ => rfl
  simp [driverCalls, hnone]

theorem needs_of_uses {work : Work} (h : work.Uses key) : work.Needs addressing key := by
  cases work with
  | tidying => cases h
  | _ => exact h

theorem InUse.attended (h : m.InUse key) : m.Attended addressing key :=
  h.imp_left fun ⟨id, work, hw, hu⟩ => ⟨id, work, hw, needs_of_uses hu⟩

theorem Work.not_needs_of_isLoose {work : Work} (h : work.isLoose = true) : ¬work.Needs addressing key := by
  cases work with
  | idle | enumerating | uninstalling => exact fun hn => hn
  | installing | connecting | tidying => cases h

/-- A deed issues one call at most, and an installation for somebody who uses the driver from then on. -/
theorem Advance.calls {old new : Option Work} (h : m.Advance true id kind old new outputs)
    (hk : m.Keyed addressing) :
    driverCalls addressing key outputs = [] ∨ driverCalls addressing key outputs = [.uninstall] ∨
      driverCalls addressing key outputs = [.install] ∧ ∃ work, new = some work ∧ work.Uses key := by
  cases h with
  | @begun connect device hfind =>
    have hown : device.Own addressing := hk.registry _ (List.mem_of_find?_eq_some hfind)
    rw [if_pos rfl, driverCalls_install]
    split
    · exact .inr (.inr ⟨rfl, _, rfl, hown.trans ‹_›⟩)
    · exact .inl rfl
  | removing =>
    rw [if_pos rfl, driverCalls_uninstall]
    split
    · exact .inr (.inl rfl)
    · exact .inl rfl
  | called | recalled | installed | spared | lost | forgotten | cleaning | uninstalled | enumerated
  | closed => exact .inl rfl

theorem Deed.calls (h : Deed true kind m outputs n) (hk : m.Keyed addressing) :
    driverCalls addressing key outputs = [] ∨ driverCalls addressing key outputs = [.uninstall] ∨
      driverCalls addressing key outputs = [.install] ∧ n.InUse key := by
  cases h with
  | told output ho => exact .inl (driverCalls_told ho)
  | task id ha =>
    refine (ha.calls hk).imp_right (.imp_right fun ⟨hcall, work, hwork, hu⟩ => ⟨hcall, .inl ?_⟩)
    exact ⟨id, work, (work?_putTask ..).trans ((if_pos rfl).trans hwork), hu⟩
  | released now move hc hmove hold hidle hwhy =>
    rcases hwhy with ⟨_, rfl, _⟩ | ⟨_, id, rfl⟩ | ⟨_, rfl⟩
    · exact .inl rfl
    · rw [driverCalls_uninstall]
      split
      · exact .inr (.inl rfl)
      · exact .inl rfl
    · exact .inl rfl
  | _ => exact .inl rfl

/-! ## Connected devices -/

theorem connected_of (h : n.channels = m.channels) : n.Connected key ↔ m.Connected key := by
  rw [Connected, Connected, h]

/-- A device that is connected once a channel has gone on was connected before, or is connected by that. -/
theorem Connected.of_put {c d : Channel} (h : (m.setChannel d).Connected key) (hs : m.Sound)
    (hc : c ∈ m.channels ++ m.retired) (hid : d.id = c.id) :
    m.Connected key ∨ c ∈ m.channels ∧ d.state = .connected ∧ d.key? = some key := by
  obtain ⟨x, hx, hstate, hkey⟩ := h
  rcases hs.mem_setChannel hc hid hx with ⟨rfl, hin⟩ | hx
  · exact .inr ⟨hin, hstate, hkey⟩
  · exact .inl ⟨x, hx, hstate, hkey⟩

/-- A device stays connected if its own channel, should that be the one that has gone on, stays so. -/
theorem Connected.put {c d : Channel} (h : m.Connected key) (hs : m.Sound)
    (hc : c ∈ m.channels ++ m.retired) (hid : d.id = c.id)
    (hd : c.state = .connected → c.key? = some key → d.state = .connected ∧ d.key? = some key) :
    (m.setChannel d).Connected key := by
  obtain ⟨x, hx, hstate, hkey⟩ := h
  by_cases he : x.id = d.id
  · obtain rfl := hs.channels.eq (List.mem_append_left _ hx) hc (he.trans hid)
    obtain ⟨hstate, hkey⟩ := hd hstate hkey
    exact ⟨d, List.mem_map.mpr ⟨x, hx, if_pos he⟩, hstate, hkey⟩
  · exact ⟨x, List.mem_map.mpr ⟨x, hx, if_neg he⟩, hstate, hkey⟩

theorem Holding.key? {c : Channel} {device : RegisteredDevice} {handle : Handle}
    (h : c.Holding device handle) : c.key? = some device.key := by rw [Channel.key?, h.device]; rfl

/-- A device that is bound to a channel is being connected there, or is connected. -/
theorem Matched.inUse (hm : m.Matched) (h : m.isConnected key = true) :
    (∃ id connect device channel,
      m.work? id = some (.connecting connect device channel) ∧ device.key = key) ∨ m.Connected key := by
  obtain ⟨c, hfind⟩ := Option.isSome_iff_exists.mp h
  have hc : c ∈ m.channels := List.mem_of_find?_eq_some hfind
  have hkey : c.key? = some key := key_of_channelFor? hfind
  cases hm.sound.channels.sound c (List.mem_append_left _ hc) with
  | idle hidle =>
    rw [Channel.key?, hidle.device] at hkey
    cases hkey
  | pending a hp =>
    rw [Channel.key?, hp.device] at hkey
    obtain ⟨connect, hw⟩ := hm.work? (List.mem_append_left _ hc) hp
    exact .inl ⟨a.call, connect, a.device, c.id, hw, Option.some.inj hkey⟩
  | holding device handle hold => exact .inr ⟨c, hc, hold.state, hkey⟩

/-! ## Nobody uses a driver without an installation -/

theorem Advance.taken {old new : Option Work} (h : m.Advance true id kind old new outputs)
    (hk : m.Keyed addressing) {work : Work} (hw : new = some work) (hu : work.Uses key) :
    (∃ work, old = some work ∧ work.Uses key) ∨ driverCalls addressing key outputs = [.install] := by
  cases h with
  | @begun connect device hfind =>
    cases hw
    have hown : device.Own addressing := hk.registry _ (List.mem_of_find?_eq_some hfind)
    have hkey : device.info.key addressing = key := hown.symm.trans hu
    rw [if_pos rfl, driverCalls_install, if_pos hkey]
    exact .inr rfl
  | installed =>
    cases hw
    exact .inl ⟨_, rfl, hu⟩
  | called | recalled | removing | cleaning | uninstalled | enumerated =>
    cases hw
    cases hu
  | spared | lost | forgotten | closed => cases hw

theorem Deed.taken (h : Deed true kind m outputs n) (hk : m.Keyed addressing) (hn : n.Taken key) :
    m.Taken key ∨ driverCalls addressing key outputs = [.install] := by
  obtain ⟨id, work, hw, hu⟩ := hn
  rcases h.assigned hw with hw | ha | ⟨info, rfl⟩ | rfl | ⟨connect, device, channel, rfl, hbefore⟩
  · exact .inl ⟨id, work, hw, hu⟩
  · exact (ha.taken hk rfl hu).imp_left fun ⟨before, hbefore, hu⟩ => ⟨id, before, hbefore, hu⟩
  · cases hu
  · cases hu
  · exact .inl ⟨id, _, hbefore, hu⟩

/-- A device is connected by a call that used its driver. -/
theorem Deed.connected_inUse (h : Deed true kind m outputs n) (hm : m.Matched) (hn : n.Connected key) :
    m.InUse key := by
  cases h with
  | still e => exact .inr ((connected_of e.channels).mp hn)
  | task id => exact .inr ((connected_of (putTask_channels ..)).mp hn)
  | spawned info =>
    exact .inr ((connected_of (setTask_channels m.takeNumber.1 m.nextTask (.tidying info))).mp hn)
  | begun id => exact .inr ((connected_of (setTask_channels ..)).mp hn)
  | told | subscribed | unsubscribed | skipped | registered | departed => exact .inr hn
  | @bound _ call connect device c a entry stopped hw hfree hfind hp =>
    have hset : (m.startListening.setTask call (.connecting connect device c.id)).channels = m.channels :=
      setTask_channels ..
    obtain ⟨x, hx, hstate, hkey⟩ := hn
    rcases mem_map_put hx with ⟨rfl, _⟩ | ⟨hx, _⟩
    · exact absurd hstate hp.not_connected
    · exact .inr ⟨x, hset ▸ hx, hstate, hkey⟩
  | barred call entry stopped hfree hfind _ hd =>
    rcases hn.of_put hm.sound (List.mem_append_left _ (List.mem_of_find?_eq_some hfind))
      (Channel.connect_id ..) with hn | ⟨_, hstate, _⟩
    · exact .inr hn
    · exact absurd hstate hd.not_connected
  | moved now move hc _ _ hsteady =>
    rcases hn.of_put hm.sound hc hsteady.id with hn | ⟨hin, hstate, hkey⟩
    · exact .inr hn
    · rw [Channel.key?, hsteady.device] at hkey
      exact .inr ⟨_, hin, hsteady.connected.mp hstate, hkey⟩
  | @connected _ _ c now move a handle connect hc _ hp _ hold hw =>
    have hid := Channel.step_id (hm.sound.channels.sound c hc) now move
    rcases Connected.of_put hn hm.sound hc hid with hn | ⟨_, _, hkey⟩
    · exact .inr hn
    · exact .inl ⟨a.call, _, hw, Option.some.inj ((Holding.key? hold).symm.trans hkey)⟩
  | failed now move hc _ _ hidle =>
    have hid := Channel.step_id (hm.sound.channels.sound _ hc) now move
    rcases Connected.of_put hn hm.sound hc hid with hn | ⟨_, hstate, _⟩
    · exact .inr hn
    · exact absurd hstate hidle.not_connected
  | released now move hc _ _ hidle =>
    have hin := List.mem_append_left m.retired hc
    have hid := Channel.step_id (hm.sound.channels.sound _ hin) now move
    rcases Connected.of_put hn hm.sound hin hid with hn | ⟨_, hstate, _⟩
    · exact .inr hn
    · exact absurd hstate hidle.not_connected
  | added transport host hh =>
    obtain ⟨x, hx, hstate, hkey⟩ := hn
    rcases List.mem_append.mp hx with hx | hx
    · exact .inr ⟨x, hx, hstate, hkey⟩
    · rw [List.mem_singleton.mp hx] at hstate
      cases hstate
  | removed hc hne =>
    obtain ⟨x, hx, hstate, hkey⟩ := hn
    exact .inr ⟨x, List.mem_of_mem_filter hx, hstate, hkey⟩

theorem Deeds.inUse (h : Deeds true allowed m outputs n) (hm : m.Matched) (hk : m.Keyed addressing)
    (hn : n.InUse key) : m.InUse key ∨ .install ∈ driverCalls addressing key outputs := by
  induction h with
  | refl => exact .inl hn
  | head _ d _ ih =>
    rw [driverCalls_append, List.mem_append]
    rcases ih (d.matched hm) (d.keyed hm.sound hk) hn with (htaken | hconnected) | hcall
    · rcases d.taken hk htaken with htaken | hcall
      · exact .inl (.inl htaken)
      · rw [hcall]
        exact .inr (.inl (List.mem_singleton_self _))
    · exact .inl (d.connected_inUse hm hconnected)
    · exact .inr (.inr hcall)

/-! ## Nobody leaves a driver alone unless it is stranded -/

/-- Somebody is to remove the driver of the device under a key, or the device is bound to a channel. -/
def Covered (m : Manager) (addressing : Addressing) (key : DeviceKey) : Prop :=
  (∃ info, info.key addressing = key ∧ m.Tidies info) ∨ m.isConnected key = true

/-- A task that needs a driver goes on to need it, or has it removed, or ends when it is covered. -/
theorem Advance.needs {work : Work} {new : Option Work}
    (h : m.Advance true id kind (some work) new outputs)
    (hown : ∀ device, work.device? = some device → device.Own addressing)
    (hs : ∀ info, kind = .stranding info → info.key addressing ≠ key)
    (hn : work.Needs addressing key) :
    (∃ work, new = some work ∧ work.Needs addressing key) ∨
      (new = none ∧ m.Covered addressing key ∧
        ∃ connect device outcome, work = .installing connect device outcome) ∨
      driverCalls addressing key outputs = [.uninstall] := by
  cases h with
  | installed => exact .inl ⟨_, rfl, hn⟩
  | @spared connect device outcome hcare =>
    have hkey : device.key = key := hn
    refine .inr (.inl ⟨rfl, ?_, connect, device, outcome, rfl⟩)
    rcases hcare rfl with htidies | hconnected
    · exact .inl ⟨device.info, (hown device rfl).symm.trans hkey, htidies⟩
    · exact .inr (hkey ▸ hconnected)
  | @lost connect device outcome =>
    have hkey : device.key = key := hn
    exact absurd ((hown device rfl).symm.trans hkey) (hs _ rfl)
  | forgotten => exact absurd hn (hs _ rfl)
  | @removing info =>
    have hkey : info.key addressing = key := hn
    exact .inr (.inr ((driverCalls_uninstall id info).trans (if_pos hkey)))
  | closed hloose => exact absurd hn (Work.not_needs_of_isLoose (hloose _ rfl))
  | recalled | begun | uninstalled | enumerated => cases hn

/-- A task that is not the one that is set or dropped still needs the driver. -/
theorem Needed.putTask {other : Nat} {work : Work} {new : Option Work} (hw : m.work? other = some work)
    (hn : work.Needs addressing key) (hne : other ≠ id) : (m.putTask id new).Needed addressing key := by
  refine ⟨other, work, ?_, hn⟩
  rw [work?_putTask, if_neg hne]
  exact hw

theorem Matched.attended_dropTask (hm : m.Matched) {connect : Connect} {device : RegisteredDevice}
    {outcome : Option (Except JobFault Unit)}
    (hw : m.work? id = some (.installing connect device outcome)) (h : m.Covered addressing key) :
    (m.dropTask id).Attended addressing key := by
  have hother : ∀ {other : Nat} {work : Work}, m.work? other = some work → work.Needs addressing key →
      other ≠ id → (m.dropTask id).Attended addressing key := by
    intro other work hw hn hne
    have hneeded : (m.putTask id none).Needed addressing key := Needed.putTask hw hn hne
    exact .inl hneeded
  rcases h with ⟨info, hkey, other, htidying⟩ | hconnected
  · refine hother htidying hkey ?_
    rintro rfl
    cases hw.symm.trans htidying
  · rcases hm.inUse hconnected with ⟨other, _, _, _, hconnecting, hkey⟩ | hconnected
    · refine hother hconnecting hkey ?_
      rintro rfl
      cases hw.symm.trans hconnecting
    · exact .inr hconnected

theorem Deed.needed (h : Deed true kind m outputs n) (hm : m.Matched) (hk : m.Keyed addressing)
    (hs : ∀ info, kind = .stranding info → info.key addressing ≠ key) (hn : m.Needed addressing key) :
    n.Attended addressing key ∨ driverCalls addressing key outputs = [.uninstall] := by
  obtain ⟨other, work, hw, hn⟩ := hn
  have hstays : n.work? other = some work → n.Attended addressing key ∨
      driverCalls addressing key outputs = [.uninstall] := fun h => .inl (.inl ⟨other, work, h, hn⟩)
  have hown := hk.tasks other work hw
  cases h with
  | still e => exact hstays ((work?_of_tasks e.tasks other).trans hw)
  | @task _ _ id new outputs ha =>
    by_cases he : other = id
    · subst he
      rw [hw] at ha
      rcases ha.needs hown hs hn with ⟨new, rfl, hn⟩ | ⟨rfl, hcovered, connect, device, outcome, rfl⟩ | hcall
      · exact .inl (.inl ⟨other, new, (work?_putTask ..).trans (if_pos rfl), hn⟩)
      · exact .inl (hm.attended_dropTask hw hcovered)
      · exact .inr hcall
    · exact .inl (.inl (Needed.putTask hw hn he))
  | spawned info =>
    have hne : other ≠ m.nextTask := Nat.ne_of_lt (hm.sound.tasks.lt hw)
    exact hstays ((work?_spawn ..).trans ((if_neg hne).trans hw))
  | begun id _ hnone =>
    have hne : other ≠ id := by
      rintro rfl
      cases hnone.symm.trans hw
    exact hstays ((work?_setTask m id _ other).trans ((if_neg hne).trans hw))
  | subscribed id henumerating =>
    have hne : other ≠ id := by
      rintro rfl
      cases henumerating.symm.trans hw
      cases hn
    exact hstays ((work?_dropTask m id other).trans ((if_neg hne).trans hw))
  | @bound _ call connect device c a entry stopped hinstalling =>
    have hbound := work?_setTask m.startListening call (.connecting connect device c.id) other
    by_cases he : other = call
    · subst he
      cases hinstalling.symm.trans hw
      exact .inl (.inl ⟨other, _, hbound.trans (if_pos rfl), hn⟩)
    · exact hstays (hbound.trans ((if_neg he).trans hw))
  | @connected _ _ c now move a handle connect hc _ hp _ hold hconnecting hwhere =>
    by_cases he : other = a.call
    · subst he
      cases hconnecting.symm.trans hw
      rcases hwhere with ⟨hin, _⟩ | ⟨_, rfl⟩
      · have hid := Channel.step_id (hm.sound.channels.sound c hc) now move
        have hkey : (c.step now move).1.key? = some key := (Holding.key? hold).trans (congrArg some hn)
        exact .inl (.inr ⟨_, List.mem_map.mpr ⟨c, hin, if_pos hid.symm⟩, hold.state, hkey⟩)
      · exact absurd ((hown _ rfl).symm.trans hn) (hs _ rfl)
    · exact hstays ((work?_dropTask _ a.call other).trans ((if_neg he).trans hw))
  | @failed _ _ c now move a connect hc _ hp _ hconnecting hwhy =>
    by_cases he : other = a.call
    · subst he
      cases hconnecting.symm.trans hw
      have hkey : a.device.info.key addressing = key := (hown _ rfl).symm.trans hn
      rcases hwhy with ⟨_, htidies⟩ | rfl
      · obtain ⟨id, htidying⟩ := htidies rfl
        have hne : id ≠ a.call := by
          rintro rfl
          cases hconnecting.symm.trans htidying
        exact .inl (.inl ⟨id, _, (work?_dropTask _ a.call id).trans ((if_neg hne).trans htidying), hkey⟩)
      · exact absurd hkey (hs _ rfl)
    · exact hstays ((work?_dropTask _ a.call other).trans ((if_neg he).trans hw))
  | told | unsubscribed | barred | moved | released | added | skipped | removed | registered
  | departed => exact hstays hw

/-- A device stays connected, or its driver is taken care of when it is taken off. -/
theorem Deed.connected_attended (h : Deed true kind m outputs n) (hm : m.Matched)
    (hk : m.Keyed addressing) (hs : ∀ info, kind = .stranding info → info.key addressing ≠ key)
    (hn : m.Connected key) :
    n.Attended addressing key ∨ driverCalls addressing key outputs = [.uninstall] := by
  cases h with
  | still e => exact .inl (.inr ((connected_of e.channels).mpr hn))
  | task id => exact .inl (.inr ((connected_of (putTask_channels ..)).mpr hn))
  | spawned info =>
    exact .inl (.inr ((connected_of (setTask_channels m.takeNumber.1 m.nextTask (.tidying info))).mpr hn))
  | begun id => exact .inl (.inr ((connected_of (setTask_channels ..)).mpr hn))
  | told | subscribed | unsubscribed | skipped | registered | departed => exact .inl (.inr hn)
  | @bound _ call connect device c a entry stopped hw hfree hfind hp =>
    have hset : m.startListening.Sound := ⟨hm.sound.registry, hm.sound.channels, hm.sound.tasks⟩
    have hc : c ∈ m.channels := List.mem_of_find?_eq_some hfind
    have hidle := (hm.sound.channels.sound c (List.mem_append_left _ hc)).idle_of_isFree
      (List.find?_some hfind)
    have hconnected : (m.setChannel (c.connect call device entry stopped).1).Connected key :=
      hn.put hm.sound (List.mem_append_left _ hc) (Channel.connect_id ..) fun hstate =>
        absurd hstate hidle.not_connected
    refine .inl (.inr ((connected_of ?_).mpr hconnected))
    exact congrArg (List.map (put _)) (setTask_channels ..)
  | barred call entry stopped hfree hfind hidle =>
    have hin := List.mem_append_left m.retired (List.mem_of_find?_eq_some hfind)
    exact .inl (.inr (hn.put hm.sound hin (Channel.connect_id ..) fun hstate =>
      absurd hstate hidle.not_connected))
  | moved now move hc _ _ hsteady =>
    refine .inl (.inr (hn.put hm.sound hc hsteady.id fun hstate hkey => ⟨hsteady.connected.mpr hstate, ?_⟩))
    rw [Channel.key?, hsteady.device]
    exact hkey
  | @connected _ _ c now move a handle connect hc _ hp =>
    have hid := Channel.step_id (hm.sound.channels.sound c hc) now move
    have hput : (m.setChannel (c.step now move).1).Connected key :=
      hn.put hm.sound hc hid fun hstate => absurd hstate hp.not_connected
    exact .inl (.inr hput)
  | @failed _ _ c now move a connect hc _ hp =>
    have hid := Channel.step_id (hm.sound.channels.sound c hc) now move
    have hput : (m.setChannel (c.step now move).1).Connected key :=
      hn.put hm.sound hc hid fun hstate => absurd hstate hp.not_connected
    exact .inl (.inr hput)
  | @released _ _ c now move device handle outputs hc _ hold hidle hwhy =>
    have hin := List.mem_append_left m.retired hc
    have hkey? := Holding.key? hold
    have hown : device.Own addressing := hk.channels c hin device hold.device
    by_cases hkey : device.key = key
    · have hinfo : device.info.key addressing = key := hown.symm.trans hkey
      rcases hwhy with ⟨_, _, htidies⟩ | ⟨_, id, rfl⟩ | ⟨rfl, _⟩
      · obtain ⟨id, htidying⟩ := htidies rfl
        exact .inl (.inl ⟨id, _, htidying, hinfo⟩)
      · exact .inr ((driverCalls_uninstall id device.info).trans (if_pos hinfo))
      · exact absurd hinfo (hs _ rfl)
    · have hid := Channel.step_id (hm.sound.channels.sound c hin) now move
      have hput : (m.setChannel (c.step now move).1).Connected key :=
        hn.put hm.sound hin hid fun _ hc => absurd (Option.some.inj (hkey?.symm.trans hc)) hkey
      exact .inl (.inr hput)
  | added transport host hh =>
    obtain ⟨x, hx, hstate, hkey⟩ := hn
    exact .inl (.inr ⟨x, List.mem_append_left _ hx, hstate, hkey⟩)
  | @removed _ c hc hne =>
    obtain ⟨x, hx, hstate, hkey⟩ := hn
    refine .inl (.inr ⟨x, List.mem_filter.mpr ⟨hx, ?_⟩, hstate, hkey⟩)
    have hdiffers : x.id ≠ c.id := by
      intro he
      obtain rfl := hm.sound.channels.eq (List.mem_append_left _ hx) (List.mem_append_left _ hc) he
      exact hne hstate
    simpa using hdiffers

/-- A row of deeds that strands no driver of a device leaves it attended, if the last call was to install
it. -/
theorem Deeds.attended (h : Deeds true allowed m outputs n) (hm : m.Matched) (hk : m.Keyed addressing)
    (hs : ∀ info, allowed (.stranding info) → info.key addressing ≠ key)
    (ha : last = some .install → m.Attended addressing key) :
    (driverCalls addressing key outputs).getLast?.or last = some .install →
      n.Attended addressing key := by
  induction h generalizing last with
  | refl => exact ha
  | @head m n p kind outputs more hkind d _ ih =>
    rw [driverCalls_append, List.getLast?_append, Option.or_assoc]
    refine ih (d.matched hm) (d.keyed hm.sound hk) ?_
    have hstrands : ∀ info, kind = .stranding info → info.key addressing ≠ key := by
      rintro info rfl
      exact hs info (hkind.resolve_left nofun)
    rcases d.calls hk with hcalls | hcalls | ⟨_, huse⟩
    · rw [hcalls]
      intro hlast
      have hnext : n.Attended addressing key ∨ driverCalls addressing key outputs = [.uninstall] :=
        (ha hlast).elim (d.needed hm hk hstrands) (d.connected_attended hm hk hstrands)
      refine hnext.resolve_right ?_
      rw [hcalls]
      exact nofun
    · rw [hcalls]
      exact nofun
    · exact fun _ => huse.attended

/-! ## Turns -/

theorem Move.allows_stranding (w : Surroundings) (m : Manager) (move : Move) (info : DeviceInfo) :
    move.Allows w m (.stranding info) ↔ move.Strands w.inRuntime m info := by
  cases move with
  | handle event => cases event <;> exact Iff.rfl
  | _ => exact Iff.rfl

/-- The agreement lasts for another turn exactly if the turn is careful. -/
theorem Agrees.careful_iff (hm : m.Matched) (hk : m.Keyed addressing) (h : m.Agrees addressing key last)
    (t : Turn) :
    (m.turn true t).1.Agrees addressing key
      ((driverCalls addressing key (m.turn true t).2).getLast?.or last) ↔
        m.Careful addressing key last t := by
  have hrow := turn_deeds hm true t
  constructor
  · intro hagrees
    refine ⟨fun hcall huse => ?_, fun _ => hagrees.attended⟩
    have hlast := hagrees.installed huse
    rw [hcall] at hlast
    cases hlast
  · refine fun hcareful => ⟨fun huse => ?_, fun hlast => ?_⟩
    · have hremoves := hcareful.removes
      generalize hcalls : (driverCalls addressing key (m.turn true t).2).getLast? = call at hremoves ⊢
      match call with
      | some .install => rfl
      | some .uninstall => exact absurd huse (hremoves rfl)
      | none =>
        rw [List.getLast?_eq_none_iff] at hcalls
        refine h.installed ((hrow.inUse hm hk huse).resolve_right ?_)
        rw [hcalls]
        exact List.not_mem_nil
    · by_cases hstrands : ∃ info, t.move.Strands t.inRuntime m info ∧ info.key addressing = key
      · exact hcareful.strands hstrands hlast
      · refine hrow.attended hm hk (fun info hallowed hkey => hstrands ⟨info, ?_, hkey⟩) h.attended hlast
        exact (Move.allows_stranding ..).mp hallowed

theorem lastCall_append (m : Manager) (first : List Turn) (t : Turn) :
    m.lastCall addressing key (first ++ [t]) =
      (driverCalls addressing key ((m.run true first).turn true t).2).getLast?.or
        (m.lastCall addressing key first) := by
  have hone : (m.run true first).told true [t] = ((m.run true first).turn true t).2 := List.append_nil _
  rw [lastCall, told_append, hone, driverCalls_append, List.getLast?_append]
  rfl

theorem new_agrees (addressing : Addressing) (settings : Settings) (key : DeviceKey) :
    (new addressing settings).Agrees addressing key none where
  installed h := by
    rcases h with ⟨_, _, hw, _⟩ | ⟨_, hc, _⟩
    · cases hw
    · exact absurd hc List.not_mem_nil
  attended h := by cases h

/-- Once all calls have ended and all drivers are removed that are to be removed, agreement means that the
driver is installed exactly if the device is connected. -/
theorem AtRest.agrees_iff (h : m.AtRest) :
    m.Agrees addressing key last ↔ (last = some .install ↔ m.Connected key) := by
  have hneeded : ¬m.Needed addressing key := fun ⟨_, _, hw, hn⟩ =>
    Work.not_needs_of_isLoose (h _ (mem_tasks_of_work? hw)) hn
  have htaken : ¬m.Taken key := fun ⟨id, work, hw, hu⟩ => hneeded ⟨id, work, hw, needs_of_uses hu⟩
  constructor
  · exact fun hagrees => ⟨fun hlast => (hagrees.attended hlast).resolve_left hneeded,
      fun hconnected => hagrees.installed (.inr hconnected)⟩
  · exact fun hiff => ⟨fun huse => hiff.mpr (huse.resolve_left htaken), fun hlast => .inr (hiff.mp hlast)⟩

/-- Drivers and connections agree all along exactly as long as every turn is careful. At rest, they agree
exactly if the last call for the driver of a device is to install it just when the device is connected. -/
theorem drivers_agree_iff (addressing : Addressing) (settings : Settings) (turns : List Turn)
    (key : DeviceKey) :
    let m := new addressing settings
    ((∀ first, first <+: turns → (m.run true first).Agrees addressing key (m.lastCall addressing key first)) ↔
      ∀ first t, first ++ [t] <+: turns →
        (m.run true first).Careful addressing key (m.lastCall addressing key first) t) ∧
    ((m.run true turns).AtRest →
      ((m.run true turns).Agrees addressing key (m.lastCall addressing key turns) ↔
        (m.lastCall addressing key turns = some .install ↔ (m.run true turns).Connected key))) := by
  intro m
  have hm : ∀ first, (m.run true first).Matched := run_matched (new_matched addressing settings) true
  have hk : ∀ first, (m.run true first).Keyed addressing :=
    run_keyed (new_matched addressing settings) (new_keyed addressing settings) true
  have hstep : ∀ first t, (m.run true first).Agrees addressing key (m.lastCall addressing key first) →
      ((m.run true (first ++ [t])).Agrees addressing key (m.lastCall addressing key (first ++ [t])) ↔
        (m.run true first).Careful addressing key (m.lastCall addressing key first) t) := by
    intro first t h
    rw [run_append, lastCall_append]
    exact h.careful_iff (hm first) (hk first) t
  refine ⟨⟨fun h first t hfirst => ?_, fun h first hfirst => ?_⟩, AtRest.agrees_iff⟩
  · exact (hstep first t (h first ((List.prefix_append first [t]).trans hfirst))).mp (h _ hfirst)
  · -- what holds after a row of turns comes from what held before its last turn
    induction first using List.reverseRecOn with
    | nil => exact new_agrees addressing settings key
    | append_singleton first t ih =>
      exact (hstep first t (ih ((List.prefix_append first [t]).trans hfirst))).mpr (h first t hfirst)

/-- A call has the driver of the device installed, and begins to open the device. -/
def stickInstalled : List Turn :=
  stickOpening ++ [{ move := .jobDone 1 (.ok ()) }, { move := .resume 1 }]

/-- A driver is there as long as its device is connected. -/
theorem connected_is_installed :
    let m := new .busAddress { autoConnect := false }
    let turns := stickInstalled ++ stickOpened
    (m.run true turns).AtRest ∧ m.lastCall .busAddress stick.key turns = some .install ∧
      (m.run true turns).Agrees .busAddress stick.key (m.lastCall .busAddress stick.key turns) := by
  intro m turns
  have htasks : (m.run true turns).tasks.isEmpty = true := by decide +kernel
  have hconnected : ((m.run true turns).channels.any fun c =>
      c.state == .connected && c.key? == some stick.key) = true := by decide +kernel
  have hlast : m.lastCall .busAddress stick.key turns = some .install := by decide +kernel
  simp only [List.any_eq_true, Bool.and_eq_true, beq_iff_eq, List.isEmpty_iff] at htasks hconnected
  have hrest : (m.run true turns).AtRest := fun t ht => absurd (htasks ▸ ht) List.not_mem_nil
  exact ⟨hrest, hlast, ((drivers_agree_iff .busAddress { autoConnect := false } turns stick.key).2
    hrest).mpr ⟨fun _ => hconnected, fun _ => hlast⟩⟩

/-- A shutdown takes the device off and leaves its driver installed. -/
theorem driver_outlives_shutdown :
    let m := new .busAddress { autoConnect := false }
    let turns := stickInstalled ++ stickOpened ++ [{ move := .shutdown }]
    (m.run true turns).AtRest ∧ m.lastCall .busAddress stick.key turns = some .install ∧
      ¬(m.run true turns).Connected stick.key := by
  intro m turns
  have htasks : (m.run true turns).tasks.isEmpty = true := by decide +kernel
  have hoff : ((m.run true turns).channels.all fun c => c.state != .connected) = true := by decide +kernel
  simp only [List.all_eq_true, bne_iff_ne, List.isEmpty_iff] at htasks hoff
  exact ⟨fun t ht => absurd (htasks ▸ ht) List.not_mem_nil, by decide +kernel,
    fun ⟨c, hc, hstate, _⟩ => hoff c hc hstate⟩

end Manager
end RemoteUsb
