import Mathlib.Data.List.Induction
import RemoteUsb.Proofs.Manager.Keyed
import RemoteUsb.Proofs.Manager.Revival

/-! Where the devices on the channels come from. A device that is bound to a channel came in some turn of the
run, and stayed registered until a turn in which a connect began that had waited under its key. A turn in
which devices come, or connects are asked for, begins nothing; every other turn is a row of deeds in which
neither happens, and then what has a device afterwards had it before, or is a connect that has begun. -/

namespace RemoteUsb

/-- The policy for devices that come wants the device connected: it was plugged in, such devices are to be
connected at once, and the filter matches it. -/
structure Settings.Wants (s : Settings) (device : RegisteredDevice) : Prop where
  arrival : device.arrival = .hotplug
  enabled : s.autoConnect = true
  filter : s.autoConnectFilter.matchesDevice device.info.descriptor = true

instance (s : Settings) (device : RegisteredDevice) : Decidable (s.Wants device) :=
  decidable_of_iff (device.arrival = .hotplug ∧ s.autoConnect = true ∧
      s.autoConnectFilter.matchesDevice device.info.descriptor = true)
    ⟨fun h => ⟨h.1, h.2.1, h.2.2⟩, fun h => ⟨h.arrival, h.enabled, h.filter⟩⟩

namespace Manager

variable {drivers : Bool} {allowed : Kind → Prop} {kind : Kind} {m n p : Manager} {w : Surroundings}
  {outputs : List Output} {device : RegisteredDevice} {id : Nat}

/-- A connect has begun with the device, or the device is bound to a channel. -/
def Has (m : Manager) (device : RegisteredDevice) : Prop :=
  (∃ id work, m.work? id = some work ∧ work.device? = some device) ∨
    ∃ c ∈ m.channels ++ m.retired, c.device = some device

/-- In between, the device has come. -/
def Comes (m n : Manager) (device : RegisteredDevice) : Prop :=
  m.registry.find? device.key = none ∧ n.registry.find? device.key = some device

instance : Decidable (m.Comes n device) := inferInstanceAs (Decidable (_ ∧ _))

/-- In between, a connect has begun, or is over, that waited under the key of the device while that was
registered. -/
structure Takes (m n : Manager) (device : RegisteredDevice) : Prop where
  registered : m.registry.find? device.key = some device
  connect : ∃ id connect, m.work? id = some (.idle connect) ∧ connect.key = device.key ∧
    ∀ other, n.work? id ≠ some (.idle other)

/-! ## Turns that begin nothing -/

/-- The connects that wait are kept, and what is new are connects that wait, and channels without a
device. -/
structure Adds (m n : Manager) : Prop where
  gains : ∀ id work, n.work? id = some work → m.work? id = some work ∨ ∃ connect, work = .idle connect
  keeps : ∀ id connect, m.work? id = some (.idle connect) → n.work? id = some (.idle connect)
  channels : ∀ c ∈ n.channels ++ n.retired, c ∈ m.channels ++ m.retired ∨ c.device = none

theorem Adds.refl (m : Manager) : m.Adds m := ⟨fun _ _ => .inl, fun _ _ h => h, fun _ => .inl⟩

theorem Adds.trans (h : m.Adds n) (h' : n.Adds p) : m.Adds p where
  gains id work hw := by
    rcases h'.gains id work hw with hw | hidle
    · exact h.gains id work hw
    · exact .inr hidle
  keeps id connect hw := h'.keeps id connect (h.keeps id connect hw)
  channels c hc := by
    rcases h'.channels c hc with hc | hnone
    · exact h.channels c hc
    · exact .inr hnone

theorem Adds.has (h : m.Adds n) (hd : n.Has device) : m.Has device := by
  rcases hd with ⟨id, work, hw, hdev⟩ | ⟨c, hc, hdev⟩
  · rcases h.gains id work hw with hw | ⟨connect, rfl⟩
    · exact .inl ⟨id, work, hw, hdev⟩
    · cases hdev
  · rcases h.channels c hc with hc | hnone
    · exact .inr ⟨c, hc, hdev⟩
    · cases hnone.symm.trans hdev

theorem adds_of (htasks : n.tasks = m.tasks) (hc : n.channels = m.channels) (hr : n.retired = m.retired) :
    m.Adds n where
  gains id work hw := .inl ((work?_of_tasks htasks id).symm.trans hw)
  keeps id connect hw := (work?_of_tasks htasks id).trans hw
  channels c hin := .inl (by rwa [hc, hr] at hin)

/-- A connect that waits comes under a new number. -/
theorem setTask_adds (connect : Connect) (h : m.work? id = none) :
    m.Adds (m.setTask id (.idle connect)) where
  gains other work hw := by
    rw [work?_setTask] at hw
    split at hw
    · exact .inr ⟨connect, (Option.some.inj hw).symm⟩
    · exact .inl hw
  keeps other waiting hw := by
    rw [work?_setTask, if_neg]
    · exact hw
    · rintro rfl
      cases h.symm.trans hw
  channels c hin := .inl (by rwa [setTask_channels, setTask_retired] at hin)

theorem spawn_adds (hm : TasksSound m.tasks m.nextTask) (connect : Connect) :
    m.Adds (m.spawn (.idle connect)) := by
  have hnone : m.takeNumber.1.work? m.nextTask = none := hm.work?_none (Nat.le_refl _)
  exact (adds_of rfl rfl rfl : m.Adds m.takeNumber.1).trans (setTask_adds connect hnone)

/-- A call ends that was not a connect that waits. -/
theorem endCall_adds (h : ∀ connect, m.work? id ≠ some (.idle connect)) (result : Except RedirectError Unit) :
    m.Adds ((endCall id result).perform m).2.1 where
  gains other work hw := by
    have hdrop : (m.dropTask id).work? other = some work := hw
    rw [work?_dropTask] at hdrop
    split at hdrop
    · cases hdrop
    · exact .inl hdrop
  keeps other connect hw := by
    change (m.dropTask id).work? other = _
    rw [work?_dropTask, if_neg]
    · exact hw
    · rintro rfl
      exact h connect hw
  channels _ hin := .inl hin

/-! ## Devices that come -/

/-- The policy starts no connect of a device, or one of a device that it wants. -/
theorem autoConnect_after (device : RegisteredDevice) (m : Manager) :
    let n := ((autoConnect device).perform m).2.1
    n = m ∨ (m.settings.autoConnect = true ∧
        m.settings.autoConnectFilter.matchesDevice device.info.descriptor = true) ∧
      n = m.spawn (.idle { key := device.key, policy := some device }) := by
  have hite : ∀ (c : Prop) [Decidable c],
      (c → m.settings.autoConnect = true ∧
        m.settings.autoConnectFilter.matchesDevice device.info.descriptor = true) →
      let n := ((if c then connectByPolicy device else pure () : Act Unit).perform m).2.1
      n = m ∨ (m.settings.autoConnect = true ∧
          m.settings.autoConnectFilter.matchesDevice device.info.descriptor = true) ∧
        n = m.spawn (.idle { key := device.key, policy := some device }) := by
    intro c _ hwants
    by_cases hc : c
    · rw [if_pos hc]
      exact .inr ⟨hwants hc, rfl⟩
    · rw [if_neg hc]
      exact .inl rfl
  refine hite _ fun hc => ?_
  simp only [Bool.and_eq_true] at hc
  exact hc.1

/-- What becomes of a device that is offered. It is connected only if the policy wants it. -/
theorem arrive_after (info : DeviceInfo) (arrival : Arrival) (m : Manager) :
    let n := ((arrive info arrival).perform m).2.1
    n = m ∨ ∃ key, (m.registry.add info arrival).2 = .added key ∧
      (n = { m with registry := (m.registry.add info arrival).1 } ∨
        m.settings.Wants ⟨key, info, arrival⟩ ∧
          n = ({ m with registry := (m.registry.add info arrival).1 } : Manager).spawn
            (.idle { key, policy := some ⟨key, info, arrival⟩ })) := by
  intro n
  rcases arrive_cases info arrival m with ⟨_, hperform⟩ | ⟨key, hadded, hperform⟩
  · exact .inl (congrArg (·.2.1) hperform)
  · refine .inr ⟨key, hadded, ?_⟩
    let added : Manager := { m with registry := (m.registry.add info arrival).1 }
    have hn : n = ((if arrival = .hotplug then autoConnect ⟨key, info, arrival⟩ else pure () :
        Act Unit).perform added).2.1 := congrArg (·.2.1) hperform
    by_cases hhot : arrival = .hotplug
    · rw [if_pos hhot] at hn
      rcases autoConnect_after ⟨key, info, arrival⟩ added with hsame | ⟨⟨henabled, hfilter⟩, hspawn⟩
      · exact .inl (hn.trans hsame)
      · exact .inr ⟨⟨hhot, henabled, hfilter⟩, hn.trans hspawn⟩
    · rw [if_neg hhot] at hn
      exact .inl hn

theorem arrive_adds (hm : TasksSound m.tasks m.nextTask) (info : DeviceInfo) (arrival : Arrival) :
    m.Adds ((arrive info arrival).perform m).2.1 := by
  rcases arrive_after info arrival m with he | ⟨key, _, he | ⟨_, he⟩⟩
  · rw [he]
    exact .refl m
  · rw [he]
    exact adds_of rfl rfl rfl
  · rw [he]
    let added : Manager := { m with registry := (m.registry.add info arrival).1 }
    have hadd : m.Adds added := adds_of rfl rfl rfl
    exact hadd.trans (spawn_adds (m := added) hm _)

theorem arrivals_adds (devices : List DeviceInfo) :
    m.Adds ((Act.each (arrive · .coldplug) devices).perform m).2.1 := by
  induction devices generalizing m with
  | nil => exact .refl m
  | cons info devices ih =>
    rw [Act.each, perform_bind]
    refine Adds.trans ?_ ih
    rcases arrive_after info .coldplug m with he | ⟨key, _, he | ⟨hwants, _⟩⟩
    · rw [he]
      exact .refl m
    · rw [he]
      exact adds_of rfl rfl rfl
    · cases hwants.arrival

theorem enumerated_adds (hm : m.Sound) {devices : List DeviceInfo}
    (hw : m.work? id = some (.enumerating (some (.ok devices)))) :
    m.Adds ((enumerated w id (.ok devices)).perform m).2.1 := by
  have hadds := arrivals_adds (m := m) devices
  have hwork := (arrivals_work? (hm.tasks.lt hw) devices).trans hw
  unfold enumerated
  dsimp only
  rw [perform_bind]
  generalize ((Act.each (arrive · .coldplug) devices).perform m).2.1 = n at hadds hwork ⊢
  have hbusy : ∀ connect, n.work? id ≠ some (.idle connect) := fun connect he => by
    cases hwork.symm.trans he
  refine hadds.trans ?_
  cases w.subscription with
  | error error => exact endCall_adds hbusy (.error (.usb error))
  | ok given =>
    cases given with
    | false => exact endCall_adds hbusy (.ok ())
    | true =>
      let subscribed : Manager := { n.startListening with registration := true }
      have hsame : n.Adds subscribed := adds_of rfl rfl rfl
      exact hsame.trans (endCall_adds (m := subscribed) hbusy (.ok ()))

/-- A device is plugged in. -/
theorem arrived_adds (hm : m.Sound) (hlt : id < m.nextTask) (hnone : m.work? id = none) (info : DeviceInfo) :
    m.Adds ((handleEvent w id (.arrived info)).perform m).2.1 := by
  refine (arrive_adds hm.tasks info .hotplug).trans (endCall_adds (fun connect hw => ?_) (.ok ()))
  rw [arrive_work? hlt, hnone] at hw
  cases hw

theorem redirectOnConnect_adds (hm : TasksSound m.tasks m.nextTask) :
    m.Adds (redirectOnConnect.perform m).2.1 := by
  rcases redirectOnConnect_cases m with he | ⟨_, device, he⟩
  · rw [he]
    exact .refl m
  · rw [he]
    exact spawn_adds hm _

theorem addChannel_adds (hm : m.Sound) (transport : Transport) (withHost : Bool) :
    m.Adds ((addChannel w transport withHost).perform m).2.1 := by
  have hadded : ∀ c : Channel, c.device = none → m.Adds (redirectOnConnect.perform { m with
      nextChannel := m.nextChannel + 1, channels := m.channels ++ [c] }).2.1 := by
    intro c hc
    let added : Manager := { m with nextChannel := m.nextChannel + 1, channels := m.channels ++ [c] }
    have hadd : m.Adds added := by
      refine ⟨fun _ _ => .inl, fun _ _ h => h, fun x hx => ?_⟩
      rcases List.mem_append.mp hx with hx | hx
      · rcases List.mem_append.mp hx with hx | hx
        · exact .inl (List.mem_append_left _ hx)
        · exact .inr (List.mem_singleton.mp hx ▸ hc)
      · exact .inl (List.mem_append_right _ hx)
    exact hadd.trans (redirectOnConnect_adds (m := added) hm.tasks)
  cases withHost with
  | false => exact hadded _ rfl
  | true =>
    rw [addChannel, perform_manager]
    cases w.newHost with
    | error error => exact adds_of rfl rfl rfl
    | ok host => exact hadded _ rfl

/-- In moves that ask for a connect, or bring a device, no connect begins. -/
theorem act_adds (hm : m.Matched) (w : Surroundings) (move : Move)
    (h : move.Allows w m .call ∨ move.Allows w m .arrival) : m.Adds ((move.act w).perform m).2.1 := by
  have hnumber : m.Adds m.takeNumber.1 := adds_of rfl rfl rfl
  have hsound : m.takeNumber.1.Sound := ⟨hm.sound.registry, hm.sound.channels, hm.sound.tasks.later⟩
  have hnone : m.work? m.nextTask = none := hm.sound.tasks.work?_none (Nat.le_refl _)
  cases move with
  | connect key stopped => exact hnumber.trans (setTask_adds { key, stopped } hnone)
  | addChannel transport withHost => exact addChannel_adds hm.sound transport withHost
  | handle event =>
    cases event with
    | arrived info => exact hnumber.trans (arrived_adds (w := w) hsound (Nat.lt_succ_self _) hnone info)
    | left | dataPending | deviceFailed => exact absurd h (fun h => h.elim id id)
  | nextEvent =>
    obtain ⟨info, hevent⟩ : ∃ info, m.queue.take?.2 = some (.arrived info) := h.elim id id
    change m.Adds ((nextEvent w).perform m).2.1
    rw [nextEvent, perform_manager]
    split
    · generalize m.queue.take? = taken at hevent
      obtain ⟨queue, event⟩ := taken
      cases hevent
      let next : Manager := { m.takeNumber.1 with queue, loop := .handling m.nextTask }
      have hnext : m.Adds next := adds_of rfl rfl rfl
      have hs : next.Sound := ⟨hsound.registry, hsound.channels, hsound.tasks⟩
      exact hnext.trans (arrived_adds (w := w) (m := next) hs (Nat.lt_succ_self _) hnone info)
    · exact .refl m
  | resume id =>
    obtain ⟨devices, hw⟩ : ∃ devices, m.work? id = some (.enumerating (some (.ok devices))) :=
      h.resolve_left (fun h => h)
    change m.Adds ((resume w id).perform m).2.1
    rw [resume, perform_manager, hw]
    exact enumerated_adds hm.sound hw
  | _ => exact absurd h (fun h => h.elim id id)

/-! ## What has a device has begun with it -/

theorem Deed.has (h : Deed drivers kind m outputs n) (hm : m.Sound) (hd : n.Has device) :
    m.Has device ∨ ∃ id connect work, m.work? id = some (.idle connect) ∧
      m.registry.find? connect.key = some device ∧ n.work? id = some work ∧
        work.device? = some device := by
  rcases hd with ⟨id, work, hw, hdev⟩ | ⟨c, hc, hdev⟩
  · rcases h.assigned hw with hold | ha | ⟨info, rfl⟩ | rfl | ⟨connect, other, channel, rfl, hold⟩
    · exact .inl (.inl ⟨id, work, hold, hdev⟩)
    · generalize hold : m.work? id = old at ha
      cases ha with
      | begun hfind =>
        cases hdev
        exact .inr ⟨id, _, _, hold, hfind, hw, rfl⟩
      | installed => exact .inl (.inl ⟨id, _, hold, hdev⟩)
      | called | recalled | removing | cleaning | uninstalled | enumerated => cases hdev
    · cases hdev
    · cases hdev
    · exact .inl (.inl ⟨id, _, hold, hdev⟩)
  · rcases h.engages hm hc hdev with ⟨c, hc, hdev⟩ | ⟨id, connect, outcome, hw⟩
    · exact .inl (.inr ⟨c, hc, hdev⟩)
    · exact .inl (.inl ⟨id, _, hw, rfl⟩)

/-- What is registered after a deed was registered before, unless it has come. -/
theorem Deed.find?_before (h : Deed drivers kind m outputs n) (hm : m.Sound) (hk : kind ≠ .arrival)
    {key : DeviceKey} (hf : n.registry.find? key = some device) : m.registry.find? key = some device := by
  rcases h.registry with he | ⟨hkind, _⟩ | ⟨other, he⟩
  · rwa [he] at hf
  · exact absurd hkind hk
  · exact hm.registry.find?_of_remove (he ▸ hf)

theorem Deeds.find?_before (h : Deeds drivers allowed m outputs n) (hm : m.Matched)
    (harrival : ¬allowed .arrival) {key : DeviceKey} (hf : n.registry.find? key = some device) :
    m.registry.find? key = some device := by
  induction h with
  | refl => exact hf
  | @head _ _ _ kind _ _ hkind d _ ih =>
    have hk : kind ≠ .arrival := by
      rintro rfl
      exact hkind.elim nofun harrival
    exact d.find?_before hm.sound hk (ih (d.matched hm) hf)

theorem Deeds.has (h : Deeds drivers allowed m outputs n) (hm : m.Matched) (hcall : ¬allowed .call)
    (harrival : ¬allowed .arrival) (hd : n.Has device) : m.Has device ∨ m.Takes n device := by
  induction h with
  | refl => exact .inl hd
  | @head m p n kind _ _ hkind d rest ih =>
    have hk : kind ≠ .call := by
      rintro rfl
      exact hkind.elim nofun hcall
    have hk' : kind ≠ .arrival := by
      rintro rfl
      exact hkind.elim nofun harrival
    rcases ih (d.matched hm) hd with hp | ⟨hf, id, connect, hw, hkey, hn⟩
    · rcases d.has hm.sound hp with hm | ⟨id, connect, work, hw, hf, hp, hdev⟩
      · exact .inl hm
      · -- The connect has begun, and does not wait again.
        have hkey := Registry.key_of_find? hf
        refine .inr ⟨hkey ▸ hf, id, connect, hw, hkey.symm, fun other hn => ?_⟩
        obtain ⟨_, hidle, _⟩ := rest.idles hcall hn
        cases hp.symm.trans hidle
        cases hdev
    · obtain ⟨other, hother, hsame⟩ := d.idles hk hw
      exact .inr ⟨d.find?_before hm.sound hk' hf, id, other, hother, hsame.trans hkey, hn⟩

theorem turn_has (hm : m.Matched) (t : Turn) (hd : (m.turn drivers t).1.Has device) :
    m.Has device ∨ m.Takes (m.turn drivers t).1 device := by
  by_cases h : t.move.Allows (t.surroundings drivers) m .call ∨
      t.move.Allows (t.surroundings drivers) m .arrival
  · exact .inl ((act_adds hm (t.surroundings drivers) t.move h).has hd)
  · obtain ⟨hcall, harrival⟩ := not_or.mp h
    exact (turn_deeds hm drivers t).has hm hcall harrival hd

/-! ## What is registered has come -/

theorem Change.find?_kept {b : Bool} (c : Change b m outputs n) {key : DeviceKey}
    (h : m.registry.find? key = some device) : n.registry.find? key = some device := by
  cases c with
  | aside e => rwa [e.registry]
  | worked | begun | installed => rwa [setTask_registry]
  | bound => exact (setTask_registry ..).symm ▸ h
  | registered => exact Registry.find?_add_of_some h
  | told | numbered | dropped | moved | added | skipped | removed => exact h

theorem Changes.find?_kept {b : Bool} (c : Changes b m outputs n) {key : DeviceKey}
    (h : m.registry.find? key = some device) : n.registry.find? key = some device := by
  induction c with
  | refl => exact h
  | head c _ ih => exact ih (c.find?_kept h)

/-- A device that is registered after a turn was registered before it, or has come. -/
theorem turn_find? (hm : m.Sound) (t : Turn) {key : DeviceKey}
    (h : (m.turn drivers t).1.registry.find? key = some device) :
    m.registry.find? key = some device ∨ m.registry.find? key = none := by
  cases hold : m.registry.find? key with
  | none => exact .inr rfl
  | some old =>
    have turned := turn_turned m drivers t
    generalize (m.turn drivers t).1 = n, (m.turn drivers t).2 = told at turned h
    cases turned with
    | goes c => exact .inl ((c.find?_kept hold).symm.trans h)
    | departs c _ c' =>
      rw [c'.registry, c.registry] at h
      exact .inl (hold.symm.trans (hm.registry.find?_of_remove h))

/-! ## Runs -/

/-- While the device stays registered, a connect begins in the turns that has waited under its key. -/
def Begins (m : Manager) (drivers : Bool) (device : RegisteredDevice) (turns : List Turn) : Prop :=
  ∃ first t others, turns = first ++ t :: others ∧
    m.Along (·.registry.find? device.key = some device) drivers first ∧
    (m.run drivers first).Takes ((m.run drivers first).turn drivers t).1 device

theorem Takes.begins {t : Turn} (h : m.Takes (m.turn drivers t).1 device) (others : List Turn) :
    m.Begins drivers device (t :: others) := ⟨[], t, others, rfl, h.registered, h⟩

theorem Begins.append {turns : List Turn} (h : m.Begins drivers device turns) (more : List Turn) :
    m.Begins drivers device (turns ++ more) := by
  obtain ⟨first, t, others, rfl, halong, htakes⟩ := h
  exact ⟨first, t, others ++ more, by simp, halong, htakes⟩

theorem run_split (m : Manager) (drivers : Bool) (before : List Turn) (t : Turn) (later : List Turn) :
    m.run drivers (before ++ t :: later) =
      ((m.run drivers before).turn drivers t).1.run drivers later := run_append ..

/-- A registered device came in some turn of the run, and has been registered since. -/
theorem run_stands (hm : m.Matched) (hnone : ∀ key, m.registry.find? key = none) (turns : List Turn)
    (h : (m.run drivers turns).registry.find? device.key = some device) :
    ∃ before t kept, turns = before ++ t :: kept ∧
      (m.run drivers before).Comes ((m.run drivers before).turn drivers t).1 device ∧
      ((m.run drivers before).turn drivers t).1.Along (·.registry.find? device.key = some device)
        drivers kept := by
  -- on the end of the run, since the device has to stand after every turn that is left out
  induction turns using List.reverseRecOn with
  | nil => cases (hnone _).symm.trans h
  | append_singleton turns t ih =>
    rw [run_split] at h
    rcases turn_find? (run_matched hm drivers turns).sound t h with hold | hold
    · obtain ⟨before, first, kept, rfl, hcomes, halong⟩ := ih hold
      refine ⟨before, first, kept ++ [t], by simp, hcomes, halong.append ⟨halong.last, ?_⟩⟩
      rwa [run_split] at h
    · exact ⟨turns, t, [], rfl, ⟨hold, h⟩, h⟩

/-- A device that a connect has begun with, or that is bound to a channel, came in some turn of the run, and
then a connect has begun that waited under its key. -/
theorem run_begins (hm : m.Matched) (hnone : ∀ key, m.registry.find? key = none) (hhas : ¬m.Has device)
    (turns : List Turn) (h : (m.run drivers turns).Has device) :
    ∃ before t later, turns = before ++ t :: later ∧
      (m.run drivers before).Comes ((m.run drivers before).turn drivers t).1 device ∧
      ((m.run drivers before).turn drivers t).1.Begins drivers device later := by
  induction turns using List.reverseRecOn with
  | nil => exact absurd h hhas
  | append_singleton turns t ih =>
    rw [run_split] at h
    rcases turn_has (run_matched hm drivers turns) t h with hold | htakes
    · obtain ⟨before, first, later, rfl, hcomes, hbegins⟩ := ih hold
      exact ⟨before, first, later ++ [t], by simp, hcomes, hbegins.append [t]⟩
    · obtain ⟨before, first, kept, rfl, hcomes, halong⟩ := run_stands hm hnone turns htakes.registered
      rw [run_split] at htakes
      exact ⟨before, first, kept ++ [t], by simp, hcomes, kept, t, [], rfl, halong, htakes⟩

end Manager
end RemoteUsb
