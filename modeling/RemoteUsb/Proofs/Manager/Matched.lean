import RemoteUsb.Proofs.Manager.Deed

/-! Tasks and attempts. In every manager between two turns, the tasks that connect a device on a channel
are exactly the calls that go on there. -/

namespace RemoteUsb.Manager

/-- A task connects a device on a channel. -/
def Connects (m : Manager) (id : Nat) (device : RegisteredDevice) (channel : Nat) : Prop :=
  ∃ connect, m.work? id = some (.connecting connect device channel)

/-- A channel has an attempt of a call to connect a device. -/
def Pends (m : Manager) (id : Nat) (device : RegisteredDevice) (channel : Nat) : Prop :=
  ∃ c ∈ m.channels ++ m.retired, c.id = channel ∧ (id, device) ∈ c.calls

structure Matched (m : Manager) : Prop where
  sound : m.Sound
  agree : ∀ id device channel, m.Connects id device channel ↔ m.Pends id device channel

variable {drivers : Bool} {kind : Kind} {m n : Manager} {outputs : List Output}
  {id : Nat} {device : RegisteredDevice} {channel : Nat}

/-! ## Tasks -/

theorem work?_dropTask (m : Manager) (id other : Nat) :
    (m.dropTask id).work? other = if other = id then none else m.work? other := by
  unfold work? task? dropTask
  by_cases h : other = id
  · subst h
    rw [if_pos rfl, Option.map_eq_none_iff, List.find?_eq_none]
    intro t ht
    simpa using (List.mem_filter.mp ht).2
  · rw [if_neg h, List.find?_filter]
    congr 2
    funext t
    by_cases ht : t.id = other
    · subst ht
      simp [h]
    · simp [ht]

theorem work?_putTask (m : Manager) (id : Nat) (work : Option Work) (other : Nat) :
    (m.putTask id work).work? other = if other = id then work else m.work? other := by
  cases work with
  | none => exact work?_dropTask m id other
  | some work => exact work?_setTask m id work other

@[simp] theorem putTask_registry (m : Manager) (id : Nat) (work : Option Work) :
    (m.putTask id work).registry = m.registry := by
  cases work with
  | none => rfl
  | some work => exact setTask_registry m id work

@[simp] theorem putTask_channels (m : Manager) (id : Nat) (work : Option Work) :
    (m.putTask id work).channels = m.channels := by
  cases work with
  | none => rfl
  | some work => exact setTask_channels m id work

@[simp] theorem putTask_retired (m : Manager) (id : Nat) (work : Option Work) :
    (m.putTask id work).retired = m.retired := by
  cases work with
  | none => rfl
  | some work => exact setTask_retired m id work

theorem work?_spawn (m : Manager) (work : Work) (other : Nat) :
    (m.spawn work).work? other = if other = m.nextTask then some work else m.work? other :=
  work?_setTask ..

theorem work?_of_tasks (h : n.tasks = m.tasks) (id : Nat) : n.work? id = m.work? id := by
  rw [work?, work?, task?, task?, h]

/-- A number that was not given out yet has no task. -/
theorem TasksSound.work?_none (h : TasksSound m.tasks m.nextTask) (hid : m.nextTask ≤ id) :
    m.work? id = none := by
  cases hw : m.work? id with
  | none => rfl
  | some work =>
    have hlt : id < m.nextTask := h.numbers _ (mem_tasks_of_work? hw)
    omega

theorem TasksSound.lt (h : TasksSound m.tasks m.nextTask) {work : Work}
    (hw : m.work? id = some work) : id < m.nextTask := h.numbers _ (mem_tasks_of_work? hw)

theorem Advance.apart {old new : Option Work} (h : m.Advance drivers id kind old new outputs) :
    (∀ connect device channel, old ≠ some (.connecting connect device channel)) ∧
      ∀ connect device channel, new ≠ some (.connecting connect device channel) := by
  cases h with
  | closed hloose =>
    refine ⟨fun connect device channel he => ?_, fun _ _ _ he => by cases he⟩
    cases hloose _ he
  | called | recalled | begun | installed | spared | lost | forgotten | removing | cleaning
  | uninstalled | enumerated =>
    constructor <;> intro _ _ _ he <;> cases he

theorem Advance.knows {work : Option Work} (h : m.Advance drivers id kind (m.work? id) work outputs)
    (hw : work ≠ none) : m.Knows id := by
  generalize hold : m.work? id = old at h
  cases h with
  | called connect hid => exact .inl hid
  | cleaning cleanup outcome hid => exact .inl hid
  | spared | lost | forgotten | closed => exact absurd rfl hw
  | recalled | begun | installed | removing | uninstalled | enumerated =>
    exact .inr (by rw [hold]; exact nofun)

/-! ## Channels -/

theorem map_put_of_ne {channel : Channel} {channels : List Channel}
    (h : ∀ c ∈ channels, c.id ≠ channel.id) : channels.map (put channel) = channels := by
  refine (List.map_congr_left fun c hc => ?_).trans (List.map_id _)
  exact if_neg (h c hc)

theorem mem_put {channels retired : List Channel} {old channel : Channel}
    (hold : old ∈ channels ++ retired) (hid : channel.id = old.id) {c : Channel} :
    c ∈ channels.map (Manager.put channel) ++ retired.map (Manager.put channel) ↔
      c = channel ∨ (c ∈ channels ++ retired ∧ c.id ≠ old.id) := by
  rw [← List.map_append]
  constructor
  · intro hc
    rcases mem_map_put hc with ⟨rfl, _⟩ | ⟨hc, hne⟩
    · exact .inl rfl
    · exact .inr ⟨hc, hid ▸ hne⟩
  · rintro (rfl | ⟨hc, hne⟩)
    · exact List.mem_map.mpr ⟨old, hold, if_pos hid.symm⟩
    · exact List.mem_map.mpr ⟨c, hc, if_neg (hid ▸ hne)⟩

/-- A channel of a list that was put is the one that was there under its number. -/
theorem Sound.of_mem_put (h : m.Sound) {c d x : Channel} {l : List Channel}
    (hl : l ⊆ m.channels ++ m.retired) (hc : c ∈ m.channels ++ m.retired) (hid : d.id = c.id)
    (hx : x ∈ l.map (put d)) : (x = d ∧ c ∈ l) ∨ x ∈ l := by
  rcases mem_map_put hx with ⟨rfl, old, hold, he⟩ | ⟨hx, _⟩
  · obtain rfl := h.channels.eq (hl hold) hc (he.trans hid)
    exact .inl ⟨rfl, hold⟩
  · exact .inr hx

theorem Sound.mem_setChannel (h : m.Sound) {c d x : Channel} (hc : c ∈ m.channels ++ m.retired)
    (hid : d.id = c.id) (hx : x ∈ (m.setChannel d).channels) : (x = d ∧ c ∈ m.channels) ∨ x ∈ m.channels :=
  h.of_mem_put (List.subset_append_left ..) hc hid hx

theorem Sound.mem_setChannel_retired (h : m.Sound) {c d x : Channel} (hc : c ∈ m.channels ++ m.retired)
    (hid : d.id = c.id) (hx : x ∈ (m.setChannel d).retired) : (x = d ∧ c ∈ m.retired) ∨ x ∈ m.retired :=
  h.of_mem_put (List.subset_append_right ..) hc hid hx

/-- A removed channel is not in the set. -/
theorem Sound.retired_ne (h : m.Sound) {c d : Channel} (hc : c ∈ m.channels) (hd : d ∈ m.retired) :
    d.id ≠ c.id := by
  have hids := h.channels.ids
  rw [List.map_append, List.nodup_append] at hids
  exact fun e => hids.2.2 _ (List.mem_map_of_mem hc) _ (List.mem_map_of_mem hd) e.symm

theorem Sound.removed (h : m.Sound) {c d : Channel} (hc : c ∈ m.channels) (hid : d.id = c.id)
    (hd : d.Sound) :
    ChannelsSound (m.channels.filter (·.id != c.id)) (m.retired ++ [d]) m.nextChannel := by
  have hremove := h.channels.remove hc
  have hmem : c ∈ m.channels.filter (·.id != c.id) ++ (m.retired ++ [c]) := by simp
  have hput := hremove.put hmem hid hd (fun hin => by simp at hin)
  rw [map_put_of_ne, List.map_append, map_put_of_ne, List.map_singleton,
    show put d c = d from if_pos hid.symm] at hput
  · exact hput
  · exact fun x hx => hid ▸ h.retired_ne hc hx
  · intro x hx
    rw [hid]
    simpa using (List.mem_filter.mp hx).2

/-! ## What deeds keep -/

theorem Deed.sound (h : Deed drivers kind m outputs n) (hm : m.Sound) : n.Sound := by
  cases h with
  | still e =>
    refine ⟨e.registry ▸ hm.registry, ?_, ?_⟩
    · rw [e.channels, e.retired, e.nextChannel]
      exact hm.channels
    · rw [e.tasks]
      exact ⟨hm.tasks.ids, fun t ht => Nat.lt_of_lt_of_le (hm.tasks.numbers t ht) e.nextTask⟩
  | told | unsubscribed => exact ⟨hm.registry, hm.channels, hm.tasks⟩
  | @task _ _ id work _ h =>
    cases work with
    | none => exact ⟨hm.registry, hm.channels, hm.tasks.filter _⟩
    | some work => exact hm.set (h.knows nofun) work
  | spawned info =>
    have hnumber : m.takeNumber.1.Sound := ⟨hm.registry, hm.channels, hm.tasks.later⟩
    exact hnumber.set (.inl (Nat.lt_succ_self _)) _
  | begun id hid =>
    have hset := hm.set (.inl hid) (.enumerating none)
    exact ⟨hset.registry, hset.channels, hset.tasks⟩
  | subscribed id => exact ⟨hm.registry, hm.channels, hm.tasks.filter _⟩
  | bound call entry stopped hw hfree hfind =>
    have hstart : m.startListening.Sound := ⟨hm.registry, hm.channels, hm.tasks⟩
    refine (hstart.set (knows_of_work? hw) _).bound ?_ ?_ entry stopped
    · rw [setTask_channels]
      exact List.mem_of_find?_eq_some hfind
    · rw [isConnected, channelFor?, setTask_channels]
      exact hfree
  | barred call entry stopped hfree hfind =>
    exact hm.bound (List.mem_of_find?_eq_some hfind) hfree entry stopped
  | moved now move hc hmove => exact hm.moved hc now hmove
  | connected now move hc hmove =>
    have h := hm.moved hc now hmove
    exact ⟨h.registry, h.channels, h.tasks.filter _⟩
  | failed now move hc hmove =>
    have h := hm.moved hc now hmove
    exact ⟨h.registry, h.channels, h.tasks.filter _⟩
  | released now move hc hmove =>
    have h := hm.moved (List.mem_append_left _ hc) now hmove
    exact ⟨h.registry, h.channels, h.tasks⟩
  | added transport host hh =>
    exact ⟨hm.registry, hm.channels.add rfl ⟨rfl, rfl, hh, rfl, rfl, rfl⟩, hm.tasks⟩
  | skipped => exact ⟨hm.registry, hm.channels.later, hm.tasks⟩
  | @removed _ channel hc =>
    have hs := hm.channels.sound channel (List.mem_append_left _ hc)
    exact ⟨hm.registry, hm.removed hc (Channel.step_id hs 0 .disconnect)
      (Channel.step_sound hs 0 .disconnect), hm.tasks⟩
  | registered arrival ha => exact ⟨hm.registry.add ha, hm.channels, hm.tasks⟩
  | departed key => exact ⟨hm.registry.remove key, hm.channels, hm.tasks⟩

/-- A channel has taken the place of another one, in the set or out of it. -/
def Swaps (m n : Manager) (c d : Channel) : Prop :=
  ∀ x, x ∈ n.channels ++ n.retired ↔ x = d ∨ (x ∈ m.channels ++ m.retired ∧ x.id ≠ c.id)

theorem swaps_setChannel {c d : Channel} (hc : c ∈ m.channels ++ m.retired) (hid : d.id = c.id) :
    m.Swaps (m.setChannel d) c d := fun _ => mem_put hc hid

theorem Sound.swaps_removed (h : m.Sound) {c d : Channel} (hc : c ∈ m.channels)
    (hch : n.channels = m.channels.filter (·.id != c.id)) (hr : n.retired = m.retired ++ [d]) :
    m.Swaps n c d := by
  intro x
  rw [hch, hr]
  simp only [List.mem_append, List.mem_filter, List.mem_singleton, bne_iff_ne]
  constructor
  · rintro (⟨hx, hne⟩ | hx | hx)
    · exact .inr ⟨.inl hx, hne⟩
    · exact .inr ⟨.inr hx, h.retired_ne hc hx⟩
    · exact .inl hx
  · rintro (hx | ⟨hx | hx, hne⟩)
    · exact .inr (.inr hx)
    · exact .inl ⟨hx, hne⟩
    · exact .inr (.inl hx)

theorem pends_of (hc : n.channels = m.channels) (hr : n.retired = m.retired) :
    n.Pends id device channel ↔ m.Pends id device channel := by rw [Pends, Pends, hc, hr]

theorem Sound.pends_here (h : m.Sound) {c : Channel} (hc : c ∈ m.channels ++ m.retired) :
    m.Pends id device c.id ↔ (id, device) ∈ c.calls := by
  constructor
  · rintro ⟨x, hx, hid, hcall⟩
    exact h.channels.eq hx hc hid ▸ hcall
  · exact fun hcall => ⟨c, hc, rfl, hcall⟩

theorem Swaps.pends {c d : Channel} (h : m.Swaps n c d) (hid : d.id = c.id) :
    n.Pends id device channel ↔
      (channel = c.id ∧ (id, device) ∈ d.calls) ∨ (channel ≠ c.id ∧ m.Pends id device channel) := by
  constructor
  · rintro ⟨x, hx, rfl, hcall⟩
    rcases (h x).mp hx with rfl | ⟨hx, hne⟩
    · exact .inl ⟨hid, hcall⟩
    · exact .inr ⟨hne, x, hx, rfl, hcall⟩
  · rintro (⟨rfl, hcall⟩ | ⟨hne, x, hx, rfl, hcall⟩)
    · exact ⟨d, (h d).mpr (.inl rfl), hid, hcall⟩
    · exact ⟨x, (h x).mpr (.inr ⟨hx, hne⟩), rfl, hcall⟩

/-- The calls on a channel stay. -/
theorem Matched.swap (hm : m.Matched) {c d : Channel} (hc : c ∈ m.channels ++ m.retired)
    (h : m.Swaps n c d) (hid : d.id = c.id) (hcalls : d.calls = c.calls)
    (hw : ∀ id, n.work? id = m.work? id) (id : Nat) (device : RegisteredDevice) (channel : Nat) :
    n.Connects id device channel ↔ n.Pends id device channel := by
  rw [Connects, hw, ← Connects, hm.agree, h.pends hid, hcalls]
  by_cases he : channel = c.id
  · subst he
    rw [hm.sound.pends_here hc]
    simp
  · simp [he]

/-- The call on a channel comes to its end. -/
theorem Matched.ended (hm : m.Matched) {c d : Channel} {a : Attempt} {connect : Connect}
    (hc : c ∈ m.channels ++ m.retired) (h : m.Swaps n c d) (hid : d.id = c.id) (hcalls : d.calls = [])
    (hp : c.Pending a) (hwork : m.work? a.call = some (.connecting connect a.device c.id))
    (hw : ∀ id, n.work? id = if id = a.call then none else m.work? id) (id : Nat)
    (device : RegisteredDevice) (channel : Nat) :
    n.Connects id device channel ↔ n.Pends id device channel := by
  have hn : n.Connects id device channel ↔ id ≠ a.call ∧ m.Connects id device channel := by
    rw [Connects, hw]
    by_cases he : id = a.call
    · simp [he]
    · simp [he, Connects]
  have hpends : n.Pends id device channel ↔ channel ≠ c.id ∧ m.Pends id device channel := by
    rw [h.pends hid, hcalls]
    simp
  rw [hn, hpends, hm.agree]
  refine ⟨fun ⟨hne, hpend⟩ => ⟨?_, hpend⟩, fun ⟨hne, hpend⟩ => ⟨?_, hpend⟩⟩
  · rintro rfl
    rw [hm.sound.pends_here hc, hp.calls, List.mem_singleton] at hpend
    exact hne (congrArg Prod.fst hpend)
  · rintro rfl
    obtain ⟨_, hother⟩ := (hm.agree ..).mpr hpend
    cases hwork.symm.trans hother
    exact hne rfl

/-- What a task is to do after a deed, it was to do before, or it advances to it, or it has begun with it,
or it connects the device on a channel whose driver it waited for. -/
theorem Deed.assigned (h : Deed drivers kind m outputs n) {work : Work} (hw : n.work? id = some work) :
    m.work? id = some work ∨ m.Advance drivers id kind (m.work? id) (some work) outputs ∨
      (∃ info, work = .tidying info) ∨ work = .enumerating none ∨
      ∃ connect device channel, work = .connecting connect device channel ∧
        m.work? id = some (.installing connect device (some (.ok ()))) := by
  have put : ∀ {task : Nat} {new : Option Work},
      n.work? id = (if id = task then new else m.work? id) → (id = task ∧ new = some work) ∨
        m.work? id = some work := by
    intro task new hn
    rw [hn] at hw
    split at hw
    · exact .inl ⟨‹_›, hw⟩
    · exact .inr hw
  cases h with
  | still e => exact .inl ((work?_of_tasks e.tasks id).symm.trans hw)
  | told | unsubscribed | barred | moved | released | added | skipped | removed | registered
  | departed => exact .inl hw
  | @task _ _ task new outputs ha =>
    rcases put (work?_putTask m task new id) with ⟨rfl, rfl⟩ | hw
    · exact .inr (.inl ha)
    · exact .inl hw
  | spawned info =>
    rcases put (work?_spawn m (.tidying info) id) with ⟨_, he⟩ | hw
    · exact .inr (.inr (.inl ⟨info, (Option.some.inj he).symm⟩))
    · exact .inl hw
  | begun task =>
    rcases put (work?_setTask m task (.enumerating none) id) with ⟨_, he⟩ | hw
    · exact .inr (.inr (.inr (.inl (Option.some.inj he).symm)))
    · exact .inl hw
  | subscribed | connected | failed =>
    rcases put (work?_dropTask _ _ id) with ⟨_, he⟩ | hw
    · cases he
    · exact .inl hw
  | @bound _ call connect device c a entry stopped hinstalling =>
    rcases put (work?_setTask m.startListening call (.connecting connect device c.id) id) with
      ⟨rfl, he⟩ | hw
    · exact .inr (.inr (.inr (.inr ⟨connect, device, c.id, (Option.some.inj he).symm, hinstalling⟩)))
    · exact .inl hw

theorem Advance.agree {work : Option Work} (h : m.Advance drivers id kind (m.work? id) work outputs)
    (hm : m.Matched) (other : Nat) (device : RegisteredDevice) (channel : Nat) :
    (m.putTask id work).Connects other device channel ↔ (m.putTask id work).Pends other device channel := by
  have hpends : (m.putTask id work).Pends other device channel ↔ m.Pends other device channel := by
    cases work with
    | none => exact Iff.rfl
    | some work => exact pends_of (setTask_channels ..) (setTask_retired ..)
  rw [hpends, ← hm.agree, Connects, Connects, work?_putTask]
  by_cases he : other = id
  · subst he
    rw [if_pos rfl]
    exact iff_of_false (fun ⟨_, h'⟩ => h.apart.2 _ _ _ h') fun ⟨_, h'⟩ => h.apart.1 _ _ _ h'
  · rw [if_neg he]

theorem Matched.setTask (hm : m.Matched) {task : Nat} {work : Work}
    (hold : ∀ connect device channel, m.work? task ≠ some (.connecting connect device channel))
    (hnew : ∀ connect device channel, work ≠ .connecting connect device channel) (id : Nat)
    (device : RegisteredDevice) (channel : Nat) :
    (m.setTask task work).Connects id device channel ↔ (m.setTask task work).Pends id device channel := by
  rw [pends_of (setTask_channels ..) (setTask_retired ..), ← hm.agree, Connects, Connects, work?_setTask]
  by_cases he : id = task
  · subst he
    rw [if_pos rfl]
    exact iff_of_false (fun ⟨_, h⟩ => hnew _ _ _ (Option.some.inj h)) fun ⟨_, h⟩ => hold _ _ _ h
  · rw [if_neg he]

theorem Deed.matched (h : Deed drivers kind m outputs n) (hm : m.Matched) : n.Matched := by
  refine ⟨h.sound hm.sound, ?_⟩
  cases h with
  | still e =>
    intro id device channel
    rw [Connects, work?_of_tasks e.tasks, ← Connects, hm.agree, pends_of e.channels e.retired]
  | told | unsubscribed | skipped | registered | departed => exact hm.agree
  | task id h => exact h.agree hm
  | spawned info =>
    have hnone : m.work? m.nextTask = none := hm.sound.tasks.work?_none (Nat.le_refl _)
    have hnumber : m.takeNumber.1.Matched :=
      ⟨⟨hm.sound.registry, hm.sound.channels, hm.sound.tasks.later⟩, hm.agree⟩
    exact hnumber.setTask (fun _ _ _ he => by cases hnone.symm.trans he) fun _ _ _ he => by cases he
  | begun id _ hnone =>
    exact hm.setTask (fun _ _ _ he => by cases hnone.symm.trans he) fun _ _ _ he => by cases he
  | subscribed id hw =>
    have h : m.Advance drivers id .plain (m.work? id) none [] :=
      .closed fun w he => by
        cases hw.symm.trans he
        rfl
    exact h.agree hm
  | @bound _ call connect device c a entry stopped hw hfree hfind hp hcall hdevice =>
    have hc : c ∈ m.channels := List.mem_of_find?_eq_some hfind
    have hidle := (hm.sound.channels.sound c (List.mem_append_left _ hc)).idle_of_isFree
      (List.find?_some hfind)
    let set := m.startListening.setTask call (.connecting connect device c.id)
    have hin : c ∈ set.channels ++ set.retired := by
      rw [setTask_channels, setTask_retired]
      exact List.mem_append_left _ hc
    have hset : ∀ id device channel, set.Pends id device channel ↔ m.Pends id device channel :=
      fun _ _ _ => pends_of (setTask_channels ..) (setTask_retired ..)
    intro id other channel
    have hwork : (set.setChannel (c.connect call device entry stopped).1).work? id =
        if id = call then some (.connecting connect device c.id) else m.work? id := work?_setTask ..
    rw [Connects, hwork, (swaps_setChannel hin (Channel.connect_id ..)).pends (Channel.connect_id ..),
      hp.calls, hcall, hdevice, hset]
    by_cases he : channel = c.id
    · have hempty : ¬m.Connects id other c.id := by
        rw [hm.agree, hm.sound.pends_here (List.mem_append_left _ hc), hidle.calls]
        exact List.not_mem_nil
      subst he
      by_cases hid : id = call
      · simp [hid, eq_comm]
      · simpa [hid, Connects] using hempty
    · rw [← hm.agree, Connects]
      by_cases hid : id = call
      · subst hid
        simp [he, hw, Ne.symm he]
      · simp [hid, he]
  | @barred _ call device c entry stopped hfree hfind hidle hd =>
    have hin := List.mem_append_left m.retired (List.mem_of_find?_eq_some hfind)
    exact hm.swap hin (swaps_setChannel hin (Channel.connect_id ..)) (Channel.connect_id ..)
      (hd.calls.trans hidle.calls.symm) fun _ => rfl
  | moved now move hc hmove _ hsteady =>
    exact hm.swap hc (swaps_setChannel hc hsteady.id) hsteady.id hsteady.calls fun _ => rfl
  | connected now move hc hmove hp hh hold hw =>
    have hid := Channel.step_id (hm.sound.channels.sound _ hc) now move
    exact hm.ended hc (swaps_setChannel hc hid) hid hold.calls hp hw (work?_dropTask _ _)
  | failed now move hc hmove hp hidle hw =>
    have hid := Channel.step_id (hm.sound.channels.sound _ hc) now move
    exact hm.ended hc (swaps_setChannel hc hid) hid hidle.calls hp hw (work?_dropTask _ _)
  | released now move hc hmove hold hidle =>
    have hin := List.mem_append_left m.retired hc
    have hid := Channel.step_id (hm.sound.channels.sound _ hin) now move
    exact hm.swap hin (swaps_setChannel hin hid) hid (hidle.calls.trans hold.calls.symm) fun _ => rfl
  | added transport host hh =>
    intro id device channel
    refine (hm.agree id device channel).trans ⟨?_, ?_⟩
    · rintro ⟨c, hc, hid, hcall⟩
      refine ⟨c, ?_, hid, hcall⟩
      rcases List.mem_append.mp hc with hc | hc
      · exact List.mem_append_left _ (List.mem_append_left _ hc)
      · exact List.mem_append_right _ hc
    · rintro ⟨c, hc, hid, hcall⟩
      rcases List.mem_append.mp hc with hc | hc
      · rcases List.mem_append.mp hc with hc | hc
        · exact ⟨c, List.mem_append_left _ hc, hid, hcall⟩
        · rw [List.mem_singleton.mp hc] at hcall
          cases hcall
      · exact ⟨c, List.mem_append_right _ hc, hid, hcall⟩
  | @removed _ c hc hstate =>
    have hs := hm.sound.channels.sound c (List.mem_append_left _ hc)
    have hid := Channel.step_id hs 0 .disconnect
    have hcalls : c.disconnect.1.calls = c.calls := by
      generalize hreleased : c.disconnect.2.2 = released
      have hfreed := Channel.disconnect_freed hs
      rw [hreleased] at hfreed
      cases hfreed with
      | steady h => exact h.calls
      | released h => exact absurd h.state hstate
    exact hm.swap (List.mem_append_left _ hc) (hm.sound.swaps_removed hc rfl rfl) hid hcalls
      fun _ => rfl

variable {allowed : Kind → Prop}

theorem Deeds.matched (h : Deeds drivers allowed m outputs n) (hm : m.Matched) : n.Matched := by
  induction h with
  | refl => exact hm
  | head _ d _ ih => exact ih (d.matched hm)

/-- What each deed keeps, a row of deeds keeps. -/
theorem Deeds.keeps {P : Manager → Prop} (h : Deeds drivers allowed m outputs n) (hm : m.Matched)
    (hkeep : ∀ {kind : Kind} {m n : Manager} {outputs : List Output}, kind = .plain ∨ allowed kind →
      Deed drivers kind m outputs n → m.Matched → P m → P n) (hp : P m) : P n := by
  induction h with
  | refl => exact hp
  | head hkind d _ ih => exact ih (d.matched hm) (hkeep hkind d hm hp)

theorem new_matched (addressing : Addressing) (settings : Settings) :
    (new addressing settings).Matched where
  sound := new_sound addressing settings
  agree _ _ _ := iff_of_false (fun ⟨_, h⟩ => by cases h) fun ⟨_, h, _⟩ => by cases h

end RemoteUsb.Manager
