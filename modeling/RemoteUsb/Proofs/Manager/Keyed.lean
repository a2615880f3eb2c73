import RemoteUsb.Proofs.Manager.Deeds

/-! Every device that a manager has to do with, in the registry, in a task or on a channel, is under the
key that the device has under the manager's addressing. -/

namespace RemoteUsb

/-- The device is under the key that it has under an addressing. -/
def RegisteredDevice.Own (addressing : Addressing) (d : RegisteredDevice) : Prop :=
  d.key = d.info.key addressing

def Work.device? : Work → Option RegisteredDevice
  | .installing _ device _ | .connecting _ device _ => some device
  | _ => none

namespace Manager

structure Keyed (addressing : Addressing) (m : Manager) : Prop where
  addressed : m.registry.addressing = addressing
  registry : ∀ d ∈ m.registry.devices, d.Own addressing
  tasks : ∀ id work, m.work? id = some work → ∀ device, work.device? = some device → device.Own addressing
  channels : ∀ c ∈ m.channels ++ m.retired, ∀ device, c.device = some device → device.Own addressing

/-- The device is bound to a channel, or a connect that has begun waits for its driver. -/
def Engages (m : Manager) (device : RegisteredDevice) : Prop :=
  (∃ c ∈ m.channels ++ m.retired, c.device = some device) ∨
    ∃ id connect outcome, m.work? id = some (.installing connect device outcome)

variable {addressing : Addressing} {drivers : Bool} {kind : Kind} {m n : Manager} {outputs : List Output}

/-- A deed leaves the registry as it is, or registers a device, or takes one out. -/
theorem Deed.registry (h : Deed drivers kind m outputs n) :
    n.registry = m.registry ∨
      (kind = .arrival ∧ ∃ info arrival key, (m.registry.add info arrival).2 = .added key ∧
        n.registry = (m.registry.add info arrival).1) ∨
      ∃ key, n.registry = (m.registry.remove key).1 := by
  cases h with
  | still e => exact .inl e.registry
  | task id => exact .inl (putTask_registry ..)
  | spawned info => exact .inl (setTask_registry m.takeNumber.1 m.nextTask _)
  | begun id | bound => exact .inl (setTask_registry ..)
  | told | subscribed | unsubscribed | barred | moved | connected | failed | released | added | skipped
  | removed => exact .inl rfl
  | @registered _ info arrival key ha => exact .inr (.inl ⟨rfl, info, arrival, key, ha, rfl⟩)
  | departed key => exact .inr (.inr ⟨key, rfl⟩)

/-- What is bound to a channel after a deed was bound to one before, or is the device of a connect whose
driver is there. -/
theorem Deed.engages (h : Deed drivers kind m outputs n) (hm : m.Sound) {x : Channel}
    {device : RegisteredDevice} (hx : x ∈ n.channels ++ n.retired) (hd : x.device = some device) :
    m.Engages device := by
  have stay : x ∈ m.channels ++ m.retired → m.Engages device := fun hx => .inl ⟨x, hx, hd⟩
  have hidle : ¬x.Idle := fun h => by cases h.device.symm.trans hd
  have hput : ∀ {c d : Channel}, m.Swaps n c d → (x = d → m.Engages device) → m.Engages device :=
    fun hs hnew => ((hs x).mp hx).elim hnew fun h => stay h.1
  cases h with
  | still e =>
    rw [e.channels, e.retired] at hx
    exact stay hx
  | told | subscribed | unsubscribed | skipped | registered | departed => exact stay hx
  | task id =>
    rw [putTask_channels, putTask_retired] at hx
    exact stay hx
  | spawned info =>
    rw [spawn, setTask_channels, setTask_retired] at hx
    exact stay hx
  | begun id =>
    have hset : x ∈ (m.setTask id (.enumerating none)).channels ++ (m.setTask id _).retired := hx
    rw [setTask_channels, setTask_retired] at hset
    exact stay hset
  | @bound _ call connect other c a entry stopped hw hfree hfind hp hcall hdevice =>
    have hin := List.mem_append_left m.retired (List.mem_of_find?_eq_some hfind)
    change x ∈ (m.startListening.setTask call _).channels.map (put _) ++
      (m.startListening.setTask call _).retired.map (put _) at hx
    rw [setTask_channels, setTask_retired] at hx
    rcases (mem_put hin (Channel.connect_id ..)).mp hx with rfl | ⟨hx, _⟩
    · cases (hp.device.symm.trans hd).symm
      exact .inr ⟨call, connect, _, hdevice ▸ hw⟩
    · exact stay hx
  | barred call entry stopped _ hfind _ hd =>
    have hin := List.mem_append_left m.retired (List.mem_of_find?_eq_some hfind)
    exact hput (swaps_setChannel hin (Channel.connect_id ..)) fun he => absurd (he ▸ hd) hidle
  | @moved _ c now move hc _ _ hsteady =>
    refine hput (swaps_setChannel hc hsteady.id) fun he => .inl ⟨c, hc, ?_⟩
    rw [← hsteady.device, ← he, hd]
  | @connected _ _ c now move a handle connect hc _ hp _ hold =>
    have hid := Channel.step_id (hm.channels.sound c hc) now move
    refine hput (swaps_setChannel hc hid) fun he => .inl ⟨c, hc, ?_⟩
    rw [hp.device, ← hold.device, ← he, hd]
  | failed now move hc _ _ hd =>
    have hid := Channel.step_id (hm.channels.sound _ hc) now move
    exact hput (swaps_setChannel hc hid) fun he => absurd (he ▸ hd) hidle
  | released now move hc _ _ hd =>
    have hin := List.mem_append_left m.retired hc
    have hid := Channel.step_id (hm.channels.sound _ hin) now move
    exact hput (swaps_setChannel hin hid) fun he => absurd (he ▸ hd) hidle
  | added transport host hh =>
    rcases List.mem_append.mp hx with hx | hx
    · rcases List.mem_append.mp hx with hx | hx
      · exact stay (List.mem_append_left _ hx)
      · rw [List.mem_singleton.mp hx] at hd
        cases hd
    · exact stay (List.mem_append_right _ hx)
  | @removed _ c hc hstate =>
    have hin := List.mem_append_left m.retired hc
    refine hput (hm.swaps_removed hc rfl rfl) fun he => ?_
    cases hr : c.disconnect.2.2 with
    | none =>
      have hsteady := (hr ▸ Channel.disconnect_freed (hm.channels.sound c hin)).of_none
      refine .inl ⟨c, hin, ?_⟩
      rw [← hsteady.device, ← he, hd]
    | some freed =>
      obtain ⟨_, _, hd⟩ := (hr ▸ Channel.disconnect_freed (hm.channels.sound c hin)).of_some
      exact absurd (he ▸ hd) hidle

theorem Advance.own {id : Nat} {old : Option Work} {work : Work}
    (h : m.Advance drivers id kind old (some work) outputs) (hk : m.Keyed addressing)
    (hold : ∀ before, old = some before → ∀ device, before.device? = some device → device.Own addressing)
    {device : RegisteredDevice} (hd : work.device? = some device) : device.Own addressing := by
  cases h with
  | begun hfind =>
    cases hd
    exact hk.registry _ (List.mem_of_find?_eq_some hfind)
  | installed => exact hold _ rfl device hd
  | called | recalled | removing | cleaning | uninstalled | enumerated => cases hd

theorem Deed.keyed (h : Deed drivers kind m outputs n) (hm : m.Sound) (hk : m.Keyed addressing) :
    n.Keyed addressing where
  addressed := by
    rcases h.registry with he | ⟨_, _, _, _, ha, he⟩ | ⟨key, he⟩
    · exact he ▸ hk.addressed
    · rw [he, (Registry.add_added ha).2]
      exact hk.addressed
    · rw [he, Registry.remove_addressing]
      exact hk.addressed
  registry d hd := by
    rcases h.registry with he | ⟨_, _, _, _, ha, he⟩ | ⟨key, he⟩
    · exact hk.registry d (he ▸ hd)
    · rw [he, (Registry.add_added ha).2] at hd
      rcases List.mem_append.mp hd with hd | hd
      · exact hk.registry d hd
      · rw [List.mem_singleton.mp hd]
        exact hk.addressed ▸ Registry.add_key ha
    · rw [he, Registry.remove_devices] at hd
      exact hk.registry d (List.mem_of_mem_eraseP hd)
  tasks id work hw device hd := by
    rcases h.assigned hw with hw | ha | ⟨info, rfl⟩ | rfl | ⟨connect, other, channel, rfl, hbefore⟩
    · exact hk.tasks id work hw device hd
    · exact ha.own hk (hk.tasks id) hd
    · cases hd
    · cases hd
    · exact hk.tasks id _ hbefore device hd
  channels x hx device hd := by
    rcases h.engages hm hx hd with ⟨c, hc, hd⟩ | ⟨id, connect, outcome, hw⟩
    · exact hk.channels c hc device hd
    · exact hk.tasks id _ hw device rfl

theorem run_keyed (hm : m.Matched) (hk : m.Keyed addressing) (drivers : Bool) (turns : List Turn) :
    (m.run drivers turns).Keyed addressing :=
  run_keeps hm drivers (fun d hm hk => d.keyed hm.sound hk) hk turns

theorem new_keyed (addressing : Addressing) (settings : Settings) :
    (new addressing settings).Keyed addressing where
  addressed := rfl
  registry _ h := nomatch h
  tasks _ _ h := nomatch h
  channels _ h := nomatch h

end Manager
end RemoteUsb
