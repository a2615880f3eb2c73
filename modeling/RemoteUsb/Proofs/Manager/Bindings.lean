import RemoteUsb.Proofs.Channel.Transit
import RemoteUsb.Proofs.Manager.Turned

/-! # A device is bound to at most one channel

The main statement is `devices_apart`: whatever a manager goes through, no two of its channels are bound
to devices under the same key, and no two of its hosts hold handles of the same device. The invariant
says more. A key is registered once. Each channel, removed or not, is in one of the three situations of a
channel, in which a call that goes on owns the binding and a handle is of the device that is bound; numbers
of channels and of tasks are never given out twice. -/

namespace RemoteUsb.Manager

/-- Channels, in the set or removed, under numbers of their own, and devices on one channel of the set at
most. -/
structure ChannelsSound (channels retired : List Channel) (next : Nat) : Prop where
  ids : ((channels ++ retired).map (·.id)).Nodup
  numbers : ∀ c ∈ channels ++ retired, c.id < next
  sound : ∀ c ∈ channels ++ retired, c.Sound
  apart : ∀ c ∈ channels, ∀ d ∈ channels, ∀ key, c.key? = some key → d.key? = some key → c.id = d.id

/-- Tasks under numbers of their own. -/
structure TasksSound (tasks : List Task) (next : Nat) : Prop where
  ids : (tasks.map (·.id)).Nodup
  numbers : ∀ t ∈ tasks, t.id < next

structure Sound (m : Manager) : Prop where
  registry : m.registry.Distinct
  channels : ChannelsSound m.channels m.retired m.nextChannel
  tasks : TasksSound m.tasks m.nextTask

/-! ## Tasks -/

section

variable {tasks : List Task} {next : Nat} {m : Manager}

theorem TasksSound.later (h : TasksSound tasks next) : TasksSound tasks (next + 1) :=
  ⟨h.ids, fun t ht => Nat.lt_succ_of_lt (h.numbers t ht)⟩

theorem TasksSound.filter (h : TasksSound tasks next) (p : Task → Bool) :
    TasksSound (tasks.filter p) next :=
  ⟨h.ids.sublist (List.filter_sublist.map _), fun t ht => h.numbers t (List.mem_of_mem_filter ht)⟩

theorem mem_tasks_of_work? {id : Nat} {work : Work} (h : m.work? id = some work) :
    ⟨id, work⟩ ∈ m.tasks := by
  obtain ⟨t, ht, rfl⟩ := Option.map_eq_some_iff.mp h
  have hid : t.id = id := id_of_task? ht
  exact hid ▸ List.mem_of_find?_eq_some ht

theorem TasksSound.work? (h : TasksSound m.tasks next) {id : Nat} {work : Work}
    (hm : ⟨id, work⟩ ∈ m.tasks) : m.work? id = some work := by
  cases hf : m.tasks.find? (·.id == id) with
  | none =>
    have := List.find?_eq_none.mp hf _ hm
    simp at this
  | some t =>
    have hid : t.id = id := id_of_task? hf
    have ht := List.inj_on_of_nodup_map h.ids (List.mem_of_find?_eq_some hf) hm hid
    rw [Manager.work?, task?, hf, ht]
    rfl

/-- The tasks after one has got something else to do. -/
theorem mem_setTask {id : Nat} {work : Work} {t : Task} (h : t ∈ (m.setTask id work).tasks) :
    (t ∈ m.tasks ∧ t.id ≠ id) ∨ t = ⟨id, work⟩ := by
  unfold setTask at h
  split at h
  · obtain ⟨old, hold, rfl⟩ := List.mem_map.mp h
    by_cases hid : old.id = id
    · right
      rw [if_pos hid, hid]
    · left
      rw [if_neg hid]
      exact ⟨hold, hid⟩
  · rename_i hnone
    rcases List.mem_append.mp h with h | h
    · refine .inl ⟨h, fun hid => ?_⟩
      have := List.find?_eq_none.mp (Option.not_isSome_iff_eq_none.mp hnone) t h
      simp [hid] at this
    · exact .inr (List.mem_singleton.mp h)

theorem TasksSound.set (h : TasksSound m.tasks m.nextTask) {id : Nat} (hid : m.Knows id)
    (work : Work) : TasksSound (m.setTask id work).tasks (m.setTask id work).nextTask := by
  have hlt : id < m.nextTask := by
    rcases hid with hid | hid
    · exact hid
    · obtain ⟨old, hold⟩ := Option.ne_none_iff_exists'.mp hid
      exact h.numbers _ (mem_tasks_of_work? hold)
  rw [setTask_nextTask]
  refine ⟨?_, fun t ht => ?_⟩
  · unfold setTask
    split
    · have : (m.tasks.map fun t => if t.id = id then { t with work } else t).map (·.id) =
          m.tasks.map (·.id) := by
        rw [List.map_map]
        refine List.map_congr_left fun t _ => ?_
        rw [Function.comp_apply]
        split <;> rfl
      rw [this]
      exact h.ids
    · rename_i hnone
      rw [List.map_append]
      refine List.nodup_append.mpr ⟨h.ids, List.nodup_singleton id, fun a ha b hb e => ?_⟩
      obtain ⟨t, ht, rfl⟩ := List.mem_map.mp ha
      have := List.find?_eq_none.mp (Option.not_isSome_iff_eq_none.mp hnone) t ht
      rw [e, List.mem_singleton.mp hb] at this
      simp at this
  · rcases mem_setTask ht with ⟨ht, _⟩ | rfl
    · exact h.numbers t ht
    · exact hlt

end

/-! ## Channels -/

section

variable {channels retired : List Channel} {next : Nat}

/-- Channels under numbers of their own. -/
structure Labelled (channels retired : List Channel) (next : Nat) : Prop where
  ids : ((channels ++ retired).map (·.id)).Nodup
  numbers : ∀ c ∈ channels ++ retired, c.id < next

theorem ChannelsSound.labelled (h : ChannelsSound channels retired next) : Labelled channels retired next :=
  ⟨h.ids, h.numbers⟩

/-- Numbers tell channels apart. -/
theorem Labelled.eq (h : Labelled channels retired next) {c d : Channel}
    (hc : c ∈ channels ++ retired) (hd : d ∈ channels ++ retired) (e : c.id = d.id) : c = d :=
  List.inj_on_of_nodup_map h.ids hc hd e

theorem ChannelsSound.eq (h : ChannelsSound channels retired next) {c d : Channel}
    (hc : c ∈ channels ++ retired) (hd : d ∈ channels ++ retired) (e : c.id = d.id) : c = d :=
  h.labelled.eq hc hd e

/-- A channel is found under its number. -/
theorem Labelled.anyChannel? {m : Manager} (h : Labelled m.channels m.retired m.nextChannel) {c : Channel}
    (hc : c ∈ m.channels ++ m.retired) : m.anyChannel? c.id = some c := by
  cases hf : m.anyChannel? c.id with
  | none => simpa using List.find?_eq_none.mp hf c hc
  | some d =>
    have hid : d.id = c.id := id_of_anyChannel? hf
    rw [h.eq (List.mem_of_find?_eq_some hf) hc hid]

/-- Puts a channel in the place of the one with its number. -/
def put (channel c : Channel) : Channel := if c.id = channel.id then channel else c

theorem put_id (channel c : Channel) : (put channel c).id = c.id := by
  unfold put
  split
  · rename_i h; exact h.symm
  · rfl

theorem mem_map_put {channel c : Channel} (h : c ∈ channels.map (put channel)) :
    (c = channel ∧ ∃ old ∈ channels, old.id = channel.id) ∨ (c ∈ channels ∧ c.id ≠ channel.id) := by
  obtain ⟨d, hd, rfl⟩ := List.mem_map.mp h
  unfold put
  split
  · rename_i e
    exact .inl ⟨rfl, d, hd, e⟩
  · rename_i e
    exact .inr ⟨hd, e⟩

/-- Of two channels that take the same place the second one is left. -/
theorem put_put {d e : Channel} (h : d.id = e.id) (c : Channel) : put e (put d c) = put e c := by
  unfold put
  split
  · rename_i hc
    rw [if_pos (hc.trans h)]
  · rfl

theorem setChannel_ids (m : Manager) (c : Channel) :
    (m.setChannel c).channels.map (·.id) = m.channels.map (·.id) := by
  change (m.channels.map (put c)).map (·.id) = _
  rw [List.map_map]
  exact List.map_congr_left fun x _ => put_id c x

theorem Labelled.put (h : Labelled channels retired next) (channel : Channel) :
    Labelled (channels.map (put channel)) (retired.map (put channel)) next := by
  have hids : ((channels ++ retired).map (Manager.put channel)).map (·.id) =
      (channels ++ retired).map (·.id) := by
    rw [List.map_map]
    exact List.map_congr_left fun c _ => put_id channel c
  rw [List.map_append] at hids
  refine ⟨hids ▸ h.ids, fun c hc => ?_⟩
  rw [← List.map_append] at hc
  obtain ⟨d, hd, rfl⟩ := List.mem_map.mp hc
  exact put_id channel d ▸ h.numbers d hd

/-- A channel comes into the set under the next number. -/
theorem Labelled.add (h : Labelled channels retired next) {channel : Channel} (hid : channel.id = next) :
    Labelled (channels ++ [channel]) retired (next + 1) := by
  have hperm : (channels ++ [channel] ++ retired).Perm (channel :: (channels ++ retired)) := by
    rw [List.append_assoc, List.singleton_append]
    exact List.perm_middle
  refine ⟨?_, fun c hc => ?_⟩
  · rw [(hperm.map _).nodup_iff, List.map_cons, List.nodup_cons]
    refine ⟨fun hm => ?_, h.ids⟩
    obtain ⟨c, hc, e⟩ := List.mem_map.mp hm
    have := h.numbers c hc
    omega
  · rcases List.mem_cons.mp (hperm.mem_iff.mp hc) with rfl | hc
    · omega
    · exact Nat.lt_succ_of_lt (h.numbers c hc)

theorem mem_of_mem_removed {channel c : Channel} (hc : channel ∈ channels)
    (hm : c ∈ channels.filter (·.id != channel.id) ++ (retired ++ [channel])) : c ∈ channels ++ retired := by
  simp only [List.mem_append, List.mem_filter, List.mem_singleton] at hm ⊢
  rcases hm with ⟨hm, _⟩ | hm | rfl
  · exact .inl hm
  · exact .inr hm
  · exact .inl hc

/-- A channel is taken out of the set. -/
theorem Labelled.remove (h : Labelled channels retired next) {channel : Channel} (hc : channel ∈ channels) :
    Labelled (channels.filter (·.id != channel.id)) (retired ++ [channel]) next := by
  refine ⟨?_, fun c hm => h.numbers c (mem_of_mem_removed hc hm)⟩
  have hids := h.ids
  rw [List.map_append, List.nodup_append] at hids
  obtain ⟨hset, hretired, hdisjoint⟩ := hids
  have hin : channel.id ∈ channels.map (·.id) := List.mem_map_of_mem hc
  rw [List.map_append, List.map_append, List.nodup_append, List.nodup_append]
  refine ⟨hset.sublist (List.filter_sublist.map _), ⟨hretired, List.nodup_singleton _, ?_⟩, ?_⟩
  · intro a ha b hb e
    rw [e, List.mem_singleton.mp hb] at ha
    exact hdisjoint _ hin _ ha rfl
  · intro a ha b hb e
    obtain ⟨c, hm, rfl⟩ := List.mem_map.mp ha
    obtain ⟨hm, hne⟩ := List.mem_filter.mp hm
    rcases List.mem_append.mp hb with hb | hb
    · exact hdisjoint _ (List.mem_map_of_mem hm) _ hb e
    · rw [e, List.mem_singleton.mp hb] at hne
      simp at hne

/-- A channel may take the place of the one with its number if its device, should it have one, is on no
other channel of the set. -/
theorem ChannelsSound.put (h : ChannelsSound channels retired next) {old channel : Channel}
    (hold : old ∈ channels ++ retired) (hid : channel.id = old.id) (hs : channel.Sound)
    (hkey : old ∈ channels → ∀ key, channel.key? = some key → ∀ d ∈ channels, d.key? = some key →
      d.id = old.id) :
    ChannelsSound (channels.map (put channel)) (retired.map (put channel)) next := by
  have hmem : ∀ c ∈ (channels ++ retired).map (Manager.put channel),
      c = channel ∨ c ∈ channels ++ retired := by
    intro c hc
    rcases mem_map_put hc with ⟨rfl, _⟩ | ⟨hc, _⟩
    · exact .inl rfl
    · exact .inr hc
  have hset : ∀ c ∈ channels.map (Manager.put channel),
      (c = channel ∧ old ∈ channels) ∨ (c ∈ channels ∧ c.id ≠ old.id) := by
    intro c hc
    rcases mem_map_put hc with ⟨rfl, d, hd, e⟩ | ⟨hc, hne⟩
    · have : d = old := h.eq (List.mem_append_left _ hd) hold (e.trans hid)
      exact .inl ⟨rfl, this ▸ hd⟩
    · exact .inr ⟨hc, hid ▸ hne⟩
  have hlabelled := h.labelled.put channel
  refine ⟨hlabelled.ids, hlabelled.numbers, ?_, ?_⟩
  · rw [← List.map_append]
    intro c hc
    rcases hmem c hc with rfl | hc
    · exact hs
    · exact h.sound c hc
  · intro c hc d hd key hck hdk
    rcases hset c hc with ⟨rfl, hin⟩ | ⟨hcin, hcid⟩
    · rcases hset d hd with ⟨rfl, _⟩ | ⟨hdin, hdid⟩
      · rfl
      · exact absurd (hkey hin key hck d hdin hdk) hdid
    · rcases hset d hd with ⟨rfl, hin⟩ | ⟨hdin, _⟩
      · exact absurd (hkey hin key hdk c hcin hck) hcid
      · exact h.apart c hcin d hdin key hck hdk

theorem ChannelsSound.later (h : ChannelsSound channels retired next) :
    ChannelsSound channels retired (next + 1) :=
  ⟨h.ids, fun c hc => Nat.lt_succ_of_lt (h.numbers c hc), h.sound, h.apart⟩

/-- A channel without a device comes into the set under the next number. -/
theorem ChannelsSound.add (h : ChannelsSound channels retired next) {channel : Channel}
    (hid : channel.id = next) (hidle : channel.Idle) :
    ChannelsSound (channels ++ [channel]) retired (next + 1) := by
  have hlabelled := h.labelled.add hid
  refine ⟨hlabelled.ids, hlabelled.numbers, fun c hc => ?_, ?_⟩
  · rw [List.append_assoc, List.singleton_append] at hc
    rcases List.mem_cons.mp (List.perm_middle.mem_iff.mp hc) with rfl | hc
    · exact .idle hidle
    · exact h.sound c hc
  · have hnone : ∀ key, channel.key? ≠ some key := by
      intro key hk
      rw [Channel.key?, hidle.device] at hk
      cases hk
    intro c hc d hd key hck hdk
    rcases List.mem_append.mp hc with hc | hc
    · rcases List.mem_append.mp hd with hd | hd
      · exact h.apart c hc d hd key hck hdk
      · exact absurd (List.mem_singleton.mp hd ▸ hdk) (hnone key)
    · exact absurd (List.mem_singleton.mp hc ▸ hck) (hnone key)

/-- A channel is taken out of the set. -/
theorem ChannelsSound.remove (h : ChannelsSound channels retired next) {channel : Channel}
    (hc : channel ∈ channels) :
    ChannelsSound (channels.filter (·.id != channel.id)) (retired ++ [channel]) next := by
  have hlabelled := h.labelled.remove hc
  refine ⟨hlabelled.ids, hlabelled.numbers, fun c hm => h.sound c (mem_of_mem_removed hc hm), ?_⟩
  intro c hc d hd key
  exact h.apart c (List.mem_of_mem_filter hc) d (List.mem_of_mem_filter hd) key

end

/-! ## What changes keep -/

variable {b : Bool} {m n : Manager} {outputs : List Output}

theorem Sound.set (h : m.Sound) {id : Nat} (hid : m.Knows id) (work : Work) :
    (m.setTask id work).Sound := by
  refine ⟨setTask_registry m id work ▸ h.registry, ?_, h.tasks.set hid work⟩
  rw [setTask_channels, setTask_retired, setTask_nextChannel]
  exact h.channels

theorem isConnected_eq_false_iff {key : DeviceKey} :
    m.isConnected key = false ↔ ∀ c ∈ m.channels, c.key? ≠ some key := by
  rw [isConnected, channelFor?, Option.isSome_eq_false_iff, Option.isNone_iff_eq_none, List.find?_eq_none]
  simp only [beq_iff_eq, ne_eq]

theorem Sound.moved (h : m.Sound) {channel : Channel} (hc : channel ∈ m.channels ++ m.retired)
    (now : Nat) {move : Channel.Move} (hm : move.connects = false) :
    (m.setChannel (channel.step now move).1).Sound := by
  have hs := h.channels.sound channel hc
  refine ⟨h.registry,
    h.channels.put hc (Channel.step_id hs now move) (Channel.step_sound hs now move) ?_, h.tasks⟩
  intro hin key hk d hd hdk
  exact h.channels.apart d hd channel hin key hdk (Channel.step_key? hs now hm hk)

theorem Sound.bound (h : m.Sound) {channel : Channel} (hc : channel ∈ m.channels) {call : Nat}
    {device : RegisteredDevice} (hfree : m.isConnected device.key = false) (entry : Entry)
    (stopped : Bool) : (m.setChannel (channel.connect call device entry stopped).1).Sound := by
  have hin := List.mem_append_left m.retired hc
  have hs := h.channels.sound channel hin
  refine ⟨h.registry, h.channels.put hin (Channel.connect_id ..)
    (Channel.step_sound hs call (.connect device entry stopped)) ?_, h.tasks⟩
  intro _ key hk d hd hdk
  rcases Channel.connect_key? hs hk with hk | rfl
  · exact h.channels.apart d hd channel hc key hdk hk
  · exact absurd hdk (isConnected_eq_false_iff.mp hfree d hd)

theorem Change.sound (c : Change b m outputs n) (h : m.Sound) : n.Sound := by
  cases c with
  | aside e =>
    refine ⟨e.registry ▸ h.registry, ?_, ?_⟩
    · rw [e.channels, e.retired, e.nextChannel]; exact h.channels
    · rw [e.tasks, e.nextTask]; exact h.tasks
  | told => exact h
  | numbered => exact ⟨h.registry, h.channels, h.tasks.later⟩
  | dropped id => exact ⟨h.registry, h.channels, h.tasks.filter _⟩
  | worked id work hid => exact h.set hid work
  | begun id _ _ hid => exact h.set hid _
  | installed id _ _ hw => exact h.set (knows_of_work? hw) _
  | bound call entry stopped hw hfree hfind =>
    refine (h.set (knows_of_work? hw) _).bound ?_ ?_ entry stopped
    · rw [setTask_channels]
      exact List.mem_of_find?_eq_some hfind
    · rw [isConnected, channelFor?, setTask_channels]
      exact hfree
  | moved now move hc hm => exact h.moved hc now hm
  | added transport host hh =>
    exact ⟨h.registry, h.channels.add rfl ⟨rfl, rfl, hh, rfl, rfl, rfl⟩, h.tasks⟩
  | skipped => exact ⟨h.registry, h.channels.later, h.tasks⟩
  | removed hc =>
    obtain rfl := id_of_channel? hc
    exact ⟨h.registry, h.channels.remove (List.mem_of_find?_eq_some hc), h.tasks⟩
  | registered arrival ha => exact ⟨h.registry.add ha, h.channels, h.tasks⟩

theorem Changes.sound (c : Changes b m outputs n) (h : m.Sound) : n.Sound := by
  induction c with
  | refl => exact h
  | head c _ ih => exact ih (c.sound h)

theorem Turned.sound (t : Turned m outputs n) (h : m.Sound) : n.Sound := by
  cases t with
  | goes c => exact c.sound h
  | departs c _ c' =>
    have := c.sound h
    exact c'.sound ⟨this.registry.remove _, this.channels, this.tasks⟩

theorem new_sound (addressing : Addressing) (settings : Settings) :
    (new addressing settings).Sound where
  registry := List.nodup_nil
  channels :=
    { ids := List.nodup_nil
      numbers := fun _ h => absurd h List.not_mem_nil
      sound := fun _ h => absurd h List.not_mem_nil
      apart := fun _ h => absurd h List.not_mem_nil }
  tasks := { ids := List.nodup_nil, numbers := fun _ h => absurd h List.not_mem_nil }

theorem run_sound (h : m.Sound) (drivers : Bool) (turns : List Turn) : (m.run drivers turns).Sound := by
  induction turns generalizing m with
  | nil => exact h
  | cons t turns ih => exact ih ((turn_turned m drivers t).sound h)

/-! ## Devices apart -/

/-- Whatever a manager goes through, no two channels of its set are bound to devices under the same key,
and no two of their hosts hold handles of the same device. -/
theorem devices_apart (addressing : Addressing) (settings : Settings) (drivers : Bool)
    (turns : List Turn) :
    ((new addressing settings).run drivers turns).channels.Pairwise fun c d =>
      c.id ≠ d.id ∧ (∀ key, c.key? = some key → d.key? ≠ some key) ∧
        ∀ h g, c.handle? = some h → d.handle? = some g → h.key ≠ g.key := by
  have hs := run_sound (new_sound addressing settings) drivers turns
  generalize (new addressing settings).run drivers turns = m at hs
  have hids : (m.channels.map (·.id)).Nodup :=
    hs.channels.ids.sublist ((List.sublist_append_left ..).map _)
  refine (List.pairwise_map.mp hids).imp_of_mem fun {c d} hc hd hne => ?_
  have apart : ∀ key, c.key? = some key → d.key? ≠ some key := fun key hck hdk =>
    hne (hs.channels.apart c hc d hd key hck hdk)
  refine ⟨hne, apart, fun h g hh hg e => ?_⟩
  have hck := (hs.channels.sound c (List.mem_append_left _ hc)).key?_of_handle hh
  have hdk := (hs.channels.sound d (List.mem_append_left _ hd)).key?_of_handle hg
  exact apart h.key hck (e ▸ hdk)

end RemoteUsb.Manager
