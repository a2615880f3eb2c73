import RemoteUsb.Proofs.Channel.Outbound
import RemoteUsb.Proofs.Manager.Bindings

/-! # What is queued for the peers

Only a host queues data for its peer, and only the loop sends them. Whatever else a manager does leaves the
queue of events as it is and lets no channel of the set owe its peer data that owed none: that is an ease.
`turn_attends` says so of every turn in which the hosts queue nothing, and says that the loop takes the
event of a channel off its queue only to send everything that the channel owes. What a channel owes it owes
until it is drained: until its event is handled, or it is removed, or it gets a new host. -/

namespace RemoteUsb

namespace Channel

/-- The host has data for the peer. -/
def owes (c : Channel) : Bool := c.host.any fun host => !host.queued.isEmpty

/-- What the channel is later, after its host queued nothing. If `keeps`, it still owes what it owed. -/
structure Eases (keeps : Prop) (c d : Channel) : Prop where
  id : d.id = c.id
  owes : d.owes = true → c.owes = true
  kept : keeps → c.owes = true → d.owes = true

variable {c d e : Channel} {keeps : Prop}

theorem owes_eq_any (c : Channel) : c.owes = (c.host.map (·.queued)).any (!·.isEmpty) := by
  rw [owes, Option.any_map]

theorem Eases.refl (c : Channel) : c.Eases keeps c := ⟨rfl, fun h => h, fun _ h => h⟩

theorem Eases.trans (h : c.Eases keeps d) (h' : d.Eases keeps e) : c.Eases keeps e :=
  ⟨h'.id.trans h.id, fun ho => h.owes (h'.owes ho), fun hk ho => h'.kept hk (h.kept hk ho)⟩

theorem Spares.eases (h : c.Spares d) (hid : d.id = c.id) : c.Eases keeps d := by
  have hsame : d.owes = c.owes := by rw [owes_eq_any, owes_eq_any, h.queued]
  exact ⟨hid, fun ho => hsame ▸ ho, fun _ ho => hsame ▸ ho⟩

theorem disconnect_eases (c : Channel) : c.Eases keeps c.disconnect.1 :=
  (spares_disconnect c).eases (disconnect_shaken c).id

theorem failBinding_eases (c : Channel) (binding : Nat) (fault : DeviceFault) :
    c.Eases keeps (c.failBinding binding fault).1 := by
  unfold failBinding
  split
  · exact (spares_release c).eases rfl
  · exact .refl c

theorem hear_eases (c : Channel) (payload : Wire.Payload) : c.Eases keeps (c.hear payload).1 := by
  cases payload with
  | capabilities compression => exact ⟨rfl, fun h => h, fun _ h => h⟩
  | data bytes => exact (spares_hear rfl c).eases (hear_alike c _).id
  | compressed algorithm size block => exact (spares_hear rfl c).eases (hear_alike c _).id

theorem receive_eases (c : Channel) (payload : Wire.Payload) : c.Eases keeps (c.receive payload).1 := by
  have hheard : c.Eases keeps (c.hear payload).1 := hear_eases c payload
  unfold receive
  split
  · rename_i heq
    rwa [heq] at hheard
  · rename_i d fault heq
    rw [heq] at hheard
    exact hheard.trans ((spares_failDevice d fault).eases (failDevice_shaken d fault).id)

/-- A host that is made owes nothing yet. -/
theorem renew_owes {made : Option Host} (h : ∀ host, made = some host → host.queued = [])
    (hf : c.hasFactory = true) : (c.renew made).1.owes = false := by
  rw [renew, if_pos hf]
  cases hmade : made with
  | none => rfl
  | some host => simp [owes, h host hmade]

theorem renew_eases {made : Option Host} (h : ∀ host, made = some host → host.queued = [])
    (hk : keeps → c.hasFactory = false) : c.Eases keeps (c.renew made).1 := by
  cases hf : c.hasFactory with
  | false =>
    rw [renew, hf]
    exact .refl c
  | true =>
    have howes := renew_owes h hf
    refine ⟨by rw [renew, if_pos hf], fun ho => ?_, fun hkeeps => ?_⟩
    · rw [howes] at ho
      cases ho
    · rw [hk hkeeps] at hf
      cases hf

theorem disconnect_hasFactory (c : Channel) : c.disconnect.1.hasFactory = c.hasFactory := by
  unfold disconnect
  split
  · rfl
  · rfl
  · unfold cancelRequest stopRequest
    split <;> rfl
  · rfl

/-- A flush leaves nothing that is owed. -/
theorem flush_owes (c : Channel) : c.flush.1.owes = false := by
  rw [flush, flushBy_eq]
  rcases drain_cases c with ⟨hdrain, hnothing⟩ | ⟨host, hhost, _, hdrain⟩
  · rw [hdrain]
    cases hhost : c.host with
    | none => simp [owes, hhost]
    | some host => simp [owes, hhost, hnothing host hhost]
  · rw [hdrain]
    rfl

theorem flush_eases (hk : ¬keeps) (c : Channel) : c.Eases keeps c.flush.1 where
  id := (flush_alike c).id
  owes ho := by
    rw [flush_owes] at ho
    cases ho
  kept hkeeps := absurd hkeeps hk

theorem connect_eases (c : Channel) (call : Nat) (device : RegisteredDevice) (entry : Entry)
    (stopped : Bool) : c.Eases keeps (c.connect call device entry stopped).1 := by
  refine Spares.eases ?_ (connect_id ..)
  have hbind := spares_bind c device
  unfold connect
  split
  · exact .refl c
  · rename_i bound heq
    rw [heq] at hbind
    refine hbind.trans (e := (bound.beginConnect call entry stopped).1) ?_
    unfold beginConnect
    split
    · exact .refl _
    · cases entry with
      | unguarded | guarded => exact ⟨rfl, rfl, rfl⟩
      | barred text => exact spares_release _

/-- A host that queues something leaves what the channel owed. -/
theorem stir_queue_owes (now : Nat) (bytes : Bytes) (ho : c.owes = true) :
    (c.step now (.stir (·.queue bytes))).1.owes = true := by
  cases hhost : c.host with
  | none =>
    rw [owes, hhost] at ho
    cases ho
  | some host =>
    change (c.host.map fun host => { host.queue bytes with handle := host.handle }).any _ = true
    rw [hhost]
    simp [Host.queue]

/-- A host does something on its own, but queues nothing. -/
theorem stir_eases (act : Host → Host) (h : ∀ host, (act host).queued = host.queued) (c : Channel)
    (now : Nat) : c.Eases keeps (c.step now (.stir act)).1 := by
  refine Spares.eases ⟨rfl, rfl, ?_⟩ rfl
  change (c.host.map fun host => { act host with handle := host.handle }).map _ = _
  rw [Option.map_map]
  exact congrArg (fun f => c.host.map f) (funext h)

end Channel

namespace Manager

/-- The channel with a number, which is in the set, owes its peer data. -/
def Owes (m : Manager) (id : Nat) : Prop := ∃ c ∈ m.channels, c.id = id ∧ c.owes = true

instance (m : Manager) (id : Nat) : Decidable (m.Owes id) :=
  inferInstanceAs (Decidable (∃ c ∈ m.channels, _))

/-- The channels of the set have numbers of their own, and so will the next one. -/
structure Numbered (m : Manager) : Prop where
  apart : (m.channels.map (·.id)).Nodup
  next : ∀ c ∈ m.channels, c.id < m.nextChannel

/-- The queue of events stays as it is, and no channel owes data that owed none. Those under the numbers
that are kept still owe what they owed. -/
structure Eases (keeps : Nat → Prop) (m n : Manager) : Prop where
  queue : n.queue = m.queue
  owes : ∀ id, n.Owes id → m.Owes id
  numbered : m.Numbered → n.Numbered
  kept : m.Numbered → ∀ id, keeps id → m.Owes id → n.Owes id

variable {m n p : Manager} {w : Surroundings} {keeps : Nat → Prop}

theorem Eases.trans (h : m.Eases keeps n) (h' : n.Eases keeps p) : m.Eases keeps p where
  queue := h'.queue.trans h.queue
  owes id ho := h.owes id (h'.owes id ho)
  numbered hn := h'.numbered (h.numbered hn)
  kept hn id hk ho := h'.kept (h.numbered hn) id hk (h.kept hn id hk ho)

theorem Eases.same (hq : n.queue = m.queue) (hc : n.channels = m.channels)
    (hnext : n.nextChannel = m.nextChannel) : m.Eases keeps n := by
  have hsame : ∀ id, n.Owes id ↔ m.Owes id := fun id => by rw [Owes, Owes, hc]
  refine ⟨hq, fun id => (hsame id).mp, fun hn => ⟨?_, ?_⟩, fun _ id _ => (hsame id).mpr⟩
  · rw [hc]
    exact hn.apart
  · rw [hc, hnext]
    exact hn.next

theorem Numbered.setChannel (hn : m.Numbered) (d : Channel) : (m.setChannel d).Numbered where
  apart := (setChannel_ids m d).symm ▸ hn.apart
  next c hc := by
    rcases mem_map_put hc with ⟨rfl, old, hold, hid⟩ | ⟨hc, _⟩
    · exact hid ▸ hn.next old hold
    · exact hn.next c hc

/-- A channel that still owes what it owed may be put back. -/
theorem setChannel_keeps {c d : Channel} {id : Nat} (hn : m.Numbered)
    (hc : c ∈ m.channels ∨ ∀ old ∈ m.channels, old.id ≠ c.id) (hid : d.id = c.id)
    (hkept : c.id = id → c.owes = true → d.owes = true) (ho : m.Owes id) : (m.setChannel d).Owes id := by
  obtain ⟨e, he, rfl, ho⟩ := ho
  refine ⟨put d e, List.mem_map_of_mem he, put_id d e, ?_⟩
  unfold put
  split
  · rename_i hsame
    rcases hc with hc | hc
    · obtain rfl : c = e := List.inj_on_of_nodup_map hn.apart hc he (hid.symm.trans hsame.symm)
      exact hkept rfl ho
    · exact absurd (hsame.trans hid) (hc e he)
  · exact ho

/-- A channel that owes no more than before may be put back. -/
theorem setChannel_eases {c d : Channel} (hc : c ∈ m.channels ∨ ∀ old ∈ m.channels, old.id ≠ c.id)
    (h : c.Eases (keeps c.id) d) : m.Eases keeps (m.setChannel d) where
  queue := rfl
  numbered hn := hn.setChannel d
  kept hn id hk := setChannel_keeps hn hc h.id fun hid => h.kept (hid ▸ hk)
  owes := by
    rintro id ⟨e, he, rfl, ho⟩
    rcases mem_map_put he with ⟨rfl, old, hold, hid⟩ | ⟨he, _⟩
    · rcases hc with hc | hc
      · exact ⟨c, hc, h.id.symm, h.owes ho⟩
      · exact absurd (hid.trans h.id) (hc old hold)
    · exact ⟨e, he, rfl, ho⟩

theorem setTask_queue (m : Manager) (id : Nat) (work : Work) : (m.setTask id work).queue = m.queue := by
  unfold setTask
  split <;> rfl

theorem setTask_eases (m : Manager) (id : Nat) (work : Work) : m.Eases keeps (m.setTask id work) :=
  .same (setTask_queue m id work) (setTask_channels m id work) (setTask_nextChannel m id work)

def Calm {α : Type} (keeps : Nat → Prop) (act : Act α) (m : Manager) : Prop :=
  m.Eases keeps (act.perform m).2.1

section

variable {α β : Type}

theorem Calm.pure (a : α) : Calm keeps (Pure.pure a : Act α) m := .same rfl rfl rfl

theorem Eases.bind {act : Act α} {next : α → Act β} (h : n.Eases keeps (act.perform m).2.1)
    (h' : ∀ a p, Calm keeps (next a) p) : n.Eases keeps ((act >>= next).perform m).2.1 := h.trans (h' _ _)

theorem Calm.bind {act : Act α} {next : α → Act β} (h : Calm keeps act m)
    (h' : ∀ a n, Calm keeps (next a) n) : Calm keeps (act >>= next) m := Eases.bind h h'

theorem Calm.manager {next : Manager → Act β} (h : Calm keeps (next m) m) :
    Calm keeps (Act.manager >>= next) m := h

theorem Calm.change {f : Manager → Manager} (h : m.Eases keeps (f m)) : Calm keeps (Act.change f) m := h

theorem Calm.emit (output : Output) : Calm keeps (Act.emit output) m := .same rfl rfl rfl

theorem Calm.ite {c : Prop} [Decidable c] {act other : Act α} (h : Calm keeps act m)
    (h' : Calm keeps other m) : Calm keeps (if c then act else other) m := by
  split
  · exact h
  · exact h'

theorem Calm.each {act : α → Act Unit} (h : ∀ a n, Calm keeps (act a) n) (as : List α) :
    Calm keeps (Act.each act as) m := by
  induction as generalizing m with
  | nil => exact .pure ()
  | cons a as ih => exact .bind (h a m) fun _ _ => ih

end

/-! ## Calls -/

theorem stopListening_calm : Calm keeps (Act.change stopListening) m := .change (.same rfl rfl rfl)

theorem spawn_calm (work : Work) : Calm keeps (Act.change (·.spawn work)) m :=
  .change (Eases.trans (n := m.takeNumber.1) (.same rfl rfl rfl) (setTask_eases _ m.nextTask work))

theorem endCall_calm (call : Nat) (result : Except RedirectError Unit) : Calm keeps (endCall call result) m :=
  .bind (.change (.same rfl rfl rfl)) fun _ _ => .emit _

theorem endConnect_calm (call : Nat) (connect : Connect) (result : Except RedirectError Unit) :
    Calm keeps (endConnect call connect result) m := by
  refine .bind (endCall_calm call result) fun _ _ => ?_
  split
  · exact .emit _
  · exact .pure ()

theorem tidy_calm (info : DeviceInfo) : Calm keeps (tidy w info) m := .ite (spawn_calm _) (.pure ())

theorem undoConnect_calm (info : DeviceInfo) : Calm keeps (undoConnect w info) m :=
  .bind stopListening_calm fun _ _ => tidy_calm info

theorem settleEffect_calm (channel : Nat) (effect : Effect) :
    Calm keeps (settleEffect w channel effect) m := by
  unfold settleEffect
  split
  · refine .manager ?_
    split
    · exact .ite (.bind (undoConnect_calm _) fun _ _ => endConnect_calm ..) (endConnect_calm ..)
    · exact endCall_calm ..
  · exact .emit _

/-- What follows once a channel was put back. -/
theorem settleChannel_eases (c : Channel) (effects : List Effect) :
    (m.setChannel c).Eases keeps ((settleChannel w c effects).perform m).2.1 :=
  Calm.each (fun effect _ => settleEffect_calm _ effect) effects

theorem settleChannel_calm {c d : Channel} (hc : c ∈ m.channels ∨ ∀ old ∈ m.channels, old.id ≠ c.id)
    (h : c.Eases (keeps c.id) d) (effects : List Effect) : Calm keeps (settleChannel w d effects) m :=
  (setChannel_eases hc h).trans (settleChannel_eases d effects)

theorem channel?_mem {id : Nat} {c : Channel} (h : m.channel? id = some c) : c ∈ m.channels :=
  List.mem_of_find?_eq_some h

/-- A removed channel is found under a number only if no channel of the set has it. -/
theorem anyChannel?_mem {id : Nat} {c : Channel} (h : m.anyChannel? id = some c) :
    c ∈ m.channels ∨ ∀ old ∈ m.channels, old.id ≠ c.id := by
  rw [anyChannel?, List.find?_append] at h
  cases hfind : m.channels.find? (·.id == id) with
  | some found =>
    rw [hfind] at h
    cases h
    exact .inl (List.mem_of_find?_eq_some hfind)
  | none =>
    rw [hfind] at h
    have hid : c.id = id := by simpa using List.find?_some h
    exact .inr fun old hold => by simpa [hid] using List.find?_eq_none.mp hfind old hold

theorem onChannel_calm {step : Channel → Channel × List Effect}
    (h : ∀ (kept : Prop) (c : Channel), c.Eases kept (step c).1) (id : Nat) :
    Calm keeps (onChannel w id step) m := by
  refine .manager ?_
  split
  · exact .pure ()
  · exact settleChannel_calm (anyChannel?_mem ‹_›) (h _ _) _

theorem bindAndConnect_calm (call : Nat) (connect : Connect) (device : RegisteredDevice) :
    Calm keeps (bindAndConnect w call connect device) m := by
  refine .bind (.change (.same rfl rfl rfl)) fun _ n => .manager ?_
  split
  · refine .bind stopListening_calm fun _ _ => ?_
    exact .ite (endConnect_calm ..) (.bind (tidy_calm _) fun _ _ => endConnect_calm ..)
  · rename_i bound hbind
    unfold bindFree at hbind
    split at hbind
    · cases hbind
    · split at hbind
      · cases hbind
      · rename_i channel hfind
        have hmem : channel ∈ n.channels := List.mem_of_find?_eq_some hfind
        have heases : channel.Eases (keeps channel.id) _ := channel.connect_eases call device
          (entry w n.settings) (connect.stopped || connect.policy.isSome && n.stopped)
        rw [Channel.connect, hbind] at heases
        refine (setTask_eases n call (.connecting connect device bound.id)).trans
          (settleChannel_calm (.inl ?_) heases _)
        rwa [setTask_channels]

theorem beginConnect_calm (call : Nat) (connect : Connect) : Calm keeps (beginConnect w call connect) m := by
  refine .manager ?_
  split
  · exact endConnect_calm ..
  · exact .ite (.bind (.change (setTask_eases ..)) fun _ _ => .emit _)
      (.bind (.change (setTask_eases ..)) fun _ _ => bindAndConnect_calm ..)

theorem stopCall_calm (call : Nat) : Calm keeps (stopCall w call) m := by
  refine .manager ?_
  split
  · exact .change (setTask_eases ..)
  · exact .change (setTask_eases ..)
  · exact onChannel_calm (fun _ c => ⟨rfl, fun h => h, fun _ h => h⟩) _
  · exact .pure ()

theorem abandon_calm (call : Nat) : Calm keeps (abandon w call) m := by
  refine .manager ?_
  split
  · refine .bind (.change (.same rfl rfl rfl)) fun _ _ => .bind ?_ fun _ _ => undoConnect_calm _
    exact onChannel_calm (fun _ c => (Channel.spares_abandon c call).eases (Channel.abandon_id c call)) _
  · exact .change (.same rfl rfl rfl)
  · exact .pure ()

/-! ## Disconnections -/

theorem releaseDevice_calm (key : DeviceKey) : Calm keeps (releaseDevice w key) m := by
  refine .manager ?_
  split
  · exact .pure none
  · rename_i c hc
    refine .bind (settleChannel_calm (.inl (List.mem_of_find?_eq_some hc)) c.disconnect_eases _) fun _ _ => ?_
    exact .ite (.bind stopListening_calm fun _ _ => .pure _) (.pure _)

theorem disconnect_calm (key : DeviceKey) : Calm keeps (disconnect w key) m := by
  refine .bind (releaseDevice_calm key) fun released _ => ?_
  split
  · exact .bind (tidy_calm _) fun _ _ => .pure _
  · exact .pure _

theorem uninstall_calm (task : Nat) (cleanup : Cleanup) (info : DeviceInfo) :
    Calm keeps (uninstall w task cleanup info) m :=
  .ite (.bind (.change (setTask_eases ..)) fun _ _ => .emit _) (.change (setTask_eases ..))

theorem uninstalled_calm (task : Nat) (cleanup : Cleanup) (outcome : Except JobFault Unit) :
    Calm keeps (uninstalled task cleanup outcome) m := by
  cases cleanup with
  | apart => exact .change (.same rfl rfl rfl)
  | call => exact endCall_calm ..
  | departure key =>
    refine .manager (.bind (.change (.same rfl rfl rfl)) fun _ _ => ?_)
    split
    · exact .bind (.emit _) fun _ _ => endCall_calm ..
    · exact endCall_calm ..

theorem cleanUp_calm (task : Nat) (cleanup : Cleanup) (released : Option RegisteredDevice) :
    Calm keeps (cleanUp w task cleanup released) m := by
  unfold cleanUp
  split
  · exact .ite (uninstall_calm ..) (uninstalled_calm ..)
  · exact uninstalled_calm ..

/-- What follows once a channel was taken out of the set. -/
theorem removeChannel_eases {id : Nat} {c : Channel} (hc : m.channel? id = some c) :
    Eases keeps { m with channels := m.channels.filter (·.id != id), retired := m.retired ++ [c] }
      ((removeChannel w id).perform m).2.1 := by
  have hid : c.id = id := id_of_channel? hc
  have hothers : ∀ old ∈ m.channels.filter (·.id != id), old.id ≠ c.id := fun old hold => by
    simpa [hid] using (List.mem_filter.mp hold).2
  have heases : c.Eases (keeps c.id) c.disconnect.1 := c.disconnect_eases
  rw [removeChannel, perform_manager, hc, perform_change]
  generalize c.disconnect = left at heases ⊢
  obtain ⟨d, effects, released⟩ := left
  refine Calm.bind (settleChannel_calm (.inr hothers) heases effects) fun _ _ => ?_
  cases released with
  | none => exact .pure _
  | some device => exact .bind stopListening_calm fun _ _ => .bind (tidy_calm _) fun _ _ => .pure _

theorem removeChannel_calm {id : Nat} (hk : ¬keeps id) : Calm keeps (removeChannel w id) m := by
  cases hfind : m.channel? id with
  | none =>
    rw [Calm, removeChannel, perform_manager, hfind]
    exact .same rfl rfl rfl
  | some c =>
    refine Eases.trans (n := { m with
      channels := m.channels.filter (·.id != id), retired := m.retired ++ [c] })
      ⟨rfl, ?_, fun hn => ⟨?_, ?_⟩, fun _ other hkeeps => ?_⟩ (removeChannel_eases hfind)
    · rintro other ⟨d, hd, he, ho⟩
      exact ⟨d, (List.mem_filter.mp hd).1, he, ho⟩
    · exact hn.apart.sublist (List.filter_sublist.map _)
    · exact fun d hd => hn.next d (List.mem_filter.mp hd).1
    · rintro ⟨d, hd, rfl, ho⟩
      refine ⟨d, List.mem_filter.mpr ⟨hd, ?_⟩, rfl, ho⟩
      rw [bne_iff_ne]
      exact fun hid => hk (hid ▸ hkeeps)

/-- A channel that is not in the set owes nothing there. -/
theorem removeChannel_empties (m : Manager) (id : Nat) : ¬((removeChannel w id).perform m).2.1.Owes id := by
  cases hfind : m.channel? id with
  | none =>
    rw [removeChannel, perform_manager, hfind]
    rintro ⟨c, hc, hid, _⟩
    exact List.find?_eq_none.mp hfind c hc (by simpa using hid)
  | some c =>
    intro ho
    have heases : Eases (fun _ => True) _ ((removeChannel w id).perform m).2.1 := removeChannel_eases hfind
    obtain ⟨d, hd, hid, _⟩ := heases.owes id ho
    exact absurd hid (by simpa using (List.mem_filter.mp hd).2)

/-- What follows once a channel was given a new host. -/
theorem resetChannel_eases {call id : Nat} {c : Channel} (hc : m.channel? id = some c) :
    Eases keeps (m.setChannel (c.disconnect.1.renew w.newHost.toOption).1)
      ((resetChannel w call id).perform m).2.1 := by
  have hrest : ∀ (released : Option RegisteredDevice) (n : Manager), Calm keeps (do
      if released.isSome then Act.change stopListening
      cleanUp w call .call released) n := fun released _ =>
    .ite (.bind stopListening_calm fun _ _ => cleanUp_calm ..) (cleanUp_calm ..)
  rw [resetChannel, perform_manager, hc]
  refine Eases.bind (settleChannel_eases _ _) fun _ _ => ?_
  exact .ite (.bind (.emit _) fun _ _ => hrest ..) (hrest ..)

section

variable (hw : ∀ host, w.newHost = .ok host → host.queued = [])

include hw

theorem newHost_queued {host : Host} (h : w.newHost.toOption = some host) : host.queued = [] := by
  cases hnew : w.newHost with
  | error error =>
    rw [hnew] at h
    cases h
  | ok made =>
    rw [hnew] at h
    cases h
    exact hw _ hnew

theorem resetChannel_calm (call : Nat) {id : Nat}
    (hk : keeps id → ∀ c ∈ m.channels, c.id = id → c.hasFactory = false) :
    Calm keeps (resetChannel w call id) m := by
  cases hfind : m.channel? id with
  | none =>
    rw [Calm, resetChannel, perform_manager, hfind]
    exact endCall_calm ..
  | some c =>
    have hid : c.id = id := id_of_channel? hfind
    refine Eases.trans (setChannel_eases (.inl (channel?_mem hfind)) ?_) (resetChannel_eases hfind)
    refine c.disconnect_eases.trans (Channel.renew_eases (fun _ => newHost_queued hw) fun hkeeps => ?_)
    rw [Channel.disconnect_hasFactory]
    exact hk (hid ▸ hkeeps) c (channel?_mem hfind) hid

/-- A channel that is given a new host owes nothing of the old one, and nothing of the new one yet. -/
theorem resetChannel_empties (hn : m.Numbered) (call : Nat) {c : Channel} (hc : c ∈ m.channels)
    (hf : c.hasFactory = true) : ¬((resetChannel w call c.id).perform m).2.1.Owes c.id := by
  obtain ⟨found, hfind⟩ := Option.isSome_iff_exists.mp
    (List.find?_isSome.mpr ⟨c, hc, beq_self_eq_true c.id⟩ : (m.channel? c.id).isSome)
  have hid : found.id = c.id := id_of_channel? hfind
  obtain rfl : found = c := List.inj_on_of_nodup_map hn.apart (channel?_mem hfind) hc hid
  intro ho
  have heases : Eases (fun _ => True) _ ((resetChannel w call found.id).perform m).2.1 :=
    resetChannel_eases hfind
  obtain ⟨d, hd, hdid, ho⟩ := heases.owes _ ho
  rcases mem_map_put hd with ⟨rfl, _⟩ | ⟨_, hne⟩
  · rw [Channel.renew_owes (fun _ => newHost_queued hw) (by rwa [Channel.disconnect_hasFactory])] at ho
    cases ho
  · refine hne (hdid.trans (Eq.symm ?_))
    exact (found.disconnect_eases.trans (Channel.renew_eases (fun _ => newHost_queued hw)
      (fun h : False => h.elim))).id

end

theorem stopPolicy_calm (task : Task) : Calm keeps (stopPolicy w task) m := by
  unfold stopPolicy
  split
  · exact stopCall_calm _
  · exact .pure ()

theorem disconnectChannel_calm (id : Nat) : Calm keeps (disconnectChannel w id) m := by
  refine .manager ?_
  split
  · exact .pure ()
  · rename_i c hc
    refine .bind (settleChannel_calm (.inl (channel?_mem hc)) c.disconnect_eases _) fun _ _ => ?_
    exact .ite stopListening_calm (.pure ())

theorem shutdown_calm : Calm keeps (shutdown w) m := by
  refine .manager (.ite (.pure ()) (.bind (.change (.same rfl rfl rfl)) fun _ _ => ?_))
  refine .bind (.each (fun task _ => stopPolicy_calm task) _) fun _ _ => ?_
  refine .bind (.each (fun c _ => disconnectChannel_calm (Channel.id c)) _) fun _ _ => ?_
  exact .manager (.ite (.change (.same rfl rfl rfl)) (.pure ()))

/-! ## What comes from outside -/

theorem connectByPolicy_calm (device : RegisteredDevice) : Calm keeps (connectByPolicy device) m :=
  spawn_calm _

theorem arrive_calm (info : DeviceInfo) (arrival : Arrival) : Calm keeps (arrive info arrival) m := by
  have hauto : ∀ device n, Calm keeps (autoConnect device) n := fun device _ =>
    .manager (.ite (connectByPolicy_calm device) (.pure ()))
  refine .manager ?_
  split
  split
  · refine .bind (.change (.same rfl rfl rfl)) fun _ _ => ?_
    split
    · exact .bind (.emit _) fun _ _ => .ite (hauto ..) (.pure ())
    · exact .pure ()
  · exact .pure ()

theorem leave_calm (task : Nat) (key : DeviceKey) : Calm keeps (leave w task key) m := by
  refine .manager ?_
  split
  · exact endCall_calm ..
  · exact .bind (releaseDevice_calm key) fun _ _ => cleanUp_calm ..

theorem deviceFailed_calm (failure : Failure) : Calm keeps (deviceFailed w failure) m := by
  obtain ⟨device, released, fault⟩ := failure
  cases device with
  | none => exact .ite (.bind stopListening_calm fun _ _ => .pure ()) (.pure ())
  | some device =>
    exact .ite (.bind stopListening_calm fun _ _ => .bind (tidy_calm _) fun _ _ => .emit _) (.emit _)

theorem failBinding_calm (id binding : Nat) (fault : DeviceFault) :
    Calm keeps (failBinding w id binding fault) m := by
  refine .manager ?_
  split
  · exact .pure ()
  · rename_i c hc
    refine .bind (settleChannel_calm (.inl (channel?_mem hc)) (c.failBinding_eases binding fault) _)
      fun _ _ => ?_
    split
    · exact deviceFailed_calm _
    · exact .pure ()

theorem receive_calm (id : Nat) (payload : Wire.Payload) : Calm keeps (receive w id payload) m := by
  refine .manager ?_
  split
  · exact .pure _
  · rename_i c hc
    refine .bind (settleChannel_calm (.inl (channel?_mem hc)) (c.receive_eases payload) _) fun _ _ => ?_
    split
    · exact .pure _
    · exact .bind (deviceFailed_calm _) fun _ _ => .pure _

theorem flush_calm {id : Nat} (hk : ¬keeps id) : Calm keeps (flush id) m := by
  refine .manager ?_
  split
  · exact .pure ()
  · rename_i c hc
    have hid : c.id = id := id_of_channel? hc
    exact .change (setChannel_eases (.inl (channel?_mem hc)) (c.flush_eases (hid.symm ▸ hk)))

/-- A flush leaves nothing that the channel owes. -/
theorem flush_empties (m : Manager) (id : Nat) : ¬((flush id).perform m).2.1.Owes id := by
  rw [flush, perform_manager]
  cases hfind : m.channel? id with
  | none =>
    rintro ⟨c, hc, hid, _⟩
    exact List.find?_eq_none.mp hfind c hc (by simpa using hid)
  | some c =>
    have hid : c.id = id := id_of_channel? hfind
    rintro ⟨d, hd, he, ho⟩
    rcases mem_map_put hd with ⟨rfl, _⟩ | ⟨_, hne⟩
    · rw [Channel.flush_owes] at ho
      cases ho
    · exact hne (he.trans (hid.symm.trans (c.flush_eases not_false).id.symm))

theorem handleEvent_calm (task : Nat) {event : Event} (hk : ∀ id, event = .dataPending id → ¬keeps id) :
    Calm keeps (handleEvent w task event) m := by
  cases event with
  | arrived info => exact .bind (arrive_calm ..) fun _ _ => endCall_calm ..
  | left key => exact leave_calm task key
  | dataPending id => exact .bind (flush_calm (hk id rfl)) fun _ _ => endCall_calm ..
  | deviceFailed id binding fault => exact .bind (failBinding_calm ..) fun _ _ => endCall_calm ..

/-- When the event of a channel was handled, the channel owes nothing any more. -/
theorem handleEvent_empties (m : Manager) (task id : Nat) :
    ¬((handleEvent w task (.dataPending id)).perform m).2.1.Owes id := fun ho =>
  flush_empties m id ((endCall_calm task (.ok ()) : Calm (fun _ => True) _ _).owes id ho)

theorem start_calm (call : Nat) : Calm keeps (start call) m := by
  refine .manager (.ite (endCall_calm ..) (.bind (.change ?_) fun _ _ => .emit _))
  exact Eases.trans (setTask_eases m call (.enumerating none)) (.same rfl rfl rfl)

theorem enumerated_calm (call : Nat) (outcome : Except JobFault (List DeviceInfo)) :
    Calm keeps (enumerated w call outcome) m := by
  unfold enumerated
  split
  · exact endCall_calm ..
  · refine .bind (.each (fun info _ => arrive_calm info .coldplug) _) fun _ _ => ?_
    split
    · exact endCall_calm ..
    · exact .ite (.bind (.change (.same rfl rfl rfl)) fun _ _ => endCall_calm ..) (endCall_calm ..)

theorem begin_calm (id : Nat) : Calm keeps (begin w id) m := by
  refine .manager ?_
  split
  · exact beginConnect_calm ..
  · exact uninstall_calm ..
  · exact .pure ()

theorem jobDone_calm (id : Nat) (outcome : Except JobFault Unit) : Calm keeps (jobDone id outcome) m := by
  refine .manager ?_
  split
  · exact .change (setTask_eases ..)
  · exact .change (setTask_eases ..)
  · exact .pure ()

theorem enumerationDone_calm (id : Nat) (outcome : Except JobFault (List DeviceInfo)) :
    Calm keeps (enumerationDone id outcome) m := by
  refine .manager ?_
  split
  · exact .change (setTask_eases ..)
  · exact .pure ()

theorem resume_calm (id : Nat) : Calm keeps (resume w id) m := by
  refine .manager ?_
  split
  · exact bindAndConnect_calm ..
  · exact endConnect_calm ..
  · exact onChannel_calm (fun _ c => (Channel.spares_resume c id).eases (Channel.resume_id c id)) _
  · exact enumerated_calm ..
  · exact uninstalled_calm ..
  · exact .pure ()

/-- A channel that owes nothing comes into the set under the next number. -/
theorem added_eases {c : Channel} (hid : c.id = m.nextChannel) (ho : c.owes = false) :
    m.Eases keeps { m with channels := m.channels ++ [c], nextChannel := m.nextChannel + 1 } where
  queue := rfl
  owes := by
    rintro id ⟨d, hd, rfl, howes⟩
    rcases List.mem_append.mp hd with hd | hd
    · exact ⟨d, hd, rfl, howes⟩
    · rw [List.mem_singleton.mp hd, ho] at howes
      cases howes
  numbered hn := by
    refine ⟨?_, fun d hd => ?_⟩
    · rw [List.map_append]
      refine List.nodup_append.mpr ⟨hn.apart, List.nodup_singleton _, fun a ha b hb e => ?_⟩
      obtain ⟨d, hd, rfl⟩ := List.mem_map.mp ha
      have hlt := hn.next d hd
      have hsame : d.id = m.nextChannel := e.trans ((List.mem_singleton.mp hb).trans hid)
      exact absurd hsame (Nat.ne_of_lt hlt)
    · rcases List.mem_append.mp hd with hd | hd
      · exact Nat.lt_succ_of_lt (hn.next d hd)
      · rw [List.mem_singleton.mp hd, hid]
        exact Nat.lt_succ_self _
  kept _ _ _ := by
    rintro ⟨d, hd, hid, howes⟩
    exact ⟨d, List.mem_append_left _ hd, hid, howes⟩

/-- A channel that is added owes nothing yet. -/
theorem addChannel_calm (hw : ∀ host, w.newHost = .ok host → host.queued = []) (transport : Transport)
    (withHost : Bool) : Calm keeps (addChannel w transport withHost) m := by
  have hredirect : ∀ n, Calm keeps redirectOnConnect n := by
    intro n
    refine .manager ?_
    split
    · exact .pure ()
    · split
      · exact .pure ()
      · exact .ite (connectByPolicy_calm _) (.pure ())
  have hrest : ∀ n, Calm keeps (do
      redirectOnConnect
      return .ok m.nextChannel : Act (Except RedirectError Nat)) n := fun n =>
    .bind (hredirect n) fun _ _ => .pure _
  have hskipped : m.Eases keeps { m with nextChannel := m.nextChannel + 1 } :=
    ⟨rfl, fun _ ho => ho, fun hn => ⟨hn.apart, fun c hc => Nat.lt_succ_of_lt (hn.next c hc)⟩,
      fun _ _ _ ho => ho⟩
  cases withHost with
  | false => exact (added_eases rfl rfl).trans (hrest _)
  | true =>
    cases hnew : w.newHost with
    | error error =>
      rw [Calm, addChannel, perform_manager, hnew]
      exact hskipped
    | ok host =>
      rw [Calm, addChannel, perform_manager, hnew]
      refine (added_eases rfl ?_).trans (hrest _)
      simp [Channel.owes, hw host hnew]

/-! ## Turns -/

/-- The same move, but a host that does something on its own queues nothing. -/
def Move.quiet : Move → Move
  | .stir channel act => .stir channel fun host => { act host with queued := host.queued }
  | move => move

/-- The same turn, but no host queues anything in it, and new ones come with nothing queued. -/
def Turn.quiet (t : Turn) : Turn :=
  { t with move := t.move.quiet, newHost := t.newHost.map fun host => { host with queued := [] } }

/-- The move leaves the channel with nothing to send: an event of it is handled, so that its data are sent,
or it goes out of the set, or it gets a new host. -/
def Drains (m : Manager) (id : Nat) : Move → Prop
  | .handle event => event = .dataPending id
  | .nextEvent => m.loop = .waiting ∧ m.queue.waiting.head? = some (.dataPending id)
  | .removeChannel channel => channel = id
  | .resetChannel channel => channel = id ∧ ∃ c ∈ m.channels, c.id = id ∧ c.hasFactory = true
  | _ => False

/-- No channel owes data that owed none, and as long as one owes data the loop goes on waiting for its event
if it did. Those under the numbers that are kept still owe what they owed. -/
structure Attends (keeps : Nat → Prop) (m n : Manager) : Prop where
  owes : ∀ id, n.Owes id → m.Owes id
  waiting : ∀ id, n.Owes id → .dataPending id ∈ m.queue.waiting → .dataPending id ∈ n.queue.waiting
  receiver : n.queue.receiverGone = m.queue.receiverGone
  numbered : m.Numbered → n.Numbered
  kept : m.Numbered → ∀ id, keeps id → m.Owes id → n.Owes id

theorem Eases.attends (h : m.Eases keeps n) : m.Attends keeps n where
  owes := h.owes
  waiting _ _ hw := h.queue ▸ hw
  receiver := congrArg EventQueue.receiverGone h.queue
  numbered := h.numbered
  kept := h.kept

theorem post_attends (m : Manager) (event : Event) : m.Attends keeps (m.post event) where
  owes _ ho := ho
  numbered hn := ⟨hn.apart, hn.next⟩
  kept _ _ _ ho := ho
  waiting _ _ hw := by
    rw [post, EventQueue.post]
    split
    · exact hw
    · split
      · exact hw
      · exact List.mem_append_left _ hw
  receiver := by
    rw [post, EventQueue.post]
    split
    · rfl
    · split <;> rfl

/-- What the loop makes of the first event that waits. -/
theorem nextEvent_eases {event : Event} {waiting : List Event} (hloop : m.loop = .waiting)
    (hwaiting : m.queue.waiting = event :: waiting) (hk : ∀ id, event = .dataPending id → ¬keeps id) :
    Eases keeps { m with queue := { m.queue with waiting } } ((nextEvent w).perform m).2.1 := by
  have htake : m.queue.take? = ({ m.queue with waiting }, some event) := by
    rw [EventQueue.take?, hwaiting]
  rw [nextEvent, perform_manager, if_pos hloop, htake]
  exact Eases.trans (n := { m.takeNumber.1 with
    queue := { m.queue with waiting }, loop := .handling m.nextTask }) (.same rfl rfl rfl)
    (handleEvent_calm m.nextTask hk)

/-- When the loop takes the event of a channel, the channel owes nothing any more. -/
theorem nextEvent_empties {id : Nat} {waiting : List Event} (hloop : m.loop = .waiting)
    (hwaiting : m.queue.waiting = .dataPending id :: waiting) :
    ¬((nextEvent w).perform m).2.1.Owes id := by
  have htake : m.queue.take? = ({ m.queue with waiting }, some (.dataPending id)) := by
    rw [EventQueue.take?, hwaiting]
  rw [nextEvent, perform_manager, if_pos hloop, htake]
  exact handleEvent_empties (w := w) _ m.nextTask id

theorem nextEvent_attends :
    m.Attends (fun id => ¬m.Drains id .nextEvent) ((nextEvent w).perform m).2.1 := by
  by_cases hloop : m.loop = .waiting
  · cases hwaiting : m.queue.waiting with
    | nil =>
      have htake : m.queue.take? = (m.queue, none) := by rw [EventQueue.take?, hwaiting]
      rw [nextEvent, perform_manager, if_pos hloop, htake]
      exact (Calm.pure ()).attends
    | cons event waiting =>
      have heases : Eases (fun id => ¬m.Drains id .nextEvent) { m with queue := { m.queue with waiting } }
          ((nextEvent w).perform m).2.1 := by
        refine nextEvent_eases hloop hwaiting ?_
        rintro id rfl hk
        exact hk ⟨hloop, by rw [hwaiting]; rfl⟩
      refine ⟨heases.owes, fun id ho hw => ?_, by rw [heases.queue],
        fun hn => heases.numbered ⟨hn.apart, hn.next⟩, fun hn => heases.kept ⟨hn.apart, hn.next⟩⟩
      rw [heases.queue]
      rcases List.mem_cons.mp (hwaiting ▸ hw) with rfl | hw
      · exact absurd ho (nextEvent_empties hloop hwaiting)
      · exact hw
  · rw [nextEvent, perform_manager, if_neg hloop]
    exact (Calm.pure ()).attends

theorem act_attends (hw : ∀ host, w.newHost = .ok host → host.queued = []) (move : Move) :
    m.Attends (fun id => ¬m.Drains id move) ((move.quiet.act w).perform m).2.1 := by
  have hnumber : ∀ (keeps : Nat → Prop) n, Calm keeps number n := fun _ _ => .same rfl rfl rfl
  cases move with
  | connect key stopped =>
    exact (Calm.bind (hnumber _ m) fun _ _ => .change (setTask_eases ..)).attends
  | begin task => exact (begin_calm task).attends
  | stop call => exact (stopCall_calm call).attends
  | abandon call => exact (abandon_calm call).attends
  | jobDone task outcome => exact (jobDone_calm task outcome).attends
  | enumerationDone task outcome => exact (enumerationDone_calm task outcome).attends
  | resume task => exact (resume_calm task).attends
  | signal channel call heard =>
    exact (onChannel_calm (fun _ c => (Channel.spares_signal c call heard).eases
      (Channel.signal_id c call heard)) channel).attends
  | opened channel call ticket outcome =>
    exact (onChannel_calm (fun _ c => (Channel.spares_opened c call _).eases
      (Channel.opened_id c call _)) channel).attends
  | disconnect key => exact (Calm.bind (disconnect_calm key) fun _ _ => .pure ()).attends
  | disconnectAndWait key =>
    exact (Calm.bind (hnumber _ m) fun _ _ =>
      .bind (releaseDevice_calm key) fun _ _ => cleanUp_calm ..).attends
  | addChannel transport withHost =>
    exact (Calm.bind (addChannel_calm hw transport withHost) fun _ _ => .pure ()).attends
  | removeChannel channel =>
    exact (Calm.bind (removeChannel_calm fun hk => hk rfl) fun _ _ => .pure ()).attends
  | resetChannel channel =>
    have hreset : Calm (fun id => ¬m.Drains id (.resetChannel channel))
        (resetChannel w m.nextTask channel) m.takeNumber.1 :=
      resetChannel_calm hw m.nextTask fun hk c hc hid =>
        Bool.eq_false_iff.mpr fun hf => hk ⟨rfl, c, hc, hid, hf⟩
    exact (Eases.trans (hnumber _ m) hreset).attends
  | receive channel payload =>
    exact (Calm.bind (receive_calm channel payload) fun _ _ => .pure ()).attends
  | stir channel act =>
    exact (onChannel_calm (fun _ c => Channel.stir_eases
      (fun host => { act host with queued := host.queued }) (fun _ => rfl) c 0) channel).attends
  | post event => exact post_attends m event
  | handle event =>
    exact (Calm.bind (hnumber _ m) fun _ _ => handleEvent_calm _ fun id he hk => hk he).attends
  | nextEvent => exact nextEvent_attends
  | endLoop =>
    refine (Calm.change (f := fun m => _) ?_).attends
    split <;> exact .same rfl rfl rfl
  | start => exact (Calm.bind (hnumber _ m) fun call _ => start_calm call).attends
  | shutdown => exact shutdown_calm.attends
  | configure f => exact (Calm.change (.same rfl rfl rfl)).attends

theorem Turn.quiet_newHost (t : Turn) (drivers : Bool) (host : Host)
    (h : (t.quiet.surroundings drivers).newHost = .ok host) : host.queued = [] := by
  obtain ⟨move, inRuntime, launch, newHost, subscription⟩ := t
  cases newHost with
  | error error => cases h
  | ok made =>
    cases h
    rfl

/-- In a turn in which the hosts queue nothing, no channel comes to owe data, and the loop gives up the event
of a channel only if the channel owes nothing any more. Only a move that drains it takes its data away. -/
theorem turn_attends (m : Manager) (drivers : Bool) (t : Turn) :
    m.Attends (fun id => ¬m.Drains id t.move) (m.turn drivers t.quiet).1 :=
  act_attends (t.quiet_newHost drivers) t.move

/-- A channel that is drained owes nothing afterwards. -/
theorem turn_drained (hn : m.Numbered) (drivers : Bool) {t : Turn} {id : Nat} (hd : m.Drains id t.move) :
    ¬(m.turn drivers t.quiet).1.Owes id := by
  have hw := t.quiet_newHost drivers
  change ¬((t.move.quiet.act (t.quiet.surroundings drivers)).perform m).2.1.Owes id
  generalize t.quiet.surroundings drivers = w at hw ⊢
  generalize t.move = move at hd ⊢
  cases move with
  | handle event =>
    obtain rfl : event = .dataPending id := hd
    exact handleEvent_empties (w := w) m.takeNumber.1 m.nextTask id
  | nextEvent =>
    obtain ⟨hloop, hhead⟩ := hd
    obtain ⟨waiting, hwaiting⟩ := List.head?_eq_some_iff.mp hhead
    exact nextEvent_empties hloop hwaiting
  | removeChannel channel =>
    obtain rfl : channel = id := hd
    exact removeChannel_empties m channel
  | resetChannel channel =>
    obtain ⟨rfl, c, hc, rfl, hf⟩ := hd
    exact resetChannel_empties (m := m.takeNumber.1) hw ⟨hn.apart, hn.next⟩ m.nextTask hc hf
  | _ => cases hd

/-- What a host queues makes no other channel owe data, and takes none away. -/
structure Queues (channel : Nat) (m n : Manager) : Prop where
  queue : n.queue = m.queue
  owes : ∀ id, id ≠ channel → n.Owes id → m.Owes id
  numbered : m.Numbered → n.Numbered
  kept : m.Numbered → ∀ id, m.Owes id → n.Owes id

theorem stir_queues (m : Manager) (drivers : Bool) (channel : Nat) (bytes : Bytes) :
    m.Queues channel (m.turn drivers { move := .stir channel (·.queue bytes) }).1 := by
  change Queues channel m ((onChannel _ channel _).perform m).2.1
  rw [onChannel, perform_manager]
  cases hfind : m.anyChannel? channel with
  | none => exact ⟨rfl, fun _ _ ho => ho, fun hn => hn, fun _ _ ho => ho⟩
  | some c =>
    have hid : c.id = channel := id_of_anyChannel? hfind
    refine ⟨rfl, ?_, fun hn => hn.setChannel _, fun hn id => ?_⟩
    · rintro id hne ⟨d, hd, rfl, ho⟩
      rcases mem_map_put hd with ⟨rfl, _⟩ | ⟨hd, _⟩
      · exact absurd hid hne
      · exact ⟨d, hd, rfl, ho⟩
    · exact setChannel_keeps hn (anyChannel?_mem hfind) rfl fun _ => Channel.stir_queue_owes 0 bytes

end Manager
end RemoteUsb
