import RemoteUsb.Proofs.Channel.Sections
import RemoteUsb.Proofs.Manager.Silence

/-! # Calls that are overtaken

A call that disconnects a device finds its channel under one lock and takes the device off under another.
A call that hands over a message finds under one lock that the device failed and takes it off under
another. In its second section neither of them asks what has become of the channel since the first. So
others may be quicker: they disconnect the device and connect another one, and then it is this one that is
taken off. `late_calls_hit` shows both. `hits_unless_overtaken` says that nothing else can go wrong: a call
takes off what it is meant for exactly if nobody has bound anything else there that is connected by then. A
call whose sections follow one another at once is never overtaken. -/

namespace RemoteUsb

namespace Channel

variable {c : Channel}

theorem disconnect_eq_some {device : RegisteredDevice} :
    c.disconnect.2.2 = some device ↔ c.state = .connected ∧ c.device = some device := by
  unfold disconnect
  split <;> simp_all

theorem failDevice_eq (c : Channel) (fault : DeviceFault) :
    (c.failDevice fault).2.2 = { device := c.device, released := c.state == .connected, fault } := by
  unfold failDevice
  split <;> simp_all

theorem failDevice_of_connected (h : c.state = .connected) (fault : DeviceFault) :
    c.failDevice fault = (c.release.1, c.release.2, { device := c.device, released := true, fault }) := by
  rw [failDevice, h]

/-- A failure that a message causes is what comes of taking the device off after the message was heard. -/
theorem receive_eq {payload : Wire.Payload} {failure : Failure} (h : (c.receive payload).2.2 = some failure) :
    ∃ fault, (c.hear payload).2 = some fault ∧
      c.receive payload = (((c.hear payload).1.failDevice fault).1,
        ((c.hear payload).1.failDevice fault).2.1, some ((c.hear payload).1.failDevice fault).2.2) := by
  unfold receive at h ⊢
  generalize c.hear payload = heard at h ⊢
  obtain ⟨d, fault⟩ := heard
  cases fault with
  | none => cases h
  | some fault => exact ⟨fault, rfl, rfl⟩

end Channel

namespace Manager

/-- What is done by somebody who has a lock, be it that of the set of channels or that of one of them. -/
inductive Hold where
  /-- A channel comes into the set. -/
  | add (transport : Transport) (threshold : Nat) (host : Option Host)
  /-- A channel is taken out. Whoever found it before still has it. -/
  | remove (id : Nat)
  | work (id : Nat) (w : Channel.Section)
  /-- A failure that was reported under a binding is dealt with. -/
  | report (id binding : Nat) (fault : DeviceFault)

def Hold.binds (id : Nat) : Hold → Option RegisteredDevice
  | .work other w => if id = other then w.binds else none
  | _ => none

/-- What somebody who has the lock of a channel makes of it. -/
def lock (m : Manager) (id : Nat) (f : Channel → Channel) : Manager :=
  match m.anyChannel? id with
  | none => m
  | some c => m.setChannel (f c)

/-- What becomes of the manager. -/
def held (m : Manager) : Hold → Manager
  | .add transport threshold host =>
    { m with
      channels := m.channels ++
        [{ id := m.nextChannel, transport, threshold, host, hasFactory := host.isSome }]
      nextChannel := m.nextChannel + 1 }
  | .remove id =>
    match m.channel? id with
    | none => m
    | some c => { m with channels := m.channels.filter (·.id != id), retired := m.retired ++ [c] }
  | .work id w => m.lock id (·.locked w)
  | .report id binding fault => m.lock id fun c => (c.failBinding binding fault).1

def moment (m : Manager) (row : List Hold) (n : Nat) : Manager := (row.take n).foldl held m

def deviceOn? (m : Manager) (id : Nat) : Option RegisteredDevice := (m.anyChannel? id).bind (·.device)

/-- A call disconnects the device under a key. It goes through the set, and at the moment `i` it comes to a
channel to which the device is bound; at the moment `j` it has that channel disconnect, and answers what
was taken off. -/
structure Disconnects (m : Manager) (row : List Hold) (key : DeviceKey) (id i j : Nat)
    (released : Option RegisteredDevice) : Prop where
  found : ∃ c ∈ (m.moment row i).channels, c.id = id ∧ c.key? = some key
  later : i ≤ j
  acts : row[j]? = some (.work id .disconnect)
  answers : ((m.moment row j).anyChannel? id).map (·.disconnect.2.2) = some released

/-- A call hands over a message. At the moment `i`, when the channel is `c`, the device fails at it; at the
moment `j`, when the channel is `d`, the device is taken off, and the failure is answered. -/
structure Faults (m : Manager) (row : List Hold) (id i j : Nat) (c d : Channel) (failure : Failure) :
    Prop where
  before : (m.moment row i).anyChannel? id = some c
  after : (m.moment row j).anyChannel? id = some d
  later : i < j
  acts : ∃ payload fault, row[i]? = some (.work id (.hear payload)) ∧ (c.hear payload).2 = some fault ∧
    row[j]? = some (.work id (.failDevice fault)) ∧ (d.failDevice fault).2.2 = failure

/-- Between two moments somebody binds a device to a channel, and at the second one it is still bound, and
connected. -/
structure Overtakes (m : Manager) (row : List Hold) (id i j : Nat) (device : RegisteredDevice) : Prop where
  bound : ∃ k, i ≤ k ∧ k < j ∧ row[k]? = some (.work id (.bind device)) ∧
    (m.moment row k).deviceOn? id = none ∧
    ∀ n, k < n → n ≤ j → (m.moment row n).deviceOn? id = some device
  connected : ((m.moment row j).anyChannel? id).map (·.state) = some .connected

variable {m : Manager} {row : List Hold} {id i j n : Nat} {c d : Channel} {device : RegisteredDevice}

theorem moment_succ {h : Hold} (hrow : row[n]? = some h) : m.moment row (n + 1) = (m.moment row n).held h :=
  Channel.foldl_take_succ hrow

theorem moment_end (hrow : row[n]? = none) : m.moment row (n + 1) = m.moment row n :=
  Channel.foldl_take_end hrow

/-! ## One section -/

/-- The channels have numbers of their own. -/
def Apart (m : Manager) : Prop := Labelled m.channels m.retired m.nextChannel

theorem Apart.lock (hm : m.Apart) (id : Nat) (f : Channel → Channel) : (m.lock id f).Apart := by
  unfold Manager.lock
  split
  · exact hm
  · exact Labelled.put hm _

theorem Apart.held (hm : m.Apart) (h : Hold) : (m.held h).Apart := by
  cases h with
  | add => exact Labelled.add hm rfl
  | remove id =>
    unfold Manager.held
    dsimp only
    split
    · exact hm
    · rename_i c hfind
      have hid : c.id = id := id_of_channel? hfind
      exact hid ▸ Labelled.remove hm (List.mem_of_find?_eq_some hfind)
  | work id w => exact hm.lock id _
  | report id binding fault => exact hm.lock id _

theorem lock_of_some {f : Channel → Channel} (hc : m.anyChannel? id = some c) :
    m.lock id f = m.setChannel (f c) := by
  rw [lock, hc]

/-- Who has the lock of a channel changes that channel and no other. -/
theorem anyChannel?_lock {other : Nat} {f : Channel → Channel} (hf : ∀ c, (f c).id = c.id)
    (hc : m.anyChannel? id = some c) :
    (m.lock other f).anyChannel? id = some (if id = other then f c else c) := by
  have hid : c.id = id := id_of_anyChannel? hc
  cases ho : m.anyChannel? other with
  | none =>
    have hne : id ≠ other := by
      rintro rfl
      cases hc.symm.trans ho
    rw [lock, ho, if_neg hne]
    exact hc
  | some o =>
    have hoid : o.id = other := id_of_anyChannel? ho
    have hsame : (·.id == id) ∘ put (f o) = (·.id == id) := by
      funext x
      rw [Function.comp_apply, put_id]
    rw [lock_of_some ho]
    change (m.channels.map (put (f o)) ++ m.retired.map (put (f o))).find? (·.id == id) = _
    rw [← List.map_append, List.find?_map, hsame]
    change (m.anyChannel? id).map (put (f o)) = _
    rw [hc, Option.map_some, put, hf, hid, hoid]
    split
    · rename_i heq
      subst heq
      cases ho.symm.trans hc
      rfl
    · rfl

theorem anyChannel?_lock_self {f : Channel → Channel} (hf : ∀ c, (f c).id = c.id)
    (hc : m.anyChannel? id = some c) : (m.lock id f).anyChannel? id = some (f c) := by
  rw [anyChannel?_lock hf hc, if_pos rfl]

/-- Two sections in a row on one channel put it back once. -/
theorem lock_lock {f g : Channel → Channel} (hf : ∀ c, (f c).id = c.id) (hg : ∀ c, (g c).id = c.id)
    (hc : m.anyChannel? id = some c) :
    ((m.lock id f).lock id g).channels = (m.setChannel (g (f c))).channels := by
  rw [lock_of_some (anyChannel?_lock_self hf hc), lock_of_some hc]
  change (m.channels.map (put (f c))).map (put _) = m.channels.map (put _)
  rw [List.map_map]
  exact List.map_congr_left fun x _ => put_put (hg (f c)).symm x

/-- A channel lasts, and its bindings follow one another. -/
theorem held_turnover (hm : m.Apart) (h : Hold) (hc : m.anyChannel? id = some c) :
    ∃ d, (m.held h).anyChannel? id = some d ∧ Channel.Turnover c (h.binds id) d := by
  have hid : c.id = id := id_of_anyChannel? hc
  have hin : c ∈ m.channels ++ m.retired := mem_of_anyChannel? hc
  have hstays : c ∈ (m.held h).channels ++ (m.held h).retired →
      ∃ d, (m.held h).anyChannel? id = some d ∧ Channel.Turnover c (h.binds id) d :=
    fun hmem => ⟨c, hid ▸ Labelled.anyChannel? (hm.held h) hmem, .kept rfl rfl rfl⟩
  cases h with
  | add =>
    refine hstays ?_
    show c ∈ m.channels ++ [_] ++ m.retired
    simp only [List.mem_append] at hin ⊢
    exact hin.imp .inl fun hin => hin
  | remove other =>
    refine hstays ?_
    unfold Manager.held
    dsimp only
    split
    · exact hin
    · rename_i o ho
      have hoid : o.id = other := id_of_channel? ho
      simp only [List.mem_append, List.mem_filter, List.mem_singleton] at hin ⊢
      by_cases hco : c.id = other
      · have heq : c = o := Labelled.eq hm (List.mem_append.mpr hin) (mem_of_channel? ho) (hco.trans hoid.symm)
        exact .inr (.inr heq)
      · exact hin.imp (fun hin => ⟨hin, by simpa using hco⟩) .inl
  | work other w =>
    refine ⟨_, anyChannel?_lock (fun c => (Channel.locked_turnover c w).id) hc, ?_⟩
    unfold Hold.binds
    dsimp only
    split
    · exact Channel.locked_turnover c w
    · exact .kept rfl rfl rfl
  | report other binding fault =>
    refine ⟨_, anyChannel?_lock (fun c => (Channel.failBinding_shaken c binding fault).id) hc, ?_⟩
    split
    · exact (Channel.failBinding_shaken c binding fault).turnover
    · exact .kept rfl rfl rfl

/-! ## A row of sections -/

theorem Apart.moment (hm : m.Apart) (row : List Hold) (n : Nat) : (m.moment row n).Apart :=
  List.foldlRecOn _ _ hm fun _ hm h _ => hm.held h

theorem moment_turnover (hm : m.Apart) (hc : (m.moment row n).anyChannel? id = some c) :
    ∃ d, (m.moment row (n + 1)).anyChannel? id = some d ∧
      Channel.Turnover c (row[n]?.bind (Hold.binds id)) d := by
  cases hrow : row[n]? with
  | none =>
    rw [moment_end hrow]
    exact ⟨c, hc, .kept rfl rfl rfl⟩
  | some h =>
    rw [moment_succ hrow]
    exact held_turnover (hm.moment row n) h hc

/-- From the moment at which it is found, a channel is there at every moment. -/
theorem exists_turnovers (hm : m.Apart) (hc : (m.moment row i).anyChannel? id = some c) :
    ∃ s : Nat → Channel, (∀ n, i ≤ n → (m.moment row n).anyChannel? id = some (s n)) ∧
      Channel.Turnovers s (fun n => row[n]?.bind (Hold.binds id)) i := by
  let s (n : Nat) : Channel := ((m.moment row n).anyChannel? id).getD c
  have hs : ∀ n, i ≤ n → (m.moment row n).anyChannel? id = some (s n) := by
    intro n hin
    induction hin with
    | refl => rw [show s i = c by simp only [s, hc, Option.getD_some], hc]
    | @step n _ ih =>
      obtain ⟨d, hd, _⟩ := moment_turnover hm ih
      change (m.moment row (n + 1)).anyChannel? id = some (s (n + 1))
      simp only [s, hd, Option.getD_some]
  refine ⟨s, hs, fun n hin => ?_⟩
  obtain ⟨d, hd, hturn⟩ := moment_turnover hm (hs n hin)
  have hnext : d = s (n + 1) := Option.some.inj (hd.symm.trans (hs (n + 1) (Nat.le_succ_of_le hin)))
  exact hnext ▸ hturn

theorem binds_eq (h : row[n]?.bind (Hold.binds id) = some device) :
    row[n]? = some (.work id (.bind device)) := by
  cases hrow : row[n]? with
  | none => rw [hrow] at h; cases h
  | some hold =>
    rw [hrow] at h
    cases hold with
    | work other w =>
      unfold Option.bind Hold.binds at h
      dsimp only at h
      split at h
      · rename_i heq
        cases w with
        | bind bound => cases h; rw [heq]
        | _ => cases h
      · cases h
    | _ => cases h

/-! ## Overtaking -/

/-- What is connected in the end was bound there from the beginning, or somebody was quicker. -/
theorem same_or_overtaken (hm : m.Apart) (hij : i ≤ j) (hc : (m.moment row i).anyChannel? id = some c)
    (hd : (m.moment row j).anyChannel? id = some d) (hstate : d.state = .connected)
    (hdevice : d.device = some device) :
    c.binding = d.binding ∧ c.device = some device ∨ m.Overtakes row id i j device := by
  obtain ⟨s, hs, hrow⟩ := exists_turnovers hm hc
  obtain rfl : s i = c := Option.some.inj ((hs i (Nat.le_refl i)).symm.trans hc)
  obtain rfl : s j = d := Option.some.inj ((hs j hij).symm.trans hd)
  by_cases hb : (s i).binding = (s j).binding
  · exact .inl ⟨hb, (hrow.device_eq hij hb).symm.trans hdevice⟩
  · obtain ⟨k, hik, hsince⟩ := hrow.bound_since hij hb hdevice
    refine .inr ⟨⟨k, hik, hsince.before, binds_eq hsince.binds, ?_, fun n hkn hnj => ?_⟩, ?_⟩
    · rw [deviceOn?, hs k hik]
      exact hsince.free
    · rw [deviceOn?, hs n (Nat.le_trans hik (Nat.le_of_lt hkn))]
      exact (hsince.stays n hkn hnj).1
    · rw [hd, Option.map_some, hstate]

/-- Who was quicker has the channel, under a binding of its own. -/
theorem Overtakes.later (hm : m.Apart) (h : m.Overtakes row id i j device)
    (hc : (m.moment row i).anyChannel? id = some c) (hd : (m.moment row j).anyChannel? id = some d) :
    c.binding < d.binding ∧ d.device = some device ∧ d.state = .connected := by
  obtain ⟨⟨k, hik, hkj, _, hfree, hstays⟩, hstate⟩ := h
  obtain ⟨s, hs, hrow⟩ := exists_turnovers hm hc
  obtain rfl : s i = c := Option.some.inj ((hs i (Nat.le_refl i)).symm.trans hc)
  obtain rfl : s j = d :=
    Option.some.inj ((hs j (Nat.le_trans hik (Nat.le_of_lt hkj))).symm.trans hd)
  rw [deviceOn?, hs k hik] at hfree
  have hbound : ∀ n, k < n → n ≤ j → (s n).device = some device := fun n hkn hnj => by
    have hn := hstays n hkn hnj
    rwa [deviceOn?, hs n (Nat.le_trans hik (Nat.le_of_lt hkn))] at hn
  have hnext := hbound (k + 1) (Nat.lt_succ_self k) hkj
  have hturn : (s (k + 1)).binding = (s k).binding + 1 := by
    cases hrow k hik with
    | kept _ hkept => cases (hkept.trans hfree).symm.trans hnext
    | bound _ _ _ _ _ hb => exact hb
    | released _ hnone => cases hnone.symm.trans hnext
  have hlater : (s i).binding < (s j).binding := calc
    (s i).binding ≤ (s k).binding := hrow.binding_le hik
    _ < (s (k + 1)).binding := Nat.lt_of_succ_le (Nat.le_of_eq hturn.symm)
    _ ≤ (s j).binding := (hrow.from (Nat.le_succ_of_le hik)).binding_le hkj
  rw [hd] at hstate
  exact ⟨hlater, hbound j hkj (Nat.le_refl j), Option.some.inj hstate⟩

/-- Whatever is true of the device that was there is true of every device that may be taken off, exactly if
it is true of those that were quicker. -/
theorem all_connected_iff (hm : m.Apart) (hij : i ≤ j) (hc : (m.moment row i).anyChannel? id = some c)
    (hd : (m.moment row j).anyChannel? id = some d) {P : RegisteredDevice → Prop}
    (hP : ∀ device, c.device = some device → P device) :
    (∀ device, d.state = .connected → d.device = some device → P device) ↔
      ∀ device, m.Overtakes row id i j device → P device := by
  constructor
  · intro h device hover
    obtain ⟨_, hdevice, hstate⟩ := hover.later hm hc hd
    exact h device hstate hdevice
  · intro h device hstate hdevice
    rcases same_or_overtaken hm hij hc hd hstate hdevice with ⟨_, hsame⟩ | hover
    · exact hP device hsame
    · exact h device hover

theorem Disconnects.hits_iff (hm : m.Apart) {key : DeviceKey} {released : Option RegisteredDevice}
    (h : m.Disconnects row key id i j released) :
    (∀ device, released = some device → device.key = key) ↔
      ∀ device, m.Overtakes row id i j device → device.key = key := by
  obtain ⟨c, hin, rfl, hkey⟩ := h.found
  obtain ⟨d, hd, rfl⟩ := Option.map_eq_some_iff.mp h.answers
  have hc : (m.moment row i).anyChannel? c.id = some c :=
    Labelled.anyChannel? (hm.moment row i) (List.mem_append_left _ hin)
  have hP : ∀ device, c.device = some device → device.key = key := fun device hdevice => by
    rw [Channel.key?, hdevice] at hkey
    exact Option.some.inj hkey
  simp only [Channel.disconnect_eq_some, and_imp]
  exact all_connected_iff hm h.later hc hd hP

theorem Faults.hits_iff (hm : m.Apart) {failure : Failure} (h : m.Faults row id i j c d failure) :
    ((∀ device, failure.released = true → failure.device = some device →
        c.binding = d.binding ∧ c.device = some device) ↔ ∀ device, ¬m.Overtakes row id i j device) ∧
    ((∀ device, failure.released = true → failure.device = some device → c.device = some device) ↔
      ∀ device, m.Overtakes row id i j device → c.device = some device) := by
  obtain ⟨_, fault, _, _, _, rfl⟩ := h.acts
  simp only [Channel.failDevice_eq, beq_iff_eq]
  have hij := Nat.le_of_lt h.later
  refine ⟨⟨fun hhits device hover => ?_, fun hnone device hstate hdevice => ?_⟩, ?_⟩
  · obtain ⟨hlt, hdevice, hstate⟩ := hover.later hm h.before h.after
    exact Nat.ne_of_lt hlt (hhits device hstate hdevice).1
  · exact (same_or_overtaken hm hij h.before h.after hstate hdevice).resolve_right (hnone device)
  · exact all_connected_iff hm hij h.before h.after fun _ hdevice => hdevice

/-- Nobody is quicker than a call that does not let go in between. -/
theorem not_overtaken (hrow : ∀ k, i ≤ k → k < j → ∀ device, row[k]? ≠ some (.work id (.bind device))) :
    ¬m.Overtakes row id i j device := by
  rintro ⟨⟨k, hik, hkj, hbind, _⟩, _⟩
  exact hrow k hik hkj device hbind

theorem new_apart (addressing : Addressing) (settings : Settings) : (new addressing settings).Apart :=
  ⟨List.nodup_nil, fun _ hc => absurd hc List.not_mem_nil⟩

/-- Whatever is done under locks, and in whatever order: a call that disconnects the device under a key
takes off no other device, exactly if whatever has been bound to the channel since the call found it, and
is connected when the call disconnects it, is under that key too. A message at which the device fails takes
off what was bound under the binding at which it failed, exactly if nothing has been bound since that is
connected by then; and it takes off the same device, though perhaps under a later binding, exactly if
nothing but that device has. -/
theorem hits_unless_overtaken (addressing : Addressing) (settings : Settings) (row : List Hold) :
    let m := new addressing settings
    (∀ key id i j released, m.Disconnects row key id i j released →
      ((∀ device, released = some device → device.key = key) ↔
        ∀ device, m.Overtakes row id i j device → device.key = key)) ∧
    ∀ id i j c d failure, m.Faults row id i j c d failure →
      ((∀ device, failure.released = true → failure.device = some device →
          c.binding = d.binding ∧ c.device = some device) ↔ ∀ device, ¬m.Overtakes row id i j device) ∧
      ((∀ device, failure.released = true → failure.device = some device → c.device = some device) ↔
        ∀ device, m.Overtakes row id i j device → c.device = some device) := by
  intro m
  have hm : m.Apart := new_apart addressing settings
  exact ⟨fun _ _ _ _ _ h => h.hits_iff hm, fun _ _ _ _ _ _ h => h.hits_iff hm⟩

/-! ## Late calls -/

def deviceAt (address : UInt8) : RegisteredDevice :=
  ⟨.busAddress 1 address, { bus := 1, address }, .hotplug⟩

/-- The sections of a call that connects a device without asking anybody. -/
def connectRow (call : Nat) (device : RegisteredDevice) : List Channel.Section :=
  [.bind device, .begin call false, .opened call (.ok ⟨device.key, call⟩), .resume call]

/-- A channel is added, a device is connected to it, and more is done there. -/
def connectedAnd (more : List Channel.Section) : List Hold :=
  .add (.recording true false) 1000 (some {}) :: (connectRow 0 (deviceAt 2) ++ more).map (.work 1)

/-- A message comes that cannot be read. Then the device is disconnected and another one is connected,
and only then comes what is left of some call. -/
def crossed (last : Channel.Section) : List Hold :=
  connectedAnd ([.hear (.compressed .lz4 0 []), .disconnect] ++ connectRow 1 (deviceAt 3) ++ [last])

/-- A call that disconnects the first device and a message at which it fails both take the second one
off. -/
theorem late_calls_hit :
    let m := new .busAddress {}
    (m.Disconnects (crossed .disconnect) (deviceAt 2).key 1 5 11 (some (deviceAt 3)) ∧
      (deviceAt 3).key ≠ (deviceAt 2).key) ∧
    ∃ c d failure, m.Faults (crossed (.failDevice .parse)) 1 5 11 c d failure ∧
      failure.released = true ∧ failure.device = some (deviceAt 3) ∧ c.device = some (deviceAt 2) ∧
      c.binding ≠ d.binding := by
  intro m
  have hdisconnects : m.Disconnects (crossed .disconnect) (deviceAt 2).key 1 5 11 (some (deviceAt 3)) :=
    ⟨by decide +kernel, by decide, rfl, by decide +kernel⟩
  refine ⟨⟨hdisconnects, by decide⟩, ?_⟩
  let row := crossed (.failDevice .parse)
  obtain ⟨c, hc⟩ : ∃ c, (m.moment row 5).anyChannel? 1 = some c :=
    Option.isSome_iff_exists.mp (by decide +kernel)
  obtain ⟨d, hd⟩ : ∃ d, (m.moment row 11).anyChannel? 1 = some d :=
    Option.isSome_iff_exists.mp (by decide +kernel)
  have hbefore : ((m.moment row 5).anyChannel? 1).map (fun c => (c.device, c.binding)) =
      some (some (deviceAt 2), 1) := by decide +kernel
  have hafter : ((m.moment row 11).anyChannel? 1).map (fun d => ((d.failDevice .parse).2.2, d.binding)) =
      some (⟨some (deviceAt 3), true, .parse⟩, 3) := by decide +kernel
  simp only [hc, hd, Option.map_some, Option.some.injEq, Prod.mk.injEq] at hbefore hafter
  refine ⟨c, d, _, ⟨hc, hd, by decide, _, .parse, rfl, rfl, rfl, hafter.1⟩, rfl, rfl, hbefore.1, ?_⟩
  rw [hbefore.2, hafter.2]
  decide

/-- In time, the same calls take the first device off. -/
theorem prompt_calls_hit :
    let m := new .busAddress {}
    (m.Disconnects (connectedAnd [.disconnect]) (deviceAt 2).key 1 5 5 (some (deviceAt 2)) ∧
      ∀ device, some (deviceAt 2) = some device → device.key = (deviceAt 2).key) ∧
    ∃ c d failure,
      m.Faults (connectedAnd [.hear (.compressed .lz4 0 []), .failDevice .parse]) 1 5 6 c d failure ∧
      failure.released = true ∧ failure.device = some (deviceAt 2) ∧ c.binding = d.binding := by
  intro m
  have hdisconnects :
      m.Disconnects (connectedAnd [.disconnect]) (deviceAt 2).key 1 5 5 (some (deviceAt 2)) :=
    ⟨by decide +kernel, Nat.le_refl 5, rfl, by decide +kernel⟩
  have hhits := (hits_unless_overtaken .busAddress {} (connectedAnd [.disconnect])).1 _ _ _ _ _ hdisconnects
  refine ⟨⟨hdisconnects, hhits.mpr fun device hover => absurd hover ?_⟩, ?_⟩
  · exact not_overtaken fun k hk hlt => absurd hlt (Nat.not_lt_of_le hk)
  let row := connectedAnd [.hear (.compressed .lz4 0 []), .failDevice .parse]
  obtain ⟨c, hc⟩ : ∃ c, (m.moment row 5).anyChannel? 1 = some c :=
    Option.isSome_iff_exists.mp (by decide +kernel)
  obtain ⟨d, hd⟩ : ∃ d, (m.moment row 6).anyChannel? 1 = some d :=
    Option.isSome_iff_exists.mp (by decide +kernel)
  have hafter : ((m.moment row 6).anyChannel? 1).map (fun d => (d.failDevice .parse).2.2) =
      some ⟨some (deviceAt 2), true, .parse⟩ := by decide +kernel
  rw [hd, Option.map_some, Option.some.injEq] at hafter
  have hfaults : m.Faults row 1 5 6 c d ⟨some (deviceAt 2), true, .parse⟩ :=
    ⟨hc, hd, by decide, _, .parse, rfl, rfl, rfl, hafter⟩
  have hhits := ((hits_unless_overtaken .busAddress {} row).2 _ _ _ _ _ _ hfaults).1
  refine ⟨c, d, _, hfaults, rfl, rfl, (hhits.mpr (fun _ => not_overtaken ?_) (deviceAt 2) rfl rfl).1⟩
  intro k hk hlt device hbind
  obtain rfl : k = 5 := by omega
  cases hbind

/-! ## Calls in one go -/

theorem perform_releaseDevice (w : Surroundings) {key : DeviceKey} (hfind : m.channelFor? key = some c) :
    ((releaseDevice w key).perform m).1 = c.disconnect.2.2 ∧
      ((releaseDevice w key).perform m).2.1.channels = (m.setChannel c.disconnect.1).channels := by
  rw [releaseDevice, perform_manager, hfind]
  dsimp only
  rw [perform_bind, settleChannel_told (Channel.endings_disconnect c)]
  cases c.disconnect.2.2 <;> exact ⟨rfl, rfl⟩

/-- A turn that releases a device is the two sections of the call, with nothing in between. -/
theorem releaseDevice_sections (hm : m.Sound) (w : Surroundings) {key : DeviceKey}
    (hfind : m.channelFor? key = some c) :
    m.Disconnects [.work c.id .disconnect] key c.id 0 0 ((releaseDevice w key).perform m).1 ∧
      ((releaseDevice w key).perform m).2.1.channels = (m.moment [.work c.id .disconnect] 1).channels := by
  obtain ⟨hanswer, hchannels⟩ := perform_releaseDevice w hfind
  have hin : c ∈ m.channels := List.mem_of_find?_eq_some hfind
  have hkey : c.key? = some key := key_of_channelFor? hfind
  have hc := hm.anyChannel? (List.mem_append_left _ hin)
  have hafter : m.moment [.work c.id .disconnect] 1 = m.setChannel c.disconnect.1 := lock_of_some hc
  rw [hanswer, hchannels, hafter]
  refine ⟨⟨⟨c, hin, rfl, hkey⟩, Nat.le_refl 0, rfl, ?_⟩, rfl⟩
  change (m.anyChannel? c.id).map _ = _
  rw [hc, Option.map_some]

/-- So it releases the device that it is meant for. -/
theorem disconnect_hits (hm : m.Sound) (w : Surroundings) (key : DeviceKey)
    (h : ((disconnect w key).perform m).1 = some device) : device.key = key := by
  have hreleased : ((releaseDevice w key).perform m).1 = some device := by
    rw [disconnect, perform_bind] at h
    cases hr : ((releaseDevice w key).perform m).1 with
    | none => rw [hr] at h; exact h
    | some other => rw [hr] at h; exact h
  cases hfind : m.channelFor? key with
  | none =>
    rw [releaseDevice, perform_manager, hfind] at hreleased
    cases hreleased
  | some c =>
    have hcall := (releaseDevice_sections hm w hfind).1
    refine (hcall.hits_iff hm.channels.labelled).mpr (fun other hover => ?_) device hreleased
    exact absurd hover (not_overtaken fun k _ hk => absurd hk (Nat.not_lt_zero k))

/-- A turn that hands over a message at which the device fails is the two sections of the call. -/
theorem receive_sections (hm : m.Sound) (w : Surroundings) {payload : Wire.Payload} {failure : Failure}
    (hfind : m.channel? id = some c) (hf : (c.receive payload).2.2 = some failure) :
    ∃ fault, m.Faults [.work id (.hear payload), .work id (.failDevice fault)] id 0 1 c (c.hear payload).1
        failure ∧
      ((receive w id payload).perform m).1 = .error failure.toError ∧
      ((receive w id payload).perform m).2.1.channels =
        (m.moment [.work id (.hear payload), .work id (.failDevice fault)] 2).channels := by
  obtain ⟨hin, rfl, _⟩ := hm.channel? hfind
  have hc := hm.anyChannel? (List.mem_append_left _ hin)
  obtain ⟨fault, hheard, hreceive⟩ := Channel.receive_eq hf
  rw [hreceive] at hf
  cases hf
  have hids : ∀ (w : Channel.Section) (d : Channel), (d.locked w).id = d.id :=
    fun w d => (Channel.locked_turnover d w).id
  have hbetween := anyChannel?_lock_self (hids (.hear payload)) hc
  have hafter := lock_lock (hids (.hear payload)) (hids (.failDevice fault)) hc
  refine ⟨fault, ⟨hc, hbetween, Nat.zero_lt_one, payload, fault, rfl, hheard, rfl, rfl⟩, ?_⟩
  change _ ∧ _ = ((m.lock c.id (·.locked (.hear payload))).lock c.id (·.locked (.failDevice fault))).channels
  rw [hafter, receive, perform_manager, hfind]
  dsimp only
  rw [perform_bind, settleChannel_told (Channel.endings_receive c payload), hreceive]
  dsimp only
  rw [perform_bind]
  exact ⟨rfl, (deviceFailed_beside _).channels⟩

end Manager
end RemoteUsb
