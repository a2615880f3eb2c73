import RemoteUsb.Proofs.Channel.Fit
import RemoteUsb.Proofs.Manager.Listeners

/-! # Devices and channels in a line

With a policy for new channels, every channel that is added starts a connect of the first device that is
wanted and not bound. While nothing goes wrong, the devices that are bound are the first ones that are
wanted, in their order, on the first channels. `Lineup` says so, and keeps the account of the connects: a
channel that is added while a connect waits for the device that it is to take starts a second one, and of
these only one can bind the device. -/

namespace RemoteUsb

/-- The device that a policy wants connected, for a connect that has not bound it. -/
def Work.policy? : Work → Option RegisteredDevice
  | .idle connect | .installing connect _ _ => connect.policy
  | _ => none

/-- A connect of a device for a policy that has not bound the device. -/
inductive Work.IsFor (device : RegisteredDevice) : Work → Prop where
  | idle : IsFor device (.idle { key := device.key, policy := some device })
  | installing (outcome : Option (Except JobFault Unit)) (_ : ∀ fault, outcome ≠ some (.error fault)) :
    IsFor device (.installing { key := device.key, policy := some device } device outcome)

theorem Work.IsFor.policy? {device : RegisteredDevice} {work : Work} (h : work.IsFor device) :
    work.policy? = some device := by cases h <;> rfl

theorem Work.IsFor.awaiting {device : RegisteredDevice} :
    IsFor device (.installing { key := device.key, policy := some device } device none) :=
  .installing none nofun

theorem Work.IsFor.installed {device : RegisteredDevice} :
    IsFor device (.installing { key := device.key, policy := some device } device (some (.ok ()))) :=
  .installing _ nofun

namespace Manager

/-- The device that a new channel is to take: the first one that is wanted and not bound. -/
def next? (m : Manager) : Option RegisteredDevice :=
  m.settings.redirectOnConnect.bind fun filter =>
    (m.devicesMatching filter).find? fun d => !m.isConnected d.key

/-- How many connects for policies wait to bind a device that is meant. -/
def waiting (m : Manager) (means : RegisteredDevice → Bool) : Nat :=
  m.tasks.countP (·.work.policy?.any means)

/-- How many connects for policies wait to bind a device. -/
def pending (m : Manager) : Nat := m.waiting fun _ => true

/-- Whether a connect waits already for the device that a new channel is to take. -/
def engaged (m : Manager) : Bool := m.next?.any fun device => 0 < m.waiting (· == device)

variable {m n : Manager} {w : Surroundings} {filter : Filter} {wanted placed : List RegisteredDevice}
  {device : RegisteredDevice} {taken spare hasty lost id : Nat} {work next : Work}

/-! ## Connects that wait -/

theorem waiting_dropTask (hm : TasksSound m.tasks m.nextTask) (hw : m.work? id = some work)
    (means : RegisteredDevice → Bool) :
    (m.dropTask id).waiting means + (work.policy?.any means).toNat = m.waiting means := by
  have hcount := countP_dropTask hm (·.policy?.any means) id
  rw [hw] at hcount
  exact hcount

theorem waiting_setTask (hm : TasksSound m.tasks m.nextTask) (hw : m.work? id = some work)
    (next : Work) (means : RegisteredDevice → Bool) :
    (m.setTask id next).waiting means + (work.policy?.any means).toNat =
      m.waiting means + (next.policy?.any means).toNat := by
  have hcount := countP_setTask hm (·.policy?.any means) id next
  rw [hw] at hcount
  exact hcount

theorem waiting_spawn (hm : TasksSound m.tasks m.nextTask) (work : Work)
    (means : RegisteredDevice → Bool) :
    (m.spawn work).waiting means = m.waiting means + (work.policy?.any means).toNat := by
  rw [spawn_eq hm, waiting, List.countP_append, List.countP_singleton, waiting]
  cases work.policy?.any means <;> rfl

/-! ## Devices that are offered -/

/-- The policy for new channels wants the devices, and nothing forbids it. -/
structure Offers (m : Manager) (filter : Filter) (wanted : List RegisteredDevice) : Prop where
  enabled : m.settings.redirectionEnabled = true
  policy : m.settings.redirectOnConnect = some filter
  matching : m.devicesMatching filter = wanted
  distinct : m.registry.Distinct

theorem Offers.same (h : m.Offers filter wanted) (hs : n.settings = m.settings)
    (hr : n.registry = m.registry) : n.Offers filter wanted where
  enabled := hs ▸ h.enabled
  policy := hs ▸ h.policy
  matching := by
    rw [devicesMatching, hr]
    exact h.matching
  distinct := hr ▸ h.distinct

theorem Offers.find? (h : m.Offers filter wanted) (hd : device ∈ wanted) :
    m.registry.find? device.key = some device :=
  h.distinct.find?_of_mem (List.mem_filter.mp (h.matching ▸ hd)).1

/-- Devices that are wanted have different keys. -/
theorem Offers.apart (h : m.Offers filter wanted) {other : RegisteredDevice}
    (hd : device ∈ wanted.take taken) (ho : wanted[taken]? = some other) : device.key ≠ other.key := by
  have hkeys : (wanted.map (·.key)).Nodup := by
    rw [← h.matching]
    exact h.distinct.sublist (List.filter_sublist.map _)
  have hdisjoint := List.disjoint_take_drop hkeys (Nat.le_refl taken)
  rw [← List.map_take, ← List.map_drop] at hdisjoint
  have hother : other ∈ wanted.drop taken :=
    List.mem_of_mem_head? (List.head?_drop.trans ho)
  exact fun e => hdisjoint (List.mem_map_of_mem hd) (e ▸ List.mem_map_of_mem hother)

/-! ## The row of channels -/

/-- The first channels have devices bound to them, and the spare ones behind them have none. -/
structure Row (m : Manager) (placed : List RegisteredDevice) (spare : Nat) : Prop where
  retired : m.retired = []
  fit : ∀ c ∈ m.channels, c.Fit
  devices : m.channels.map (·.device) = placed.map some ++ List.replicate spare none

theorem Row.same (h : m.Row placed spare) (hc : n.channels = m.channels) (hr : n.retired = m.retired) :
    n.Row placed spare where
  retired := hr.trans h.retired
  fit := hc ▸ h.fit
  devices := hc ▸ h.devices

theorem Row.isConnected_iff (h : m.Row placed spare) (key : DeviceKey) :
    m.isConnected key = true ↔ ∃ d ∈ placed, d.key = key := by
  have hmem : ∀ d, some d ∈ m.channels.map (·.device) ↔ d ∈ placed := by
    intro d
    rw [h.devices]
    simp
  rw [isConnected, channelFor?, List.find?_isSome]
  constructor
  · rintro ⟨c, hc, hkey⟩
    obtain ⟨d, hd, hkey⟩ := Option.map_eq_some_iff.mp (beq_iff_eq.mp hkey)
    exact ⟨d, (hmem d).mp (hd ▸ List.mem_map_of_mem hc), hkey⟩
  · rintro ⟨d, hd, rfl⟩
    obtain ⟨c, hc, hdevice⟩ := List.mem_map.mp ((hmem d).mpr hd)
    exact ⟨c, hc, by rw [Channel.key?, hdevice]; exact beq_self_eq_true _⟩

theorem Offers.not_connected (h : m.Offers filter wanted) (hr : m.Row (wanted.take taken) spare)
    (hnext : wanted[taken]? = some device) : m.isConnected device.key = false := by
  refine Bool.eq_false_iff.mpr fun hc => ?_
  obtain ⟨other, hother, hkey⟩ := (hr.isConnected_iff device.key).mp hc
  exact h.apart hother hnext hkey

/-- The next device is the first one that is wanted and behind those that are bound. -/
theorem Offers.next? (h : m.Offers filter wanted) (hr : m.Row (wanted.take taken) spare) :
    m.next? = wanted[taken]? := by
  have hbound : (wanted.take taken).find? (fun d => !m.isConnected d.key) = none := by
    refine List.find?_eq_none.mpr fun d hd => ?_
    rw [(hr.isConnected_iff d.key).mpr ⟨d, hd, rfl⟩]
    decide
  have hbehind : (wanted.drop taken).find? (fun d => !m.isConnected d.key) = wanted[taken]? := by
    have hhead : (wanted.drop taken).head? = wanted[taken]? := List.head?_drop
    cases hdrop : wanted.drop taken with
    | nil => rw [← hhead, hdrop]; rfl
    | cons d rest =>
      rw [hdrop] at hhead
      have hfree := h.not_connected hr hhead.symm
      rw [← hhead, List.find?_cons_of_pos (by rw [hfree]; rfl)]
      rfl
  rw [Manager.next?, h.policy, Option.bind_some, h.matching, ← List.take_append_drop taken wanted,
    List.find?_append, hbound, hbehind, List.take_append_drop]
  rfl

theorem engaged_eq (ho : m.Offers filter wanted) (hr : m.Row (wanted.take taken) spare) :
    m.engaged = wanted[taken]?.any fun device => 0 < m.waiting (· == device) := by
  rw [engaged, ho.next? hr]

/-- A fit channel takes the place of another one. -/
theorem Row.put (h : m.Row placed spare) {d : Channel} (hfit : d.Fit) {others : List RegisteredDevice}
    {left : Nat} (hdevices : (m.channels.map (put d)).map (·.device) =
      others.map some ++ List.replicate left none) : (m.setChannel d).Row others left where
  retired := by
    change m.retired.map _ = []
    rw [h.retired, List.map_nil]
  fit x hx := by
    rcases mem_map_put hx with ⟨rfl, _⟩ | ⟨hx, _⟩
    · exact hfit
    · exact h.fit x hx
  devices := hdevices

theorem Row.steady (h : m.Row placed spare) (hm : m.Sound) {c d : Channel} (hc : c ∈ m.channels)
    (hid : d.id = c.id) (hdevice : d.device = c.device) (hfit : d.Fit) :
    (m.setChannel d).Row placed spare := by
  refine h.put hfit ?_
  rw [← h.devices, List.map_map]
  refine List.map_congr_left fun x hx => ?_
  by_cases he : x.id = d.id
  · have hsame : x = c := hm.channels.eq (List.mem_append_left _ hx) (List.mem_append_left _ hc)
      (he.trans hid)
    rw [Function.comp_apply, Manager.put, if_pos he, hdevice, hsame]
  · rw [Function.comp_apply, Manager.put, if_neg he]

/-- The first spare channel is the first free one. What is bound there stands behind the others. -/
theorem Row.first (h : m.Row placed (spare + 1)) (hm : m.Sound) :
    ∃ c ∈ m.channels, m.channels.find? Channel.isFree = some c ∧ ∀ d : Channel, d.id = c.id → d.Fit →
      d.device = some device → (m.setChannel d).Row (placed ++ [device]) spare := by
  obtain ⟨busy, others, hsplit, hbusy, hothers⟩ := List.map_eq_append_iff.mp h.devices
  cases others with
  | nil => cases hothers
  | cons c rest =>
    obtain ⟨hc, hrest⟩ := List.cons.inj hothers
    have hin : c ∈ m.channels := by
      rw [hsplit]
      exact List.mem_append_right _ List.mem_cons_self
    have hbusy' : ∀ x ∈ busy, x.isFree = false := by
      intro x hx
      have hdevice : x.device ∈ placed.map some := hbusy ▸ List.mem_map_of_mem hx
      obtain ⟨d, _, hd⟩ := List.mem_map.mp hdevice
      simp [Channel.isFree, ← hd]
    have hfree : c.isFree = true := by
      cases hm.channels.sound c (List.mem_append_left _ hin) with
      | idle hidle => simp [Channel.isFree, hidle.state, hidle.device]
      | pending a hp => cases hp.device.symm.trans hc
      | holding d handle hh => cases hh.device.symm.trans hc
    have hids := hm.channels.ids.sublist ((List.sublist_append_left ..).map _)
    rw [hsplit, List.map_append, List.map_cons, List.nodup_append, List.nodup_cons] at hids
    refine ⟨c, hin, ?_, fun d hid hfit hdevice => h.put hfit ?_⟩
    · rw [hsplit, List.find?_append, List.find?_cons_of_pos hfree,
        List.find?_eq_none.mpr fun x hx => by rw [hbusy' x hx]; decide]
      rfl
    · have hleft : busy.map (Manager.put d) = busy := map_put_of_ne fun x hx e =>
        hids.2.2 _ (List.mem_map_of_mem hx) _ List.mem_cons_self (e.trans hid)
      have hright : rest.map (Manager.put d) = rest := map_put_of_ne fun x hx e =>
        hids.2.1.1 ((e.trans hid) ▸ List.mem_map_of_mem hx)
      rw [hsplit, List.map_append, List.map_cons, hleft, hright, Manager.put, if_pos hid.symm,
        List.map_append, List.map_cons, hbusy, hrest, hdevice, List.map_append, List.append_assoc]
      rfl

/-! ## The account -/

/-- Every task connects a device that is bound, or waits to bind one of the devices. -/
def Tends (m : Manager) (devices : List RegisteredDevice) : Prop :=
  ∀ t ∈ m.tasks, t.work.isConnecting = true ∨ ∃ device ∈ devices, t.work.IsFor device

theorem Tends.setTask {devices : List RegisteredDevice} (h : m.Tends devices)
    (hw : work.isConnecting = true ∨ ∃ device ∈ devices, work.IsFor device) :
    (m.setTask id work).Tends devices := by
  intro t ht
  rcases mem_setTask ht with ⟨ht, _⟩ | rfl
  · exact h t ht
  · exact hw

theorem Tends.dropTask {devices : List RegisteredDevice} (h : m.Tends devices) (id : Nat) :
    (m.dropTask id).Tends devices := fun t ht => h t (List.mem_of_mem_filter ht)

/-- The first of the wanted devices are bound. Connects wait for them and for the next one only. Every
channel that was added has its device, or its connect waits, or its connect was lost; as long as devices
are left over. And every hasty addition has led to a connect that is lost, or will be. -/
structure Lineup (m : Manager) (filter : Filter) (wanted : List RegisteredDevice)
    (taken spare hasty lost : Nat) : Prop where
  offers : m.Offers filter wanted
  row : m.Row (wanted.take taken) spare
  tends : m.Tends (wanted.take (taken + 1))
  taken_le : taken ≤ wanted.length
  room : lost + m.pending ≤ spare
  full : taken < wanted.length → lost + m.pending = spare
  tally : hasty + m.engaged.toNat = lost + m.pending

theorem Lineup.isFor (h : m.Lineup filter wanted taken spare hasty lost) (hw : m.work? id = some work)
    (hn : work.isConnecting = false) : ∃ device ∈ wanted.take (taken + 1), work.IsFor device :=
  (h.tends _ (mem_tasks_of_work? hw)).resolve_left fun hc => by rw [hn] at hc; cases hc

/-- A device for which a connect waits is the next one, unless it is bound. -/
theorem Lineup.awaited (h : m.Lineup filter wanted taken spare hasty lost)
    (hd : device ∈ wanted.take (taken + 1)) (hc : m.isConnected device.key = false) :
    wanted[taken]? = some device := by
  rw [List.take_add_one] at hd
  rcases List.mem_append.mp hd with hd | hd
  · rw [(h.row.isConnected_iff device.key).mpr ⟨device, hd, rfl⟩] at hc
    cases hc
  · exact Option.mem_toList.mp hd

/-- Nothing changes in the account while as many connects wait for each device. -/
theorem Lineup.alter (h : m.Lineup filter wanted taken spare hasty lost) (hoffers : n.Offers filter wanted)
    (hrow : n.Row (wanted.take taken) spare)
    (htends : n.Tends (wanted.take (taken + 1)))
    (hwaiting : ∀ means, n.waiting means = m.waiting means) :
    n.Lineup filter wanted taken spare hasty lost := by
  have hpending : n.pending = m.pending := hwaiting _
  have hengaged : n.engaged = m.engaged := by
    rw [engaged_eq hoffers hrow, engaged_eq h.offers h.row]
    simp only [hwaiting]
  exact ⟨hoffers, hrow, htends, h.taken_le, hpending ▸ h.room, fun hlt => hpending ▸ h.full hlt,
    hengaged ▸ hpending ▸ h.tally⟩

/-- What is aside does not matter. -/
theorem Lineup.same (h : m.Lineup filter wanted taken spare hasty lost) (hs : n.settings = m.settings)
    (hr : n.registry = m.registry) (hc : n.channels = m.channels) (hd : n.retired = m.retired)
    (ht : n.tasks = m.tasks) : n.Lineup filter wanted taken spare hasty lost :=
  h.alter (h.offers.same hs hr) (h.row.same hc hd) (fun t hin => h.tends t (ht ▸ hin)) fun means => by
    rw [waiting, waiting, ht]

/-- A connect goes on with its device. -/
theorem Lineup.goes_on (h : m.Lineup filter wanted taken spare hasty lost) (hm : m.Sound)
    (hw : m.work? id = some work) (hd : device ∈ wanted.take (taken + 1)) (hold : work.IsFor device)
    (hnew : next.IsFor device) : (m.setTask id next).Lineup filter wanted taken spare hasty lost := by
  refine h.alter (h.offers.same (setTask_settings ..) (setTask_registry ..))
    (h.row.same (setTask_channels ..) (setTask_retired ..)) (h.tends.setTask (.inr ⟨device, hd, hnew⟩))
    fun means => ?_
  have hcount := waiting_setTask hm.tasks hw next means
  rw [hold.policy?, hnew.policy?] at hcount
  exact Nat.add_right_cancel hcount

/-- A channel goes on with its device. -/
theorem Lineup.steady (h : m.Lineup filter wanted taken spare hasty lost) (hm : m.Sound) {c d : Channel}
    (hc : c ∈ m.channels) (hid : d.id = c.id) (hdevice : d.device = c.device) (hfit : d.Fit) :
    (m.setChannel d).Lineup filter wanted taken spare hasty lost :=
  h.alter (h.offers.same rfl rfl) (h.row.steady hm hc hid hdevice hfit) h.tends fun _ => rfl

/-- A connect that has bound its device ends. -/
theorem Lineup.ended (h : m.Lineup filter wanted taken spare hasty lost) (hm : m.Sound)
    (hw : m.work? id = some work) (hn : work.isConnecting = true) :
    (m.dropTask id).Lineup filter wanted taken spare hasty lost := by
  refine h.alter (h.offers.same rfl rfl) (h.row.same rfl rfl) (h.tends.dropTask id) fun means => ?_
  have hcount := waiting_dropTask hm.tasks hw means
  cases work with
  | connecting => exact hcount
  | _ => cases hn

/-- A connect is lost, since its device is bound already. -/
theorem Lineup.refused (h : m.Lineup filter wanted taken spare hasty lost) (hm : m.Sound)
    (hw : m.work? id = some work) (hfor : work.IsFor device) (hc : m.isConnected device.key = true) :
    (m.dropTask id).Lineup filter wanted taken spare hasty (lost + 1) := by
  have hoffers : (m.dropTask id).Offers filter wanted := h.offers.same rfl rfl
  have hrow : (m.dropTask id).Row (wanted.take taken) spare := h.row.same rfl rfl
  have hwaiting : ∀ means, (m.dropTask id).waiting means + (means device).toNat = m.waiting means := by
    intro means
    have hcount := waiting_dropTask hm.tasks hw means
    rwa [hfor.policy?] at hcount
  have hpending : (m.dropTask id).pending + 1 = m.pending := hwaiting _
  have hengaged : (m.dropTask id).engaged = m.engaged := by
    rw [engaged_eq hoffers hrow, engaged_eq h.offers h.row]
    cases hnext : wanted[taken]? with
    | none => rfl
    | some other =>
      -- the next device is not bound, so the connect that is lost waited for another one
      have hne : (device == other) = false := by
        rw [beq_eq_false_iff_ne]
        rintro rfl
        cases hc.symm.trans (h.offers.not_connected h.row hnext)
      have hsame := hwaiting (· == other)
      rw [hne] at hsame
      rw [Option.any_some, Option.any_some, ← hsame]
      rfl
  have hroom := h.room
  have hfull := h.full
  have htally := h.tally
  refine ⟨hoffers, hrow, h.tends.dropTask id, h.taken_le, ?_, fun hlt => ?_, ?_⟩
  · omega
  · have := hfull hlt
    omega
  · rw [hengaged]
    omega

/-- Nothing waits for the next device if everything waits for those before it. -/
theorem engaged_of_before (ho : m.Offers filter wanted) (hr : m.Row (wanted.take taken) spare)
    (ht : m.Tends (wanted.take taken)) : m.engaged = false := by
  rw [engaged_eq ho hr]
  cases hnext : wanted[taken]? with
  | none => rfl
  | some other =>
    have hzero : m.waiting (· == other) = 0 := by
      refine List.countP_eq_zero.mpr fun t hin => ?_
      rcases ht t hin with hconnecting | ⟨device, hd, hfor⟩
      · obtain ⟨task, work⟩ := t
        cases work with
        | connecting => exact Bool.false_ne_true
        | _ => cases hconnecting
      · rw [hfor.policy?, Option.any_some, beq_iff_eq]
        rintro rfl
        exact ho.apart hd hnext rfl
    rw [Option.any_some, hzero]
    rfl

/-- A connect binds its device to the first free channel. -/
theorem Lineup.bound (h : m.Lineup filter wanted taken spare hasty lost) (hm : m.Sound)
    (hw : m.work? id = some work) (hfor : work.IsFor device) (hd : device ∈ wanted.take (taken + 1))
    (hc : m.isConnected device.key = false) :
    ∃ left, spare = left + 1 ∧ ∃ c ∈ m.channels, m.channels.find? Channel.isFree = some c ∧
      ∀ (connect : Connect) (d : Channel), d.id = c.id → d.Fit → d.device = some device →
        ((m.setTask id (.connecting connect device c.id)).setChannel d).Lineup filter wanted (taken + 1) left
          hasty lost := by
  have hnext : wanted[taken]? = some device := h.awaited hd hc
  have hroom := h.room
  have hsome : 0 < m.pending := by
    have hone := waiting_dropTask hm.tasks hw fun _ => true
    rw [hfor.policy?] at hone
    exact Nat.lt_of_lt_of_eq (Nat.succ_pos _) hone
  obtain ⟨left, rfl⟩ : ∃ left, spare = left + 1 := ⟨spare - 1, by omega⟩
  obtain ⟨c, hin, hfind, hput⟩ := h.row.first hm
  refine ⟨left, rfl, c, hin, hfind, fun connect d hid hfit hdevice => ?_⟩
  let n := (m.setTask id (.connecting connect device c.id)).setChannel d
  have hoffers : n.Offers filter wanted := h.offers.same (setTask_settings ..) (setTask_registry ..)
  have hrow : n.Row (wanted.take (taken + 1)) left := by
    rw [List.take_add_one, hnext]
    refine (hput d hid hfit hdevice).same ?_ ?_
    · exact congrArg (·.map (put d)) (setTask_channels ..)
    · exact congrArg (·.map (put d)) (setTask_retired ..)
  have htends : n.Tends (wanted.take (taken + 1)) := h.tends.setTask (.inl rfl)
  have hwaiting : ∀ means, n.waiting means + (means device).toNat = m.waiting means := by
    intro means
    have hcount := waiting_setTask hm.tasks hw (.connecting connect device c.id) means
    rwa [hfor.policy?] at hcount
  have hpending : n.pending + 1 = m.pending := hwaiting _
  have hengaged : m.engaged = true := by
    have hone := hwaiting (· == device)
    rw [beq_self_eq_true, Bool.toNat_true] at hone
    rw [engaged_eq h.offers h.row, hnext, Option.any_some, decide_eq_true_eq, ← hone]
    exact Nat.succ_pos _
  -- what still waits does so for devices that are bound by now
  have hbefore : n.engaged = false := engaged_of_before hoffers hrow htends
  have htally := h.tally
  have hfull := h.full (List.getElem?_eq_some_iff.mp hnext).1
  rw [hengaged, Bool.toNat_true] at htally
  change n.Lineup filter wanted (taken + 1) left hasty lost
  refine ⟨hoffers, hrow, fun t ht => ?_, (List.getElem?_eq_some_iff.mp hnext).1, ?_, fun _ => ?_, ?_⟩
  · refine (htends t ht).imp_right fun ⟨device, hd, hfor⟩ => ⟨device, ?_, hfor⟩
    rw [List.take_add_one]
    exact List.mem_append_left _ hd
  · omega
  · omega
  · rw [hbefore, Bool.toNat_false]
    omega

/-! ## Channels that are added -/

/-- The next device can be connected as long as a channel is free. -/
theorem canRedirect_next (ho : m.Offers filter wanted) (hr : m.Row (wanted.take taken) spare)
    (hnext : wanted[taken]? = some device) {c : Channel} (hc : c ∈ m.channels) (hfree : c.isFree = true) :
    m.canRedirect device.key = .ok () := by
  have hempty : m.channels.isEmpty = false := by
    rw [List.isEmpty_eq_false_iff]
    exact List.ne_nil_of_mem hc
  have hguest : m.channels.findSome? Channel.guestFilter = none := by
    refine List.findSome?_eq_none_iff.mpr fun d hd => ?_
    obtain ⟨host, hhost, _, hguest⟩ := (hr.fit d hd).host
    rw [Channel.guestFilter, hhost]
    exact hguest
  have hany : m.channels.any Channel.isFree = true := List.any_eq_true.mpr ⟨c, hc, hfree⟩
  rw [canRedirect, ho.enabled, hempty, ho.not_connected hr hnext, ho.find? (List.mem_of_getElem? hnext)]
  dsimp only
  rw [hguest, hany]
  rfl

theorem redirectOnConnect_none (hnext : m.next? = none) : redirectOnConnect.perform m = ((), m, []) := by
  rw [redirectOnConnect, perform_manager]
  unfold Manager.next? at hnext
  split
  · rfl
  · rename_i filter hpolicy
    rw [hpolicy, Option.bind_some] at hnext
    rw [hnext]
    rfl

theorem redirectOnConnect_some (hnext : m.next? = some device)
    (hcan : m.canRedirect device.key = .ok ()) :
    redirectOnConnect.perform m =
      ((), m.spawn (.idle { key := device.key, policy := some device }), []) := by
  rw [redirectOnConnect, perform_manager]
  unfold Manager.next? at hnext
  split
  · rename_i hpolicy
    rw [hpolicy] at hnext
    cases hnext
  · rename_i filter hpolicy
    rw [hpolicy, Option.bind_some] at hnext
    rw [hnext]
    dsimp only
    rw [hcan]
    rfl

/-- A channel that is added starts a connect of the next device, if there is one. -/
theorem Lineup.added (h : m.Lineup filter wanted taken spare hasty lost) (hm : m.Sound) {c : Channel}
    (hfit : c.Fit) (hfree : c.isFree = true) (next : Nat) :
    ∃ n, redirectOnConnect.perform { m with channels := m.channels ++ [c], nextChannel := next } =
      ((), n, []) ∧ n.Lineup filter wanted taken (spare + 1) (hasty + m.engaged.toNat) lost := by
  let added : Manager := { m with channels := m.channels ++ [c], nextChannel := next }
  have hnone : c.device = none := by
    simp only [Channel.isFree, Bool.and_eq_true, Option.isNone_iff_eq_none] at hfree
    exact hfree.2
  have hoffers : added.Offers filter wanted := h.offers.same rfl rfl
  have hrow : added.Row (wanted.take taken) (spare + 1) := by
    refine ⟨h.row.retired, fun x hx => ?_, ?_⟩
    · rcases List.mem_append.mp hx with hx | hx
      · exact h.row.fit x hx
      · exact List.mem_singleton.mp hx ▸ hfit
    · change (m.channels ++ [c]).map (·.device) = _
      rw [List.map_append, h.row.devices, List.map_singleton, hnone, List.append_assoc,
        List.replicate_succ']
  have hroom := h.room
  have hfull := h.full
  have htally := h.tally
  cases hnext : wanted[taken]? with
  | none =>
    rw [redirectOnConnect_none ((hoffers.next? hrow).trans hnext)]
    have hengaged : ∀ n : Manager, n.Offers filter wanted → ∀ k, n.Row (wanted.take taken) k →
        n.engaged = false := fun n ho k hr => by rw [engaged_eq ho hr, hnext]; rfl
    rw [hengaged m h.offers _ h.row] at htally ⊢
    refine ⟨added, rfl, hoffers, hrow, h.tends, h.taken_le, Nat.le_succ_of_le hroom, fun hlt => ?_, ?_⟩
    · rw [List.getElem?_eq_getElem hlt] at hnext
      cases hnext
    · rw [hengaged added hoffers _ hrow]
      exact htally
  | some device =>
    let work : Work := .idle { key := device.key, policy := some device }
    let n := added.spawn work
    have hin : c ∈ added.channels := List.mem_append_right _ (List.mem_singleton_self c)
    rw [redirectOnConnect_some ((hoffers.next? hrow).trans hnext)
      (canRedirect_next hoffers hrow hnext hin hfree)]
    have hoffers' : n.Offers filter wanted := hoffers.same (setTask_settings ..) (setTask_registry ..)
    have hrow' : n.Row (wanted.take taken) (spare + 1) :=
      hrow.same (setTask_channels ..) (setTask_retired ..)
    have htasks : TasksSound added.tasks added.nextTask := hm.tasks
    have hwaiting : ∀ means, n.waiting means = m.waiting means + (means device).toNat :=
      waiting_spawn htasks work
    have hpending : n.pending = m.pending + 1 := hwaiting _
    have hengaged : n.engaged = true := by
      rw [engaged_eq hoffers' hrow', hnext, Option.any_some, hwaiting, beq_self_eq_true, Bool.toNat_true]
      exact decide_eq_true (Nat.succ_pos _)
    have hlt := (List.getElem?_eq_some_iff.mp hnext).1
    have hmember : device ∈ wanted.take (taken + 1) := by
      rw [List.take_add_one, hnext]
      exact List.mem_append_right _ (List.mem_singleton_self device)
    have hnumbered : added.takeNumber.1.Tends (wanted.take (taken + 1)) := h.tends
    have htends : n.Tends (wanted.take (taken + 1)) :=
      hnumbered.setTask (.inr ⟨device, hmember, .idle⟩)
    refine ⟨n, rfl, hoffers', hrow', htends, h.taken_le, ?_, fun _ => ?_, ?_⟩
    · omega
    · have := hfull hlt
      omega
    · rw [hengaged, Bool.toNat_true]
      omega

end Manager
end RemoteUsb
