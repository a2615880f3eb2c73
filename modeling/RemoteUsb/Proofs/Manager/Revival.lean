import RemoteUsb.Proofs.Manager.Shutdown

/-! What comes back after a shutdown. Each thing that `Stoppable` rules out leads to a connection, or to a
registration for events, by turns that are quiet, and the calls that are left then can be dropped. -/

namespace RemoteUsb.Manager

variable {drivers : Bool} {allowed : Kind → Prop} {kind : Kind} {m n : Manager} {w : Surroundings}
  {outputs : List Output} {id : Nat}

/-! ## Quiet turns -/

theorem Advance.idles {old new : Option Work} (h : m.Advance drivers id kind old new outputs)
    (hk : kind ≠ .call) {connect : Connect} (hn : new = some (.idle connect)) :
    ∃ other, old = some (.idle other) ∧ other.key = connect.key := by
  cases h with
  | called => exact absurd rfl hk
  | recalled other hkey =>
    cases hn
    exact ⟨_, rfl, hkey.symm⟩
  | _ => cases hn

/-- Connects that have not begun were asked for. -/
theorem Deed.idles (h : Deed drivers kind m outputs n) (hk : kind ≠ .call) {connect : Connect}
    (hw : n.work? id = some (.idle connect)) :
    ∃ other, m.work? id = some (.idle other) ∧ other.key = connect.key := by
  rcases h.assigned hw with hw | ha | ⟨_, he⟩ | he | ⟨_, _, _, he, _⟩
  · exact ⟨connect, hw, rfl⟩
  · exact ha.idles hk rfl
  · cases he
  · cases he
  · cases he

theorem Deeds.idles (h : Deeds drivers allowed m outputs n) (hcall : ¬allowed .call) {connect : Connect}
    (hw : n.work? id = some (.idle connect)) :
    ∃ other, m.work? id = some (.idle other) ∧ other.key = connect.key := by
  induction h with
  | refl => exact ⟨connect, hw, rfl⟩
  | @head _ _ _ kind _ _ hkind d _ ih =>
    have hk : kind ≠ .call := by
      rintro rfl
      exact hkind.elim nofun hcall
    obtain ⟨between, hbetween, hkey⟩ := ih hw
    obtain ⟨other, hother, hkey'⟩ := d.idles hk hbetween
    exact ⟨other, hother, hkey'.trans hkey⟩

theorem Deeds.starts (h : Deeds drivers allowed m outputs n) (hs : m.Starts n) : allowed .call := by
  obtain ⟨id, connect, hnone, hw⟩ := hs
  refine Classical.byContradiction fun hcall => ?_
  obtain ⟨_, hother, _⟩ := h.idles hcall hw
  cases hnone.symm.trans hother

def Move.isEvent : Move → Bool
  | .post _ | .handle _ | .nextEvent => true
  | _ => false

theorem Matched.quiet (hm : m.Matched) {t : Turn}
    (hcall : ¬t.move.Allows (t.surroundings drivers) m .call) (he : t.move.isEvent = false) :
    m.Quiet drivers t where
  connects hs := hcall ((turn_deeds hm drivers t).starts hs)
  events event := by
    constructor
    · intro hmove
      rw [hmove] at he
      cases he
    · intro hmove
      rw [hmove] at he
      cases he
  arrivals hmove := by
    rw [hmove] at he
    cases he

/-- There are quiet turns that make of the manager what is wanted. -/
def Leads (m : Manager) (drivers : Bool) (wanted : Manager → Prop) : Prop :=
  ∃ later, m.Quietly drivers later ∧ wanted (m.run drivers later)

variable {wanted : Manager → Prop}

theorem Leads.here (h : wanted m) : m.Leads drivers wanted := ⟨[], trivial, h⟩

theorem Quietly.append {first others : List Turn} (h : m.Quietly drivers first)
    (h' : (m.run drivers first).Quietly drivers others) : m.Quietly drivers (first ++ others) := by
  induction first generalizing m with
  | nil => exact h'
  | cons t first ih => exact ⟨h.1, ih h.2 h'⟩

theorem Leads.bind {next : Manager → Prop} (h : m.Leads drivers wanted)
    (h' : ∀ n, wanted n → n.Leads drivers next) : m.Leads drivers next := by
  obtain ⟨first, hfirst, hw⟩ := h
  obtain ⟨others, hothers, hn⟩ := h' _ hw
  exact ⟨first ++ others, hfirst.append hothers, run_append .. ▸ hn⟩

theorem Leads.mono {other : Manager → Prop} (h : m.Leads drivers wanted)
    (h' : ∀ n, wanted n → other n) : m.Leads drivers other := by
  obtain ⟨later, hlater, hw⟩ := h
  exact ⟨later, hlater, h' _ hw⟩

/-- A quiet turn, and what comes after it. -/
theorem Matched.leads (hm : m.Matched) (t : Turn)
    (hcall : ¬t.move.Allows (t.surroundings drivers) m .call) (he : t.move.isEvent = false)
    (h : (m.turn drivers t).1.Matched → (m.turn drivers t).1.Leads drivers wanted) :
    m.Leads drivers wanted := by
  obtain ⟨later, hlater, hw⟩ := h (turn_matched hm drivers t)
  exact ⟨t :: later, ⟨hm.quiet hcall he, hlater⟩, hw⟩

/-! ## Calls can be dropped -/

/-- There is a registration for events, or a connected device. -/
def Awake (m : Manager) : Prop :=
  m.registration = true ∨ ∃ c ∈ m.channels ++ m.retired, c.state = .connected

def unresolved (m : Manager) : Nat := m.tasks.countP (·.work.isCall)

theorem unresolved_dropTask (hm : m.Sound) {t : Task} (ht : t ∈ m.tasks) (hcall : t.work.isCall = true) :
    (m.dropTask t.id).unresolved < m.unresolved := by
  have hcount := countP_remove (fun t : Task => t.work.isCall) (·.id) hm.tasks.ids ht
  rw [hcall, Bool.toNat_true] at hcount
  exact Nat.lt_of_succ_le (Nat.le_of_eq hcount)

theorem unresolved_tidied (h : TasksSound m.tasks m.nextTask) (info : DeviceInfo) :
    (m.tidied drivers info).unresolved = m.unresolved := by
  unfold tidied
  split
  · rw [spawn_eq h]
    simp [unresolved, List.countP_append, Work.isCall]
  · rfl

/-- A call is dropped; what is connected stays, and so does a registration. -/
theorem abandon_awake (hm : m.Matched) {t : Task} (ht : t ∈ m.tasks) (hcall : t.work.isCall = true)
    (ha : m.Awake) :
    let n := ((abandon w t.id).perform m).2.1
    n.Awake ∧ n.unresolved < m.unresolved := by
  have hw : m.work? t.id = some t.work := hm.sound.tasks.work? ht
  have hdrop : (m.dropTask t.id).unresolved < m.unresolved := unresolved_dropTask hm.sound ht hcall
  obtain ⟨call, work⟩ := t
  cases work with
  | idle | installing =>
    rw [abandon, perform_manager, hw]
    exact ⟨ha, hdrop⟩
  | connecting connect device channel =>
    obtain ⟨c, a, hc, hp, rfl, rfl, hperform⟩ := hm.perform_abandon (w := w) hw
    have hid := Channel.step_id (hm.sound.channels.sound c hc) 0 (.abandon a.call)
    let left := ((m.dropTask a.call).setChannel (c.abandon a.call).1).stopListening
    have hbeside : left.Beside (left.tidied w.tidies a.device.info) := tidied_beside ..
    have htasks : TasksSound left.tasks left.nextTask := hm.sound.tasks.filter _
    have hsame : (left.tidied w.tidies a.device.info).unresolved = left.unresolved :=
      unresolved_tidied htasks a.device.info
    rw [hperform]
    constructor
    · rcases ha with hreg | ⟨x, hx, hstate⟩
      · refine .inl ?_
        unfold tidied
        split
        · exact (setTask_registration ..).trans hreg
        · exact hreg
      · refine .inr ⟨x, ?_, hstate⟩
        rw [hbeside.channels, tidied_retired]
        refine (mem_put hc hid).mpr (.inr ⟨hx, fun he => ?_⟩)
        obtain rfl := hm.sound.channels.eq hx hc he
        exact hp.not_connected hstate
    · change (left.tidied w.tidies a.device.info).unresolved < m.unresolved
      rw [hsame]
      exact hdrop
  | _ => cases hcall

theorem Awake.drain (ha : m.Awake) (hm : m.Matched) :
    m.Leads drivers fun n => n.Awake ∧ n.Resolved := by
  generalize hk : m.unresolved = k
  induction k using Nat.strongRecOn generalizing m with
  | ind k ih =>
    by_cases hr : m.Resolved
    · exact .here ⟨ha, hr⟩
    · obtain ⟨t, ht, hcall⟩ : ∃ t ∈ m.tasks, t.work.isCall = true := by
        simpa [Resolved] using hr
      refine hm.leads { move := .abandon t.id } (fun h => h) rfl fun hn => ?_
      obtain ⟨hawake, hlt⟩ := abandon_awake
        (w := Turn.surroundings { move := .abandon t.id } drivers) hm ht hcall ha
      exact ih _ (hk ▸ hlt) hawake hn rfl

/-! ## Registrations -/

theorem enumerated_leads (hm : m.Matched) {devices : List DeviceInfo}
    (hw : m.work? id = some (.enumerating (some (.ok devices)))) : m.Leads drivers Awake := by
  refine hm.leads { move := .resume id } (fun h => h) rfl fun _ => .here (.inl ?_)
  change ((resume _ id).perform m).2.1.registration = true
  rw [resume, perform_manager, hw]
  rfl

/-- Devices that are being asked for may be found. -/
theorem enumerating_leads (hm : m.Matched) {outcome : Option (Except JobFault (List DeviceInfo))}
    (hw : m.work? id = some (.enumerating outcome)) (ho : ∀ fault, outcome ≠ some (.error fault)) :
    m.Leads drivers Awake := by
  match outcome with
  | some (.error fault) => exact absurd rfl (ho fault)
  | some (.ok devices) => exact enumerated_leads hm hw
  | none =>
    have hwork : ((enumerationDone id (.ok [])).perform m).2.1.work? id =
        some (.enumerating (some (.ok []))) := by
      rw [enumerationDone, perform_manager, hw]
      exact work?_setTask_self ..
    exact hm.leads { move := .enumerationDone id (.ok []) } (fun h => h) rfl
      fun hn => enumerated_leads hn hwork

/-- A manager that never asked for the devices may do so now. -/
theorem start_leads (hm : m.Matched) (hi : m.initialized = false) : m.Leads drivers Awake := by
  have hwork : ((start m.nextTask).perform m.takeNumber.1).2.1.work? m.nextTask =
      some (.enumerating none) := by
    have hinit : m.takeNumber.1.initialized = false := hi
    rw [start, perform_manager, if_neg (by rw [hinit]; decide)]
    exact work?_setTask_self ..
  exact hm.leads { move := .start } (fun h => h) rfl fun hn => enumerating_leads hn hwork nofun

/-! ## Devices that are being opened -/

/-- The channel with a number is connected under a binding. -/
def ConnectedUnder (m : Manager) (id binding : Nat) : Prop :=
  ∃ c ∈ m.channels ++ m.retired, c.id = id ∧ c.binding = binding ∧ c.state = .connected

theorem ConnectedUnder.awake {binding : Nat} (h : m.ConnectedUnder id binding) : m.Awake := by
  obtain ⟨c, hc, _, _, hs⟩ := h
  exact .inr ⟨c, hc, hs⟩

theorem endConnect_books (call : Nat) (connect : Connect) (result : Except RedirectError Unit) (m : Manager) :
    ((endConnect call connect result).perform m).2.1.channels = m.channels ∧
      ((endConnect call connect result).perform m).2.1.retired = m.retired := by
  unfold endConnect
  split
  · exact ⟨rfl, rfl⟩
  · exact ⟨rfl, rfl⟩

theorem settleEffect_books (channel : Nat) (effect : Effect) (m : Manager) :
    ((settleEffect w channel effect).perform m).2.1.channels = m.channels ∧
      ((settleEffect w channel effect).perform m).2.1.retired = m.retired := by
  cases effect with
  | asked | inputClosed | opening | closed => exact ⟨rfl, rfl⟩
  | ended call result =>
    change ((attemptEnded w call result).perform m).2.1.channels = _ ∧
      ((attemptEnded w call result).perform m).2.1.retired = _
    cases hw : m.work? call with
    | none =>
      unfold attemptEnded
      rw [perform_manager, hw]
      exact ⟨rfl, rfl⟩
    | some work =>
      cases work with
      | connecting connect device id =>
        cases result with
        | ok =>
          rw [attemptEnded_ok hw]
          exact endConnect_books call connect _ m
        | error error =>
          rw [attemptEnded_error hw]
          obtain ⟨hchannels, hretired⟩ := endConnect_books call connect (.error error)
            (m.stopListening.tidied w.tidies device.info)
          exact ⟨hchannels.trans (tidied_beside ..).channels, hretired.trans (tidied_retired ..)⟩
      | _ =>
        unfold attemptEnded
        rw [perform_manager, hw]
        exact ⟨rfl, rfl⟩

theorem settle_books (channel : Nat) (effects : List Effect) (m : Manager) :
    let n := ((Act.each (settleEffect w channel) effects).perform m).2.1
    n.channels = m.channels ∧ n.retired = m.retired := by
  induction effects generalizing m with
  | nil => exact ⟨rfl, rfl⟩
  | cons effect effects ih =>
    obtain ⟨hfirst, hfirst'⟩ := settleEffect_books (w := w) channel effect m
    obtain ⟨hrest, hrest'⟩ := ih ((settleEffect w channel effect).perform m).2.1
    rw [Act.each, perform_bind]
    exact ⟨hrest.trans hfirst, hrest'.trans hfirst'⟩

/-- After a step of a channel, the manager has the channel as the step has left it. -/
theorem mem_onChannel (hm : m.Sound) {c : Channel} (hc : c ∈ m.channels ++ m.retired)
    (step : Channel → Channel × List Effect) (hid : (step c).1.id = c.id) :
    let n := ((onChannel w c.id step).perform m).2.1
    (step c).1 ∈ n.channels ++ n.retired := by
  intro n
  obtain ⟨hchannels, hretired⟩ := settle_books (w := w) (step c).1.id (step c).2 (m.setChannel (step c).1)
  have hn : n = ((Act.each (settleEffect w (step c).1.id) (step c).2).perform
      (m.setChannel (step c).1)).2.1 := by
    change ((onChannel w c.id step).perform m).2.1 = _
    rw [perform_onChannel (hm.anyChannel? hc)]
    rfl
  rw [hn, hchannels, hretired]
  exact (mem_put hc hid).mpr (.inl rfl)

/-- A call opens its device without having asked for access, and a host waits for it. -/
structure Opening (m : Manager) (c : Channel) (a : Attempt) (outcome : Option (Except JobFault Handle))
    (host : Host) : Prop where
  mem : c ∈ m.channels ++ m.retired
  pending : c.Pending a
  phase : a.phase = .opening false outcome
  host : c.host = some host

variable {c : Channel} {a : Attempt} {outcome : Option (Except JobFault Handle)} {host : Host}

/-- The host is ready to take any device. -/
theorem Opening.ready (h : m.Opening c a outcome host) (hm : m.Matched) :
    m.Leads drivers fun n => n.Matched ∧
      ∃ d host, n.Opening d a outcome host ∧ d.id = c.id ∧ host.attachFault = none := by
  let act (host : Host) : Host := { host with attachFault := none }
  refine hm.leads { move := .stir c.id act } (fun h => h) rfl fun hn => .here ⟨hn, ?_⟩
  exact ⟨_, _, {
    mem := mem_onChannel hm.sound h.mem (fun c => c.step 0 (.stir act)) rfl
    pending := h.pending.alike (Channel.stir_alike c act)
    phase := h.phase
    host := by rw [Channel.step, h.host]; rfl }, rfl, rfl⟩

/-- The device is opened. -/
theorem Opening.opens (h : m.Opening c a none host) (hm : m.Matched) :
    m.Leads drivers fun n => n.Matched ∧ ∃ d b handle,
      n.Opening d b (some (.ok handle)) host ∧ d.id = c.id ∧ b.binding = a.binding := by
  refine hm.leads { move := .opened c.id a.call 0 (.ok a.device.key) } (fun h => h) rfl
    fun hn => .here ⟨hn, ?_⟩
  let handle := c.handleFor a.call 0 a.device.key
  have hstep : (c.step 0 (.opened a.call (.ok a.device.key))).1 =
      c.setPhase a.call (.opening false (some (.ok handle))) := by
    change (c.opened a.call (.ok handle)).1 = _
    rw [Channel.opened, h.pending.attempt?, if_pos rfl]
    have hphase := h.phase
    obtain ⟨call, device, binding, stopped, phase⟩ := a
    cases hphase
    rfl
  have hmem := mem_onChannel (w := Turn.surroundings { move := .endLoop } drivers) hm.sound h.mem
    (fun c => c.step 0 (.opened a.call (.ok a.device.key)))
    (Channel.step_id (hm.sound.channels.sound c h.mem) 0 _)
  have hattempts : (c.setPhase a.call (.opening false (some (.ok handle)))).attempts =
      [{ a with phase := .opening false (some (.ok handle)) }] := by
    simp [Channel.setPhase, h.pending.attempts]
  rw [hstep] at hmem
  refine ⟨_, { a with phase := .opening false (some (.ok handle)) }, handle,
    ⟨hmem, ?_, rfl, h.host⟩, rfl, rfl⟩
  exact (hn.sound.channels.sound _ hmem).pending_of_mem (hattempts ▸ List.mem_singleton_self _)

/-- A device that was opened is connected. -/
theorem Opening.resumed {handle : Handle} (h : m.Opening c a (some (.ok handle)) host) (hm : m.Matched)
    (hf : host.attachFault = none) : m.Leads drivers (·.ConnectedUnder c.id a.binding) := by
  obtain ⟨connect, hw⟩ := hm.work? h.mem h.pending
  refine hm.leads { move := .resume a.call } (fun h => h) rfl fun _ => .here ?_
  have hmem := mem_onChannel (w := Turn.surroundings { move := .resume a.call } drivers) hm.sound h.mem
    (fun c => c.resume a.call) (Channel.resume_id c a.call)
  refine ⟨(c.resume a.call).1, ?_, Channel.resume_id c a.call, ?_⟩
  · change _ ∈ ((resume _ a.call).perform m).2.1.channels ++ ((resume _ a.call).perform m).2.1.retired
    rw [resume, perform_manager, hw]
    exact hmem
  · have hstate : c.state = .disconnected := h.pending.unguarded (by rw [h.phase]; rfl)
    rw [h.pending.resume_eq h.phase, h.pending.binding]
    unfold Channel.attach Host.attach
    rw [if_neg (by rw [hstate]; decide), h.host]
    simp only [hf, and_true]
    rfl

/-- A device that is being opened may be connected. -/
theorem Opening.leads (h : m.Opening c a outcome host) (hm : m.Matched)
    (ho : ∀ fault, outcome ≠ some (.error fault)) :
    m.Leads drivers (·.ConnectedUnder c.id a.binding) := by
  refine (h.ready hm).bind fun n ⟨hn, d, host, hopening, hid, hfault⟩ => ?_
  rw [← hid]
  match outcome with
  | some (.error fault) => exact absurd rfl (ho fault)
  | some (.ok handle) => exact hopening.resumed hn hfault
  | none =>
    refine (hopening.opens hn).bind fun p ⟨hp, e, b, handle, hopened, hid, hbinding⟩ => ?_
    rw [← hid, ← hbinding]
    exact hopened.resumed hp hfault

theorem Sound.channel?_of_mem (h : m.Sound) (hc : c ∈ m.channels) : m.channel? c.id = some c := by
  cases hf : m.channel? c.id with
  | none => simpa using List.find?_eq_none.mp hf c hc
  | some d =>
    obtain ⟨hd, hid, _⟩ := h.channel? hf
    rw [h.channels.eq (List.mem_append_left _ hd) (List.mem_append_left _ hc) hid]

/-- A channel that has lost its host gets a new one with a reset, and the call goes on. -/
theorem rehosted_leads (hm : m.Matched) (hc : c ∈ m.channels) (hp : c.Pending a)
    (hphase : a.phase = .opening false outcome) (ho : ∀ fault, outcome ≠ some (.error fault))
    (hf : c.hasFactory = true) : m.Leads drivers (·.ConnectedUnder c.id a.binding) := by
  let t : Turn := { move := .resetChannel c.id }
  let d : Channel := { c with host := some {} }
  have hstate : c.state = .disconnected := hp.unguarded (by rw [hphase]; rfl)
  have hdisconnect : c.disconnect = (c, [], none) := by rw [Channel.disconnect, hstate]
  have hrenew : c.renew (some {}) = (d, c.host) := by rw [Channel.renew, if_pos hf]
  have hafter : ((resetChannel (t.surroundings drivers) m.nextTask c.id).perform m.takeNumber.1).2.1.channels =
      m.channels.map (put d) := by
    have hfind : m.takeNumber.1.channel? c.id = some c := hm.sound.channel?_of_mem hc
    have hhost : (t.surroundings drivers).newHost.toOption = some {} := rfl
    rw [resetChannel, perform_manager, hfind, hhost]
    simp only [hdisconnect, hrenew, hf, if_true]
    rfl
  refine hm.leads t (fun h => h) rfl fun hn => ?_
  have hmem : d ∈ (m.turn drivers t).1.channels := by
    change d ∈ ((resetChannel _ m.nextTask c.id).perform m.takeNumber.1).2.1.channels
    rw [hafter]
    exact List.mem_map.mpr ⟨c, hc, if_pos rfl⟩
  have hopening : (m.turn drivers t).1.Opening d a outcome {} := {
    mem := List.mem_append_left _ hmem
    pending := hp.alike ⟨rfl, rfl, rfl, hp.handle.symm, rfl, rfl, rfl, rfl⟩
    phase := hphase
    host := rfl }
  exact hopening.leads hn ho

/-- A call that opens its device and is not fruitless may connect it, under the binding that it has. -/
theorem fruitful_connects (hm : m.Matched) (hc : c ∈ m.channels ++ m.retired) {fixed : Prop}
    (hset : ¬fixed → c ∈ m.channels) (h : ¬c.Fruitless fixed) :
    m.Leads drivers (·.ConnectedUnder c.id c.binding) := by
  simp only [Channel.Fruitless, not_forall, not_or, not_and, not_exists] at h
  obtain ⟨a, ha, outcome, hphase, ho, hhost⟩ := h
  have hp := (hm.sound.channels.sound c hc).pending_of_mem ha
  rw [← hp.binding]
  cases hh : c.host with
  | some host => exact (Opening.mk hc hp hphase hh).leads hm ho
  | none =>
    obtain ⟨hfactory, hnot⟩ := hhost hh
    exact rehosted_leads hm (hset hnot) hp hphase ho (by simpa using hfactory)

theorem fruitful_leads (hm : m.Matched) (hc : c ∈ m.channels ++ m.retired) {fixed : Prop}
    (hset : ¬fixed → c ∈ m.channels) (h : ¬c.Fruitless fixed) : m.Leads drivers Awake :=
  (fruitful_connects hm hc hset h).mono fun _ => ConnectedUnder.awake

/-! ## Calls that have not bound their device -/

/-- Channels may be taken out and added while no connect is asked for with them. -/
theorem clearing_quiet (hm : m.Matched) (hs : m.settings.redirectOnConnect = none) :
    m.Quietly drivers m.clearing := by
  have halong : m.Along (·.settings.redirectOnConnect = none) drivers m.clearing :=
    (clearing_after m drivers).1.mono fun n hn => hn.2 ▸ hs
  have hmoves := fun t => clearing_moves (m := m) (t := t)
  generalize m.clearing = turns at halong hmoves
  clear hs
  induction turns generalizing m with
  | nil => trivial
  | cons t turns ih =>
    refine ⟨?_, ih (turn_matched hm drivers t) halong.2 fun t ht => hmoves t (List.mem_cons_of_mem _ ht)⟩
    rcases hmoves t List.mem_cons_self with ⟨id, hmove⟩ | ⟨transport, hmove⟩
    · exact hm.quiet (by rw [hmove]; exact fun h => h) (by rw [hmove]; rfl)
    · exact hm.quiet (by rw [hmove]; exact fun h => h.1 halong.1) (by rw [hmove]; rfl)

/-- A call finds a free channel, and no helper is asked. -/
structure Prepared (m : Manager) (id : Nat) (work : Work) : Prop where
  work : m.work? id = some work
  helper : m.settings.accessHelper = none
  channel : ∃ c host, m.channels = [c] ∧ c.isFree = true ∧ c.host = some host

/-- A free channel can be added, and the helper can be given up. -/
theorem prepared_leads (hm : m.Matched) {work : Work} (hw : m.work? id = some work) :
    m.Leads drivers fun n => n.Matched ∧ n.registry = m.registry ∧ n.Prepared id work := by
  let f (s : Settings) : Settings := { s with redirectOnConnect := none, accessHelper := none }
  refine hm.leads { move := .configure f } (fun h => h) rfl fun hp => ?_
  change ({ m with settings := f m.settings } : Manager).Leads drivers _
  have hlt : id < m.nextTask := hm.sound.tasks.lt hw
  obtain ⟨halong, c, hfree, hhost, hafter⟩ := clearing_after { m with settings := f m.settings } drivers
  obtain ⟨hregistry, hsettings⟩ := halong.last
  refine ⟨_, clearing_quiet hp rfl, run_matched hp drivers _, hregistry,
    (hafter.work? id hlt).trans hw, ?_, c, {}, hafter.channels, hfree, hhost⟩
  rw [hsettings]

/-- A call that has its driver binds its device to the free channel and begins to open it. -/
theorem Prepared.bound {work : Work} (h : m.Prepared id work) (connect : Connect) (device : RegisteredDevice) :
    let n := ((bindAndConnect w id connect device).perform m).2.1
    ∃ d ∈ n.channels, ∃ a ∈ d.attempts, a.phase = .opening false none ∧ ∃ host, d.host = some host := by
  obtain ⟨c, host, hc, hfree, hhost⟩ := h.channel
  have hnone : m.isConnected device.key = false :=
    isConnected_of_free (fun d hd => List.mem_singleton.mp (hc ▸ hd) ▸ hfree) device.key
  have hfind : m.channels.find? Channel.isFree = some c := by
    rw [hc, List.find?_cons_of_pos hfree]
  have hentry : entry w m.settings = .unguarded := by
    rw [entry, h.helper]
  intro n
  let bound : Channel := { c with device := some device, binding := c.binding + 1 }
  let stopped := connect.stopped || (connect.policy.isSome && m.stopped)
  let d := (bound.beginConnect id .unguarded stopped).1
  have hn : n = (m.startListening.setTask id (.connecting connect device c.id)).setChannel d := by
    change ((bindAndConnect w id connect device).perform m).2.1 = _
    rw [perform_bindAndConnect hnone hfind hhost, hentry, connect_free hfree hhost]
    exact settleChannel_after rfl d
  refine ⟨d, ?_, ⟨id, device, bound.binding, stopped, .opening false none⟩, ?_, rfl, host, hhost⟩
  · have hset : (m.startListening.setTask id (.connecting connect device c.id)).channels = [c] :=
      (setTask_channels ..).trans hc
    have hid : d.id = c.id := rfl
    rw [hn, setChannel_only hset hid]
    exact List.mem_singleton_self d
  · exact List.mem_append_right _ (List.mem_singleton_self _)

theorem bound_leads (hm : m.Matched)
    (h : ∃ d ∈ m.channels, ∃ a ∈ d.attempts, a.phase = .opening false none ∧ ∃ host, d.host = some host) :
    m.Leads drivers Awake := by
  obtain ⟨d, hd, a, ha, hphase, host, hhost⟩ := h
  have hin := List.mem_append_left m.retired hd
  have hp := (hm.sound.channels.sound d hin).pending_of_mem ha
  exact ((Opening.mk hin hp hphase hhost).leads hm nofun).mono fun _ => ConnectedUnder.awake

/-- A call whose driver is there. -/
theorem Prepared.installed {connect : Connect} {device : RegisteredDevice}
    (h : m.Prepared id (.installing connect device (some (.ok ())))) (hm : m.Matched) :
    m.Leads drivers Awake := by
  let t : Turn := { move := .resume id }
  have hafter : (m.turn drivers t).1 =
      ((bindAndConnect (t.surroundings drivers) id connect device).perform m).2.1 :=
    turn_resume h.work drivers
  refine hm.leads t (fun h => h) rfl fun hn => bound_leads hn ?_
  rw [hafter]
  exact h.bound connect device

theorem Prepared.setTask {work : Work} (h : m.Prepared id work) (next : Work) :
    (m.setTask id next).Prepared id next where
  work := work?_setTask_self ..
  helper := by
    rw [setTask_settings]
    exact h.helper
  channel := by
    rw [setTask_channels]
    exact h.channel

/-- A call that waits for its driver, or has got it. -/
theorem Prepared.installing {connect : Connect} {device : RegisteredDevice}
    {outcome : Option (Except JobFault Unit)} (h : m.Prepared id (.installing connect device outcome))
    (hm : m.Matched) (ho : ∀ fault, outcome ≠ some (.error fault)) : m.Leads drivers Awake := by
  match outcome with
  | some (.error fault) => exact absurd rfl (ho fault)
  | some (.ok ()) => exact h.installed hm
  | none =>
    let t : Turn := { move := .jobDone id (.ok ()) }
    have hafter : (m.turn drivers t).1 = m.setTask id (.installing connect device (some (.ok ()))) :=
      turn_jobDone h.work drivers
    refine hm.leads t (fun h => h) rfl fun hn => ?_
    rw [hafter] at hn ⊢
    exact (h.setTask _).installed hn

/-- A call that has not begun, of a device that is registered. -/
theorem Prepared.idle {connect : Connect} (h : m.Prepared id (.idle connect)) (hm : m.Matched)
    {device : RegisteredDevice} (hf : m.registry.find? connect.key = some device) :
    m.Leads drivers Awake := by
  let t : Turn := { move := .begin id }
  have hbegin : (m.turn drivers t).1 =
      ((beginConnect (t.surroundings drivers) id connect).perform m).2.1 := turn_begin h.work drivers
  refine hm.leads t (fun h => h) rfl fun hn => ?_
  rw [beginConnect, perform_manager, hf] at hbegin
  cases drivers with
  | true =>
    have hafter : (m.turn true t).1 = m.setTask id (.installing connect device none) := hbegin
    rw [hafter] at hn ⊢
    exact (h.setTask _).installing hn nofun
  | false =>
    have hafter : (m.turn false t).1 = ((bindAndConnect (t.surroundings false) id connect device).perform
        (m.setTask id (.installing connect device (some (.ok ()))))).2.1 := hbegin
    refine bound_leads hn ?_
    rw [hafter]
    exact (h.setTask _).bound connect device

/-- A task that is not harmless may connect its device, or register for events. -/
theorem harmful_leads (hm : m.Matched) {t : Task} (ht : t ∈ m.tasks)
    (h : ¬t.work.Harmless m.registry) : m.Leads drivers Awake := by
  have hw := hm.sound.tasks.work? ht
  obtain ⟨id, work⟩ := t
  cases work with
  | idle connect =>
    obtain ⟨device, hf⟩ := Option.ne_none_iff_exists'.mp h
    refine (prepared_leads hm hw).bind fun n ⟨hn, hregistry, hprepared⟩ => ?_
    exact hprepared.idle hn (hregistry ▸ hf)
  | installing connect device outcome =>
    refine (prepared_leads hm hw).bind fun n ⟨hn, _, hprepared⟩ => ?_
    exact hprepared.installing hn fun fault he => h ⟨fault, he⟩
  | enumerating outcome => exact enumerating_leads hm hw fun fault he => h ⟨fault, he⟩
  | connecting | tidying | uninstalling => exact absurd trivial h

/-! ## A shutdown is final -/

theorem Awake.not_off (h : m.Awake) (hc : m.Counted) : ¬m.Off := by
  intro hoff
  rcases h with hreg | ⟨c, hin, hstate⟩
  · have hcount : m.listening.listeners = m.registration.toNat + m.connecting + m.holding := hc
    rw [hoff.listeners, hreg, Bool.toNat_true] at hcount
    omega
  · exact (hoff.channels c hin).1 hstate

/-- After a shutdown, as long as nobody asks for a connect and no arrival is handled, everything is off once the
calls have come to their ends, in whatever order, exactly if the manager is stoppable when the shutdown is
done. -/
theorem shutdown_final_iff (addressing : Addressing) (settings : Settings) (drivers : Bool)
    (turns : List Turn) (t : Turn) (shuts : t.move = .shutdown)
    (first : ((new addressing settings).run drivers turns).stopped = false) :
    let m := (((new addressing settings).run drivers turns).turn drivers t).1
    (∀ later, m.Quietly drivers later → (m.run drivers later).Resolved → (m.run drivers later).Off) ↔
      m.Stoppable := by
  have hm : ((new addressing settings).run drivers turns).Matched :=
    run_matched (new_matched addressing settings) drivers turns
  have hwithdrawn : ((new addressing settings).run drivers turns).Withdrawn :=
    run_withdrawn (new_matched addressing settings) (fun _ h => nomatch h) drivers turns
  intro m
  have hmatched : m.Matched := turn_matched hm drivers t
  have hhalted : m.Halted := shutdown_halted hm hwithdrawn first drivers shuts
  have hcounted : ∀ later, (m.run drivers later).Counted := by
    intro later
    have hrun : m.run drivers later = (new addressing settings).run drivers (turns ++ t :: later) := by
      rw [run_append]
      rfl
    rw [hrun]
    exact run_counted (new_matched addressing settings) (new_registers addressing settings)
      (m := new addressing settings) rfl drivers _
  constructor
  · intro hfinal
    have hasleep : ¬m.Leads drivers Awake := by
      intro hawake
      have hmatchedly : m.Leads drivers fun n => n.Matched ∧ n.Awake := by
        obtain ⟨later, hquiet, hn⟩ := hawake
        exact ⟨later, hquiet, run_matched hmatched drivers later, hn⟩
      obtain ⟨later, hquiet, hn, hresolved⟩ := hmatchedly.bind fun n hn => hn.2.drain hn.1
      exact hn.not_off (hcounted later) (hfinal later hquiet hresolved)
    refine ⟨?_, fun task ht => ?_, fun c hc => ?_, fun c hc => ⟨fun hstate => ?_, ?_⟩⟩
    · cases hi : m.initialized with
      | true => rfl
      | false => exact absurd (start_leads hmatched hi) hasleep
    · exact Classical.byContradiction fun h => hasleep (harmful_leads hmatched ht h)
    · exact Classical.byContradiction fun h =>
        hasleep (fruitful_leads hmatched (List.mem_append_left _ hc) (fun _ => hc) h)
    · exact hasleep (.here (.inr ⟨c, List.mem_append_right _ hc, hstate⟩))
    · exact Classical.byContradiction fun h =>
        hasleep (fruitful_leads hmatched (List.mem_append_right _ hc) (fun hn => absurd trivial hn) h)
  · intro hstoppable later hquiet hresolved
    have hover := run_over hmatched (hhalted.over hstoppable) hquiet
    exact hover.off (run_matched hmatched drivers later).sound (hcounted later) hresolved

/-- The devices that are there are registered, there is a channel, and a call begins to open the device. -/
def stickListening : List Turn :=
  [{ move := .start }, { move := .enumerationDone 0 (.ok [stick.info]) }, { move := .resume 0 },
    { move := .addChannel (.recording true false) true }, { move := .connect stick.key false },
    { move := .begin 1 }]

/-- A device that is connected when the manager is shut down is taken off for good. -/
theorem connected_is_shut_down :
    let before := (new .busAddress { autoConnect := false }).run false (stickListening ++ stickOpened)
    let m := (before.turn false { move := .shutdown }).1
    before.channels.map (·.state) = [.connected] ∧ before.listening.listeners = 2 ∧
      ∀ later, m.Quietly false later → (m.run false later).Resolved → (m.run false later).Off := by
  intro before m
  have htasks : m.tasks.isEmpty = true := by decide +kernel
  have hset : (m.channels.all fun c => c.attempts.isEmpty) = true := by decide +kernel
  have hretired : m.retired.isEmpty = true := by decide +kernel
  simp only [List.all_eq_true, List.isEmpty_iff] at htasks hset hretired
  have hstoppable : m.Stoppable := by
    refine ⟨by decide +kernel, fun t ht => ?_, fun c hc a ha => ?_, fun c hc => ?_⟩
    · exact absurd (htasks ▸ ht) List.not_mem_nil
    · exact absurd (hset c hc ▸ ha) List.not_mem_nil
    · exact absurd (hretired ▸ hc) List.not_mem_nil
  exact ⟨by decide +kernel, by decide +kernel,
    (shutdown_final_iff .busAddress { autoConnect := false } false (stickListening ++ stickOpened)
      { move := .shutdown } rfl (by decide +kernel)).mpr hstoppable⟩

theorem stickOpened_quiet (hm : m.Matched) : m.Quietly drivers stickOpened := by
  have hnext := turn_matched hm drivers { move := .opened 1 1 0 (.ok stick.key) }
  exact ⟨hm.quiet (fun h => h) rfl, hnext.quiet (fun h => h) rfl, trivial⟩

/-- A device that is being opened when the manager is shut down is connected afterwards. -/
theorem opening_outlives_shutdown :
    let before := (new .busAddress { autoConnect := false }).run false stickListening
    let m := (before.turn false { move := .shutdown }).1
    m.Quietly false stickOpened ∧ (m.run false stickOpened).Resolved ∧
      (∃ c ∈ (m.run false stickOpened).channels, c.state = .connected) ∧
        (m.run false stickOpened).listening.listeners = 1 := by
  intro before m
  have hm : m.Matched :=
    turn_matched (run_matched (new_matched _ _) false stickListening) false { move := .shutdown }
  have htasks : (m.run false stickOpened).tasks.isEmpty = true := by decide +kernel
  have hconnected : ((m.run false stickOpened).channels.any fun c => c.state == .connected) = true := by
    decide +kernel
  simp only [List.any_eq_true, beq_iff_eq, List.isEmpty_iff] at htasks hconnected
  refine ⟨stickOpened_quiet hm, fun t ht => ?_, hconnected, by decide +kernel⟩
  exact absurd (htasks ▸ ht) List.not_mem_nil

end RemoteUsb.Manager
