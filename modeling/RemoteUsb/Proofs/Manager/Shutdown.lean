import RemoteUsb.Proofs.Channel.Spent
import RemoteUsb.Proofs.Manager.Listeners

/-! # What a shutdown leaves

A shutdown takes every connected device off, calls every request for access off, and ends the
registration for events. It does nothing about calls that have not bound their device yet, and about those
that open it without having asked for access. `Stoppable` says of the manager that it leaves that none of
these will succeed; then nothing is ever connected again, as long as nobody asks for it and no arrival is
handled, be it a new one or one that was queued before, and once the calls have ended nobody listens. -/

namespace RemoteUsb

/-- A task that will neither connect a device nor register for events, as long as no device comes to the
registry. -/
def Work.Harmless (registry : Registry) : Work → Prop
  | .idle connect => registry.find? connect.key = none
  | .installing _ _ outcome => ∃ fault, outcome = some (.error fault)
  | .enumerating outcome => ∃ fault, outcome = some (.error fault)
  | _ => True

def Work.isCall : Work → Bool
  | .idle _ | .installing .. | .connecting .. => true
  | _ => false

namespace Manager

/-- A turn in which nobody asks for a connect, no event is posted, and no event tells that a device has
come. This leaves out arrivals that were queued before the shutdown: if the loop takes one from the queue
and a policy wants the device, it may be connected all the same. -/
structure Quiet (m : Manager) (drivers : Bool) (t : Turn) : Prop where
  connects : ¬m.Starts (m.turn drivers t).1
  events : ∀ event, t.move ≠ .post event ∧ t.move ≠ .handle event
  arrivals : t.move = .nextEvent → ∀ info, m.queue.take?.2 ≠ some (.arrived info)

/-- A row of such turns. -/
def Quietly (m : Manager) (drivers : Bool) : List Turn → Prop
  | [] => True
  | t :: turns => m.Quiet drivers t ∧ (m.turn drivers t).1.Quietly drivers turns

/-- Every call to connect a device has come to its end. -/
def Resolved (m : Manager) : Prop := ∀ t ∈ m.tasks, t.work.isCall = false

/-- Nothing is connected, no host holds a handle, and nobody listens. -/
structure Off (m : Manager) : Prop where
  channels : ∀ c ∈ m.channels ++ m.retired, c.state ≠ .connected ∧ c.handle? = none
  listeners : m.listening.listeners = 0

/-- Nothing that goes on will connect a device or register for events, if requests for access that were
called off are granted or not. -/
structure Stoppable (m : Manager) : Prop where
  initialized : m.initialized = true
  tasks : ∀ t ∈ m.tasks, t.work.Harmless m.registry
  set : ∀ c ∈ m.channels, c.Fruitless False
  retired : ∀ c ∈ m.retired, c.state ≠ .connected ∧ c.Fruitless True

/-- What is certain after a shutdown. -/
structure Halted (m : Manager) : Prop where
  registration : m.registration = false
  set : ∀ c ∈ m.channels, c.state = .disconnected ∨ c.state = .disconnecting
  retired : ∀ c ∈ m.retired, c.state ≠ .waitingForAccess

/-- The end, up to calls that fail. -/
structure Over (m : Manager) : Prop where
  registration : m.registration = false
  initialized : m.initialized = true
  tasks : ∀ id work, m.work? id = some work → work.Harmless m.registry
  set : ∀ c ∈ m.channels, c.Spent False
  retired : ∀ c ∈ m.retired, c.Spent True

variable {drivers : Bool} {allowed : Kind → Prop} {kind : Kind} {m n : Manager} {w : Surroundings}
  {outputs : List Output}

theorem Halted.over (h : m.Halted) (hs : m.Stoppable) : m.Over where
  registration := h.registration
  initialized := hs.initialized
  tasks _ _ hw := hs.tasks _ (mem_tasks_of_work? hw)
  set c hc := ⟨h.set c hc, hs.set c hc⟩
  retired c hc := by
    obtain ⟨hstate, hopening⟩ := hs.retired c hc
    refine ⟨?_, hopening⟩
    cases he : c.state with
    | disconnected => exact .inl rfl
    | disconnecting => exact .inr rfl
    | connected => exact absurd he hstate
    | waitingForAccess => exact absurd he (h.retired c hc)

/-! ## The shutdown -/

theorem stopPolicy_ids (m : Manager) (task : Task) :
    ((stopPolicy w task).perform m).2.1.channels.map (·.id) = m.channels.map (·.id) := by
  have hset : ∀ id work, (m.setTask id work).channels.map (·.id) = m.channels.map (·.id) := by
    intro id work
    rw [setTask_channels]
  unfold stopPolicy
  split
  · rw [stopCall, perform_manager]
    split
    · exact hset _ _
    · exact hset _ _
    · rename_i channel _
      rw [onChannel, perform_manager]
      cases m.anyChannel? channel with
      | none => rfl
      | some c => exact setChannel_ids m (c.stop task.id)
    · rfl
  · rfl

theorem disconnectChannel_off (hm : m.Matched) (id : Nat) :
    ∀ c ∈ ((disconnectChannel w id).perform m).2.1.channels,
      (c.state = .disconnected ∨ c.state = .disconnecting) ∨ (c ∈ m.channels ∧ c.id ≠ id) := by
  have hput : ∀ d ∈ m.channels, d.id = id → ∀ c ∈ (m.setChannel d.disconnect.1).channels,
      (c.state = .disconnected ∨ c.state = .disconnecting) ∨ (c ∈ m.channels ∧ c.id ≠ id) := by
    intro d hd hid c hc
    have hsame := Channel.step_id (hm.sound.channels.sound d (List.mem_append_left _ hd)) 0 .disconnect
    rcases mem_map_put hc with ⟨rfl, _⟩ | ⟨hin, hne⟩
    · exact .inl d.disconnect_state
    · exact .inr ⟨hin, fun he => hne (he.trans (hid.symm.trans hsame.symm))⟩
  rcases disconnectChannel_cases (w := w) hm id with ⟨hnone, hperform⟩ |
    ⟨d, hd, hid, effects, ⟨_, hperform⟩ | ⟨_, _, _, _, hperform⟩⟩
  · rw [hperform]
    refine fun c hc => .inr ⟨hc, fun he => ?_⟩
    simpa [he] using List.find?_eq_none.mp hnone c hc
  · rw [hperform]
    exact hput d hd hid
  · rw [hperform]
    exact hput d hd hid

/-- Every channel that is told to disconnect does so, and the others stay. -/
theorem disconnectAll_off (hm : m.Matched) (channels : List Channel) :
    ∀ c ∈ ((Act.each (fun channel : Channel => disconnectChannel w channel.id) channels).perform m).2.1.channels,
      (c.state = .disconnected ∨ c.state = .disconnecting) ∨
        (c ∈ m.channels ∧ c.id ∉ channels.map (·.id)) := by
  induction channels generalizing m with
  | nil => exact fun c hc => .inr ⟨hc, List.not_mem_nil⟩
  | cons d channels ih =>
    have hfirst := disconnectChannel_off (w := w) hm d.id
    have hrow : Deeds w.needsDriver (fun _ => True) m _ _ :=
      disconnectChannel_does (w := w) (fun _ _ _ _ _ => trivial) d.id hm
    rw [Act.each, perform_bind]
    intro c hc
    rcases ih (hrow.matched hm) c hc with hoff | ⟨hin, hout⟩
    · exact .inl hoff
    · rcases hfirst c hin with hoff | ⟨hin, hne⟩
      · exact .inl hoff
      · refine .inr ⟨hin, fun hmem => ?_⟩
        rcases List.mem_cons.mp hmem with he | hmem
        · exact hne he
        · exact hout hmem

/-- A shutdown ends the registration, and no channel stays connected or waits for access. -/
theorem shutdown_off (hm : m.Matched) (hs : m.stopped = false) :
    let n := ((shutdown w).perform m).2.1
    n.registration = false ∧ ∀ c ∈ n.channels, c.state = .disconnected ∨ c.state = .disconnecting := by
  intro n
  let first := ((Act.each (stopPolicy w) m.tasks).perform { m with stopped := true }).2.1
  let second := ((Act.each (fun channel : Channel => disconnectChannel w channel.id) m.channels).perform
    first).2.1
  have hstart : ({ m with stopped := true } : Manager).Matched := ⟨⟨hm.sound.registry, hm.sound.channels,
    hm.sound.tasks⟩, hm.agree⟩
  let Same (p : Manager) : Prop := p.channels.map (·.id) = m.channels.map (·.id)
  have hstopped : Deeds w.needsDriver (fun _ => True) { m with stopped := true } _ first ∧ Same first :=
    each_keeping (fun task _ _ => stopPolicy_does task)
      (fun task p _ h => (stopPolicy_ids p task).trans h) m.tasks hstart rfl
  obtain ⟨hrow, hids⟩ := hstopped
  have hchannels : ∀ c ∈ second.channels, c.state = .disconnected ∨ c.state = .disconnecting := by
    intro c hc
    rcases disconnectAll_off (hrow.matched hstart) m.channels c hc with hoff | ⟨hin, hout⟩
    · exact hoff
    · have hmem : c.id ∈ first.channels.map (·.id) := List.mem_map_of_mem hin
      exact absurd (hids ▸ hmem) hout
  have hn : n = if second.registration then { second.stopListening with registration := false } else second := by
    change ((shutdown w).perform m).2.1 = _
    rw [shutdown, perform_manager, if_neg (by rw [hs]; decide), perform_change, perform_bind, perform_bind,
      perform_manager]
    change ((if second.registration = true then _ else _ : Act Unit).perform second).2.1 = _
    split
    · rfl
    · rfl
  rw [hn]
  split
  · exact ⟨rfl, hchannels⟩
  · exact ⟨eq_false_of_ne_true ‹_›, hchannels⟩

/-! ## Channels that were removed -/

/-- No channel that was removed waits for access. -/
def Withdrawn (m : Manager) : Prop := ∀ c ∈ m.retired, c.state ≠ .waitingForAccess

theorem Withdrawn.setChannel (h : m.Withdrawn) (hm : m.Sound) {c d : Channel}
    (hc : c ∈ m.channels ++ m.retired) (hid : d.id = c.id)
    (hd : c ∈ m.retired → d.state ≠ .waitingForAccess) : (m.setChannel d).Withdrawn := by
  intro x hx
  rcases hm.mem_setChannel_retired hc hid hx with ⟨rfl, hret⟩ | hx
  · exact hd hret
  · exact h x hx

theorem Deed.withdrawn (h : Deed drivers kind m outputs n) (hm : m.Sound) (hw : m.Withdrawn) :
    n.Withdrawn := by
  have hmoved : ∀ {c : Channel} {move : Channel.Move}, c ∈ m.channels ++ m.retired →
      move.connects = false → ∀ now, (m.setChannel (c.step now move).1).Withdrawn := by
    intro c move hc hmove now
    have hs := hm.channels.sound c hc
    exact hw.setChannel hm hc (Channel.step_id hs now move) fun hret hwaiting =>
      hw c hret ((Channel.step_onward hs now hmove).waiting hwaiting)
  have hset : ∀ id work, (m.setTask id work).Withdrawn := by
    intro id work c hc
    rw [setTask_retired] at hc
    exact hw c hc
  cases h with
  | still e =>
    intro c hc
    rw [e.retired] at hc
    exact hw c hc
  | told | subscribed | unsubscribed | added | skipped | registered | departed => exact hw
  | task id =>
    intro c hc
    rw [putTask_retired] at hc
    exact hw c hc
  | spawned info =>
    intro c hc
    rw [spawn, setTask_retired] at hc
    exact hw c hc
  | begun id => exact hset id _
  | @bound _ call connect device c a entry stopped _ _ hfind =>
    have hin : c ∈ m.channels := List.mem_of_find?_eq_some hfind
    have hid := Channel.connect_id c call device entry stopped
    intro x hx
    change x ∈ (m.startListening.setTask call _).retired.map (put _) at hx
    rw [setTask_retired] at hx
    exact hw.setChannel hm (List.mem_append_left _ hin) hid
      (fun hret => absurd rfl (hm.retired_ne hin hret)) x hx
  | @barred _ call device c entry stopped _ hfind =>
    have hin : c ∈ m.channels := List.mem_of_find?_eq_some hfind
    exact hw.setChannel hm (List.mem_append_left _ hin) (Channel.connect_id ..)
      fun hret => absurd rfl (hm.retired_ne hin hret)
  | moved now move hc hmove => exact hmoved hc hmove now
  | connected now move hc hmove => exact hmoved hc hmove now
  | failed now move hc hmove => exact hmoved hc hmove now
  | released now move hc hmove => exact hmoved (List.mem_append_left _ hc) hmove now
  | @removed _ c hc =>
    intro x hx
    rcases List.mem_append.mp hx with hx | hx
    · exact hw x hx
    · rw [List.mem_singleton.mp hx]
      rcases c.disconnect_state with he | he <;> rw [he] <;> decide

theorem run_withdrawn (hm : m.Matched) (hw : m.Withdrawn) (drivers : Bool) (turns : List Turn) :
    (m.run drivers turns).Withdrawn :=
  run_keeps hm drivers (fun d hm hw => d.withdrawn hm.sound hw) hw turns

theorem shutdown_halted (hm : m.Matched) (hw : m.Withdrawn) (hs : m.stopped = false) (drivers : Bool)
    {t : Turn} (ht : t.move = .shutdown) : (m.turn drivers t).1.Halted := by
  have hrow := turn_deeds hm drivers t
  have hretired : (m.turn drivers t).1.Withdrawn :=
    hrow.keeps hm (fun _ d hm hw => d.withdrawn hm.sound hw) hw
  have hturn : (m.turn drivers t).1 = ((shutdown (t.surroundings drivers)).perform m).2.1 := by
    rw [turn, ht]
    rfl
  obtain ⟨hregistration, hset⟩ := shutdown_off (w := t.surroundings drivers) hm hs
  rw [← hturn] at hregistration hset
  exact ⟨hregistration, hset, hretired⟩

/-! ## Nothing comes back -/

theorem Over.put (h : m.Over) (hm : m.Sound) {c d : Channel} (hc : c ∈ m.channels ++ m.retired)
    (hid : d.id = c.id) (hset : c ∈ m.channels → d.Spent False) (hretired : c ∈ m.retired → d.Spent True) :
    (m.setChannel d).Over where
  registration := h.registration
  initialized := h.initialized
  tasks := h.tasks
  set x hx := by
    rcases hm.mem_setChannel hc hid hx with ⟨rfl, hin⟩ | hx
    · exact hset hin
    · exact h.set x hx
  retired x hx := by
    rcases hm.mem_setChannel_retired hc hid hx with ⟨rfl, hret⟩ | hx
    · exact hretired hret
    · exact h.retired x hx

theorem Over.put_idle (h : m.Over) (hm : m.Sound) {c d : Channel} (hc : c ∈ m.channels ++ m.retired)
    (hid : d.id = c.id) (hd : d.Idle) : (m.setChannel d).Over :=
  h.put hm hc hid (fun _ => hd.spent) fun _ => hd.spent

theorem Over.setTask (h : m.Over) (id : Nat) {work : Work} (hw : work.Harmless m.registry) :
    (m.setTask id work).Over where
  registration := (setTask_registration ..).trans h.registration
  initialized := (setTask_initialized ..).trans h.initialized
  tasks other task ht := by
    rw [work?_setTask] at ht
    rw [setTask_registry]
    split at ht
    · cases ht
      exact hw
    · exact h.tasks other task ht
  set c hc := h.set c (setTask_channels m id work ▸ hc)
  retired c hc := h.retired c (setTask_retired m id work ▸ hc)

theorem Over.dropTask (h : m.Over) (id : Nat) : (m.dropTask id).Over where
  registration := h.registration
  initialized := h.initialized
  tasks other task ht := by
    rw [work?_dropTask] at ht
    split at ht
    · cases ht
    · exact h.tasks other task ht
  set := h.set
  retired := h.retired

theorem Over.advance (h : m.Over) {id : Nat} {work : Option Work}
    (ha : m.Advance drivers id kind (m.work? id) work outputs) (hk : kind ≠ .call) :
    (m.putTask id work).Over := by
  cases work with
  | none => exact h.dropTask id
  | some work =>
    refine h.setTask id ?_
    have hbefore := h.tasks id
    generalize m.work? id = old at ha hbefore
    cases ha with
    | called => exact absurd rfl hk
    | recalled other hkey =>
      have := hbefore _ rfl
      rwa [Work.Harmless, ← hkey] at this
    | begun hfind =>
      have hnone := hbefore _ rfl
      cases hnone.symm.trans hfind
    | installed other next hnext =>
      obtain ⟨fault, he⟩ := hbefore _ rfl
      refine ⟨fault, (hnext.resolve_left fun hnone => ?_).trans he⟩
      cases he.symm.trans hnone
    | enumerated =>
      obtain ⟨fault, he⟩ := hbefore _ rfl
      cases he
    | removing | cleaning | uninstalled => trivial

/-- Whatever goes on, nothing comes back, unless somebody asks for a connect or a device is registered. -/
theorem Deed.over (h : Deed drivers kind m outputs n) (hm : m.Sound) (ho : m.Over) (hk : kind ≠ .call)
    (hk' : kind ≠ .arrival) : n.Over := by
  cases h with
  | still e =>
    refine ⟨e.registration.trans ho.registration, e.initialized.trans ho.initialized, ?_, ?_, ?_⟩
    · intro id work hw
      rw [work?_of_tasks e.tasks] at hw
      rw [e.registry]
      exact ho.tasks id work hw
    · rw [e.channels]
      exact ho.set
    · rw [e.retired]
      exact ho.retired
  | told => exact ho
  | task id ha => exact ho.advance ha hk
  | spawned info =>
    have hnumber : m.takeNumber.1.Over := ⟨ho.registration, ho.initialized, ho.tasks, ho.set, ho.retired⟩
    exact hnumber.setTask m.nextTask trivial
  | begun id _ _ hinit => cases ho.initialized.symm.trans hinit
  | subscribed id hw =>
    obtain ⟨fault, he⟩ := ho.tasks id _ hw
    cases he
  | unsubscribed hreg => cases ho.registration.symm.trans hreg
  | bound call entry stopped hw =>
    obtain ⟨fault, he⟩ := ho.tasks call _ hw
    cases he
  | barred call entry stopped _ hfind _ hidle =>
    exact ho.put_idle hm (List.mem_append_left _ (List.mem_of_find?_eq_some hfind))
      (Channel.connect_id ..) hidle
  | @moved _ c now move hc hmove hproceeds hsteady =>
    have hs := hm.channels.sound c hc
    exact ho.put hm hc hsteady.id (fun hin => (ho.set c hin).step hs now hmove False.elim)
      fun hret => (ho.retired c hret).step hs now hmove fun _ => hproceeds hret
  | @connected _ _ c now move a handle connect hc hmove hp hh hold =>
    have hs := hm.channels.sound c hc
    rcases List.mem_append.mp hc with hin | hret
    · exact absurd hold.state ((ho.set c hin).step_not_connected hs now hmove)
    · exact absurd hold.state ((ho.retired c hret).step_not_connected hs now hmove)
  | @failed _ _ c now move a connect hc hmove hp hidle =>
    have hid := Channel.step_id (hm.channels.sound c hc) now move
    have hput := ho.put_idle hm hc hid hidle
    have hstop : (m.setChannel (c.step now move).1).stopListening.Over :=
      ⟨hput.registration, hput.initialized, hput.tasks, hput.set, hput.retired⟩
    exact hstop.dropTask a.call
  | released now move hc hmove hold => exact absurd hold.state (ho.set _ hc).not_connected
  | added transport host hh =>
    refine ⟨ho.registration, ho.initialized, ho.tasks, fun c hc => ?_, ho.retired⟩
    rcases List.mem_append.mp hc with hc | hc
    · exact ho.set c hc
    · rw [List.mem_singleton.mp hc]
      exact Channel.Idle.spent ⟨rfl, rfl, hh, rfl, rfl, rfl⟩
  | skipped => exact ⟨ho.registration, ho.initialized, ho.tasks, ho.set, ho.retired⟩
  | @removed _ c hc =>
    have hs := hm.channels.sound c (List.mem_append_left _ hc)
    have hleft : (c.step 0 .disconnect).1.Spent False := (ho.set c hc).step hs 0 rfl False.elim
    refine ⟨ho.registration, ho.initialized, ho.tasks,
      fun x hx => ho.set x (List.mem_of_mem_filter hx), fun x hx => ?_⟩
    rcases List.mem_append.mp hx with hx | hx
    · exact ho.retired x hx
    · rw [List.mem_singleton.mp hx]
      exact hleft.fix
  | registered => exact absurd rfl hk'
  | departed key =>
    refine ⟨ho.registration, ho.initialized, fun id work hw => ?_, ho.set, ho.retired⟩
    have hbefore := ho.tasks id work hw
    cases work with
    | idle connect => exact Registry.find?_remove_of_none hbefore key
    | _ => exact hbefore

theorem Deeds.over (h : Deeds drivers allowed m outputs n) (hm : m.Matched) (ho : m.Over)
    (hk : ∀ kind, allowed kind → kind ≠ .call ∧ kind ≠ .arrival) : n.Over := by
  refine h.keeps hm (fun {kind} _ _ _ hkind d hm ho => ?_) ho
  obtain ⟨hcall, harrival⟩ : kind ≠ .call ∧ kind ≠ .arrival := by
    rcases hkind with rfl | hkind
    · exact ⟨nofun, nofun⟩
    · exact hk kind hkind
  exact d.over hm.sound ho hcall harrival

theorem connect_starts (hm : m.Sound) (key : DeviceKey) (stopped : Bool) :
    m.Starts (((Move.connect key stopped).act w).perform m).2.1 :=
  ⟨m.nextTask, _, hm.tasks.work?_none (Nat.le_refl _),
    (work?_setTask m.takeNumber.1 m.nextTask _ _).trans (if_pos rfl)⟩

/-- A quiet turn asks for no connect and registers no device. -/
theorem Quiet.kinds {t : Turn} (h : m.Quiet drivers t) (hm : m.Sound) (ho : m.Over) (kind : Kind)
    (hk : t.move.Allows (t.surroundings drivers) m kind) : kind ≠ .call ∧ kind ≠ .arrival := by
  have hstarts : ¬m.Starts (((t.move.act (t.surroundings drivers)).perform m).2.1) := h.connects
  have hevents := h.events
  have harrivals := h.arrivals
  have other : ¬t.move.Allows (t.surroundings drivers) m .call →
      ¬t.move.Allows (t.surroundings drivers) m .arrival → kind ≠ .call ∧ kind ≠ .arrival :=
    fun hcall harrival => ⟨fun he => hcall (he ▸ hk), fun he => harrival (he ▸ hk)⟩
  refine other ?_ ?_
  · intro hcall
    cases hmove : t.move with
    | connect key stopped =>
      rw [hmove] at hstarts
      exact hstarts (connect_starts hm key stopped)
    | handle event => exact (hevents event).2 hmove
    | nextEvent =>
      rw [hmove] at hcall
      obtain ⟨info, he⟩ := hcall
      exact harrivals hmove info he
    | addChannel transport withHost =>
      rw [hmove] at hcall hstarts
      exact hstarts hcall.2
    | begin | stop | abandon | jobDone | enumerationDone | resume | signal | opened | disconnect
    | disconnectAndWait | removeChannel | resetChannel | receive | stir | post | endLoop | start | shutdown
    | configure =>
      rw [hmove] at hcall
      exact hcall
  · intro harrival
    cases hmove : t.move with
    | handle event => exact (hevents event).2 hmove
    | nextEvent =>
      rw [hmove] at harrival
      obtain ⟨info, he⟩ := harrival
      exact harrivals hmove info he
    | resume id =>
      rw [hmove] at harrival
      obtain ⟨devices, hw⟩ := harrival
      obtain ⟨fault, he⟩ := ho.tasks id _ hw
      cases he
    | connect | begin | stop | abandon | jobDone | enumerationDone | addChannel | signal | opened
    | disconnect | disconnectAndWait | removeChannel | resetChannel | receive | stir | post | endLoop
    | start | shutdown | configure =>
      rw [hmove] at harrival
      exact harrival

theorem run_over (hm : m.Matched) (ho : m.Over) {later : List Turn} (h : m.Quietly drivers later) :
    (m.run drivers later).Over := by
  induction later generalizing m with
  | nil => exact ho
  | cons t later ih =>
    obtain ⟨hquiet, hlater⟩ := h
    have hrow := turn_deeds hm drivers t
    exact ih (hrow.matched hm) (hrow.over hm ho (hquiet.kinds hm.sound ho)) hlater

/-- Once all calls have come to their end, everything is off. -/
theorem Over.off (h : m.Over) (hm : m.Sound) (hc : m.Counted) (hr : m.Resolved) : m.Off := by
  have hstate : ∀ c ∈ m.channels ++ m.retired, c.state ≠ .connected := by
    intro c hin
    rcases List.mem_append.mp hin with hin | hin
    · exact (h.set c hin).not_connected
    · exact (h.retired c hin).not_connected
  refine ⟨fun c hin => ⟨hstate c hin, (hm.channels.sound c hin).handle?_none (hstate c hin)⟩, ?_⟩
  have hconnecting : m.connecting = 0 := by
    refine List.countP_eq_zero.mpr fun t ht he => ?_
    have := hr t ht
    obtain ⟨id, work⟩ := t
    cases work with
    | connecting => cases this
    | _ => cases he
  have hholding : m.holding = 0 :=
    List.countP_eq_zero.mpr fun c hin he => hstate c hin (by simpa [Channel.isHolding] using he)
  have hcount : m.listening.listeners = m.registration.toNat + m.connecting + m.holding := hc
  rw [hcount, h.registration, hconnecting, hholding]
  rfl

end Manager
end RemoteUsb
