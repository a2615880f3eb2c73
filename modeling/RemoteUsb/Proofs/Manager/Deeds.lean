import RemoteUsb.Proofs.Manager.Doing

/-! # Every turn is a row of deeds

`turn_deeds` says so once for all moves, and `Move.Allows` says of which kinds the deeds of a move are. In
particular it says which moves can strand a driver: a call that is dropped while it waits for its driver,
or whose driver could not be installed; a connection on a channel that was removed; a shutdown; and whatever
takes a device off, or ends a call without a connection, outside the runtime, where no task can be
started. -/

namespace RemoteUsb.Manager

variable {drivers : Bool} {allowed : Kind → Prop} {kind : Kind} {m n p : Manager} {w : Surroundings}
  {outputs more : List Output}

/-! ## Calls -/

theorem number_does : Does w allowed number m := fun _ =>
  .still ⟨rfl, rfl, rfl, rfl, rfl, Nat.le_succ _, rfl, rfl, rfl⟩

/-- The number that is given out next has no task. -/
theorem Matched.fresh (hm : m.Matched) : (number.perform m).2.1.work? (number.perform m).1 = none :=
  hm.sound.tasks.work?_none (Nat.le_refl _)

theorem beginConnect_does {call : Nat} {connect : Connect} (h : m.work? call = some (.idle connect)) :
    Does w allowed (beginConnect w call connect) m := by
  refine .manager ?_
  split
  · exact endConnect_does (.loose h rfl) (.inl rfl) connect _
  · rename_i device hfind
    have hbegun : Deed w.needsDriver .plain m
        (if w.needsDriver then [.started call (.install device.info)] else [])
        (m.putTask call (some (.installing connect device
          (if w.needsDriver then none else some (.ok ()))))) :=
      .task call (h ▸ .begun hfind)
    refine .ite (fun hd _ => ?_) fun hd => .bind (fun _ => ?_)
      (bindAndConnect_does (work?_setTask_self ..) fun hd' => absurd hd' hd)
    · rw [if_pos hd, if_pos hd] at hbegun
      exact hbegun.plain
    · rw [if_neg hd, if_neg hd] at hbegun
      exact hbegun.plain

/-- A call is made under a number without a task. -/
theorem idle_deed {call : Nat} (hlt : call < m.nextTask) (hnone : m.work? call = none)
    (connect : Connect) : Deed drivers .call m [] (m.setTask call (.idle connect)) := by
  have hcalled : m.Advance drivers call .call (m.work? call) (some (.idle connect)) [] :=
    hnone ▸ .called connect hlt
  exact .task call hcalled

theorem callConnect_does {call : Nat} (hlt : call < m.nextTask) (hnone : m.work? call = none)
    (hk : allowed .call) (key : DeviceKey) (stopped : Bool) :
    Does w allowed (callConnect call key stopped) m :=
  .change (idle_deed hlt hnone { key, stopped }) (.inr hk)

theorem connectByPolicy_does (hk : allowed .call) (device : RegisteredDevice) :
    Does w allowed (connectByPolicy device) m := fun hm => by
  have hnumber : Deeds w.needsDriver allowed m [] m.takeNumber.1 := number_does hm
  exact hnumber.silent ((idle_deed number_lt hm.fresh _).row (.inr hk))

theorem stopCall_does (call : Nat) : Does w allowed (stopCall w call) m := by
  refine .manager ?_
  split
  · rename_i connect h
    have hrecalled : m.Advance w.needsDriver call .plain (m.work? call)
        (some (.idle { connect with stopped := true })) [] := h ▸ .recalled _ rfl
    exact .change (.task call hrecalled) (.inl rfl)
  · rename_i connect device outcome h
    have hinstalled : m.Advance w.needsDriver call .plain (m.work? call)
        (some (.installing { connect with stopped := true } device outcome)) [] :=
      h ▸ .installed _ outcome (.inr rfl)
    exact .change (.task call hinstalled) (.inl rfl)
  · exact onChannel_aside_does _ 0 (.stop call) rfl nofun nofun
  · exact .pure ()

/-- What comes of a call that is dropped while it connects its device on a channel. -/
theorem Matched.perform_abandon (hm : m.Matched) {call channel : Nat} {connect : Connect}
    {device : RegisteredDevice} (hw : m.work? call = some (.connecting connect device channel)) :
    ∃ c a, c ∈ m.channels ++ m.retired ∧ c.Pending a ∧ a.call = call ∧ a.device = device ∧
      (abandon w call).perform m = ((),
        (((m.dropTask call).setChannel (c.abandon call).1).stopListening).tidied w.tidies device.info,
        (c.abandon call).2.map (.effect (c.abandon call).1.id)) := by
  obtain ⟨c, a, hc, rfl, hp, rfl, rfl⟩ := hm.pending hw
  have hchannel : (m.dropTask a.call).anyChannel? c.id = some c := hm.sound.anyChannel? hc
  refine ⟨c, a, hc, hp, rfl, rfl, ?_⟩
  rw [abandon, perform_manager, hw]
  dsimp only
  rw [perform_change, perform_bind, perform_onChannel hchannel, settleChannel_told hp.abandon.2.2,
    perform_undoConnect, List.append_nil]

/-- A call that is dropped while it waits for its driver strands it, and so does a removal that is dropped
before it begins. Outside the runtime, a call strands its driver in any case. -/
theorem abandon_does {call : Nat}
    (hi : ∀ connect device outcome, m.work? call = some (.installing connect device outcome) →
      allowed (.stranding device.info))
    (ht : ∀ info, m.work? call = some (.tidying info) → allowed (.stranding info))
    (hl : ∀ connect device channel, m.work? call = some (.connecting connect device channel) →
      MayLeave w allowed device.info) :
    Does w allowed (abandon w call) m := fun hm => by
  cases hw : m.work? call with
  | none =>
    rw [abandon, perform_manager, hw]
    exact .refl m
  | some work =>
    have hdrop : ∀ {kind}, m.Advance w.needsDriver call kind (m.work? call) none [] →
        kind = .plain ∨ allowed kind → Deeds w.needsDriver allowed m [] (m.dropTask call) :=
      fun h hk => (Deed.task call h).row hk
    cases work with
    | idle | enumerating | uninstalling =>
      rw [abandon, perform_manager, hw]
      exact hdrop (.loose hw rfl) (.inl rfl)
    | installing connect device outcome =>
      rw [abandon, perform_manager, hw]
      exact hdrop (hw ▸ .lost) (.inr (hi _ _ _ hw))
    | tidying info =>
      rw [abandon, perform_manager, hw]
      exact hdrop (hw ▸ .forgotten) (.inr (ht _ hw))
    | connecting connect device channel =>
      obtain ⟨c, a, hc, hp, rfl, rfl, hperform⟩ := hm.perform_abandon (w := w) hw
      have hfails : Deeds w.needsDriver allowed m []
          ((((m.setChannel (c.abandon a.call).1).stopListening).tidied w.tidies
            a.device.info).dropTask a.call) :=
        hm.fails 0 (.abandon a.call) hc rfl hp hp.abandon.1 (hl _ _ _ hw)
      rw [← tidied_dropTask (m := (m.setChannel _).stopListening) hm.sound.tasks
        (hm.sound.tasks.lt hw)] at hfails
      rw [hperform]
      exact hfails.silent (.effects ..)

/-! ## Devices that are taken off -/

/-- A step that takes nothing off leaves the accounts as they are. -/
theorem steady_row (hm : m.Sound) {c : Channel} (hc : c ∈ m.channels) (now : Nat) (move : Channel.Move)
    (hmove : move.connects = false) (h : c.Steady (c.step now move).1) :
    Deeds drivers allowed m [] (m.setChannel (c.step now move).1) :=
  (Deed.moved now move (List.mem_append_left _ hc) hmove
    (fun hr => absurd rfl (hm.retired_ne hc hr)) h).plain

theorem unfreed_row (hm : m.Sound) {c : Channel} (hc : c ∈ m.channels) (now : Nat) (move : Channel.Move)
    (hmove : move.connects = false) (h : c.Freed (c.step now move).1 none) :
    Deeds drivers allowed m [] (m.setChannel (c.step now move).1) :=
  steady_row hm hc now move hmove h.of_none

/-- A device is taken off, and its driver is to be removed, if it may not be left. -/
theorem released_tidied_row {c : Channel} (hc : c ∈ m.channels) (now : Nat) (move : Channel.Move)
    (hmove : move.connects = false) {device : RegisteredDevice} {handle : Handle}
    (hold : c.Holding device handle) (hidle : (c.step now move).1.Idle)
    (hs : MayLeave w allowed device.info) :
    Deeds w.needsDriver allowed m []
      ((m.setChannel (c.step now move).1).stopListening.tidied w.tidies device.info) := by
  rw [tidied_stopListening, tidied_setChannel]
  have hin : c ∈ (m.tidied w.tidies device.info).channels := by
    rw [(tidied_beside m w.tidies device.info).channels]
    exact hc
  obtain ⟨kind, hk, hwhy⟩ := hs.exists_kind m
  refine (Deeds.tidied device.info).silent ((Deed.released now move hin hmove hold hidle ?_).row hk)
  rcases hwhy with ⟨rfl, htidies⟩ | rfl
  · exact .inl ⟨rfl, rfl, htidies⟩
  · exact .inr (.inr ⟨rfl, rfl⟩)

/-- A device is taken off, and nobody removes its driver. -/
theorem released_stranding_row {c : Channel} (hc : c ∈ m.channels) (now : Nat) (move : Channel.Move)
    (hmove : move.connects = false) {device : RegisteredDevice} {handle : Handle}
    (hold : c.Holding device handle) (hidle : (c.step now move).1.Idle)
    (hk : allowed (.stranding device.info)) :
    Deeds drivers allowed m [] (m.setChannel (c.step now move).1).stopListening :=
  (Deed.released now move hc hmove hold hidle (.inr (.inr ⟨rfl, rfl⟩))).row (.inr hk)

theorem uninstalled_does {task : Nat} (h : ∀ work, m.work? task = some work → work.isLoose = true)
    (cleanup : Cleanup) (outcome : Except JobFault Unit) :
    Does w allowed (uninstalled task cleanup outcome) m := by
  cases cleanup with
  | apart => exact .change (.task task (.closed h)) (.inl rfl)
  | call => exact endCall_does (.closed h) (.inl rfl) _
  | departure key =>
    have hdeparted : Deed w.needsDriver .plain m [] { m with registry := (m.registry.remove key).1 } :=
      .departed key
    have hend : Does w allowed (endCall task (.ok ()))
        { m with registry := (m.registry.remove key).1 } :=
      endCall_does (m := { m with registry := (m.registry.remove key).1 }) (.closed h) (.inl rfl) _
    refine .manager ?_
    generalize m.registry.remove key = left at hdeparted hend
    obtain ⟨registry, removed⟩ := left
    refine .bind (.change hdeparted (.inl rfl)) ?_
    cases removed with
    | none => exact hend
    | some device => exact .bind (.emit rfl) hend

/-- A device is taken off, and its driver is removed before the task goes on. -/
theorem cleanUp_released_row (hm : m.Matched) {c : Channel} (hc : c ∈ m.channels) (now : Nat)
    (move : Channel.Move) (hmove : move.connects = false) {device : RegisteredDevice} {handle : Handle}
    (hold : c.Holding device handle) (hidle : (c.step now move).1.Idle) {task : Nat}
    (hlt : task < m.nextTask) (hnone : m.work? task = none) (cleanup : Cleanup) :
    let act := cleanUp w task cleanup (some device)
    let n := (m.setChannel (c.step now move).1).stopListening
    Deeds w.needsDriver allowed m (act.perform n).2.2 (act.perform n).2.1 := by
  intro act n
  have hact : act = if w.needsDriver then uninstall w task cleanup device.info
      else uninstalled task cleanup (.ok ()) := rfl
  rw [hact]
  split
  · rename_i hd
    have hcleaning : m.Advance w.needsDriver task .plain (m.work? task)
        (some (.uninstalling cleanup none)) [] := hnone ▸ .cleaning cleanup none hlt
    have hset : Deed w.needsDriver .plain m [] (m.setTask task (.uninstalling cleanup none)) :=
      .task task hcleaning
    have hin : c ∈ (m.setTask task (.uninstalling cleanup none)).channels := by
      rw [setTask_channels]
      exact hc
    have hreleased : Deed w.needsDriver .plain (m.setTask task (.uninstalling cleanup none))
        [.started task (.uninstall device.info)]
        (((m.setTask task (.uninstalling cleanup none)).setChannel (c.step now move).1).stopListening) :=
      .released now move hin hmove hold hidle (.inr (.inl ⟨rfl, task, rfl⟩))
    rw [← setTask_setChannel, ← setTask_stopListening] at hreleased
    rw [uninstall, if_pos hd]
    exact hset.plain.silent hreleased.plain
  · rename_i hd
    have hreleased : Deeds w.needsDriver allowed m [] n :=
      (Deed.released now move hc hmove hold hidle
        (.inl ⟨rfl, rfl, fun h => absurd h hd⟩)).plain
    have hwork : n.work? task = none := hnone
    refine hreleased.silent (uninstalled_does (fun work hw => ?_) cleanup (.ok ()) (hreleased.matched hm))
    cases hwork.symm.trans hw

/-- What comes of releasing a device: nothing that counts, or the device is taken off. -/
theorem releaseDevice_cases (w : Surroundings) (allowed : Kind → Prop) (hm : m.Matched) (key : DeviceKey) :
    (∃ n outputs, (releaseDevice w key).perform m = (none, n, outputs) ∧
      Deeds w.needsDriver allowed m outputs n ∧ n.tasks = m.tasks ∧ n.nextTask = m.nextTask) ∨
    ∃ c ∈ m.channels, ∃ device handle outputs, device.key = key ∧ c.Holding device handle ∧
      c.disconnect.1.Idle ∧ (∀ output ∈ outputs, output.isDriving = false) ∧
        (releaseDevice w key).perform m =
          (some device, (m.setChannel c.disconnect.1).stopListening, outputs) := by
  rw [releaseDevice, perform_manager]
  cases hfind : m.channelFor? key with
  | none => exact .inl ⟨m, [], rfl, .refl m, rfl, rfl⟩
  | some c =>
    have hc : c ∈ m.channels := List.mem_of_find?_eq_some hfind
    have hkey : c.key? = some key := key_of_channelFor? hfind
    have hs := hm.sound.channels.sound c (List.mem_append_left _ hc)
    have hfreed := Channel.disconnect_freed hs
    have hsettle := settleChannel_told (w := w) (m := m) (Channel.endings_disconnect c) c.disconnect.1
    have hrow : c.Steady c.disconnect.1 →
        Deeds w.needsDriver allowed m [] (m.setChannel c.disconnect.1) :=
      steady_row hm.sound hc 0 .disconnect rfl
    dsimp only
    rw [perform_bind, hsettle]
    cases hr : c.disconnect.2.2 with
    | none =>
      refine .inl ⟨m.setChannel c.disconnect.1, c.disconnect.2.1.map (.effect c.disconnect.1.id), ?_,
        (hrow (hr ▸ hfreed).of_none).silent (.effects ..), rfl, rfl⟩
      rw [Prod.mk.injEq, Prod.mk.injEq]
      exact ⟨rfl, rfl, List.append_nil _⟩
    | some device =>
      obtain ⟨handle, hold, hidle⟩ := (hr ▸ hfreed).of_some
      refine .inr ⟨c, hc, device, handle, c.disconnect.2.1.map (.effect c.disconnect.1.id), ?_, hold,
        hidle, ?_, ?_⟩
      · rw [Channel.key?, hold.device] at hkey
        exact Option.some.inj hkey
      · exact fun output ho => by obtain ⟨effect, _, rfl⟩ := List.mem_map.mp ho; rfl
      · rw [Prod.mk.injEq, Prod.mk.injEq]
        exact ⟨rfl, rfl, List.append_nil _⟩

theorem disconnect_does (key : DeviceKey)
    (hs : ∀ c ∈ m.channels, ∀ device handle, device.key = key → c.Holding device handle →
      MayLeave w allowed device.info) :
    Does w allowed (disconnect w key) m := fun hm => by
  rw [disconnect, perform_bind]
  rcases releaseDevice_cases w allowed hm key with
    ⟨n, outputs, hperform, hrow, _, _⟩ | ⟨c, hc, device, handle, outputs, hkey, hold, hidle, hout, hperform⟩
  · rw [hperform]
    exact hrow.trans (.refl n)
  · have hrow : Deeds w.needsDriver allowed m [] _ :=
      released_tidied_row hc 0 .disconnect rfl hold hidle (hs c hc device handle hkey hold)
    rw [hperform]
    dsimp only
    rw [perform_bind, perform_tidy]
    exact (Deeds.told hout).trans (hrow.trans (.refl _))

/-- A device is released, and its driver is removed before the task goes on. -/
theorem release_cleanUp_does {task : Nat} (hlt : task < m.nextTask) (hnone : m.work? task = none)
    (cleanup : Cleanup) (key : DeviceKey) :
    Does w allowed (releaseDevice w key >>= cleanUp w task cleanup) m := fun hm => by
  rw [perform_bind]
  rcases releaseDevice_cases w allowed hm key with
    ⟨n, outputs, hperform, hrow, htasks, _⟩ | ⟨c, hc, device, handle, outputs, _, hold, hidle, hout, hperform⟩
  · rw [hperform]
    have hwork : n.work? task = none := (work?_of_tasks htasks task).trans hnone
    refine hrow.trans (uninstalled_does (fun work hw => ?_) cleanup (.ok ()) (hrow.matched hm))
    cases hwork.symm.trans hw
  · rw [hperform]
    exact (Deeds.told hout).trans
      (cleanUp_released_row hm hc 0 .disconnect rfl hold hidle hlt hnone cleanup)

theorem disconnectAndWait_does {call : Nat} (hlt : call < m.nextTask) (hnone : m.work? call = none)
    (key : DeviceKey) : Does w allowed (disconnectAndWait w call key) m :=
  release_cleanUp_does hlt hnone .call key

theorem leave_does {task : Nat} (hlt : task < m.nextTask) (hnone : m.work? task = none)
    (key : DeviceKey) : Does w allowed (leave w task key) m := by
  refine .manager ?_
  split
  · exact endCall_does (.nobody hnone) (.inl rfl) _
  · exact release_cleanUp_does hlt hnone (.departure key) key

/-- A failure of the device on a channel. If the device is taken off, its driver is to be removed, if it may
not be left. -/
theorem deviceFailed_row (hm : m.Matched) {c : Channel} (hc : c ∈ m.channels) (now : Nat)
    (move : Channel.Move) (hmove : move.connects = false) (failure : Failure)
    (hfreed : c.Freed (c.step now move).1 failure.freed)
    (hreleased : failure.released = failure.freed.isSome)
    (hs : ∀ device handle, c.Holding device handle → MayLeave w allowed device.info) :
    let n := m.setChannel (c.step now move).1
    Deeds w.needsDriver allowed m ((deviceFailed w failure).perform n).2.2
      ((deviceFailed w failure).perform n).2.1 := by
  intro n
  obtain ⟨device, released, fault⟩ := failure
  have hnotice : ∀ device failure, Output.isDriving (.notified (.deviceFailed device failure)) = false :=
    fun _ _ => rfl
  cases released with
  | false =>
    have hrow : Deeds w.needsDriver allowed m [] n := unfreed_row hm.sound hc now move hmove hfreed
    cases device with
    | none => exact hrow
    | some device => exact hrow.silent (Deed.told _ (hnotice device _)).plain
  | true =>
    cases device with
    | none => cases hreleased
    | some device =>
      obtain ⟨handle, hold, hidle⟩ := Channel.Freed.of_some hfreed
      have hrow : Deeds w.needsDriver allowed m [] (n.stopListening.tidied w.tidies device.info) :=
        released_tidied_row hc now move hmove hold hidle (hs device handle hold)
      have hperform : (deviceFailed w ⟨some device, true, fault⟩).perform n =
          ((), n.stopListening.tidied w.tidies device.info,
            [.notified (.deviceFailed device ⟨some device, true, fault⟩)]) := by
        change (tidy w device.info >>= fun _ => Act.notify _).perform n.stopListening = _
        rw [perform_bind, perform_tidy]
        rfl
      rw [hperform]
      exact hrow.silent (Deed.told _ (hnotice device _)).plain

/-- The driver of the device that is connected on a channel may be left. -/
def MayLeaveOn (w : Surroundings) (allowed : Kind → Prop) (m : Manager) (id : Nat) : Prop :=
  ∀ c ∈ m.channels, c.id = id → ∀ device handle, c.Holding device handle → MayLeave w allowed device.info

theorem failBinding_does {id : Nat} (hl : m.MayLeaveOn w allowed id) (binding : Nat) (fault : DeviceFault) :
    Does w allowed (failBinding w id binding fault) m := fun hm => by
  rw [failBinding, perform_manager]
  cases hfind : m.channel? id with
  | none => exact .refl m
  | some c =>
    have hc : c ∈ m.channels := List.mem_of_find?_eq_some hfind
    have hs := hm.sound.channels.sound c (List.mem_append_left _ hc)
    obtain ⟨hfreed, hreleased⟩ := Channel.failBinding_freed hs binding fault
    dsimp only
    rw [perform_bind, settleChannel_told (Channel.endings_failBinding c binding fault)]
    cases hf : (c.failBinding binding fault).2.2 with
    | none =>
      rw [hf] at hfreed
      have hrow : Deeds w.needsDriver allowed m [] _ :=
        unfreed_row hm.sound hc 0 (.failBinding binding fault) rfl hfreed
      exact hrow.silent ((Deeds.effects ..).trans (.refl _))
    | some failure =>
      rw [hf] at hfreed
      exact (Deeds.effects ..).trans (deviceFailed_row hm hc 0 (.failBinding binding fault) rfl failure
        hfreed (hreleased failure hf) (hl c hc (id_of_channel? hfind)))

theorem receive_does {id : Nat} (hl : m.MayLeaveOn w allowed id) (payload : Wire.Payload) :
    Does w allowed (receive w id payload) m := fun hm => by
  rw [receive, perform_manager]
  cases hfind : m.channel? id with
  | none => exact .refl m
  | some c =>
    have hc : c ∈ m.channels := List.mem_of_find?_eq_some hfind
    have hs := hm.sound.channels.sound c (List.mem_append_left _ hc)
    obtain ⟨hfreed, hreleased⟩ := Channel.receive_freed hs payload
    dsimp only
    rw [perform_bind, settleChannel_told (Channel.endings_receive c payload)]
    cases hf : (c.receive payload).2.2 with
    | none =>
      rw [hf] at hfreed
      have hrow : Deeds w.needsDriver allowed m [] _ :=
        unfreed_row hm.sound hc 0 (.receive payload) rfl hfreed
      exact hrow.silent ((Deeds.effects ..).trans (.refl _))
    | some failure =>
      rw [hf] at hfreed
      have hrow : Deeds w.needsDriver allowed m _ _ :=
        deviceFailed_row hm hc 0 (.receive payload) rfl failure hfreed (hreleased failure hf)
          (hl c hc (id_of_channel? hfind))
      dsimp only
      rw [perform_bind]
      exact (Deeds.effects ..).trans (hrow.trans (.refl _))

theorem flush_does (id : Nat) : Does w allowed (flush id) m := fun hm => by
  rw [flush, perform_manager]
  cases hfind : m.channel? id with
  | none => exact .refl m
  | some c =>
    exact steady_row hm.sound (List.mem_of_find?_eq_some hfind) 0 .flush rfl
      (Channel.flush_alike c).steady

/-! ## Channels -/

/-- A connect that has not begun is there after a step, and was not there before it. -/
def Starts (m n : Manager) : Prop :=
  ∃ id connect, m.work? id = none ∧ n.work? id = some (.idle connect)

theorem connectByPolicy_starts (hm : m.Sound) (device : RegisteredDevice) :
    m.Starts ((connectByPolicy device).perform m).2.1 :=
  ⟨m.nextTask, _, hm.tasks.work?_none (Nat.le_refl _), (work?_spawn m _ _).trans (if_pos rfl)⟩

theorem redirectOnConnect_cases (m : Manager) :
    redirectOnConnect.perform m = ((), m, []) ∨ m.settings.redirectOnConnect ≠ none ∧
      ∃ device, redirectOnConnect.perform m = (connectByPolicy device).perform m := by
  rw [redirectOnConnect, perform_manager]
  split
  · exact .inl rfl
  · rename_i filter hf
    have hsome : m.settings.redirectOnConnect ≠ none := by simp [hf]
    split
    · exact .inl rfl
    · rename_i device _
      split
      · exact .inr ⟨hsome, device, rfl⟩
      · exact .inl rfl

theorem redirectOnConnect_does
    (hk : m.settings.redirectOnConnect ≠ none → m.Starts (redirectOnConnect.perform m).2.1 → allowed .call) :
    Does w allowed redirectOnConnect m := fun hm => by
  rcases redirectOnConnect_cases m with hperform | ⟨hsome, device, hperform⟩
  · rw [hperform]
    exact .refl m
  · rw [hperform] at hk ⊢
    exact connectByPolicy_does (hk hsome (connectByPolicy_starts hm.sound device)) device hm

theorem addChannel_does (hw : w.Fresh) (transport : Transport) (withHost : Bool)
    (hk : m.settings.redirectOnConnect ≠ none →
      m.Starts ((addChannel w transport withHost).perform m).2.1 → allowed .call) :
    Does w allowed (addChannel w transport withHost) m := by
  let added (host : Option Host) : Manager := { m with
    nextChannel := m.nextChannel + 1
    channels := m.channels ++ [{
      Channel.new m.nextChannel transport m.settings.compressionThreshold with
      host, hasFactory := host.isSome }] }
  have hadded : ∀ host : Option Host, host.bind (·.handle) = none →
      (m.settings.redirectOnConnect ≠ none → m.Starts (redirectOnConnect.perform (added host)).2.1 →
        allowed .call) → Does w allowed (do
      Act.change fun n : Manager => { n with nextChannel := m.nextChannel + 1 }
      Act.change fun n : Manager => { n with channels := n.channels ++ [{
        Channel.new m.nextChannel transport m.settings.compressionThreshold with
          host, hasFactory := host.isSome }] }
      redirectOnConnect
      return (Except.ok m.nextChannel : Except RedirectError Nat)) m := by
    intro host hh hk hm
    have hrow : Deeds w.needsDriver allowed m [] (added host) := (Deed.added transport host hh).plain
    have hredirect : Does w allowed redirectOnConnect (added host) :=
      redirectOnConnect_does (m := added host) hk
    have hnext : Does w allowed (do
        redirectOnConnect
        return (Except.ok m.nextChannel : Except RedirectError Nat)) (added host) :=
      .bind hredirect (.pure _)
    exact hrow.silent (hnext (hrow.matched hm))
  refine .manager ?_
  cases withHost with
  | false => exact hadded none rfl hk
  | true =>
    rw [addChannel, perform_manager] at hk
    cases hnew : w.newHost with
    | error error =>
      simp only [if_true]
      exact .bind (.change .skipped (.inl rfl)) (.pure _)
    | ok host =>
      rw [hnew] at hk
      exact hadded (some host) (hw host hnew) hk

theorem Sound.channel? (h : m.Sound) {id : Nat} {c : Channel} (hc : m.channel? id = some c) :
    c ∈ m.channels ∧ c.id = id ∧ c.Sound := by
  have hin : c ∈ m.channels := List.mem_of_find?_eq_some hc
  exact ⟨hin, id_of_channel? hc, h.channels.sound c (List.mem_append_left _ hin)⟩

/-- A channel that was taken out is nowhere else. -/
theorem Sound.put_removed (hm : m.Sound) {c d : Channel} (hc : c ∈ m.channels) (hid : d.id = c.id) :
    (m.channels.filter (·.id != c.id)).map (put d) = m.channels.filter (·.id != c.id) ∧
      m.retired.map (put d) = m.retired := by
  constructor
  · refine map_put_of_ne fun x hx => ?_
    rw [hid]
    simpa using (List.mem_filter.mp hx).2
  · exact map_put_of_ne fun x hx => hid ▸ hm.retired_ne hc hx

/-- The set and the removed channels once a channel was removed and told to disconnect. -/
theorem removed_eq (hm : m.Sound) {c d : Channel} (hc : c ∈ m.channels) (hid : d.id = c.id) :
    ({ m with channels := m.channels.filter (·.id != c.id), retired := m.retired ++ [c] } :
      Manager).setChannel d =
      { m with channels := m.channels.filter (·.id != c.id), retired := m.retired ++ [d] } := by
  obtain ⟨hset, hretired⟩ := hm.put_removed hc hid
  change ({ m with
    channels := (m.channels.filter (·.id != c.id)).map (put d)
    retired := (m.retired ++ [c]).map (put d) } : Manager) = _
  rw [hset, List.map_append, hretired, List.map_singleton, put, if_pos hid.symm]

/-- A connected channel is taken out of the set. Its device is taken off first. -/
theorem removed_released_row (hm : m.Matched) {c : Channel} (hc : c ∈ m.channels)
    {device : RegisteredDevice} {handle : Handle} (hold : c.Holding device handle)
    (hidle : c.disconnect.1.Idle) (hl : MayLeave w allowed device.info) :
    Deeds w.needsDriver allowed m []
      (({ m with
        channels := m.channels.filter (·.id != c.id)
        retired := m.retired ++ [c.disconnect.1] } : Manager).stopListening.tidied w.tidies device.info) := by
  have hs := hm.sound.channels.sound c (List.mem_append_left _ hc)
  have hid : c.disconnect.1.id = c.id := Channel.step_id hs 0 .disconnect
  have hreleased : Deeds w.needsDriver allowed m []
      ((m.setChannel c.disconnect.1).stopListening.tidied w.tidies device.info) :=
    released_tidied_row hc 0 .disconnect rfl hold hidle hl
  have hbeside := tidied_beside (m.setChannel c.disconnect.1).stopListening w.tidies device.info
  have hin : c.disconnect.1 ∈
      ((m.setChannel c.disconnect.1).stopListening.tidied w.tidies device.info).channels := by
    rw [hbeside.channels]
    exact List.mem_map.mpr ⟨c, hc, if_pos hid.symm⟩
  have hagain : c.disconnect.1.disconnect.1 = c.disconnect.1 := by
    generalize c.disconnect.1 = d at hidle
    rw [Channel.disconnect, hidle.state]
  have hset : (m.channels.map (put c.disconnect.1)).filter (·.id != c.disconnect.1.id) =
      m.channels.filter (·.id != c.id) := by
    have hput : (fun x : Channel => x.id != c.id) ∘ put c.disconnect.1 = (·.id != c.id) :=
      funext fun x => congrArg (· != c.id) (put_id c.disconnect.1 x)
    rw [List.filter_map, hid, hput, (hm.sound.put_removed hc hid).1]
  have hremoved : Deeds w.needsDriver allowed _ [] _ := (Deed.removed hin hidle.not_connected).plain
  rw [hbeside.channels, tidied_retired, hagain] at hremoved
  change Deeds w.needsDriver allowed _ [] ({ (m.setChannel c.disconnect.1).stopListening.tidied w.tidies
    device.info with
      channels := (m.channels.map (put c.disconnect.1)).filter (·.id != c.disconnect.1.id)
      retired := m.retired.map (put c.disconnect.1) ++ [c.disconnect.1] } : Manager) at hremoved
  rw [hset, (hm.sound.put_removed hc hid).2, ← tidied_withChannels] at hremoved
  exact hreleased.silent hremoved

theorem removeChannel_does {id : Nat} (hl : m.MayLeaveOn w allowed id) :
    Does w allowed (removeChannel w id) m := fun hm => by
  rw [removeChannel, perform_manager]
  cases hfind : m.channel? id with
  | none => exact .refl m
  | some c =>
    obtain ⟨hc, rfl, hs⟩ := hm.sound.channel? hfind
    have hid : c.disconnect.1.id = c.id := Channel.step_id hs 0 .disconnect
    have hfreed := Channel.disconnect_freed hs
    dsimp only
    rw [perform_change, perform_bind, settleChannel_told (Channel.endings_disconnect c),
      removed_eq hm.sound hc hid]
    cases hr : c.disconnect.2.2 with
    | none =>
      have hstate : c.state ≠ .connected := by
        intro hstate
        obtain ⟨device, handle, hold⟩ := hs.holding_of_connected hstate
        have : c.disconnect.2.2 = some device := by
          rw [Channel.disconnect, hstate]
          exact hold.device
        cases hr.symm.trans this
      have hrow : Deeds w.needsDriver allowed m [] _ := (Deed.removed hc hstate).plain
      exact hrow.silent ((Deeds.effects ..).trans (.refl _))
    | some device =>
      rw [hr] at hfreed
      obtain ⟨handle, hold, hidle⟩ := hfreed.of_some
      have hleaves : MayLeave w allowed device.info := hl c hc rfl device handle hold
      have hrow : Deeds w.needsDriver allowed m [] _ := removed_released_row hm hc hold hidle hleaves
      dsimp only
      rw [perform_change, perform_bind, perform_tidy]
      exact hrow.silent ((Deeds.effects ..).trans (.refl _))

theorem resetChannel_does (hw : w.Fresh) {call : Nat} (hlt : call < m.nextTask)
    (hnone : m.work? call = none) (id : Nat) : Does w allowed (resetChannel w call id) m := fun hm => by
  rw [resetChannel, perform_manager]
  cases hfind : m.channel? id with
  | none => exact endCall_does (.nobody hnone) (.inl rfl) _ hm
  | some c =>
    obtain ⟨hc, rfl, hs⟩ := hm.sound.channel? hfind
    have hmade : w.newHost.toOption = w.newHost.toOption.map Host.detach := by
      cases hnew : w.newHost with
      | error error => rfl
      | ok host =>
        have := hw host hnew
        obtain ⟨handle⟩ := host
        cases this
        rfl
    have hfreed : c.Freed (c.disconnect.1.renew w.newHost.toOption).1 c.disconnect.2.2 := by
      rw [hmade]
      exact Channel.reset_freed hs w.newHost.toOption
    have hstep : (c.disconnect.1.renew w.newHost.toOption).1 =
        (c.step 0 (.reset w.newHost.toOption)).1 := by
      change _ = (c.disconnect.1.renew (w.newHost.toOption.map Host.detach)).1
      rw [← hmade]
    rw [hstep] at hfreed
    let n := m.setChannel (c.step 0 (.reset w.newHost.toOption)).1
    let rest : Act Unit := do
      if c.disconnect.2.2.isSome then Act.change stopListening
      cleanUp w call .call c.disconnect.2.2
    have hrest : Deeds w.needsDriver allowed m (rest.perform n).2.2 (rest.perform n).2.1 := by
      dsimp only [rest]
      cases hr : c.disconnect.2.2 with
      | none =>
        rw [hr] at hfreed
        have hrow : Deeds w.needsDriver allowed m [] n :=
          unfreed_row hm.sound hc 0 (.reset w.newHost.toOption) rfl hfreed
        have hwork : n.work? call = none := hnone
        refine hrow.silent (uninstalled_does (fun work h => ?_) .call (.ok ()) (hrow.matched hm))
        cases hwork.symm.trans h
      | some device =>
        rw [hr] at hfreed
        obtain ⟨handle, hold, hidle⟩ := hfreed.of_some
        exact cleanUp_released_row hm hc 0 (.reset w.newHost.toOption) rfl hold hidle hlt hnone .call
    dsimp only
    rw [hstep, perform_bind, settleChannel_told (Channel.endings_disconnect c)]
    refine (Deeds.effects ..).trans ?_
    cases c.disconnect.1.hasFactory with
    | false => exact hrest
    | true =>
      have htold : ∀ output : Output, output.isDriving = false → Deeds w.needsDriver allowed m
          (((Act.emit output >>= fun _ => rest).perform n).2.2)
          (((Act.emit output >>= fun _ => rest).perform n).2.1) :=
        fun output h => (Deed.told output h).plain.trans hrest
      exact htold _ rfl

/-! ## Devices that come -/

theorem autoConnect_does (hk : allowed .call) (device : RegisteredDevice) :
    Does w allowed (autoConnect device) m :=
  .manager (.ite (fun _ => connectByPolicy_does hk device) fun _ => .pure ())

theorem autoConnect_beside (device : RegisteredDevice) :
    m.Beside ((autoConnect device).perform m).2.1 := by
  have hite : ∀ (c : Prop) [Decidable c],
      m.Beside ((if c then connectByPolicy device else pure () : Act Unit).perform m).2.1 := by
    intro c _
    split
    · exact spawn_beside m _
    · exact .refl m
  exact hite _

/-- A device is passed over, or it is registered. -/
theorem arrive_cases (info : DeviceInfo) (arrival : Arrival) (m : Manager) :
    (m.registry.add info arrival).1 = m.registry ∧ (arrive info arrival).perform m = ((), m, []) ∨
    ∃ key, (m.registry.add info arrival).2 = .added key ∧ (arrive info arrival).perform m =
      (do Act.notify (.added ⟨key, info, arrival⟩)
          if arrival = .hotplug then autoConnect ⟨key, info, arrival⟩ : Act Unit).perform
        { m with registry := (m.registry.add info arrival).1 } := by
  have hfind : ∀ key, (m.registry.add info arrival).2 = .added key →
      (m.registry.add info arrival).1.find? key = some ⟨key, info, arrival⟩ := fun _ => Registry.find?_add
  rw [arrive, perform_manager]
  rcases m.registry.add_cases info arrival with ⟨_, hadd⟩ | ⟨_, _, hadd⟩ | ⟨_, _, hadd⟩ <;>
    rw [hadd] at hfind ⊢
  · exact .inl ⟨rfl, rfl⟩
  · exact .inl ⟨rfl, rfl⟩
  · refine .inr ⟨_, rfl, ?_⟩
    have hfind := hfind _ rfl
    dsimp only at hfind ⊢
    rw [perform_change, hfind]

theorem arrive_does (ha : allowed .arrival) (arrival : Arrival)
    (hk : arrival = .hotplug → allowed .call) (info : DeviceInfo) :
    Does w allowed (arrive info arrival) m := fun hm => by
  rcases arrive_cases info arrival m with ⟨_, hperform⟩ | ⟨key, hadded, hperform⟩
  · rw [hperform]
    exact .refl m
  · rw [hperform]
    have hrow : Deeds w.needsDriver allowed m [] { m with registry := (m.registry.add info arrival).1 } :=
      (Deed.registered arrival hadded).row (.inr ha)
    have hnext : Does w allowed (do
        Act.notify (.added ⟨key, info, arrival⟩)
        if arrival = .hotplug then autoConnect ⟨key, info, arrival⟩)
        { m with registry := (m.registry.add info arrival).1 } :=
      .bind (.emit rfl) (.ite (fun h => autoConnect_does (hk h) _) fun _ => .pure ())
    exact hrow.silent (hnext (hrow.matched hm))

/-- A registration leaves the tasks alone that are there. -/
theorem arrive_work? {id : Nat} (hid : id < m.nextTask) (info : DeviceInfo) (arrival : Arrival) :
    ((arrive info arrival).perform m).2.1.work? id = m.work? id := by
  rcases arrive_cases info arrival m with ⟨_, hperform⟩ | ⟨key, _, hperform⟩
  · rw [hperform]
  · rw [hperform]
    by_cases h : arrival = .hotplug
    · subst h
      exact (autoConnect_beside _).work? id hid
    · rw [if_neg h]
      rfl

theorem arrive_coldplug_nextTask (info : DeviceInfo) :
    ((arrive info .coldplug).perform m).2.1.nextTask = m.nextTask := by
  rcases arrive_cases info .coldplug m with ⟨_, hperform⟩ | ⟨key, _, hperform⟩
  · rw [hperform]
  · rw [hperform]
    rfl

theorem arrivals_does (ha : allowed .arrival) (devices : List DeviceInfo) :
    Does w allowed (Act.each (arrive · .coldplug) devices) m := by
  induction devices generalizing m with
  | nil => exact .pure ()
  | cons info devices ih => exact .bind (arrive_does ha .coldplug nofun info) ih

theorem arrivals_work? {id : Nat} (hid : id < m.nextTask) (devices : List DeviceInfo) :
    ((Act.each (arrive · .coldplug) devices).perform m).2.1.work? id = m.work? id := by
  induction devices generalizing m with
  | nil => rfl
  | cons info devices ih =>
    rw [Act.each, perform_bind]
    refine (ih ?_).trans (arrive_work? hid info .coldplug)
    rw [arrive_coldplug_nextTask]
    exact hid

theorem enumerated_does {call : Nat} {outcome : Except JobFault (List DeviceInfo)}
    (h : m.work? call = some (.enumerating (some outcome)))
    (ha : ∀ devices, outcome = .ok devices → allowed .arrival) :
    Does w allowed (enumerated w call outcome) m := fun hm => by
  cases outcome with
  | error fault => exact endCall_does (.loose h rfl) (.inl rfl) _ hm
  | ok devices =>
    have hrow := arrivals_does (w := w) (ha devices rfl) devices hm
    have hwork := (arrivals_work? (hm.sound.tasks.lt h) devices).trans h
    unfold enumerated
    dsimp only
    rw [perform_bind]
    refine hrow.trans ?_
    generalize ((Act.each (arrive · .coldplug) devices).perform m).2.1 = n at hrow hwork ⊢
    cases w.subscription with
    | error error => exact endCall_does (.loose hwork rfl) (.inl rfl) _ (hrow.matched hm)
    | ok given =>
      cases given with
      | false => exact endCall_does (.loose hwork rfl) (.inl rfl) _ (hrow.matched hm)
      | true =>
        have hsubscribed : Deeds w.needsDriver allowed n []
            (({ n.startListening with registration := true } : Manager).dropTask call) :=
          (Deed.subscribed call hwork).plain
        exact hsubscribed.endCall (.ok ())

/-! ## Events -/

/-- A task that has nothing to do ends after a step that leaves it alone. -/
theorem Does.endCall {act : Act Unit} (h : Does w allowed act m) {task : Nat}
    (hnone : (act.perform m).2.1.work? task = none) (result : Except RedirectError Unit) :
    Does w allowed (do act; Manager.endCall task result) m :=
  .bind h (endCall_does (.nobody hnone) (.inl rfl) result)

theorem deviceFailed_work? {id : Nat} (hid : id < m.nextTask) (failure : Failure) :
    ((deviceFailed w failure).perform m).2.1.work? id = m.work? id := by
  have htidy : ∀ info (n : Manager), n.tasks = m.tasks → n.nextTask = m.nextTask →
      ((tidy w info).perform n).2.1.work? id = m.work? id := by
    intro info n htasks hnext
    exact ((tidy_beside info).work? id (hnext ▸ hid)).trans (work?_of_tasks htasks id)
  obtain ⟨device, released, fault⟩ := failure
  cases released with
  | false => cases device <;> rfl
  | true =>
    cases device with
    | none => rfl
    | some device => exact htidy device.info m.stopListening rfl rfl

theorem failBinding_work? {task : Nat} (hid : task < m.nextTask) (id binding : Nat)
    (fault : DeviceFault) :
    ((failBinding w id binding fault).perform m).2.1.work? task = m.work? task := by
  rw [failBinding, perform_manager]
  cases m.channel? id with
  | none => rfl
  | some c =>
    dsimp only
    rw [perform_bind, settleChannel_told (Channel.endings_failBinding c binding fault)]
    cases (c.failBinding binding fault).2.2 with
    | none => rfl
    | some failure =>
      exact deviceFailed_work? (m := m.setChannel (c.failBinding binding fault).1) hid failure

theorem flush_work? (id task : Nat) : ((flush id).perform m).2.1.work? task = m.work? task := by
  rw [flush, perform_manager]
  cases m.channel? id with
  | none => rfl
  | some c => rfl

theorem handleEvent_does {task : Nat} (hlt : task < m.nextTask) (hnone : m.work? task = none)
    (event : Event) (ha : ∀ info, event = .arrived info → allowed .arrival ∧ allowed .call)
    (hl : ∀ id binding fault, event = .deviceFailed id binding fault → m.MayLeaveOn w allowed id) :
    Does w allowed (handleEvent w task event) m := by
  cases event with
  | arrived info =>
    obtain ⟨ha, hk⟩ := ha info rfl
    exact (arrive_does ha .hotplug (fun _ => hk) info).endCall ((arrive_work? hlt ..).trans hnone) _
  | left key => exact leave_does hlt hnone key
  | dataPending id => exact (flush_does id).endCall ((flush_work? ..).trans hnone) _
  | deviceFailed id binding fault =>
    exact (failBinding_does (hl id binding fault rfl) binding fault).endCall
      ((failBinding_work? hlt ..).trans hnone) _

theorem nextEvent_does
    (ha : ∀ info, m.queue.take?.2 = some (.arrived info) → allowed .arrival ∧ allowed .call)
    (hl : ∀ id binding fault, m.queue.take?.2 = some (.deviceFailed id binding fault) →
      m.MayLeaveOn w allowed id) :
    Does w allowed (nextEvent w) m := fun hm => by
  rw [nextEvent, perform_manager]
  by_cases hloop : m.loop = .waiting
  · rw [if_pos hloop]
    generalize m.queue.take? = taken at ha hl
    obtain ⟨queue, event⟩ := taken
    cases event with
    | none => exact .refl m
    | some event =>
      have hrow : Deeds w.needsDriver allowed m []
          { m.takeNumber.1 with queue, loop := .handling m.nextTask } :=
        .still ⟨rfl, rfl, rfl, rfl, rfl, Nat.le_succ _, rfl, rfl, rfl⟩
      have hhandle : Does w allowed (handleEvent w m.nextTask event)
          { m.takeNumber.1 with queue, loop := .handling m.nextTask } :=
        handleEvent_does (m := { m.takeNumber.1 with queue, loop := .handling m.nextTask })
          (Nat.lt_succ_self m.nextTask) hm.fresh event (fun info he => ha info (he ▸ rfl))
          fun id binding fault he => hl id binding fault (he ▸ rfl)
      exact hrow.silent (hhandle (hrow.matched hm))
  · rw [if_neg hloop]
    exact .refl m

/-! ## Tasks -/

theorem start_does {call : Nat} (hlt : call < m.nextTask) (hnone : m.work? call = none)
    (hk : m.initialized = false → allowed .beginning) : Does w allowed (start call) m := by
  refine .manager (.ite (fun _ => endCall_does (.nobody hnone) (.inl rfl) _) fun hi => ?_)
  have hinit : m.initialized = false := eq_false_of_ne_true hi
  exact .bind (.change (.begun call hlt hnone hinit) (.inr (hk hinit))) (.emit rfl)

theorem begin_does (id : Nat) : Does w allowed (begin w id) m := by
  refine .manager ?_
  split
  · exact beginConnect_does ‹_›
  · rename_i info h
    have hremoving : Deed w.needsDriver .plain m
        (if w.needsDriver then [.started id (.uninstall info)] else [])
        (m.putTask id (some (.uninstalling .apart (if w.needsDriver then none else some (.ok ()))))) :=
      .task id (h ▸ .removing)
    refine .ite (fun hd _ => ?_) fun hd _ => ?_
    · rw [if_pos hd, if_pos hd] at hremoving
      exact hremoving.plain
    · rw [if_neg hd, if_neg hd] at hremoving
      exact hremoving.plain
  · exact .pure ()

theorem jobDone_does (id : Nat) (outcome : Except JobFault Unit) :
    Does w allowed (jobDone id outcome) m := by
  refine .manager ?_
  split
  · rename_i connect device h
    have hinstalled : m.Advance w.needsDriver id .plain (m.work? id)
        (some (.installing connect device (some outcome))) [] := h ▸ .installed _ _ (.inl rfl)
    exact .change (.task id hinstalled) (.inl rfl)
  · rename_i cleanup h
    have huninstalled : m.Advance w.needsDriver id .plain (m.work? id)
        (some (.uninstalling cleanup (some outcome))) [] := h ▸ .uninstalled outcome
    exact .change (.task id huninstalled) (.inl rfl)
  · exact .pure ()

theorem enumerationDone_does {id : Nat} {outcome : Except JobFault (List DeviceInfo)}
    (hk : allowed (.finding id outcome)) : Does w allowed (enumerationDone id outcome) m := by
  refine .manager ?_
  split
  · rename_i h
    have henumerated : m.Advance w.needsDriver id (.finding id outcome) (m.work? id)
        (some (.enumerating (some outcome))) [] := h ▸ .enumerated outcome
    exact .change (.task id henumerated) (.inr hk)
  · exact .pure ()

/-- A call whose driver could not be installed leaves it alone, and so does one that ends connected on a
channel that was removed. Outside the runtime, so does every call that ends without a connection. -/
theorem resume_does {id : Nat}
    (hi : ∀ connect device fault,
      m.work? id = some (.installing connect device (some (.error fault))) →
        allowed (.stranding device.info))
    (hc : ∀ connect device, ∀ c ∈ m.retired, m.work? id = some (.connecting connect device c.id) →
      allowed (.stranding device.info))
    (ha : ∀ devices, m.work? id = some (.enumerating (some (.ok devices))) → allowed .arrival)
    (hl : ∀ connect device, m.work? id = some (.installing connect device (some (.ok ()))) →
      MayLeave w allowed device.info)
    (hl' : ∀ connect device channel, m.work? id = some (.connecting connect device channel) →
      MayLeave w allowed device.info) :
    Does w allowed (resume w id) m := fun hm => by
  rw [resume, perform_manager]
  cases hw : m.work? id with
  | none => exact .refl m
  | some work =>
    cases work with
    | idle | tidying => exact .refl m
    | installing connect device outcome =>
      rcases outcome with _ | fault | ⟨⟩
      · exact .refl m
      · exact endConnect_does (hw ▸ .lost) (.inr (hi _ _ _ hw)) connect _ hm
      · exact bindAndConnect_does hw (hl _ _ hw) hm
    | connecting connect device channel =>
      refine onChannel_does channel 0 (.resume id) rfl (fun c hret hid a hcall hp => ?_)
        (fun c hin a hadvances hp => ?_) hm
      · cases hcall
        obtain ⟨other, hother⟩ := hm.work? (List.mem_append_right _ hret) hp
        exact hc other a.device c hret hother
      · obtain ⟨other, hother⟩ := hm.work? hin hp
        rcases hadvances with ⟨_, he⟩ | he
        · cases he
        · cases he
          exact hl' other a.device c.id hother
    | enumerating outcome =>
      cases outcome with
      | none => exact .refl m
      | some outcome => exact enumerated_does hw (fun devices ho => ha devices (ho ▸ hw)) hm
    | uninstalling cleanup outcome =>
      cases outcome with
      | none => exact .refl m
      | some outcome =>
        refine uninstalled_does (fun other ho => ?_) cleanup outcome hm
        cases hw.symm.trans ho
        rfl

/-! ## The end -/

/-- The drivers of all connected devices may be stranded. -/
def Covers (allowed : Kind → Prop) (m : Manager) : Prop :=
  ∀ c ∈ m.channels, ∀ device handle, c.Holding device handle → allowed (.stranding device.info)

theorem Covers.setChannel (h : Covers allowed m) (hm : m.Sound) {c d : Channel}
    (hc : c ∈ m.channels ++ m.retired) (hid : d.id = c.id)
    (hd : ∀ device handle, d.Holding device handle → ∃ handle, c.Holding device handle) :
    Covers allowed (m.setChannel d) := by
  intro x hx device handle hold
  rcases hm.mem_setChannel hc hid hx with ⟨rfl, hin⟩ | hx
  · obtain ⟨handle, hc'⟩ := hd device handle hold
    exact h c hin device handle hc'
  · exact h x hx device handle hold

theorem stopPolicy_covers (hm : m.Sound) (h : Covers allowed m) (task : Task) :
    Covers allowed ((stopPolicy w task).perform m).2.1 := by
  have hset : ∀ id work, Covers allowed (m.setTask id work) := fun id work c hc =>
    h c (setTask_channels m id work ▸ hc)
  unfold stopPolicy
  split
  · rw [stopCall, perform_manager]
    split
    · exact hset _ _
    · exact hset _ _
    · rename_i channel _
      rw [onChannel, perform_manager]
      cases hfind : m.anyChannel? channel with
      | none => exact h
      | some c =>
        refine h.setChannel hm (mem_of_anyChannel? hfind) rfl fun device handle hold => ⟨handle, ?_⟩
        refine ⟨hold.state, hold.device, hold.handle, hold.key, hold.request, ?_⟩
        exact List.map_eq_nil_iff.mp hold.attempts
    · exact h
  · exact h

theorem stopPolicy_does (task : Task) : Does w allowed (stopPolicy w task) m := by
  unfold stopPolicy
  split
  · exact stopCall_does _
  · exact .pure ()

/-- What comes of the disconnection of a channel. -/
theorem disconnectChannel_cases (hm : m.Matched) (id : Nat) :
    m.channel? id = none ∧ (disconnectChannel w id).perform m = ((), m, []) ∨
    ∃ c ∈ m.channels, c.id = id ∧ ∃ effects : List Effect,
      (c.Steady c.disconnect.1 ∧ (disconnectChannel w id).perform m =
        ((), m.setChannel c.disconnect.1, effects.map (.effect c.disconnect.1.id))) ∨
      ∃ device handle, c.Holding device handle ∧ c.disconnect.1.Idle ∧
        (disconnectChannel w id).perform m =
          ((), (m.setChannel c.disconnect.1).stopListening, effects.map (.effect c.disconnect.1.id)) := by
  rw [disconnectChannel, perform_manager]
  cases hfind : m.channel? id with
  | none => exact .inl ⟨rfl, rfl⟩
  | some c =>
    obtain ⟨hc, rfl, hs⟩ := hm.sound.channel? hfind
    have hfreed := Channel.disconnect_freed hs
    refine .inr ⟨c, hc, rfl, c.disconnect.2.1, ?_⟩
    dsimp only
    rw [perform_bind, settleChannel_told (Channel.endings_disconnect c)]
    cases hr : c.disconnect.2.2 with
    | none =>
      refine .inl ⟨(hr ▸ hfreed).of_none, ?_⟩
      rw [Prod.mk.injEq, Prod.mk.injEq]
      exact ⟨rfl, rfl, List.append_nil _⟩
    | some device =>
      obtain ⟨handle, hold, hidle⟩ := (hr ▸ hfreed).of_some
      refine .inr ⟨device, handle, hold, hidle, ?_⟩
      rw [Prod.mk.injEq, Prod.mk.injEq]
      exact ⟨rfl, rfl, List.append_nil _⟩

theorem disconnectChannel_does (h : Covers allowed m) (id : Nat) :
    Does w allowed (disconnectChannel w id) m := fun hm => by
  rcases disconnectChannel_cases (w := w) hm id with ⟨_, hperform⟩ |
    ⟨c, hc, _, effects, ⟨hsteady, hperform⟩ | ⟨device, handle, hold, hidle, hperform⟩⟩
  · rw [hperform]
    exact .refl m
  · rw [hperform]
    have hrow : Deeds w.needsDriver allowed m [] _ := steady_row hm.sound hc 0 .disconnect rfl hsteady
    exact hrow.silent (.effects ..)
  · rw [hperform]
    have hrow : Deeds w.needsDriver allowed m [] _ :=
      released_stranding_row hc 0 .disconnect rfl hold hidle (h c hc device handle hold)
    exact hrow.silent (.effects ..)

theorem disconnectChannel_covers (hm : m.Matched) (h : Covers allowed m) (id : Nat) :
    Covers allowed ((disconnectChannel w id).perform m).2.1 := by
  rcases disconnectChannel_cases (w := w) hm id with ⟨_, hperform⟩ |
    ⟨c, hc, _, effects, ⟨hsteady, hperform⟩ | ⟨device, handle, hold, hidle, hperform⟩⟩
  · rw [hperform]
    exact h
  · rw [hperform]
    refine h.setChannel hm.sound (List.mem_append_left _ hc) hsteady.id fun device handle hd => ?_
    have hs := hm.sound.channels.sound c (List.mem_append_left _ hc)
    obtain ⟨other, handle', hold⟩ := hs.holding_of_connected (hsteady.connected.mp hd.state)
    cases hold.device.symm.trans (hsteady.device.symm.trans hd.device)
    exact ⟨handle', hold⟩
  · rw [hperform]
    have hid := Channel.step_id (hm.sound.channels.sound c (List.mem_append_left _ hc)) 0 .disconnect
    have hset : Covers allowed (m.setChannel c.disconnect.1) :=
      h.setChannel hm.sound (List.mem_append_left _ hc) hid fun _ _ hd => absurd hd.state hidle.not_connected
    exact hset

/-- What is done for each of several items, while something stays true. -/
theorem each_keeping {α : Type} {act : α → Act Unit} {Inv : Manager → Prop}
    (hdo : ∀ a n, Inv n → Does w allowed (act a) n)
    (hkeep : ∀ a n, n.Matched → Inv n → Inv ((act a).perform n).2.1) (as : List α) (hm : m.Matched)
    (h : Inv m) :
    Deeds w.needsDriver allowed m ((Act.each act as).perform m).2.2 ((Act.each act as).perform m).2.1 ∧
      Inv ((Act.each act as).perform m).2.1 := by
  induction as generalizing m with
  | nil => exact ⟨.refl m, h⟩
  | cons a as ih =>
    have hrow := hdo a m h hm
    obtain ⟨hrest, hlast⟩ := ih (hrow.matched hm) (hkeep a m hm h)
    rw [Act.each, perform_bind]
    exact ⟨hrow.trans hrest, hlast⟩

/-- A shutdown strands the drivers of the devices that are connected. -/
theorem shutdown_does (hk : allowed .leaving) (h : m.stopped = false → Covers allowed m) :
    Does w allowed (shutdown w) m := fun hm => by
  rw [shutdown, perform_manager]
  by_cases hstopped : m.stopped = true
  · rw [if_pos hstopped]
    exact .refl m
  · rw [if_neg hstopped, perform_change]
    have hstart : Deeds w.needsDriver allowed m [] { m with stopped := true } :=
      .still ⟨rfl, rfl, rfl, rfl, rfl, Nat.le_refl _, rfl, rfl, rfl⟩
    have hcovers : Covers allowed { m with stopped := true } := h (eq_false_of_ne_true hstopped)
    obtain ⟨hpolicies, hcovers⟩ := each_keeping (fun task _ _ => stopPolicy_does task)
      (fun task _ hn hc => stopPolicy_covers hn.sound hc task) m.tasks (hstart.matched hm) hcovers
    rw [perform_bind]
    refine hstart.silent (hpolicies.trans ?_)
    have hn := hpolicies.matched (hstart.matched hm)
    generalize ((Act.each (stopPolicy w) m.tasks).perform { m with stopped := true }).2.1 = n
      at hcovers hn ⊢
    obtain ⟨hchannels, _⟩ := each_keeping (w := w)
      (fun (c : Channel) _ hc => disconnectChannel_does hc c.id)
      (fun c _ hn hc => disconnectChannel_covers hn hc c.id) m.channels hn hcovers
    rw [perform_bind]
    refine hchannels.trans ?_
    generalize ((Act.each (fun channel => disconnectChannel w channel.id) m.channels).perform n).2.1 = p
    rw [perform_manager]
    by_cases hp : p.registration = true
    · rw [if_pos hp]
      exact (Deed.unsubscribed hp).row (.inr hk)
    · rw [if_neg hp]
      exact .refl p

/-! ## All moves -/

/-- A call is connecting the device on a channel. -/
def Connecting (m : Manager) (call : Nat) (info : DeviceInfo) : Prop :=
  ∃ connect device channel, m.work? call = some (.connecting connect device channel) ∧ device.info = info

/-- The device is connected on the channel with a number. -/
def ConnectedOn (m : Manager) (id : Nat) (info : DeviceInfo) : Prop :=
  ∃ c ∈ m.channels, c.id = id ∧ ∃ device handle, c.Holding device handle ∧ device.info = info

theorem MayLeaveOn.of_connectedOn {id : Nat}
    (h : ∀ info, w.inRuntime = false → m.ConnectedOn id info → allowed (.stranding info)) :
    m.MayLeaveOn w allowed id :=
  fun c hc hid device handle hold _ hr => h device.info hr ⟨c, hc, hid, device, handle, hold, rfl⟩

/-- Whether a move may leave the driver of a device without anybody who uses it or removes it. -/
def Move.Strands (inRuntime : Bool) (m : Manager) (info : DeviceInfo) : Move → Prop
  | .abandon id =>
    (∃ connect device outcome, m.work? id = some (.installing connect device outcome) ∧
      device.info = info) ∨
    m.work? id = some (.tidying info) ∨
    inRuntime = false ∧ m.Connecting id info
  | .resume id =>
    (∃ connect device fault, m.work? id = some (.installing connect device (some (.error fault))) ∧
      device.info = info) ∨
    (∃ connect device, ∃ c ∈ m.retired, m.work? id = some (.connecting connect device c.id) ∧
      device.info = info) ∨
    inRuntime = false ∧ (m.Connecting id info ∨ ∃ connect device,
      m.work? id = some (.installing connect device (some (.ok ()))) ∧ device.info = info)
  | .signal _ call _ => inRuntime = false ∧ m.Connecting call info
  | .shutdown =>
    m.stopped = false ∧ ∃ c ∈ m.channels, ∃ device handle, c.Holding device handle ∧ device.info = info
  | .disconnect key => inRuntime = false ∧
    ∃ c ∈ m.channels, ∃ device handle, c.Holding device handle ∧ device.info = info ∧ device.key = key
  | .removeChannel id | .receive id _ | .handle (.deviceFailed id _ _) =>
    inRuntime = false ∧ m.ConnectedOn id info
  | .nextEvent => inRuntime = false ∧ ∃ id binding fault,
    m.queue.take?.2 = some (.deviceFailed id binding fault) ∧ m.ConnectedOn id info
  | _ => False

/-- The kinds of deeds that a move may bring, besides plain ones. -/
def Move.Allows (w : Surroundings) (m : Manager) : Move → Kind → Prop
  | .connect .., .call => True
  | .handle (.arrived _), .call | .handle (.arrived _), .arrival => True
  | .nextEvent, .call | .nextEvent, .arrival => ∃ info, m.queue.take?.2 = some (.arrived info)
  | .addChannel transport withHost, .call =>
    m.settings.redirectOnConnect ≠ none ∧ m.Starts ((Manager.addChannel w transport withHost).perform m).2.1
  | .resume id, .arrival => ∃ devices, m.work? id = some (.enumerating (some (.ok devices)))
  | .start, .beginning => m.initialized = false
  | .enumerationDone task outcome, .finding id found => id = task ∧ found = outcome
  | .shutdown, .leaving => True
  | move, .stranding info => move.Strands w.inRuntime m info
  | _, _ => False

theorem act_does (hw : w.Fresh) (move : Move) : Does w (move.Allows w m) (move.act w) m := by
  cases move with
  | connect key stopped =>
    exact fun hm => Does.bind number_does (callConnect_does number_lt hm.fresh trivial key stopped) hm
  | begin task => exact begin_does task
  | stop call => exact stopCall_does call
  | abandon call =>
    exact abandon_does (fun connect device outcome h => .inl ⟨connect, device, outcome, h, rfl⟩)
      (fun info h => .inr (.inl h))
      fun connect device channel h _ hr => .inr (.inr ⟨hr, connect, device, channel, h, rfl⟩)
  | jobDone task outcome => exact jobDone_does task outcome
  | enumerationDone task outcome => exact enumerationDone_does ⟨rfl, rfl⟩
  | resume task =>
    exact resume_does (fun connect device fault h => .inl ⟨connect, device, fault, h, rfl⟩)
      (fun connect device c hc h => .inr (.inl ⟨connect, device, c, hc, h, rfl⟩))
      (fun devices h => ⟨devices, h⟩)
      (fun connect device h _ hr => .inr (.inr ⟨hr, .inr ⟨connect, device, h, rfl⟩⟩))
      fun connect device channel h _ hr => .inr (.inr ⟨hr, .inl ⟨connect, device, channel, h, rfl⟩⟩)
  | signal channel call heard =>
    intro hm
    refine onChannel_does channel 0 (.signal call heard) rfl (fun _ _ _ _ he => by cases he)
      (fun c hin a hadvances hp _ hr => ?_) hm
    obtain ⟨connect, hw⟩ := hm.work? hin hp
    rcases hadvances with ⟨_, he⟩ | he
    · cases he
      exact ⟨hr, connect, a.device, c.id, hw, rfl⟩
    · cases he
  | opened channel call ticket outcome =>
    exact onChannel_aside_does channel ticket (.opened call outcome) rfl nofun nofun
  | disconnect key =>
    exact .bind (disconnect_does key fun c hc device handle hkey hold _ hr =>
      ⟨hr, c, hc, device, handle, hold, rfl, hkey⟩) (.pure _)
  | disconnectAndWait key =>
    exact fun hm => Does.bind number_does (disconnectAndWait_does number_lt hm.fresh key) hm
  | addChannel transport withHost =>
    exact .bind (addChannel_does hw transport withHost fun hf hs => ⟨hf, hs⟩) (.pure _)
  | removeChannel channel =>
    exact .bind (removeChannel_does (.of_connectedOn fun _ hr hon => ⟨hr, hon⟩)) (.pure _)
  | resetChannel channel =>
    exact fun hm => Does.bind number_does (resetChannel_does hw number_lt hm.fresh channel) hm
  | receive channel payload =>
    exact .bind (receive_does (.of_connectedOn fun _ hr hon => ⟨hr, hon⟩) payload) (.pure _)
  | stir channel act =>
    exact onChannel_aside_does channel 0 (.stir act) rfl nofun nofun
  | post event => exact .change (.still ⟨rfl, rfl, rfl, rfl, rfl, Nat.le_refl _, rfl, rfl, rfl⟩) (.inl rfl)
  | handle event =>
    refine fun hm => Does.bind number_does (handleEvent_does number_lt hm.fresh event
      (fun info he => he ▸ ⟨trivial, trivial⟩) fun id binding fault he => ?_) hm
    subst he
    exact .of_connectedOn fun _ hr hon => ⟨hr, hon⟩
  | nextEvent =>
    exact nextEvent_does (fun info he => ⟨⟨info, he⟩, ⟨info, he⟩⟩)
      fun id binding fault he => .of_connectedOn fun _ hr hon => ⟨hr, id, binding, fault, he, hon⟩
  | endLoop =>
    refine .change (.still ?_) (.inl rfl)
    split <;> exact ⟨rfl, rfl, rfl, rfl, rfl, Nat.le_refl _, rfl, rfl, rfl⟩
  | start => exact fun hm => Does.bind number_does (start_does number_lt hm.fresh fun h => h) hm
  | shutdown =>
    exact shutdown_does trivial fun hs c hc device handle hold => ⟨hs, c, hc, device, handle, hold, rfl⟩
  | configure f =>
    exact .change (.still ⟨rfl, rfl, rfl, rfl, rfl, Nat.le_refl _, rfl, rfl, rfl⟩) (.inl rfl)

/-- Every turn is a row of deeds, plain ones and those that its move allows. -/
theorem turn_deeds (hm : m.Matched) (drivers : Bool) (t : Turn) :
    Deeds drivers (t.move.Allows (t.surroundings drivers) m) m (m.turn drivers t).2 (m.turn drivers t).1 :=
  act_does (t.surroundings_fresh drivers) t.move hm

theorem turn_matched (hm : m.Matched) (drivers : Bool) (t : Turn) : (m.turn drivers t).1.Matched :=
  (turn_deeds hm drivers t).matched hm

theorem run_matched (hm : m.Matched) (drivers : Bool) (turns : List Turn) :
    (m.run drivers turns).Matched := by
  induction turns generalizing m with
  | nil => exact hm
  | cons t turns ih => exact ih (turn_matched hm drivers t)

/-- What every deed keeps is true whatever a manager goes through. -/
theorem run_keeps {P : Manager → Prop} (hm : m.Matched) (drivers : Bool)
    (hkeep : ∀ {kind : Kind} {m n : Manager} {outputs : List Output},
      Deed drivers kind m outputs n → m.Matched → P m → P n) (hp : P m) (turns : List Turn) :
    P (m.run drivers turns) := by
  induction turns generalizing m with
  | nil => exact hp
  | cons t turns ih =>
    have hrow := turn_deeds hm drivers t
    exact ih (hrow.matched hm) (hrow.keeps hm (fun _ d => hkeep d) hp)

end RemoteUsb.Manager
