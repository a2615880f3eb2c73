import RemoteUsb.Proofs.Manager.Late
import RemoteUsb.Proofs.Manager.Matched

/-! The parts of the turns, each as a row of deeds. What a part does one after another is put in the order
in which deeds tell it: the removal of a driver is ordered before the device is taken off, so that no
driver is left alone between two deeds. Outside the runtime it cannot be ordered, and the driver is
stranded. -/

namespace RemoteUsb.Manager

variable {drivers : Bool} {allowed : Kind → Prop} {kind : Kind} {m n p : Manager} {w : Surroundings}
  {outputs more : List Output} {info : DeviceInfo}

/-! ## Rows -/

theorem Deeds.trans (h : Deeds drivers allowed m outputs n) (h' : Deeds drivers allowed n more p) :
    Deeds drivers allowed m (outputs ++ more) p := by
  induction h with
  | refl => exact h'
  | head hk d _ ih =>
    rw [List.append_assoc]
    exact .head hk d (ih h')

theorem Deed.row (h : Deed drivers kind m outputs n) (hk : kind = .plain ∨ allowed kind) :
    Deeds drivers allowed m outputs n := by
  have := Deeds.head hk h (.refl n)
  rwa [List.append_nil] at this

theorem Deed.plain (h : Deed drivers .plain m outputs n) : Deeds drivers allowed m outputs n :=
  h.row (.inl rfl)

/-- A row that tells nothing, and another one. -/
theorem Deeds.silent (h : Deeds drivers allowed m [] n) (h' : Deeds drivers allowed n outputs p) :
    Deeds drivers allowed m outputs p := h.trans h'

theorem Deeds.still (h : m.Still n) : Deeds drivers allowed m [] n := (Deed.still h).plain

theorem Deeds.told (h : ∀ output ∈ outputs, output.isDriving = false) :
    Deeds drivers allowed m outputs m := by
  induction outputs with
  | nil => exact .refl m
  | cons output outputs ih =>
    obtain ⟨hout, hrest⟩ := List.forall_mem_cons.mp h
    exact .head (.inl rfl) (.told output hout) (ih hrest)

/-- What follows a row and keeps the books belongs to it. -/
theorem Deeds.then_still (h : Deeds drivers allowed m outputs n) (h' : n.Still p) :
    Deeds drivers allowed m outputs p := by
  have := h.trans (.still h')
  rwa [List.append_nil] at this

/-- The step makes a row of deeds of a manager whose tasks and attempts match. -/
def Does {α : Type} (w : Surroundings) (allowed : Kind → Prop) (act : Act α) (m : Manager) : Prop :=
  m.Matched → Deeds w.needsDriver allowed m (act.perform m).2.2 (act.perform m).2.1

section

variable {α β : Type}

theorem perform_bind (act : Act α) (next : α → Act β) (m : Manager) :
    (act >>= next).perform m =
      (((next (act.perform m).1).perform (act.perform m).2.1).1,
        ((next (act.perform m).1).perform (act.perform m).2.1).2.1,
        (act.perform m).2.2 ++ ((next (act.perform m).1).perform (act.perform m).2.1).2.2) := rfl

theorem Does.pure (a : α) : Does w allowed (Pure.pure a : Act α) m := fun _ => .refl m

theorem Does.bind {act : Act α} {next : α → Act β} (h : Does w allowed act m)
    (h' : Does w allowed (next (act.perform m).1) (act.perform m).2.1) :
    Does w allowed (act >>= next) m :=
  fun hm => (h hm).trans (h' ((h hm).matched hm))

theorem Does.manager {next : Manager → Act β} (h : Does w allowed (next m) m) :
    Does w allowed (Act.manager >>= next) m := h

theorem Does.change {f : Manager → Manager} (h : Deed w.needsDriver kind m [] (f m))
    (hk : kind = .plain ∨ allowed kind) : Does w allowed (Act.change f) m := fun _ => h.row hk

theorem Does.emit {output : Output} (h : output.isDriving = false) :
    Does w allowed (Act.emit output) m := fun _ => (Deed.told output h).plain

theorem Does.ite {c : Prop} [Decidable c] {act other : Act α} (h : c → Does w allowed act m)
    (h' : ¬c → Does w allowed other m) : Does w allowed (if c then act else other) m := by
  split
  · exact h ‹_›
  · exact h' ‹_›

end

/-! ## Tasks that are spawned -/

theorem spawn_eq (h : TasksSound m.tasks m.nextTask) (work : Work) :
    m.spawn work =
      { m with tasks := m.tasks ++ [⟨m.nextTask, work⟩], nextTask := m.nextTask + 1 } := by
  have hnone : m.task? m.nextTask = none := Option.map_eq_none_iff.mp (h.work?_none (Nat.le_refl _))
  have : (m.takeNumber.1.task? m.nextTask).isSome = false := by
    rw [show m.takeNumber.1.task? m.nextTask = m.task? m.nextTask from rfl, hnone]
    rfl
  rw [spawn, setTask, this]
  rfl

/-- The manager with a task that removes the driver of a device, if there can be one. -/
def tidied (m : Manager) (tidies : Bool) (info : DeviceInfo) : Manager :=
  if tidies then m.spawn (.tidying info) else m

theorem perform_tidy (info : DeviceInfo) :
    (tidy w info).perform m = ((), m.tidied w.tidies info, []) := by
  unfold tidy tidied
  split <;> rfl

theorem Deeds.tidied {tidies : Bool} (info : DeviceInfo) :
    Deeds drivers allowed m [] (m.tidied tidies info) := by
  unfold Manager.tidied
  split
  · exact (Deed.spawned info).plain
  · exact .refl m

theorem tidied_tidies (m : Manager) (info : DeviceInfo) {tidies : Bool} (h : tidies = true) :
    (m.tidied tidies info).Tidies info := by
  rw [tidied, if_pos h]
  exact ⟨m.nextTask, by rw [work?_spawn, if_pos rfl]⟩

/-- Where drivers are wanted and no task can be started, the driver of a device may be left alone. -/
def MayLeave (w : Surroundings) (allowed : Kind → Prop) (info : DeviceInfo) : Prop :=
  w.needsDriver = true → w.inRuntime = false → allowed (.stranding info)

/-- The driver of a device is to be removed, or it is stranded. -/
theorem MayLeave.exists_kind (h : MayLeave w allowed info) (m : Manager) :
    ∃ kind, (kind = .plain ∨ allowed kind) ∧
      (kind = .plain ∧ (w.needsDriver = true → (m.tidied w.tidies info).Tidies info) ∨
        kind = .stranding info) := by
  by_cases hd : w.needsDriver = true
  · cases hr : w.inRuntime with
    | true =>
      have htidies : w.tidies = true := by rw [Surroundings.tidies, hd, hr]; rfl
      exact ⟨.plain, .inl rfl, .inl ⟨rfl, fun _ => tidied_tidies m info htidies⟩⟩
    | false => exact ⟨_, .inr (h hd hr), .inr rfl⟩
  · exact ⟨.plain, .inl rfl, .inl ⟨rfl, fun hd' => absurd hd' hd⟩⟩

theorem tidied_beside (m : Manager) (tidies : Bool) (info : DeviceInfo) :
    m.Beside (m.tidied tidies info) := by
  unfold tidied
  split
  · exact spawn_beside m _
  · exact .refl m

@[simp] theorem tidied_retired (m : Manager) (tidies : Bool) (info : DeviceInfo) :
    (m.tidied tidies info).retired = m.retired := by
  unfold tidied
  split
  · exact setTask_retired ..
  · rfl

theorem setTask_setChannel (m : Manager) (id : Nat) (work : Work) (c : Channel) :
    (m.setChannel c).setTask id work = (m.setTask id work).setChannel c := by
  unfold setTask
  change (if (m.task? id).isSome = true then _ else _) = _
  split <;> rfl

theorem setTask_stopListening (m : Manager) (id : Nat) (work : Work) :
    m.stopListening.setTask id work = (m.setTask id work).stopListening := by
  unfold setTask
  change (if (m.task? id).isSome = true then _ else _) = _
  split <;> rfl

theorem tidied_setChannel (m : Manager) (tidies : Bool) (info : DeviceInfo) (c : Channel) :
    (m.setChannel c).tidied tidies info = (m.tidied tidies info).setChannel c := by
  unfold tidied
  split
  · exact setTask_setChannel m.takeNumber.1 m.nextTask _ c
  · rfl

theorem tidied_stopListening (m : Manager) (tidies : Bool) (info : DeviceInfo) :
    m.stopListening.tidied tidies info = (m.tidied tidies info).stopListening := by
  unfold tidied
  split
  · exact setTask_stopListening m.takeNumber.1 m.nextTask _
  · rfl

theorem tidied_withChannels (m : Manager) (tidies : Bool) (info : DeviceInfo)
    (channels retired : List Channel) :
    ({ m with channels, retired } : Manager).tidied tidies info =
      { m.tidied tidies info with channels, retired } := by
  unfold tidied spawn setTask
  split
  · change (if (m.takeNumber.1.task? m.nextTask).isSome = true then _ else _) = _
    split <;> rfl
  · rfl

theorem tidied_dropTask (h : TasksSound m.tasks m.nextTask) {id : Nat} (hid : id < m.nextTask)
    (tidies : Bool) (info : DeviceInfo) :
    (m.dropTask id).tidied tidies info = (m.tidied tidies info).dropTask id := by
  unfold tidied
  split
  · rw [spawn_eq h, spawn_eq (h.filter _)]
    have hne : (m.nextTask != id) = true := bne_iff_ne.mpr (Nat.ne_of_gt hid)
    simp [dropTask, hne]
  · rfl

/-! ## Ends of calls -/

/-- The row that takes a call's task out ends the call. -/
theorem Deeds.endCall {call : Nat} (h : Deeds drivers allowed m outputs (n.dropTask call))
    (result : Except RedirectError Unit) :
    Deeds drivers allowed m (outputs ++ ((endCall call result).perform n).2.2)
      ((endCall call result).perform n).2.1 := by
  have hloop : ∀ loop, (n.dropTask call).Still { n.dropTask call with loop } := fun _ =>
    ⟨rfl, rfl, rfl, rfl, rfl, Nat.le_refl _, rfl, rfl, rfl⟩
  refine (h.then_still (hloop _)).trans (.told fun output ho => ?_)
  rw [List.mem_singleton.mp ho]
  rfl

theorem Deeds.endConnect {call : Nat} (h : Deeds drivers allowed m outputs (n.dropTask call))
    (connect : Connect) (result : Except RedirectError Unit) :
    Deeds drivers allowed m (outputs ++ ((endConnect call connect result).perform n).2.2)
      ((endConnect call connect result).perform n).2.1 := by
  have hend := h.endCall result
  unfold Manager.endConnect
  split
  · rw [perform_bind, ← List.append_assoc]
    refine hend.trans (.told fun output ho => ?_)
    rw [List.mem_singleton.mp ho]
    rfl
  · rw [perform_bind, ← List.append_assoc]
    exact hend.trans (.refl _)

/-- A task is let go. -/
theorem endCall_does {call : Nat} (h : m.Advance w.needsDriver call kind (m.work? call) none [])
    (hk : kind = .plain ∨ allowed kind) (result : Except RedirectError Unit) :
    Does w allowed (endCall call result) m := fun _ => by
  have hdrop : Deeds w.needsDriver allowed m [] (m.dropTask call) := (Deed.task call h).row hk
  exact hdrop.endCall result

theorem endConnect_does {call : Nat} (h : m.Advance w.needsDriver call kind (m.work? call) none [])
    (hk : kind = .plain ∨ allowed kind) (connect : Connect) (result : Except RedirectError Unit) :
    Does w allowed (endConnect call connect result) m := fun _ => by
  have hdrop : Deeds w.needsDriver allowed m [] (m.dropTask call) := (Deed.task call h).row hk
  exact hdrop.endConnect connect result

/-- A number without a task can be given up. -/
theorem Advance.nobody {id : Nat} (h : m.work? id = none) :
    m.Advance drivers id .plain (m.work? id) none [] := .closed fun work he => by
  rw [h] at he
  cases he

theorem Advance.loose {id : Nat} {work : Work} (h : m.work? id = some work)
    (hl : work.isLoose = true) : m.Advance drivers id .plain (m.work? id) none [] :=
  .closed fun other he => by
    rw [h] at he
    cases he
    exact hl

/-! ## Effects of channels -/

/-- Effects that end no call are told. -/
theorem settle_told {effects : List Effect} (h : Channel.endings effects = []) (id : Nat) (m : Manager) :
    (Act.each (settleEffect w id) effects).perform m = ((), m, effects.map (.effect id)) := by
  have hone : ∀ effect, Channel.endings [effect] = [] →
      (settleEffect w id effect).perform m = ((), m, [.effect id effect]) := by
    intro effect he
    cases effect with
    | ended call result => cases he
    | asked | inputClosed | opening | closed => rfl
  induction effects with
  | nil => rfl
  | cons effect effects ih =>
    rw [← List.singleton_append, Channel.endings_append, List.append_eq_nil_iff] at h
    rw [Act.each, perform_bind, hone effect h.1, ih h.2]
    rfl

theorem settleChannel_told {effects : List Effect} (h : Channel.endings effects = []) (c : Channel) :
    (settleChannel w c effects).perform m = ((), m.setChannel c, effects.map (.effect c.id)) :=
  settle_told h c.id _

theorem Deeds.effects (id : Nat) (effects : List Effect) :
    Deeds drivers allowed m (effects.map (.effect id)) m := by
  refine .told fun output ho => ?_
  obtain ⟨effect, _, rfl⟩ := List.mem_map.mp ho
  rfl

theorem ending_split {effects : List Effect} {call : Nat} {result : Except RedirectError Unit}
    (h : Channel.endings effects = [(call, result)]) :
    ∃ first others, effects = first ++ .ended call result :: others ∧
      Channel.endings first = [] ∧ Channel.endings others = [] := by
  induction effects with
  | nil => cases h
  | cons effect effects ih =>
    cases effect with
    | ended =>
      rw [Channel.endings_cons_ended, List.cons.injEq] at h
      obtain ⟨he, hrest⟩ := h
      cases he
      exact ⟨[], effects, rfl, rfl, hrest⟩
    | asked | inputClosed | opening | closed =>
      obtain ⟨first, others, rfl, hfirst, hothers⟩ := ih h
      exact ⟨_ :: first, others, rfl, hfirst, hothers⟩

theorem perform_each_append {α : Type} (act : α → Act Unit) (first others : List α) (m : Manager) :
    (Act.each act (first ++ others)).perform m =
      ((), ((Act.each act others).perform ((Act.each act first).perform m).2.1).2.1,
        ((Act.each act first).perform m).2.2 ++
          ((Act.each act others).perform ((Act.each act first).perform m).2.1).2.2) := by
  induction first generalizing m with
  | nil => rfl
  | cons a first ih =>
    rw [List.cons_append, Act.each, perform_bind, ih, Act.each, perform_bind, List.append_assoc]

/-- A step of a channel that ends a call tells what it did before and after the ending. -/
theorem perform_settleChannel_ended {effects : List Effect} {call : Nat}
    {result : Except RedirectError Unit} (he : Channel.endings effects = [(call, result)]) (c : Channel) :
    ∃ first others : List Effect, (settleChannel w c effects).perform n =
      ((), ((attemptEnded w call result).perform (n.setChannel c)).2.1,
        first.map (.effect c.id) ++ (((attemptEnded w call result).perform (n.setChannel c)).2.2 ++
          others.map (.effect c.id))) := by
  obtain ⟨first, others, rfl, hfirst, hothers⟩ := ending_split he
  have hperform : (settleChannel w c (first ++ .ended call result :: others)).perform n =
      (Act.each (settleEffect w c.id) (first ++ .ended call result :: others)).perform
        (n.setChannel c) := rfl
  have hended : ∀ n : Manager,
      (Act.each (settleEffect w c.id) (.ended call result :: others)).perform n =
        ((), ((attemptEnded w call result).perform n).2.1,
          ((attemptEnded w call result).perform n).2.2 ++ others.map (.effect c.id)) := by
    intro n
    rw [Act.each, perform_bind, settle_told hothers]
    rfl
  refine ⟨first, others, ?_⟩
  rw [hperform, perform_each_append, settle_told hfirst, hended]

/-- A step of a channel that ends a call is what comes of the ending. -/
theorem settleChannel_ended {effects : List Effect} {call : Nat} {result : Except RedirectError Unit}
    {c : Channel} (he : Channel.endings effects = [(call, result)])
    (h : Deeds drivers allowed m ((attemptEnded w call result).perform (n.setChannel c)).2.2
      ((attemptEnded w call result).perform (n.setChannel c)).2.1) :
    Deeds drivers allowed m ((settleChannel w c effects).perform n).2.2
      ((settleChannel w c effects).perform n).2.1 := by
  obtain ⟨first, others, hperform⟩ := perform_settleChannel_ended (w := w) (n := n) he c
  rw [hperform]
  exact (Deeds.effects c.id first).trans (h.trans (Deeds.effects c.id others))

/-! ## Calls on channels -/

theorem Sound.anyChannel? (h : m.Sound) {c : Channel} (hc : c ∈ m.channels ++ m.retired) :
    m.anyChannel? c.id = some c := h.channels.labelled.anyChannel? hc

/-- An attempt has its task. -/
theorem Matched.work? (hm : m.Matched) {c : Channel} {a : Attempt}
    (hc : c ∈ m.channels ++ m.retired) (hp : c.Pending a) :
    ∃ connect, m.work? a.call = some (.connecting connect a.device c.id) :=
  (hm.agree a.call a.device c.id).mpr
    ((hm.sound.pends_here hc).mpr (by rw [hp.calls]; exact List.mem_singleton_self _))

/-- A task that connects a device has its attempt. -/
theorem Matched.pending (hm : m.Matched) {call : Nat} {connect : Connect} {device : RegisteredDevice}
    {channel : Nat} (hw : m.work? call = some (.connecting connect device channel)) :
    ∃ c a, c ∈ m.channels ++ m.retired ∧ c.id = channel ∧ c.Pending a ∧ a.call = call ∧
      a.device = device := by
  obtain ⟨c, hc, hid, hcall⟩ := (hm.agree call device channel).mp ⟨connect, hw⟩
  obtain ⟨a, ha, he⟩ := List.mem_map.mp hcall
  have hp := (hm.sound.channels.sound c hc).pending_of_mem ha
  exact ⟨c, a, hc, hid, hp, congrArg Prod.fst he, congrArg Prod.snd he⟩

theorem perform_undoConnect (info : DeviceInfo) :
    (undoConnect w info).perform m = ((), m.stopListening.tidied w.tidies info, []) := by
  rw [undoConnect, perform_change, perform_tidy]

theorem attemptEnded_ok {call channel : Nat} {connect : Connect} {device : RegisteredDevice}
    (h : m.work? call = some (.connecting connect device channel)) :
    (attemptEnded w call (.ok ())).perform m = (endConnect call connect (.ok ())).perform m := by
  unfold attemptEnded
  rw [perform_manager, h]
  rfl

theorem attemptEnded_error {call channel : Nat} {connect : Connect} {device : RegisteredDevice}
    (h : m.work? call = some (.connecting connect device channel)) (error : RedirectError) :
    (attemptEnded w call (.error error)).perform m =
      (endConnect call connect (.error error)).perform
        (m.stopListening.tidied w.tidies device.info) := by
  rw [attemptEnded, perform_manager, h]
  change (undoConnect w device.info >>= fun _ => endConnect call connect (.error error)).perform m = _
  rw [perform_bind, perform_undoConnect]
  rfl

/-- A call that goes on comes to its end without a connection. -/
theorem Matched.fails (hm : m.Matched) {c : Channel} {a : Attempt} (now : Nat) (move : Channel.Move)
    (hc : c ∈ m.channels ++ m.retired) (hmove : move.connects = false) (hp : c.Pending a)
    (hd : (c.step now move).1.Idle) (hs : MayLeave w allowed a.device.info) :
    Deeds w.needsDriver allowed m []
      (((m.setChannel (c.step now move).1).stopListening.tidied w.tidies a.device.info).dropTask
        a.call) := by
  obtain ⟨connect, hw⟩ := hm.work? hc hp
  have hbeside := tidied_beside m w.tidies a.device.info
  have hin : c ∈ (m.tidied w.tidies a.device.info).channels ++
      (m.tidied w.tidies a.device.info).retired := by
    rw [hbeside.channels, tidied_retired]
    exact hc
  have hwork := (hbeside.work? a.call (hm.sound.tasks.lt hw)).trans hw
  obtain ⟨kind, hk, hwhy⟩ := hs.exists_kind m
  rw [tidied_stopListening, tidied_setChannel]
  exact (Deeds.tidied a.device.info).silent
    ((Deed.failed now move hin hmove hp hd hwork hwhy).row hk)

/-- A move of a call that goes on. A connection on a channel that was removed strands the driver, and so
does a failure outside the runtime. -/
theorem proceeds_does {c : Channel} (hc : c ∈ m.channels ++ m.retired) (now : Nat)
    (move : Channel.Move) (hmove : move.proceeds = true)
    (hs : c ∈ m.retired → ∀ a, move = .resume a.call → c.Pending a →
      allowed (.stranding a.device.info))
    (hl : ∀ a, move.Advances a.call → c.Pending a → MayLeave w allowed a.device.info) :
    Does w allowed (settleChannel w (c.step now move).1 (c.step now move).2) m := fun hm => by
  have hconnects := Channel.Move.connects_of_proceeds hmove
  have hprogress : Channel.Progress c move (c.step now move).1 (Channel.endings (c.step now move).2) :=
    Channel.step_progress (hm.sound.channels.sound c hc) hmove
  generalize hended : Channel.endings (c.step now move).2 = ended, hd : (c.step now move).1 = d
    at hprogress
  cases hprogress with
  | steady hsteady =>
    subst hd
    rw [settleChannel_told hended]
    exact (Deed.moved now move hc hconnects (fun _ => hmove) hsteady).plain.silent (.effects ..)
  | @connects _ a handle hp hh hold =>
    subst hd
    obtain ⟨connect, hw⟩ := hm.work? hc hp
    refine settleChannel_ended hended ?_
    have hafter : (m.setChannel (c.step now (.resume a.call)).1).work? a.call =
        some (.connecting connect a.device c.id) := hw
    rw [attemptEnded_ok hafter]
    have hdeed : Deeds w.needsDriver allowed m []
        ((m.setChannel (c.step now (.resume a.call)).1).dropTask a.call) := by
      rcases List.mem_append.mp hc with hset | hretired
      · exact (Deed.connected now (.resume a.call) hc hconnects hp hh hold hw
          (.inl ⟨hset, rfl⟩)).plain
      · exact (Deed.connected now (.resume a.call) hc hconnects hp hh hold hw
          (.inr ⟨hretired, rfl⟩)).row (.inr (hs hretired a rfl hp))
    exact hdeed.endConnect connect (.ok ())
  | @undone _ _ a error hp hadvances hidle =>
    subst hd
    obtain ⟨connect, hw⟩ := hm.work? hc hp
    refine settleChannel_ended hended ?_
    have hafter : (m.setChannel (c.step now move).1).work? a.call =
        some (.connecting connect a.device c.id) := hw
    rw [attemptEnded_error hafter]
    exact (hm.fails now move hc hconnects hp hidle (hl a hadvances hp)).endConnect connect (.error error)

theorem perform_onChannel {id : Nat} {c : Channel} (h : m.anyChannel? id = some c)
    (step : Channel → Channel × List Effect) :
    (onChannel w id step).perform m = (settleChannel w (step c).1 (step c).2).perform m := by
  rw [onChannel, perform_manager, h]

theorem onChannel_does (id now : Nat) (move : Channel.Move) (hmove : move.proceeds = true)
    (hs : ∀ c ∈ m.retired, c.id = id → ∀ a, move = .resume a.call → c.Pending a →
      allowed (.stranding a.device.info))
    (hl : ∀ c ∈ m.channels ++ m.retired, ∀ a, move.Advances a.call → c.Pending a →
      MayLeave w allowed a.device.info) :
    Does w allowed (onChannel w id (·.step now move)) m := by
  refine .manager ?_
  split
  · exact .pure ()
  · rename_i c hc
    have hid : c.id = id := id_of_anyChannel? hc
    have hin := mem_of_anyChannel? hc
    exact proceeds_does hin now move hmove (fun hretired => hs c hretired hid) (hl c hin)

/-- A move with which no call goes on. -/
theorem onChannel_aside_does (id now : Nat) (move : Channel.Move) (hmove : move.proceeds = true)
    (hsignal : ∀ call heard, move ≠ .signal call heard) (hresume : ∀ call, move ≠ .resume call) :
    Does w allowed (onChannel w id (·.step now move)) m := by
  refine onChannel_does id now move hmove (fun _ _ _ a he => absurd he (hresume a.call)) ?_
  rintro _ _ a (⟨heard, he⟩ | he)
  · exact absurd he (hsignal a.call heard)
  · exact absurd he (hresume a.call)

/-! ## Connects -/

theorem listeners_start_stop (l : Listening) : l.start.stop.listeners = l.listeners := by
  obtain ⟨listeners, pumps, held⟩ := l
  cases listeners with
  | zero => rfl
  | succ listeners => rfl

/-- What is counted and counted off again is as if it had not been counted. -/
theorem still_start_stop (m : Manager) :
    m.Still { m with listening := m.listening.start.stop } :=
  ⟨rfl, rfl, rfl, rfl, rfl, Nat.le_refl _, listeners_start_stop _, rfl, rfl⟩

theorem bindFree_ok {device : RegisteredDevice} {bound : Channel} (h : m.bindFree device = .ok bound) :
    m.isConnected device.key = false ∧ ∃ c, m.channels.find? Channel.isFree = some c ∧
      c.host ≠ none ∧ bound.id = c.id ∧
        ∀ call entry stopped, c.connect call device entry stopped = bound.beginConnect call entry stopped := by
  unfold bindFree at h
  split at h
  · cases h
  · rename_i hfree
    refine ⟨eq_false_of_ne_true hfree, ?_⟩
    split at h
    · cases h
    · rename_i c hfind
      have hconnect : ∀ call entry stopped,
          c.connect call device entry stopped = bound.beginConnect call entry stopped := by
        intro call entry stopped
        rw [Channel.connect, h]
      unfold Channel.bind at h
      split at h
      · cases h
      · rename_i hhost
        split at h <;> cases h
        exact ⟨c, hfind, fun hn => hhost (by rw [hn]; rfl), rfl, hconnect⟩

/-- A device is refused as connected only if it is bound. -/
theorem isConnected_of_bindFree {device : RegisteredDevice} {key : DeviceKey}
    (h : m.bindFree device = .error (.alreadyConnected key)) : m.isConnected device.key = true := by
  unfold bindFree at h
  split at h
  · assumption
  · split at h
    · cases h
    · unfold Channel.bind at h
      split at h
      · cases h
      · split at h <;> cases h

theorem dropTask_setTask (m : Manager) (id : Nat) (work : Work) :
    (m.setTask id work).dropTask id = m.dropTask id := by
  unfold setTask
  split
  · have hfilter : (m.tasks.map fun t => if t.id = id then { t with work } else t).filter (·.id != id) =
        m.tasks.filter (·.id != id) := by
      induction m.tasks with
      | nil => rfl
      | cons t tasks ih =>
        by_cases ht : t.id = id
        · simp [ht, ih]
        · simp [ht, ih]
    rw [dropTask, hfilter]
    rfl
  · simp [dropTask]

@[simp] theorem setTask_listening (m : Manager) (id : Nat) (work : Work) :
    (m.setTask id work).listening = m.listening := by
  unfold setTask
  split <;> rfl

theorem setTask_withListening (m : Manager) (id : Nat) (work : Work) (listening : Listening) :
    ({ m with listening } : Manager).setTask id work = { m.setTask id work with listening } := by
  unfold setTask
  change (if (m.task? id).isSome = true then _ else _) = _
  split <;> rfl

theorem tidied_withListening (m : Manager) (tidies : Bool) (info : DeviceInfo) (listening : Listening) :
    ({ m with listening } : Manager).tidied tidies info = { m.tidied tidies info with listening } := by
  unfold tidied
  split
  · exact setTask_withListening m.takeNumber.1 m.nextTask _ listening
  · rfl

@[simp] theorem tidied_listening (m : Manager) (tidies : Bool) (info : DeviceInfo) :
    (m.tidied tidies info).listening = m.listening := by
  unfold tidied
  split
  · exact setTask_listening ..
  · rfl

/-- A connect that has its driver, or waits for it, can end if somebody takes care of the driver. -/
theorem Advance.spare {call : Nat} {connect : Connect} {device : RegisteredDevice}
    {outcome : Option (Except JobFault Unit)}
    (h : m.work? call = some (.installing connect device outcome))
    (hs : drivers = true → m.Tidies device.info ∨ m.isConnected device.key = true) :
    m.Advance drivers call .plain (m.work? call) none [] := by
  rw [h]
  exact .spared hs

theorem tidied_work? (hm : m.Sound) {id : Nat} {work : Work} (h : m.work? id = some work)
    (tidies : Bool) (info : DeviceInfo) : (m.tidied tidies info).work? id = some work :=
  ((tidied_beside m tidies info).work? id (hm.tasks.lt h)).trans h

/-- A connect that has its driver can end once the driver is to be removed, or may be left. -/
theorem MayLeave.lets_go {call : Nat} {connect : Connect} {device : RegisteredDevice}
    {outcome : Option (Except JobFault Unit)} (hs : MayLeave w allowed device.info) (hm : m.Sound)
    (h : m.work? call = some (.installing connect device outcome)) :
    Deeds w.needsDriver allowed (m.tidied w.tidies device.info) []
      ((m.tidied w.tidies device.info).dropTask call) := by
  have hwork := tidied_work? hm h w.tidies device.info
  obtain ⟨kind, hk, ⟨rfl, htidies⟩ | rfl⟩ := hs.exists_kind m
  · exact (Deed.task call (.spare hwork fun hd => .inl (htidies hd))).plain
  · have hlost : (m.tidied w.tidies device.info).Advance w.needsDriver call (.stranding device.info)
        ((m.tidied w.tidies device.info).work? call) none [] := hwork ▸ .lost
    exact (Deed.task call hlost).row hk

/-- The driver of a device is to be removed, and the connect ends. -/
theorem tidy_endConnect_does {call : Nat} {connect : Connect} {device : RegisteredDevice}
    {outcome : Option (Except JobFault Unit)}
    (h : m.work? call = some (.installing connect device outcome))
    (hs : MayLeave w allowed device.info) (other : Connect) (result : Except RedirectError Unit) :
    Does w allowed (do tidy w device.info; endConnect call other result) m := fun hm => by
  have hrow : Deeds w.needsDriver allowed m [] ((m.tidied w.tidies device.info).dropTask call) :=
    (Deeds.tidied device.info).silent (hs.lets_go hm.sound h)
  rw [perform_bind, perform_tidy]
  exact hrow.endConnect other result

/-- A connect finds no channel for its device. -/
theorem refuse_does {call : Nat} {connect : Connect} {device : RegisteredDevice}
    {outcome : Option (Except JobFault Unit)} {error : RedirectError}
    (h : m.work? call = some (.installing connect device outcome))
    (hs : MayLeave w allowed device.info) (other : Connect)
    (hc : ∀ key, error = .alreadyConnected key → m.isConnected device.key = true) :
    Does w allowed (do
      unless error matches .alreadyConnected _ do tidy w device.info
      endConnect call other (.error error)) m := by
  refine .ite (fun he => ?_) fun _ => tidy_endConnect_does h hs other _
  refine endConnect_does (.spare h fun _ => .inr ?_) (.inl rfl) other _
  cases error with
  | alreadyConnected key => exact hc key rfl
  | _ => cases he

/-- A device is bound, but the helper cannot be started. -/
theorem barred_row (hm : m.Matched) {call : Nat} {connect : Connect} {device : RegisteredDevice}
    {c : Channel} {entry : Entry} {stopped : Bool}
    (h : m.work? call = some (.installing connect device (some (.ok ()))))
    (hfree : m.isConnected device.key = false) (hfind : m.channels.find? Channel.isFree = some c)
    (hidle : c.Idle) (hd : (c.connect call device entry stopped).1.Idle)
    (hs : MayLeave w allowed device.info) (work : Work) :
    Deeds w.needsDriver allowed m []
      ((((m.startListening.setTask call work).setChannel
        (c.connect call device entry stopped).1).stopListening.tidied w.tidies device.info).dropTask
          call) := by
  have hlt := hm.sound.tasks.lt h
  let d := (c.connect call device entry stopped).1
  have hbarred : Deeds w.needsDriver allowed m [] (m.setChannel d) :=
    (Deed.barred call entry stopped hfree hfind hidle hd).plain
  have hmatched : (m.setChannel d).Matched := hbarred.matched hm
  have hrow := hbarred.silent ((Deeds.tidied device.info).silent
    (hs.lets_go hmatched.sound (m := m.setChannel d) h))
  -- What differs is that a listener was counted and counted off.
  have hsame : (((m.startListening.setTask call work).setChannel d).stopListening.tidied w.tidies
      device.info).dropTask call =
      { ((m.setChannel d).tidied w.tidies device.info).dropTask call with
        listening := m.listening.start.stop } := by
    have hset : m.startListening.setTask call work =
        { m.setTask call work with listening := m.listening.start } := setTask_withListening ..
    have hleft : TasksSound (m.setTask call work).tasks (m.setTask call work).nextTask :=
      hm.sound.tasks.set (knows_of_work? h) work
    have hltset : call < (m.setTask call work).nextTask := by
      rw [setTask_nextTask]
      exact hlt
    rw [hset]
    change ((({ (m.setTask call work).setChannel d with listening := m.listening.start.stop } :
      Manager).tidied w.tidies device.info).dropTask call) = _
    rw [tidied_withListening, ← tidied_dropTask hm.sound.tasks (m := m.setChannel d) hlt]
    change { (((m.setTask call work).setChannel d).tidied w.tidies device.info).dropTask call with
      listening := m.listening.start.stop } = _
    rw [← tidied_dropTask hleft (m := (m.setTask call work).setChannel d) hltset]
    change { (((m.setTask call work).dropTask call).setChannel d).tidied w.tidies device.info with
      listening := m.listening.start.stop } = _
    rw [dropTask_setTask]
    rfl
  rw [hsame]
  refine hrow.then_still ⟨rfl, rfl, rfl, rfl, rfl, Nat.le_refl _, ?_, rfl, rfl⟩
  have hlistening : ((m.setChannel d).tidied w.tidies device.info).listening = m.listening := by
    unfold Manager.tidied
    split
    · exact setTask_listening ..
    · rfl
  change m.listening.start.stop.listeners = ((m.setChannel d).tidied w.tidies device.info).listening.listeners
  rw [hlistening, listeners_start_stop]

/-- A connect whose driver is there binds its device and begins to open it, or ends. -/
theorem bindAndConnect_does {call : Nat} {connect : Connect} {device : RegisteredDevice}
    (h : m.work? call = some (.installing connect device (some (.ok ()))))
    (hs : MayLeave w allowed device.info) :
    Does w allowed (bindAndConnect w call connect device) m := fun hm => by
  rw [bindAndConnect, perform_change, perform_manager]
  cases hbind : m.startListening.bindFree device with
  | error error =>
    have hstill : m.Still { m with listening := m.listening.start.stop } := still_start_stop m
    have hconnected : ∀ key, error = .alreadyConnected key → m.isConnected device.key = true :=
      fun key he => isConnected_of_bindFree (m := m.startListening) (he ▸ hbind)
    have hrow : Deeds w.needsDriver allowed m [] { m with listening := m.listening.start.stop } :=
      .still hstill
    exact hrow.silent (refuse_does (m := { m with listening := m.listening.start.stop }) h hs connect
      hconnected (hrow.matched hm))
  | ok bound =>
    obtain ⟨hfree, c, hfind, hhost, hid, hconnect⟩ := bindFree_ok hbind
    have hsound := hm.sound.channels.sound c (List.mem_append_left _ (List.mem_of_find?_eq_some hfind))
    let stopped := connect.stopped || (connect.policy.isSome && m.startListening.stopped)
    have hcases := Channel.connect_cases hsound call device (entry w m.startListening.settings) stopped
    change Deeds w.needsDriver allowed m
      ((settleChannel w (bound.beginConnect call (entry w m.startListening.settings) stopped).1
        (bound.beginConnect call (entry w m.startListening.settings) stopped).2).perform
          (m.startListening.setTask call (.connecting connect device bound.id))).2.2
      ((settleChannel w (bound.beginConnect call (entry w m.startListening.settings) stopped).1
        (bound.beginConnect call (entry w m.startListening.settings) stopped).2).perform
          (m.startListening.setTask call (.connecting connect device bound.id))).2.1
    rw [← hconnect, hid]
    rcases hcases with ⟨error, he, hwhy⟩ | ⟨hidle, hd, _, error, hended⟩ |
      ⟨_, a, hp, hcall, hdevice, _, _, hended⟩
    · rcases hwhy with ⟨_, hnone⟩ | ⟨_, _, hbusy⟩
      · exact absurd hnone hhost
      · cases hbusy.symm.trans (List.find?_some hfind)
    · have hwork : ((m.startListening.setTask call (.connecting connect device c.id)).setChannel
          (c.connect call device (entry w m.startListening.settings) stopped).1).work? call =
          some (.connecting connect device c.id) := work?_setTask_self ..
      refine settleChannel_ended hended ?_
      rw [attemptEnded_error hwork]
      exact (barred_row hm h hfree hfind hidle hd hs _).endConnect connect (.error error)
    · rw [settleChannel_told hended]
      exact (Deed.bound call (entry w m.startListening.settings) stopped h hfree hfind hp hcall
        hdevice).plain.silent (.effects ..)

end RemoteUsb.Manager
