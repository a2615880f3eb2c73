import RemoteUsb.Proofs.Manager.Moves

/-! Whatever a manager does, it does in small changes, and there are few kinds of them. A turn is a row of
changes, up to one thing: when a device leaves, it is taken out of the registry once the rest is done.
`turn_turned` says so once for all moves. What is known of managers follows from what one change keeps. -/

namespace RemoteUsb

/-- Whether observers are told that a device was registered, or was taken out. -/
def Output.isNotice : Output → Bool
  | .notified (.added _) | .notified (.removed _) => true
  | _ => false

/-- Whether a task has to do with a device that it connects, and has begun. -/
def Work.connects : Work → Bool
  | .installing .. | .connecting .. => true
  | _ => false

namespace Manager

/-- Two managers that do not differ in their devices, channels and tasks. -/
structure Aside (m n : Manager) : Prop where
  registry : n.registry = m.registry
  channels : n.channels = m.channels
  retired : n.retired = m.retired
  nextChannel : n.nextChannel = m.nextChannel
  tasks : n.tasks = m.tasks
  nextTask : n.nextTask = m.nextTask

def Knows (m : Manager) (id : Nat) : Prop := id < m.nextTask ∨ m.work? id ≠ none

/-- One small change, and what is known of it outside. Devices are registered only where there are
arrivals. -/
inductive Change : (arrivals : Bool) → Manager → List Output → Manager → Prop where
  | aside {b : Bool} {m n : Manager} (_ : m.Aside n) : Change b m [] n
  | told {b : Bool} {m : Manager} (output : Output) (_ : output.isNotice = false) :
    Change b m [output] m
  | numbered {b : Bool} {m : Manager} : Change b m [] m.takeNumber.1
  | dropped {b : Bool} {m : Manager} (id : Nat) : Change b m [] (m.dropTask id)
  | worked {b : Bool} {m : Manager} (id : Nat) (work : Work) (_ : m.Knows id)
      (_ : work.connects = false) :
    Change b m [] (m.setTask id work)
  /-- A connect begins with a device of the registry. -/
  | begun {b : Bool} {m : Manager} (id : Nat) (connect : Connect) {device : RegisteredDevice}
      (outcome : Option (Except JobFault Unit)) (_ : m.Knows id)
      (_ : m.registry.find? connect.key = some device) :
    Change b m [] (m.setTask id (.installing connect device outcome))
  /-- The driver of a connect is there, or its token is cancelled before that. -/
  | installed {b : Bool} {m : Manager} (id : Nat) {connect : Connect} (other : Connect)
      {device : RegisteredDevice} {outcome : Option (Except JobFault Unit)}
      (next : Option (Except JobFault Unit))
      (_ : m.work? id = some (.installing connect device outcome))
      (_ : outcome = none ∨ next = outcome) :
    Change b m [] (m.setTask id (.installing other device next))
  /-- The device of a connect whose driver is there is bound to the first free channel. -/
  | bound {b : Bool} {m : Manager} (call : Nat) {connect : Connect} {device : RegisteredDevice}
      {channel : Channel} (entry : Entry) (stopped : Bool)
      (_ : m.work? call = some (.installing connect device (some (.ok ()))))
      (_ : m.isConnected device.key = false) (_ : m.channels.find? Channel.isFree = some channel) :
    Change b m [] ((m.setTask call (.connecting connect device channel.id)).setChannel
      (channel.connect call device entry stopped).1)
  | moved {b : Bool} {m : Manager} {channel : Channel} (now : Nat) (move : Channel.Move)
      (_ : channel ∈ m.channels ++ m.retired) (_ : move.connects = false) :
    Change b m [] (m.setChannel (channel.step now move).1)
  | added {b : Bool} {m : Manager} (transport : Transport) (host : Option Host)
      (_ : host.bind (·.handle) = none) :
    Change b m [] { m with
      nextChannel := m.nextChannel + 1
      channels := m.channels ++ [{
        Channel.new m.nextChannel transport m.settings.compressionThreshold with
        host, hasFactory := host.isSome }] }
  /-- The number of a channel for which no host can be made is used up. -/
  | skipped {b : Bool} {m : Manager} : Change b m [] { m with nextChannel := m.nextChannel + 1 }
  | removed {b : Bool} {m : Manager} {id : Nat} {channel : Channel} (_ : m.channel? id = some channel) :
    Change b m [] { m with
      channels := m.channels.filter (·.id != id), retired := m.retired ++ [channel] }
  | registered {m : Manager} {info : DeviceInfo} (arrival : Arrival) {key : DeviceKey}
      (_ : (m.registry.add info arrival).2 = .added key) :
    Change true m [.notified (.added ⟨key, info, arrival⟩)]
      { m with registry := (m.registry.add info arrival).1 }

inductive Changes (b : Bool) : Manager → List Output → Manager → Prop where
  | refl (m : Manager) : Changes b m [] m
  | head {m n p : Manager} {outputs more : List Output} (_ : Change b m outputs n)
      (_ : Changes b n more p) : Changes b m (outputs ++ more) p

variable {b : Bool} {m n p : Manager} {outputs more : List Output}

theorem Change.changes (h : Change b m outputs n) : Changes b m outputs n := by
  have := Changes.head h (.refl n)
  rwa [List.append_nil] at this

theorem Changes.trans (h : Changes b m outputs n) (h' : Changes b n more p) :
    Changes b m (outputs ++ more) p := by
  induction h with
  | refl => exact h'
  | head c _ ih =>
    rw [List.append_assoc]
    exact .head c (ih h')

@[simp] theorem setTask_registry (m : Manager) (id : Nat) (work : Work) :
    (m.setTask id work).registry = m.registry := by
  unfold setTask
  split <;> rfl

@[simp] theorem setTask_channels (m : Manager) (id : Nat) (work : Work) :
    (m.setTask id work).channels = m.channels := by
  unfold setTask
  split <;> rfl

@[simp] theorem setTask_retired (m : Manager) (id : Nat) (work : Work) :
    (m.setTask id work).retired = m.retired := by
  unfold setTask
  split <;> rfl

@[simp] theorem setTask_nextChannel (m : Manager) (id : Nat) (work : Work) :
    (m.setTask id work).nextChannel = m.nextChannel := by
  unfold setTask
  split <;> rfl

@[simp] theorem setTask_nextTask (m : Manager) (id : Nat) (work : Work) :
    (m.setTask id work).nextTask = m.nextTask := by
  unfold setTask
  split <;> rfl

@[simp] theorem setTask_settings (m : Manager) (id : Nat) (work : Work) :
    (m.setTask id work).settings = m.settings := by
  unfold setTask
  split <;> rfl

@[simp] theorem setTask_stopped (m : Manager) (id : Nat) (work : Work) :
    (m.setTask id work).stopped = m.stopped := by
  unfold setTask
  split <;> rfl

theorem id_of_task? {id : Nat} {t : Task} (h : m.task? id = some t) : t.id = id := by
  simpa using List.find?_some h

theorem work?_setTask (m : Manager) (id : Nat) (work : Work) (other : Nat) :
    (m.setTask id work).work? other = if other = id then some work else m.work? other := by
  unfold setTask work?
  split
  · rename_i hsome
    have hid : ∀ t : Task, (if t.id = id then { t with work } else t).id = t.id := by
      intro t
      split <;> rfl
    simp only [task?, List.find?_map, Function.comp_def, hid, Option.map_map]
    by_cases h : other = id
    · subst h
      obtain ⟨t, ht⟩ := Option.isSome_iff_exists.mp hsome
      have htid : t.id = other := id_of_task? ht
      rw [task?] at ht
      simp [ht, htid]
    · rw [if_neg h]
      cases ht : m.tasks.find? (·.id == other) with
      | none => rfl
      | some t =>
        have htid : t.id = other := id_of_task? ht
        simp [htid, h]
  · rename_i hnone
    simp only [task?, List.find?_append, List.find?_singleton]
    by_cases h : other = id
    · subst h
      have : m.tasks.find? (·.id == other) = none := by simpa [task?] using hnone
      simp [this]
    · have hne : ¬id = other := fun e => h e.symm
      simp [h, hne]

theorem work?_setTask_self (m : Manager) (id : Nat) (work : Work) :
    (m.setTask id work).work? id = some work := by
  rw [work?_setTask, if_pos rfl]

/-- Numbers of tasks are never given out again. -/
theorem Change.nextTask_le (h : Change b m outputs n) : m.nextTask ≤ n.nextTask := by
  cases h with
  | aside h => exact Nat.le_of_eq h.nextTask.symm
  | numbered => exact Nat.le_succ _
  | worked | begun | installed => exact Nat.le_of_eq (setTask_nextTask ..).symm
  | bound => exact Nat.le_of_eq (setTask_nextTask ..).symm
  | told | dropped | moved | added | skipped | removed | registered => exact Nat.le_refl _

theorem Changes.nextTask_le (h : Changes b m outputs n) : m.nextTask ≤ n.nextTask := by
  induction h with
  | refl => exact Nat.le_refl _
  | head c _ ih => exact Nat.le_trans c.nextTask_le ih

/-- Without arrivals the registry stays. -/
theorem Change.registry (h : Change false m outputs n) : n.registry = m.registry := by
  cases h with
  | aside h => exact h.registry
  | worked | begun | installed => exact setTask_registry ..
  | bound => exact setTask_registry ..
  | told | numbered | dropped | moved | added | skipped | removed => rfl

theorem Changes.registry (h : Changes false m outputs n) : n.registry = m.registry := by
  induction h with
  | refl => rfl
  | head c _ ih => exact ih.trans c.registry

/-- What observers are told of the registry is that devices were registered. -/
theorem Change.notice (h : Change b m outputs n) :
    ∀ output ∈ outputs, output.isNotice = true → ∃ device, output = .notified (.added device) := by
  intro output ho hn
  cases h with
  | told _ hf =>
    rw [List.mem_singleton.mp ho, hf] at hn
    cases hn
  | registered => exact ⟨_, List.mem_singleton.mp ho⟩
  | _ => cases ho

theorem Changes.notice (h : Changes b m outputs n) :
    ∀ output ∈ outputs, output.isNotice = true → ∃ device, output = .notified (.added device) := by
  induction h with
  | refl => exact fun _ ho => absurd ho List.not_mem_nil
  | head c _ ih =>
    intro output ho
    rcases List.mem_append.mp ho with ho | ho
    · exact c.notice output ho
    · exact ih output ho

/-! ## Steps that are rows of changes -/

/-- A step that first looks at the manager goes on with what it sees. -/
theorem perform_manager {α : Type} (next : Manager → Act α) (m : Manager) :
    (Act.manager >>= next).perform m = (next m).perform m := rfl

/-- A step that first changes the manager goes on with the changed one. -/
theorem perform_change {α : Type} (f : Manager → Manager) (next : Unit → Act α) (m : Manager) :
    (Act.change f >>= next).perform m = (next ()).perform (f m) := rfl

def Goes {α : Type} (b : Bool) (act : Act α) (m : Manager) : Prop :=
  Changes b m (act.perform m).2.2 (act.perform m).2.1

section

variable {α β : Type}

theorem Goes.pure (a : α) : Goes b (Pure.pure a : Act α) m := .refl m

theorem Goes.bind {act : Act α} {next : α → Act β} (h : Goes b act m)
    (h' : Goes b (next (act.perform m).1) (act.perform m).2.1) : Goes b (act >>= next) m :=
  Changes.trans h h'

theorem Goes.manager {next : Manager → Act β} (h : Goes b (next m) m) :
    Goes b (Act.manager >>= next) m := h

theorem Goes.change {f : Manager → Manager} (h : Change b m [] (f m)) : Goes b (Act.change f) m :=
  h.changes

theorem Goes.aside {f : Manager → Manager} (h : m.Aside (f m)) : Goes b (Act.change f) m :=
  .change (.aside h)

theorem Goes.emit {output : Output} (h : output.isNotice = false) : Goes b (Act.emit output) m :=
  (Change.told output h).changes

theorem Goes.ite {c : Prop} [Decidable c] {act other : Act α} (h : Goes b act m)
    (h' : Goes b other m) : Goes b (if c then act else other) m := by
  split
  · exact h
  · exact h'

theorem Goes.each {act : α → Act Unit} (h : ∀ a m, Goes b (act a) m) (as : List α) :
    Goes b (Act.each act as) m := by
  induction as generalizing m with
  | nil => exact .pure ()
  | cons a as ih => exact .bind (h a m) ih

/-- A number that was given out before a step was given out after it. -/
theorem Goes.lt_nextTask {act : Act α} (h : Goes b act m) {id : Nat} (hid : id < m.nextTask) :
    id < (act.perform m).2.1.nextTask := Nat.lt_of_lt_of_le hid (Changes.nextTask_le h)

end

end Manager
end RemoteUsb
