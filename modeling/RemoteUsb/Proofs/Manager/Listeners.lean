import Mathlib.Data.List.Count
import RemoteUsb.Proofs.Manager.Deeds
import RemoteUsb.Proofs.Manager.Unplug

/-! # Who is counted as a listener

A registration for events, every call that connects a device on a channel, and every connected channel
count one listener each. `listeners_iff` says so, with what is easily forgotten: a channel that was removed
while a device was being opened on it can be connected afterwards, and then it is counted, although no
caller can reach it any more. -/

namespace RemoteUsb

def Work.isConnecting : Work → Bool
  | .connecting .. => true
  | _ => false

def Task.isConnecting (t : Task) : Bool := t.work.isConnecting

def Channel.isHolding (c : Channel) : Bool := c.state == .connected

theorem Channel.Steady.isHolding {c d : Channel} (h : c.Steady d) : d.isHolding = c.isHolding := by
  rw [Bool.eq_iff_iff]
  simpa [Channel.isHolding] using h.connected

theorem Channel.Holding.isHolding {c : Channel} {device : RegisteredDevice} {handle : Handle}
    (h : c.Holding device handle) : c.isHolding = true := by simp [Channel.isHolding, h.state]

theorem Channel.isHolding_of_ne {c : Channel} (h : c.state ≠ .connected) : c.isHolding = false := by
  simpa [Channel.isHolding] using h

namespace Manager

/-! ## Counting under keys -/

section

variable {α : Type} (p : α → Bool) (key : α → Nat)

/-- One item takes the place of another one under the same key. -/
theorem countP_replace {l : List α} (hn : (l.map key).Nodup) {x : α} (hx : x ∈ l) (y : α) :
    (l.map fun z => if key z = key x then y else z).countP p + (p x).toNat =
      l.countP p + (p y).toNat := by
  induction l with
  | nil => cases hx
  | cons a l ih =>
    rw [List.map_cons, List.nodup_cons] at hn
    obtain ⟨hout, hrest⟩ := hn
    simp only [List.map_cons, List.countP_cons]
    by_cases hkey : key a = key x
    · have hsame : (l.map fun z => if key z = key x then y else z) = l := by
        refine (List.map_congr_left fun z hz => if_neg fun e => hout ?_).trans (List.map_id l)
        exact hkey ▸ e ▸ List.mem_map_of_mem hz
      obtain rfl : x = a := by
        rcases List.mem_cons.mp hx with rfl | hx
        · rfl
        · exact absurd (hkey ▸ List.mem_map_of_mem hx) hout
      rw [hsame, if_pos rfl]
      cases p x <;> cases p y <;> simp
    · have hin : x ∈ l := by
        rcases List.mem_cons.mp hx with rfl | hx
        · exact absurd rfl hkey
        · exact hx
      have := ih hrest hin
      rw [if_neg hkey]
      omega

/-- One item is taken out. -/
theorem countP_remove {l : List α} (hn : (l.map key).Nodup) {x : α} (hx : x ∈ l) :
    (l.filter (key · != key x)).countP p + (p x).toNat = l.countP p := by
  induction l with
  | nil => cases hx
  | cons a l ih =>
    rw [List.map_cons, List.nodup_cons] at hn
    obtain ⟨hout, hrest⟩ := hn
    by_cases hkey : key a = key x
    · have hsame : l.filter (key · != key x) = l := by
        refine List.filter_eq_self.mpr fun z hz => bne_iff_ne.mpr fun e => hout ?_
        exact hkey ▸ e ▸ List.mem_map_of_mem hz
      obtain rfl : x = a := by
        rcases List.mem_cons.mp hx with rfl | hx
        · rfl
        · exact absurd (hkey ▸ List.mem_map_of_mem hx) hout
      rw [List.filter_cons_of_neg (by simp), hsame, List.countP_cons]
      cases p x <;> simp
    · have hin : x ∈ l := by
        rcases List.mem_cons.mp hx with rfl | hx
        · exact absurd rfl hkey
        · exact hx
      have := ih hrest hin
      rw [List.filter_cons_of_pos (by simpa using hkey), List.countP_cons, List.countP_cons]
      omega

end

def connecting (m : Manager) : Nat := m.tasks.countP Task.isConnecting

/-- How many channels are connected, those that were removed included. -/
def holding (m : Manager) : Nat := (m.channels ++ m.retired).countP Channel.isHolding

variable {drivers : Bool} {allowed : Kind → Prop} {kind : Kind} {m n : Manager} {outputs : List Output}
  {id : Nat}

/-- What is counted over the tasks when one is taken out. -/
theorem countP_dropTask (h : TasksSound m.tasks m.nextTask) (p : Work → Bool) (id : Nat) :
    (m.dropTask id).tasks.countP (p ·.work) + ((m.work? id).any p).toNat =
      m.tasks.countP (p ·.work) := by
  unfold work? dropTask
  cases ht : m.task? id with
  | none =>
    have hsame : m.tasks.filter (·.id != id) = m.tasks := by
      refine List.filter_eq_self.mpr fun t hin => bne_iff_ne.mpr fun e => ?_
      simpa [e] using List.find?_eq_none.mp ht t hin
    rw [hsame]
    rfl
  | some t =>
    obtain rfl : t.id = id := id_of_task? ht
    exact countP_remove (p ·.work) (·.id) h.ids (List.mem_of_find?_eq_some ht)

/-- What is counted over the tasks when one gets something else to do, or comes. -/
theorem countP_setTask (h : TasksSound m.tasks m.nextTask) (p : Work → Bool) (id : Nat) (work : Work) :
    (m.setTask id work).tasks.countP (p ·.work) + ((m.work? id).any p).toNat =
      m.tasks.countP (p ·.work) + (p work).toNat := by
  unfold setTask work?
  cases ht : m.task? id with
  | none =>
    change (m.tasks ++ [(⟨id, work⟩ : Task)]).countP (p ·.work) + 0 = _
    rw [List.countP_append, List.countP_singleton]
    cases p work <;> rfl
  | some t =>
    obtain rfl : t.id = id := id_of_task? ht
    have hreplace := countP_replace (p ·.work) (·.id) h.ids (List.mem_of_find?_eq_some ht) ⟨t.id, work⟩
    have hmap : (m.tasks.map fun z => if z.id = t.id then { z with work } else z) =
        m.tasks.map fun z => if z.id = t.id then ⟨t.id, work⟩ else z := by
      refine List.map_congr_left fun z _ => ?_
      by_cases hz : z.id = t.id
      · rw [if_pos hz, if_pos hz, ← hz]
      · rw [if_neg hz, if_neg hz]
    rw [if_pos (by rfl), hmap]
    exact hreplace

theorem connecting_dropTask (h : TasksSound m.tasks m.nextTask) (id : Nat) :
    (m.dropTask id).connecting + ((m.work? id).any Work.isConnecting).toNat = m.connecting :=
  countP_dropTask h Work.isConnecting id

theorem connecting_setTask (h : TasksSound m.tasks m.nextTask) (id : Nat) (work : Work) :
    (m.setTask id work).connecting + ((m.work? id).any Work.isConnecting).toNat =
      m.connecting + work.isConnecting.toNat :=
  countP_setTask h Work.isConnecting id work

theorem holding_setChannel (h : m.Sound) {c d : Channel} (hc : c ∈ m.channels ++ m.retired)
    (hid : d.id = c.id) :
    (m.setChannel d).holding + c.isHolding.toNat = m.holding + d.isHolding.toNat := by
  have hput : put d = fun z => if z.id = c.id then d else z := by
    funext z
    rw [put, hid]
  have hlists : (m.setChannel d).holding = ((m.channels ++ m.retired).map (put d)).countP
      Channel.isHolding := by
    rw [List.map_append]
    rfl
  rw [hlists, hput]
  exact countP_replace Channel.isHolding (·.id) h.channels.ids hc d

@[simp] theorem setTask_initialized (m : Manager) (id : Nat) (work : Work) :
    (m.setTask id work).initialized = m.initialized := by
  unfold setTask
  split <;> rfl

@[simp] theorem setTask_registration (m : Manager) (id : Nat) (work : Work) :
    (m.setTask id work).registration = m.registration := by
  unfold setTask
  split <;> rfl

/-- Neither before nor after such a step does the task connect a device on a channel. -/
theorem Advance.connecting {old new : Option Work} (h : m.Advance drivers id kind old new outputs) :
    old.any Work.isConnecting = false ∧ new.any Work.isConnecting = false := by
  have hnot : ∀ work : Option Work,
      (∀ connect device channel, work ≠ some (.connecting connect device channel)) →
        work.any Work.isConnecting = false := by
    intro work hw
    cases work with
    | none => rfl
    | some work =>
      cases work with
      | connecting connect device channel => exact absurd rfl (hw connect device channel)
      | _ => rfl
  exact ⟨hnot old h.apart.1, hnot new h.apart.2⟩

/-! ## The registration -/

/-- What a deed has to do with the registration for events and with the task that asks for it. -/
inductive Registering (m n : Manager) : Kind → Prop where
  | aside {kind : Kind} (_ : n.initialized = m.initialized) (_ : n.registration = m.registration)
      (_ : ∀ id outcome, n.work? id = some (.enumerating outcome) →
        m.work? id = some (.enumerating outcome)) : Registering m n kind
  | begun (id : Nat) (_ : m.initialized = false) (_ : n.initialized = true)
      (_ : n.registration = m.registration)
      (_ : ∀ other, n.work? other = if other = id then some (.enumerating none) else m.work? other) :
    Registering m n .beginning
  | found (id : Nat) (outcome : Except JobFault (List DeviceInfo)) (_ : n.initialized = m.initialized)
      (_ : n.registration = m.registration) (_ : m.work? id = some (.enumerating none))
      (_ : ∀ other, n.work? other =
        if other = id then some (.enumerating (some outcome)) else m.work? other) :
    Registering m n (.finding id outcome)
  | subscribed {kind : Kind} (id : Nat) {devices : List DeviceInfo} (_ : n.initialized = m.initialized)
      (_ : n.registration = true) (_ : m.work? id = some (.enumerating (some (.ok devices))))
      (_ : ∀ other, n.work? other = if other = id then none else m.work? other) : Registering m n kind
  | unsubscribed (_ : n.initialized = m.initialized) (_ : n.registration = false)
      (_ : ∀ id, n.work? id = m.work? id) : Registering m n .leaving

/-- A task gets something else to do than to ask for the registration, or nothing. -/
theorem Registering.put {task : Nat} {work : Option Work} (hi : n.initialized = m.initialized)
    (hr : n.registration = m.registration)
    (hn : ∀ id, n.work? id = if id = task then work else m.work? id)
    (hwork : ∀ outcome, work ≠ some (.enumerating outcome)) : Registering m n kind := by
  refine .aside hi hr fun id outcome hw => ?_
  rw [hn] at hw
  split at hw
  · exact absurd hw (hwork outcome)
  · exact hw

theorem Deed.registering (h : Deed drivers kind m outputs n) : Registering m n kind := by
  have same : ∀ {p : Manager}, p.tasks = m.tasks → ∀ id outcome,
      p.work? id = some (.enumerating outcome) → m.work? id = some (.enumerating outcome) :=
    fun ht id outcome hw => work?_of_tasks ht id ▸ hw
  cases h with
  | still e => exact .aside e.initialized e.registration (same e.tasks)
  | told | moved | barred | released | added | skipped | removed | registered | departed =>
    exact .aside rfl rfl (same rfl)
  | @task _ _ task work _ h =>
    have hbooks : (m.putTask task work).initialized = m.initialized ∧
        (m.putTask task work).registration = m.registration := by
      cases work with
      | none => exact ⟨rfl, rfl⟩
      | some work => exact ⟨setTask_initialized m task work, setTask_registration m task work⟩
    have hput := work?_putTask m task work
    generalize hold : m.work? task = old at h
    cases h with
    | enumerated outcome => exact .found task outcome hbooks.1 hbooks.2 hold hput
    | _ => exact .put hbooks.1 hbooks.2 hput nofun
  | spawned info => exact .put (setTask_initialized ..) (setTask_registration ..) (work?_spawn m _) nofun
  | bound call entry stopped hw =>
    exact .put (setTask_initialized ..) (setTask_registration ..) (work?_setTask m.startListening call _) nofun
  | connected | failed => exact .put rfl rfl (work?_dropTask m _) nofun
  | begun id hlt hnone hinit =>
    exact .begun id hinit rfl (setTask_registration ..) (work?_setTask m id _)
  | subscribed id hw => exact .subscribed id rfl rfl hw (work?_dropTask m id)
  | unsubscribed hreg => exact .unsubscribed rfl rfl fun _ => rfl

/-- At most one task registers for events, and there is no registration before it ends. -/
structure Registers (m : Manager) : Prop where
  unbegun : m.initialized = false →
    m.registration = false ∧ ∀ id outcome, m.work? id ≠ some (.enumerating outcome)
  single : ∀ id other outcome result, m.work? id = some (.enumerating outcome) →
    m.work? other = some (.enumerating result) → id = other
  early : ∀ id outcome, m.work? id = some (.enumerating outcome) → m.registration = false

theorem Registers.keep (h : m.Registers) (hi : n.initialized = m.initialized)
    (hr : n.registration = m.registration)
    (he : ∀ id outcome, n.work? id = some (.enumerating outcome) →
      ∃ result, m.work? id = some (.enumerating result)) : n.Registers where
  unbegun hn := by
    obtain ⟨hreg, hnone⟩ := h.unbegun (hi ▸ hn)
    refine ⟨hr.trans hreg, fun id outcome hw => ?_⟩
    obtain ⟨result, hw⟩ := he id outcome hw
    exact hnone id result hw
  single id other outcome result hw hw' := by
    obtain ⟨_, hw⟩ := he id outcome hw
    obtain ⟨_, hw'⟩ := he other result hw'
    exact h.single id other _ _ hw hw'
  early id outcome hw := by
    obtain ⟨_, hw⟩ := he id outcome hw
    exact hr.trans (h.early id _ hw)

theorem Deed.registers (h : Deed drivers kind m outputs n) (hr : m.Registers) :
    n.Registers := by
  cases h.registering with
  | aside hi hreg he => exact hr.keep hi hreg fun id outcome hw => ⟨outcome, he id outcome hw⟩
  | found id outcome hi hreg hw hn =>
    refine hr.keep hi hreg fun other result hother => ?_
    rw [hn] at hother
    split at hother
    · exact ⟨none, ‹other = id› ▸ hw⟩
    · exact ⟨result, hother⟩
  | begun id hinit hi hreg hn =>
    obtain ⟨hfalse, hnobody⟩ := hr.unbegun hinit
    have hwork : ∀ other outcome, n.work? other = some (.enumerating outcome) → other = id := by
      intro other outcome hw
      rw [hn] at hw
      split at hw
      · assumption
      · exact absurd hw (hnobody other outcome)
    refine ⟨fun h => absurd (hi.symm.trans h) nofun, fun one other outcome result hw hw' => ?_, fun _ _ _ => ?_⟩
    · exact (hwork one outcome hw).trans (hwork other result hw').symm
    · exact hreg.trans hfalse
  | subscribed id hi hreg hw hn =>
    have hnobody : ∀ other outcome, n.work? other ≠ some (.enumerating outcome) := by
      intro other outcome hother
      rw [hn] at hother
      split at hother
      · cases hother
      · rename_i hne
        exact hne (hr.single other id _ _ hother hw)
    refine ⟨fun hinit => ?_, fun one _ outcome _ hone => ?_, fun one outcome hone => ?_⟩
    · exact absurd hw ((hr.unbegun (hi ▸ hinit)).2 id _)
    · exact absurd hone (hnobody one outcome)
    · exact absurd hone (hnobody one outcome)
  | unsubscribed hi hreg hn =>
    refine ⟨fun hinit => ⟨hreg, fun id => hn id ▸ (hr.unbegun (hi ▸ hinit)).2 id⟩, ?_, fun _ _ _ => hreg⟩
    intro one other outcome result hone hother
    exact hr.single one other outcome result (hn one ▸ hone) (hn other ▸ hother)

/-! ## Listeners -/

theorem listeners_start (l : Listening) : l.start.listeners = l.listeners + 1 := by
  unfold Listening.start
  split
  · rename_i h
    rw [h]
  · rfl

theorem listeners_stop (l : Listening) : l.stop.listeners = l.listeners - 1 := by
  unfold Listening.stop
  split
  · rename_i h
    rw [h]
  · rename_i h
    rw [h]
  · rename_i k h
    rw [h]
    rfl

/-- The registration, the calls on channels and the connected channels count one listener each. -/
def Counted (m : Manager) : Prop :=
  m.listening.listeners = m.registration.toNat + m.connecting + m.holding

theorem holding_setTask (m : Manager) (id : Nat) (work : Work) :
    (m.setTask id work).holding = m.holding := by
  rw [holding, setTask_channels, setTask_retired]
  rfl

/-- A task that connects no device on a channel, before and after, does not matter. -/
theorem Counted.setTask (h : m.Counted) (hm : TasksSound m.tasks m.nextTask) {id : Nat} {work : Work}
    (hold : (m.work? id).any Work.isConnecting = false) (hnew : work.isConnecting = false) :
    (m.setTask id work).Counted := by
  have hcount := connecting_setTask hm id work
  rw [hold, hnew, Bool.toNat_false, Nat.add_zero, Nat.add_zero] at hcount
  rw [Counted, setTask_listening, setTask_registration, holding_setTask, hcount]
  exact h

theorem Counted.dropTask (h : m.Counted) (hm : TasksSound m.tasks m.nextTask) {id : Nat}
    (hold : (m.work? id).any Work.isConnecting = false) : (m.dropTask id).Counted := by
  have hcount := connecting_dropTask hm id
  rw [hold, Bool.toNat_false, Nat.add_zero] at hcount
  change m.listening.listeners = m.registration.toNat + (m.dropTask id).connecting + m.holding
  rw [hcount]
  exact h

/-- A channel that is connected before and after, or neither, does not matter. -/
theorem Counted.setChannel (h : m.Counted) (hm : m.Sound) {c d : Channel}
    (hc : c ∈ m.channels ++ m.retired) (hid : d.id = c.id) (hsame : d.isHolding = c.isHolding) :
    (m.setChannel d).Counted := by
  have hcount := holding_setChannel hm hc hid
  rw [hsame] at hcount
  change m.listening.listeners = m.registration.toNat + m.connecting + (m.setChannel d).holding
  rw [Nat.add_right_cancel hcount]
  exact h

/-- A connected device is counted. -/
theorem Counted.pos (h : m.Counted) {c : Channel} (hc : c ∈ m.channels ++ m.retired)
    (hstate : c.state = .connected) : 0 < m.listening.listeners := by
  have hholding : 0 < m.holding :=
    List.countP_pos_iff.mpr ⟨c, hc, by rw [Channel.isHolding, hstate]; rfl⟩
  have hcount : m.listening.listeners = m.registration.toNat + m.connecting + m.holding := h
  omega

theorem Deed.counted (h : Deed drivers kind m outputs n) (hm : m.Sound) (hr : m.Registers)
    (hc : m.Counted) : n.Counted := by
  have hcount : m.listening.listeners = m.registration.toNat + m.connecting + m.holding := hc
  cases h with
  | still e =>
    rw [Counted, e.listeners, e.registration, connecting, e.tasks, holding, e.channels, e.retired]
    exact hc
  | told | skipped | registered | departed => exact hc
  | @task _ _ id work _ h =>
    cases work with
    | none => exact hc.dropTask hm.tasks h.connecting.1
    | some work => exact hc.setTask hm.tasks h.connecting.1 h.connecting.2
  | spawned info =>
    have hnumber : m.takeNumber.1.Counted := hc
    refine hnumber.setTask hm.tasks.later ?_ rfl
    rw [show m.takeNumber.1.work? m.nextTask = none from hm.tasks.work?_none (Nat.le_refl _)]
    rfl
  | begun id hlt hnone =>
    have hset : (m.setTask id (.enumerating none)).Counted :=
      hc.setTask hm.tasks (by rw [hnone]; rfl) rfl
    exact hset
  | @subscribed _ id devices hw =>
    have hdrop : (m.dropTask id).Counted := hc.dropTask hm.tasks (by rw [hw]; rfl)
    have hreg : m.registration = false := hr.early id _ hw
    have hbefore : m.listening.listeners = m.registration.toNat + (m.dropTask id).connecting + m.holding :=
      hdrop
    change m.listening.start.listeners = true.toNat + (m.dropTask id).connecting + m.holding
    rw [listeners_start, hbefore, hreg, Bool.toNat_false, Bool.toNat_true]
    omega
  | unsubscribed hreg =>
    change m.listening.stop.listeners = false.toNat + m.connecting + m.holding
    rw [listeners_stop, hcount, hreg, Bool.toNat_false, Bool.toNat_true]
    omega
  | @bound _ call connect device c a entry stopped hw hfree hfind hp =>
    have hin : c ∈ m.channels := List.mem_of_find?_eq_some hfind
    have hidle := (hm.channels.sound c (List.mem_append_left _ hin)).idle_of_isFree
      (List.find?_some hfind)
    let set := m.startListening.setTask call (.connecting connect device c.id)
    have hset : set.Sound := by
      have hstart : m.startListening.Sound := ⟨hm.registry, hm.channels, hm.tasks⟩
      exact hstart.set (knows_of_work? hw) _
    have htask : set.connecting = m.connecting + 1 := by
      have := connecting_setTask (m := m.startListening) hm.tasks call (.connecting connect device c.id)
      rw [show m.startListening.work? call = some _ from hw] at this
      exact this
    have hchannel : (set.setChannel (c.connect call device entry stopped).1).holding = m.holding := by
      have hset' : c ∈ set.channels ++ set.retired := by
        rw [setTask_channels, setTask_retired]
        exact List.mem_append_left _ hin
      have := holding_setChannel hset hset' (Channel.connect_id c call device entry stopped)
      rw [Channel.isHolding_of_ne hidle.not_connected, Channel.isHolding_of_ne hp.not_connected,
        holding_setTask] at this
      exact this
    change set.listening.listeners = set.registration.toNat + set.connecting +
      (set.setChannel (c.connect call device entry stopped).1).holding
    rw [htask, hchannel, setTask_listening, setTask_registration]
    change m.listening.start.listeners = m.registration.toNat + (m.connecting + 1) + m.holding
    rw [listeners_start, hcount]
    omega
  | barred call entry stopped hfree hfind hidle hd =>
    exact hc.setChannel hm (List.mem_append_left _ (List.mem_of_find?_eq_some hfind))
      (Channel.connect_id ..)
      ((Channel.isHolding_of_ne hd.not_connected).trans (Channel.isHolding_of_ne hidle.not_connected).symm)
  | moved now move hin hmove _ hsteady => exact hc.setChannel hm hin hsteady.id hsteady.isHolding
  | @connected _ _ c now move a handle connect hin hmove hp hh hold hw =>
    have hid := Channel.step_id (hm.channels.sound c hin) now move
    have hchannel := holding_setChannel hm hin hid
    have htask := connecting_dropTask hm.tasks a.call
    rw [Channel.isHolding_of_ne hp.not_connected, hold.isHolding] at hchannel
    rw [hw] at htask
    change m.listening.listeners = m.registration.toNat + (m.dropTask a.call).connecting +
      (m.setChannel (c.step now move).1).holding
    simp only [Option.any_some, Work.isConnecting, Bool.toNat_true, Bool.toNat_false] at hchannel htask
    omega
  | @failed _ _ c now move a connect hin hmove hp hidle hw =>
    have hid := Channel.step_id (hm.channels.sound c hin) now move
    have hchannel := holding_setChannel hm hin hid
    have htask := connecting_dropTask hm.tasks a.call
    rw [Channel.isHolding_of_ne hp.not_connected, Channel.isHolding_of_ne hidle.not_connected] at hchannel
    rw [hw] at htask
    change m.listening.stop.listeners = m.registration.toNat + (m.dropTask a.call).connecting +
      (m.setChannel (c.step now move).1).holding
    rw [listeners_stop]
    simp only [Option.any_some, Work.isConnecting, Bool.toNat_true, Bool.toNat_false] at hchannel htask
    omega
  | @released _ _ c now move device handle _ hin hmove hold hidle =>
    have hid := Channel.step_id (hm.channels.sound c (List.mem_append_left _ hin)) now move
    have hchannel := holding_setChannel hm (List.mem_append_left _ hin) hid
    rw [hold.isHolding, Channel.isHolding_of_ne hidle.not_connected] at hchannel
    change m.listening.stop.listeners = m.registration.toNat + m.connecting +
      (m.setChannel (c.step now move).1).holding
    rw [listeners_stop]
    simp only [Bool.toNat_true, Bool.toNat_false] at hchannel
    omega
  | added transport host hh =>
    rw [Counted, hcount]
    simp [holding, connecting, Channel.isHolding, Channel.new, List.countP_append]
  | @removed _ c hin hstate =>
    have hs := hm.channels.sound c (List.mem_append_left _ hin)
    have hset := countP_remove Channel.isHolding (·.id)
      (hm.channels.ids.sublist ((List.sublist_append_left ..).map _)) hin
    have hd := Channel.isHolding_of_ne c.disconnect_not_connected
    rw [Channel.isHolding_of_ne hstate, Bool.toNat_false, Nat.add_zero] at hset
    have hholding : ∀ l, (l ++ (m.retired ++ [c.disconnect.1])).countP Channel.isHolding =
        l.countP Channel.isHolding + m.retired.countP Channel.isHolding := by
      intro l
      simp [List.countP_append, hd]
    rw [Counted, hcount]
    change _ = m.registration.toNat + m.connecting +
      (m.channels.filter (·.id != c.id) ++ (m.retired ++ [c.disconnect.1])).countP Channel.isHolding
    rw [hholding, hset, holding, List.countP_append]

theorem run_counted (hm : m.Matched) (hr : m.Registers) (hc : m.Counted) (drivers : Bool)
    (turns : List Turn) : (m.run drivers turns).Counted := by
  have hboth := run_keeps (P := fun n => n.Registers ∧ n.Counted) hm drivers
    (fun d hm h => ⟨d.registers h.1, d.counted hm.sound h.1 h.2⟩) ⟨hr, hc⟩ turns
  exact hboth.2

theorem new_registers (addressing : Addressing) (settings : Settings) :
    (new addressing settings).Registers where
  unbegun _ := ⟨rfl, nofun⟩
  single _ _ _ _ h := by cases h
  early _ _ h := by cases h

/-- Whatever a manager goes through, the registration, the connected channels of the set, the calls that
connect a device on a channel, and the connected channels that were removed count one listener each. So
without the last ones the account is right exactly as long as no removed channel is connected. -/
theorem listeners_iff (addressing : Addressing) (settings : Settings) (drivers : Bool)
    (turns : List Turn) :
    let m := (new addressing settings).run drivers turns
    let reachable := m.registration.toNat + m.channels.countP Channel.isHolding + m.connecting
    m.listening.listeners = reachable + m.retired.countP Channel.isHolding ∧
      (m.listening.listeners = reachable ↔ ∀ c ∈ m.retired, c.state ≠ .connected) := by
  have hcounted := run_counted (new_matched addressing settings) (new_registers addressing settings)
    (m := new addressing settings) rfl drivers turns
  intro m reachable
  have hall : m.listening.listeners = reachable + m.retired.countP Channel.isHolding := by
    have hcount : m.listening.listeners = m.registration.toNat + m.connecting + m.holding := hcounted
    rw [hcount, holding, List.countP_append]
    omega
  have hnone : m.retired.countP Channel.isHolding = 0 ↔ ∀ c ∈ m.retired, c.state ≠ .connected := by
    simp [List.countP_eq_zero, Channel.isHolding]
  refine ⟨hall, ?_⟩
  rw [hall, ← hnone]
  omega

/-- A channel is removed while a device is opened on it, and is connected then. -/
theorem removed_is_counted :
    let m := (new .busAddress { autoConnect := false }).run false
      (stickOpening ++ { move := .removeChannel 1 } :: stickOpened)
    m.listening.listeners = 1 ∧
      m.registration.toNat + m.channels.countP Channel.isHolding + m.connecting = 0 := by
  decide +kernel

end Manager
end RemoteUsb
