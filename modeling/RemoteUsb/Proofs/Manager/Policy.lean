import RemoteUsb.Proofs.Manager.Origins

/-! # What the policy for devices that come connects

The policy judges a device when it comes, but the connect that it starts finds its device by the key, later.
So a connect that has not begun when its device leaves takes whatever device comes next under the key.
`bound_wanted_iff` says that this is the only way in which a device is bound that the policy did not want:
when the device came, a connect of its key was waiting; and that each time this happens, the device may be
bound. `excluded_is_redirected` shows a device that the filter does not match and that is connected. -/

namespace RemoteUsb.Manager

variable {drivers : Bool} {m n : Manager} {w : Surroundings} {device : RegisteredDevice} {key : DeviceKey}
  {id : Nat}

def Awaits (m : Manager) (key : DeviceKey) : Prop :=
  ∃ id connect, m.work? id = some (.idle connect) ∧ connect.key = key

/-- In the turns, nobody asks for a connect but the policy for devices that come. -/
structure Policed (m : Manager) (drivers : Bool) (turns : List Turn) : Prop where
  moves : ∀ t ∈ turns, ∀ key stopped, t.move ≠ .connect key stopped
  settings : m.Along (·.settings.redirectOnConnect = none) drivers turns

/-- While the device stays registered, a connect begins in the turns that has waited under its key, and the
device is bound to a channel in the end. -/
structure Redirects (m : Manager) (drivers : Bool) (device : RegisteredDevice) (turns : List Turn) :
    Prop where
  begins : m.Begins drivers device turns
  bound : ∃ c ∈ (m.run drivers turns).channels ++ (m.run drivers turns).retired, c.device = some device

/-! ## Connects that wait -/

/-- The policy waits for a device that was plugged in only if it wants it. -/
theorem arrived_idles (task : Nat) (info : DeviceInfo) {connect : Connect}
    (hw : ((handleEvent w task (.arrived info)).perform m).2.1.work? id = some (.idle connect)) :
    m.work? id = some (.idle connect) ∨ ∃ device,
      m.Comes ((handleEvent w task (.arrived info)).perform m).2.1 device ∧ m.settings.Wants device ∧
        connect.key = device.key := by
  change (((arrive info .hotplug).perform m).2.1.dropTask task).work? id = _ at hw
  rw [work?_dropTask] at hw
  split at hw
  · cases hw
  have hcomes : ∀ key, (m.registry.add info .hotplug).2 = .added key →
      ((arrive info .hotplug).perform m).2.1.registry = (m.registry.add info .hotplug).1 →
      m.Comes ((handleEvent w task (.arrived info)).perform m).2.1 ⟨key, info, .hotplug⟩ := by
    intro key hadded hregistry
    refine ⟨(Registry.add_added hadded).1, ?_⟩
    change ((arrive info .hotplug).perform m).2.1.registry.find? key = _
    rw [hregistry]
    exact Registry.find?_add hadded
  rcases arrive_after info .hotplug m with he | ⟨key, hadded, he | ⟨hwants, he⟩⟩
  · rw [he] at hw
    exact .inl hw
  · rw [he] at hw
    exact .inl hw
  · have hregistry : ((arrive info .hotplug).perform m).2.1.registry = (m.registry.add info .hotplug).1 := by
      rw [he]
      exact setTask_registry ..
    rw [he, work?_spawn] at hw
    split at hw
    · cases hw
      exact .inr ⟨_, hcomes key hadded hregistry, hwants, rfl⟩
    · exact .inl hw

theorem act_idles (w : Surroundings) (move : Move) (hmove : ∀ key stopped, move ≠ .connect key stopped)
    (hs : m.settings.redirectOnConnect = none) (hcall : move.Allows w m .call) {connect : Connect}
    (hw : ((move.act w).perform m).2.1.work? id = some (.idle connect)) :
    m.work? id = some (.idle connect) ∨ ∃ device, m.Comes ((move.act w).perform m).2.1 device ∧
      m.settings.Wants device ∧ connect.key = device.key := by
  cases move with
  | connect key stopped => exact absurd rfl (hmove key stopped)
  | addChannel => exact absurd hs hcall.1
  | handle event =>
    cases event with
    | arrived info => exact arrived_idles (w := w) (m := m.takeNumber.1) m.nextTask info hw
    | left | dataPending | deviceFailed => exact hcall.elim
  | nextEvent =>
    obtain ⟨info, hevent⟩ : ∃ info, m.queue.take?.2 = some (.arrived info) := hcall
    change ((nextEvent w).perform m).2.1.work? id = _ at hw
    change _ ∨ ∃ device, m.Comes ((nextEvent w).perform m).2.1 device ∧ _
    rw [nextEvent, perform_manager] at hw ⊢
    split at hw
    · rename_i hloop
      rw [if_pos hloop]
      generalize m.queue.take? = taken at hevent hw ⊢
      obtain ⟨queue, event⟩ := taken
      cases hevent
      let next : Manager := { m.takeNumber.1 with queue, loop := .handling m.nextTask }
      exact arrived_idles (w := w) (m := next) m.nextTask info hw
    · exact .inl hw
  | _ => exact hcall.elim

/-- A connect that waits after a turn waited before it, or is the policy's, for a device that has come and
is wanted. -/
theorem turn_idles (hm : m.Matched) {t : Turn} (hmove : ∀ key stopped, t.move ≠ .connect key stopped)
    (hs : m.settings.redirectOnConnect = none) {connect : Connect}
    (hw : (m.turn drivers t).1.work? id = some (.idle connect)) :
    (∃ other, m.work? id = some (.idle other) ∧ other.key = connect.key) ∨
      ∃ device, m.Comes (m.turn drivers t).1 device ∧ m.settings.Wants device ∧
        connect.key = device.key := by
  by_cases hcall : t.move.Allows (t.surroundings drivers) m .call
  · rcases act_idles (t.surroundings drivers) t.move hmove hs hcall hw with hold | hnew
    · exact .inl ⟨connect, hold, rfl⟩
    · exact .inr hnew
  · exact .inl ((turn_deeds hm drivers t).idles hcall hw)

theorem Policed.cons {t : Turn} {turns : List Turn} (h : m.Policed drivers (t :: turns)) :
    (m.turn drivers t).1.Policed drivers turns where
  moves t' ht := h.moves t' (List.mem_cons_of_mem _ ht)
  settings := h.settings.2

theorem Policed.append {first others : List Turn} (h : m.Policed drivers (first ++ others)) :
    m.Policed drivers first ∧ (m.run drivers first).Policed drivers others := by
  induction first generalizing m with
  | nil =>
    refine ⟨⟨fun _ ht => absurd ht List.not_mem_nil, ?_⟩, h⟩
    exact h.settings.now
  | cons t first ih =>
    obtain ⟨hfirst, hothers⟩ := ih h.cons
    refine ⟨⟨fun t' ht => h.moves t' (List.mem_append_left _ ht), ?_⟩, hothers⟩
    exact ⟨h.settings.1, hfirst.settings⟩

/-- While a device stays registered, no connect of its key is new. -/
theorem awaits_before (hm : m.Matched) {turns : List Turn} (h : m.Policed drivers turns)
    (hstays : m.Along (·.registry.find? device.key = some device) drivers turns)
    (hn : (m.run drivers turns).Awaits device.key) : m.Awaits device.key := by
  induction turns generalizing m with
  | nil => exact hn
  | cons t turns ih =>
    obtain ⟨id, connect, hw, hkey⟩ := ih (turn_matched hm drivers t) h.cons hstays.2 hn
    rcases turn_idles hm (h.moves t List.mem_cons_self) h.settings.1 hw with
      ⟨other, hother, hsame⟩ | ⟨other, hcomes, _, hother⟩
    · exact ⟨id, other, hother, hsame.trans hkey⟩
    · have hnone := hcomes.1
      rw [← hother, hkey, hstays.1] at hnone
      cases hnone

/-- A turn in which a device comes that is not wanted neither starts connects of its key nor ends them. -/
theorem Comes.awaits_iff {t : Turn} (h : m.Comes (m.turn drivers t).1 device) (hm : m.Matched)
    (hmove : ∀ key stopped, t.move ≠ .connect key stopped) (hs : m.settings.redirectOnConnect = none)
    (hunwanted : ¬m.settings.Wants device) :
    (m.turn drivers t).1.Awaits device.key ↔ m.Awaits device.key := by
  constructor
  · rintro ⟨id, connect, hw, hkey⟩
    rcases turn_idles hm hmove hs hw with ⟨other, hother, hsame⟩ | ⟨other, hcomes, hwants, hother⟩
    · exact ⟨id, other, hother, hsame.trans hkey⟩
    · have hafter := hcomes.2
      rw [← hother, hkey, h.2] at hafter
      cases hafter
      exact absurd hwants hunwanted
  · rintro ⟨id, connect, hw, hkey⟩
    by_cases harrival : t.move.Allows (t.surroundings drivers) m .arrival
    · exact ⟨id, connect, (act_adds hm (t.surroundings drivers) t.move (.inr harrival)).keeps id connect hw, hkey⟩
    · have hbefore := (turn_deeds hm drivers t).find?_before hm harrival h.2
      cases h.1.symm.trans hbefore

/-! ## Connects that begin -/

/-- The turns in which a connect begins, has its driver installed if drivers are wanted, and binds its
device. -/
def beginning (drivers : Bool) (id : Nat) : List Turn :=
  { move := .begin id } ::
    if drivers then [{ move := .jobDone id (.ok ()) }, { move := .resume id }] else []

theorem beginning_moves {t : Turn} (h : t ∈ beginning drivers id) (key : DeviceKey) (stopped : Bool) :
    t.move ≠ .connect key stopped := by
  cases drivers with
  | false => rcases List.mem_singleton.mp h with rfl; nofun
  | true =>
    simp only [beginning, if_true, List.mem_cons, List.not_mem_nil, or_false] at h
    rcases h with rfl | rfl | rfl <;> nofun

/-- A connect that has its driver connects its device on the only channel, if that is free. -/
theorem bindAndConnect_connects {c : Channel} {host : Host} (hc : m.channels = [c])
    (hfree : c.isFree = true) (hhost : c.host = some host) (hw : w.launch = .ok ()) (id : Nat)
    (connect : Connect) (device : RegisteredDevice) :
    let n := ((bindAndConnect w id connect device).perform m).2.1
    n.settings = m.settings ∧ n.Connects id device c.id := by
  have hnone : m.isConnected device.key = false :=
    isConnected_of_free (fun d hd => List.mem_singleton.mp (hc ▸ hd) ▸ hfree) device.key
  have hfind : m.channels.find? Channel.isFree = some c := by
    rw [hc, List.find?_cons_of_pos hfree]
  rw [bindAndConnect_after hnone hfind hhost hw]
  exact ⟨setTask_settings .., connect, work?_setTask_self ..⟩

variable (drivers) in
theorem beginning_connects {c : Channel} {host : Host} (hc : m.channels = [c]) (hfree : c.isFree = true)
    (hhost : c.host = some host) {connect : Connect} (hw : m.work? id = some (.idle connect))
    (hf : m.registry.find? connect.key = some device) :
    m.Along (·.settings = m.settings) drivers (beginning drivers id) ∧
      (∀ other, (m.turn drivers { move := .begin id }).1.work? id ≠ some (.idle other)) ∧
        (m.run drivers (beginning drivers id)).Connects id device c.id := by
  let t : Turn := { move := .begin id }
  have hbegin : (m.turn drivers t).1 =
      ((beginConnect (t.surroundings drivers) id connect).perform m).2.1 := turn_begin hw drivers
  rw [beginConnect, perform_manager, hf] at hbegin
  cases drivers with
  | false =>
    let set := m.setTask id (.installing connect device (some (.ok ())))
    have hafter : (m.turn false t).1 =
        ((bindAndConnect (t.surroundings false) id connect device).perform set).2.1 := hbegin
    have hset : set.channels = [c] := (setTask_channels ..).trans hc
    obtain ⟨hsettings, hconnects⟩ := bindAndConnect_connects (w := t.surroundings false) hset hfree hhost rfl
      id connect device
    rw [← hafter] at hsettings hconnects
    refine ⟨⟨rfl, hsettings.trans (setTask_settings ..)⟩, fun other he => ?_, hconnects⟩
    obtain ⟨_, hwork⟩ := hconnects
    cases hwork.symm.trans he
  | true =>
    let set := m.setTask id (.installing connect device none)
    let installed := set.setTask id (.installing connect device (some (.ok ())))
    let t' : Turn := { move := .resume id }
    have hset : (m.turn true t).1 = set := hbegin
    have hinstalled : (set.turn true { move := .jobDone id (.ok ()) }).1 = installed :=
      turn_jobDone (work?_setTask_self ..) true
    have hafter : (installed.turn true t').1 =
        ((bindAndConnect (t'.surroundings true) id connect device).perform installed).2.1 :=
      turn_resume (work?_setTask_self ..) true
    have hchannels : installed.channels = [c] :=
      ((setTask_channels ..).trans (setTask_channels ..)).trans hc
    obtain ⟨hsettings, hconnects⟩ := bindAndConnect_connects (w := t'.surroundings true) hchannels hfree
      hhost rfl id connect device
    rw [← hafter] at hsettings hconnects
    have hsame : set.settings = m.settings := setTask_settings ..
    have hsame' : installed.settings = m.settings := (setTask_settings ..).trans hsame
    have hrun : m.run true (beginning true id) = (installed.turn true t').1 := by
      change (((m.turn true t).1.turn true { move := .jobDone id (.ok ()) }).1.turn true t').1 = _
      rw [hset, hinstalled]
    refine ⟨⟨rfl, ?_⟩, fun other he => ?_, hrun ▸ hconnects⟩
    rotate_left
    · rw [hset, work?_setTask_self] at he
      cases he
    change ((m.turn true t).1).Along _ true [{ move := .jobDone id (.ok ()) }, t']
    rw [hset]
    refine ⟨hsame, ?_⟩
    rw [hinstalled]
    exact ⟨hsame', hsettings.trans hsame'⟩

/-- A device is bound that is registered while a connect of its key waits, once there is a channel for it. -/
theorem awaited_redirects (hm : m.Matched) (hs : m.settings.redirectOnConnect = none)
    (hf : m.registry.find? device.key = some device) (h : m.Awaits device.key) (drivers : Bool) :
    ∃ later, m.Policed drivers later ∧ m.Redirects drivers device later := by
  obtain ⟨id, connect, hw, hkey⟩ := h
  obtain ⟨halong, c, hfree, hhost, hafter⟩ := clearing_after m drivers
  obtain ⟨hregistry, hsettings⟩ := halong.last
  have hwait := (hafter.work? id (hm.sound.tasks.lt hw)).trans hw
  obtain ⟨hsame, hbegun, hconnects⟩ := beginning_connects drivers hafter.channels hfree hhost
    hwait (by rw [hregistry, hkey, hf])
  refine ⟨m.clearing ++ beginning drivers id, ⟨fun t ht key stopped => ?_, ?_⟩, ?_, ?_⟩
  · rcases List.mem_append.mp ht with ht | ht
    · rcases clearing_moves ht with ⟨_, hmove⟩ | ⟨_, hmove⟩ <;> rw [hmove] <;> nofun
    · exact beginning_moves ht key stopped
  · refine (halong.mono fun n hn => hn.2 ▸ hs).append (hsame.mono fun n hn => ?_)
    rw [hn, hsettings]
    exact hs
  · refine ⟨m.clearing, { move := .begin id }, _, rfl, halong.mono fun n hn => hn.1 ▸ hf, ?_⟩
    exact ⟨hregistry ▸ hf, id, connect, hwait, hkey, hbegun⟩
  · have hn := run_matched hm drivers (m.clearing ++ beginning drivers id)
    rw [← run_append] at hconnects
    obtain ⟨_, hwork⟩ := hconnects
    obtain ⟨d, a, hd, _, hp, _, hdevice⟩ := hn.pending hwork
    exact ⟨d, hd, hp.device.trans (congrArg some hdevice)⟩

/-! ## Every device that is bound -/

/-- In a run in which nobody asks for a connect but the policy for devices that come, a device that is bound
to a channel came in some turn, and was wanted then unless a connect of its key was waiting; and a device that
comes and is not wanted may be bound exactly if a connect of its key was waiting when it came. -/
theorem bound_wanted_iff (addressing : Addressing) (settings : Settings) (drivers : Bool)
    (turns : List Turn) (policed : (new addressing settings).Policed drivers turns) :
    let start := new addressing settings
    (∀ c ∈ (start.run drivers turns).channels ++ (start.run drivers turns).retired,
      ∀ device, c.device = some device → ∃ before t later, turns = before ++ t :: later ∧
        let m := start.run drivers before
        let n := (m.turn drivers t).1
        m.Comes n device ∧ n.Redirects drivers device later ∧
          (m.settings.Wants device ∨ m.Awaits device.key)) ∧
      ∀ before t rest device, turns = before ++ t :: rest →
        let m := start.run drivers before
        let n := (m.turn drivers t).1
        m.Comes n device → ¬m.settings.Wants device →
          ((∃ later, n.Policed drivers later ∧ n.Redirects drivers device later) ↔
            m.Awaits device.key) := by
  have hm : ∀ before, ((new addressing settings).run drivers before).Matched :=
    run_matched (new_matched addressing settings) drivers
  have hpossible : ∀ before t rest device, turns = before ++ t :: rest →
      let m := (new addressing settings).run drivers before
      let n := (m.turn drivers t).1
      m.Comes n device → ¬m.settings.Wants device →
        ((∃ later, n.Policed drivers later ∧ n.Redirects drivers device later) ↔ m.Awaits device.key) := by
    rintro before t rest device rfl m n hcomes hunwanted
    have htail := policed.append.2
    have hn : n.Matched := turn_matched (hm before) drivers t
    -- what waits under the key does so before the turn in which the device comes, and after it
    rw [← hcomes.awaits_iff (hm before) (htail.moves t List.mem_cons_self) htail.settings.1 hunwanted]
    constructor
    · rintro ⟨later, hpoliced, ⟨first, t', others, rfl, halong, _, id, connect, hw, hkey, _⟩, _⟩
      exact awaits_before hn hpoliced.append.1 halong ⟨id, connect, hw, hkey⟩
    · exact fun hawaits => awaited_redirects hn htail.cons.settings.now hcomes.2 hawaits drivers
  intro start
  refine ⟨fun c hc device hd => ?_, hpossible⟩
  have hnone : ¬start.Has device := by
    rintro (⟨id, work, hw, _⟩ | ⟨c, hc, _⟩)
    · cases hw
    · cases hc
  obtain ⟨before, t, later, rfl, hcomes, hbegins⟩ :=
    run_begins (new_matched addressing settings) (fun _ => rfl) hnone turns (.inr ⟨c, hc, hd⟩)
  have hbound : ((start.run drivers before).turn drivers t).1.Redirects drivers device later := by
    refine ⟨hbegins, c, ?_, hd⟩
    rwa [run_split] at hc
  refine ⟨before, t, later, rfl, hcomes, hbound, ?_⟩
  by_cases hwants : (start.run drivers before).settings.Wants device
  · exact .inl hwants
  · exact .inr ((hpossible before t later device rfl hcomes hwants).mp
      ⟨later, policed.append.2.cons, hbound⟩)

/-! ## Two devices in one slot -/

/-- There is a channel, and the policy starts a connect of a device that is plugged in. -/
def stickPlugged : List Turn :=
  [{ move := .addChannel (.recording true false) true }, { move := .handle (.arrived stick.info) }]

/-- The connect begins, and the device is opened. -/
def stickFollows : List Turn := { move := .begin 1 } :: stickOpened

/-- A keyboard in the slot of the device, which the filter does not match. -/
def keyboard : RegisteredDevice :=
  ⟨stick.key, { bus := 1, address := 1, deviceClass := 0x03 }, .hotplug⟩

def keyboardPlugged : Turn := { move := .handle (.arrived keyboard.info) }

theorem moves_of_all {turns : List Turn} (h : turns.all (fun t => !t.move matches .connect ..) = true) :
    ∀ t ∈ turns, ∀ key stopped, t.move ≠ .connect key stopped := by
  intro t ht key stopped hmove
  have hall := List.all_eq_true.mp h t ht
  rw [hmove] at hall
  cases hall

/-- A device that is connected by the policy was wanted when it came. -/
theorem wanted_is_connected :
    let start := new .busAddress {}
    let turns := stickPlugged ++ stickFollows
    start.Policed false turns ∧ (start.run false turns).channels.map (·.state) = [.connected] ∧
      ∃ before t later, turns = before ++ t :: later ∧
        let m := start.run false before
        let n := (m.turn false t).1
        m.Comes n stick ∧ n.Redirects false stick later ∧
          (m.settings.Wants stick ∨ m.Awaits stick.key) := by
  intro start turns
  have policed : start.Policed false turns := ⟨moves_of_all (by decide +kernel), by decide +kernel⟩
  have hbound : ∃ c ∈ (start.run false turns).channels ++ (start.run false turns).retired,
      c.device = some stick := by decide +kernel
  obtain ⟨c, hc, hd⟩ := hbound
  exact ⟨policed, by decide +kernel, (bound_wanted_iff .busAddress {} false turns policed).1 c hc stick hd⟩

/-- Whether a task is a connect of the key that has not begun. -/
def isIdleOf (key : DeviceKey) : Work → Bool
  | .idle connect => connect.key == key
  | _ => false

theorem idle_of_any (h : (m.work? id).any (isIdleOf key) = true) :
    ∃ connect, m.work? id = some (.idle connect) ∧ connect.key = key := by
  cases hw : m.work? id with
  | none =>
    rw [hw] at h
    cases h
  | some work =>
    rw [hw] at h
    cases work with
    | idle connect => exact ⟨connect, rfl, beq_iff_eq.mp h⟩
    | _ => cases h

/-- A device that comes under the key of one that has left is connected, although the filter does not match
it. -/
theorem excluded_is_redirected :
    let start := new .busAddress {}
    let m := start.run false (stickPlugged ++ [stickLeaves])
    let n := (m.turn false keyboardPlugged).1
    start.Policed false (stickPlugged ++ stickLeaves :: keyboardPlugged :: stickFollows) ∧
      m.Comes n keyboard ∧ ¬m.settings.Wants keyboard ∧ n.Redirects false keyboard stickFollows ∧
        ∃ c ∈ (n.run false stickFollows).channels, c.state = .connected ∧ c.device = some keyboard := by
  intro start m n
  obtain ⟨connect, hwork, hkey⟩ := idle_of_any (show (n.work? 1).any (isIdleOf stick.key) = true by
    decide +kernel)
  have hbegun : ((n.turn false { move := .begin 1 }).1.work? 1).all
      (fun work => !work matches .idle _) = true := by decide +kernel
  have hbound : ∃ c ∈ (n.run false stickFollows).channels,
      c.state = .connected ∧ c.device = some keyboard := by decide +kernel
  have hpoliced : start.Policed false (stickPlugged ++ stickLeaves :: keyboardPlugged :: stickFollows) :=
    ⟨moves_of_all (by decide +kernel), by decide +kernel⟩
  have hcomes : m.Comes n keyboard := by decide +kernel
  have htakes : n.Takes (n.turn false { move := .begin 1 }).1 keyboard := by
    refine ⟨hcomes.2, 1, connect, hwork, hkey, fun other he => ?_⟩
    rw [he] at hbegun
    cases hbegun
  obtain ⟨c, hc, hstate, hd⟩ := hbound
  exact ⟨hpoliced, hcomes, by decide +kernel,
    ⟨htakes.begins stickOpened, c, List.mem_append_left _ hc, hd⟩, c, hc, hstate, hd⟩

end RemoteUsb.Manager
