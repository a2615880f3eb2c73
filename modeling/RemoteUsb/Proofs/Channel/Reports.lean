import RemoteUsb.Proofs.Channel.Sections
import RemoteUsb.Event

/-! # Failures that hosts report

A host that finds that its device failed reads the current binding and queues an event, and the loop
handles the event later. Between any two of these the channel may be released, bound again, and given
another host, so an event may be as old as the channel. `reports_strike_their_binding` says that it takes
a device off only under the binding for which it was reported, and only once: whatever has the channel in
its hands in the meantime, a binding never comes back. -/

namespace RemoteUsb

/-- A failure that a host is about to report, with the binding that it has read. -/
structure Report where
  binding : Nat
  fault : DeviceFault

/-- Whether the event is about a failure of the device on a channel. -/
def Event.isFailureOf (id : Nat) : Event → Bool
  | .deviceFailed channel _ _ => channel == id
  | _ => false

namespace Channel

/-- A channel, and the reports on their way to it. -/
structure Scene where
  channel : Channel
  /-- The reports that are not queued yet. -/
  reports : List Report := []
  queue : EventQueue := {}
  /-- The event that the loop has taken and is going to handle. -/
  taken : Option Event := none

/-- What may happen next. -/
inductive Happening where
  /-- Somebody has the lock of the channel. -/
  | work (w : Section)
  /-- A host, be it the present one or an earlier one, finds that its device failed, and reads the
  binding. -/
  | read (fault : DeviceFault)
  /-- One of the reports is queued, or is lost if there is no room. -/
  | queue (n : Nat)
  /-- Another event is queued. -/
  | post (event : Event)
  | take
  | handle
  /-- The event that was taken comes to nothing, for the channel was removed. -/
  | drop

/-- The device for which a happening reserves the channel. -/
def Happening.binds : Happening → Option RegisteredDevice
  | .work w => w.binds
  | _ => none

/-- What an event makes of a channel. -/
def heed (c : Channel) : Event → Channel
  | .deviceFailed id binding fault => if id = c.id then (c.failBinding binding fault).1 else c
  | .dataPending id => if id = c.id then c.flush.1 else c
  | _ => c

namespace Scene

/-- The scene after something happened. Events about failures on the channel come from its hosts only. -/
def step (s : Scene) : Happening → Scene
  | .work w => { s with channel := s.channel.locked w }
  | .read fault => { s with reports := s.reports ++ [⟨s.channel.binding, fault⟩] }
  | .queue n =>
    match s.reports[n]? with
    | none => s
    | some r =>
      { s with
        reports := s.reports.eraseIdx n
        queue := (s.queue.post (.deviceFailed s.channel.id r.binding r.fault)).1 }
  | .post event =>
    if event.isFailureOf s.channel.id then s else { s with queue := (s.queue.post event).1 }
  | .take =>
    match s.taken with
    | some _ => s
    | none => { s with queue := s.queue.take?.1, taken := s.queue.take?.2 }
  | .handle =>
    match s.taken with
    | none => s
    | some event => { s with channel := s.channel.heed event, taken := none }
  | .drop => { s with taken := none }

def moment (s : Scene) (row : List Happening) (n : Nat) : Scene := (row.take n).foldl step s

variable {s : Scene} {row : List Happening} {n : Nat}

theorem moment_succ {h : Happening} (hrow : row[n]? = some h) :
    s.moment row (n + 1) = (s.moment row n).step h := foldl_take_succ hrow

theorem moment_end (hrow : row[n]? = none) : s.moment row (n + 1) = s.moment row n := foldl_take_end hrow

/-! ## Bindings -/

theorem heed_turnover (c : Channel) (event : Event) : Turnover c none (c.heed event) := by
  unfold heed
  split
  · split
    · exact (failBinding_shaken c _ _).turnover
    · exact .kept rfl rfl rfl
  · split
    · exact (flush_alike c).turnover
    · exact .kept rfl rfl rfl
  · exact .kept rfl rfl rfl

theorem step_turnover (s : Scene) (h : Happening) :
    Turnover s.channel h.binds (s.step h).channel := by
  cases h with
  | work w => exact locked_turnover s.channel w
  | read fault | drop => exact .kept rfl rfl rfl
  | queue n | post event | take => unfold step; dsimp only; split <;> exact .kept rfl rfl rfl
  | handle =>
    unfold step
    dsimp only
    split
    · exact .kept rfl rfl rfl
    · exact heed_turnover s.channel _

theorem moment_turnover (s : Scene) (row : List Happening) (n : Nat) :
    Turnover (s.moment row n).channel (row[n]?.bind Happening.binds) (s.moment row (n + 1)).channel := by
  cases hrow : row[n]? with
  | none =>
    rw [moment_end hrow]
    exact .kept rfl rfl rfl
  | some h =>
    rw [moment_succ hrow]
    exact step_turnover _ h

theorem moment_id (s : Scene) (row : List Happening) (n : Nat) :
    (s.moment row n).channel.id = s.channel.id :=
  List.foldlRecOn (motive := fun t => t.channel.id = s.channel.id) _ _ rfl fun t hid h _ =>
    (step_turnover t h).id.trans hid

theorem binds_eq {device : RegisteredDevice}
    (h : row[n]?.bind Happening.binds = some device) : row[n]? = some (.work (.bind device)) := by
  cases hrow : row[n]? with
  | none => rw [hrow] at h; cases h
  | some happening =>
    rw [hrow] at h
    cases happening with
    | work w => cases w with
      | bind other => cases h; rfl
      | _ => cases h
    | _ => cases h

theorem moment_turnovers (s : Scene) (row : List Happening) (i : Nat) :
    Turnovers (fun n => (s.moment row n).channel) (fun n => row[n]?.bind Happening.binds) i :=
  fun n _ => moment_turnover s row n

/-- Bindings are never gone back to. -/
theorem binding_mono (s : Scene) (row : List Happening) {i j : Nat} (h : i ≤ j) :
    (s.moment row i).channel.binding ≤ (s.moment row j).channel.binding :=
  (moment_turnovers s row i).binding_le h

/-- While the binding stays, its device stays. -/
theorem device_eq {i j : Nat} (h : i ≤ j)
    (hb : (s.moment row i).channel.binding = (s.moment row j).channel.binding) :
    (s.moment row j).channel.device = (s.moment row i).channel.device :=
  (moment_turnovers s row i).device_eq h hb

/-- So two moments with one binding belong to one period. -/
theorem period {i j k : Nat} (hik : i ≤ k) (hkj : k ≤ j)
    (hb : (s.moment row i).channel.binding = (s.moment row j).channel.binding) :
    (s.moment row k).channel.binding = (s.moment row i).channel.binding ∧
      (s.moment row k).channel.device = (s.moment row i).channel.device := by
  have hi := binding_mono s row hik
  have hj := binding_mono s row hkj
  have hk : (s.moment row k).channel.binding = (s.moment row i).channel.binding := by omega
  exact ⟨hk, device_eq hik hk.symm⟩

/-- The device was bound at the moment `k` under the binding `b`, and has stayed until `n`. -/
structure Stays (s : Scene) (row : List Happening) (device : RegisteredDevice) (b k n : Nat) : Prop where
  bound : row[k]? = some (.work (.bind device))
  free : (s.moment row k).channel.device = none
  before : k < n
  last : (s.moment row k).channel.binding < b
  stays : ∀ j, k < j → j ≤ n →
    (s.moment row j).channel.device = some device ∧ (s.moment row j).channel.binding = b

/-- What is bound was bound at some moment, and has stayed since. -/
theorem stays_of_device (hs : s.channel.device = none) {device : RegisteredDevice}
    (hd : (s.moment row n).channel.device = some device) :
    ∃ k, Stays s row device (s.moment row n).channel.binding k n := by
  have hnew : (s.moment row 0).channel.binding ≠ (s.moment row n).channel.binding := fun hb =>
    nomatch hs.symm.trans ((device_eq (Nat.zero_le n) hb).symm.trans hd)
  obtain ⟨k, _, hsince⟩ := (moment_turnovers s row 0).bound_since (Nat.zero_le n) hnew hd
  exact ⟨k, binds_eq hsince.binds, hsince.free, hsince.before, hsince.last, hsince.stays⟩

/-! ## Reports -/

/-- Every report on its way, wherever it is, has a binding and a fault of which something is true. -/
structure Traced (s : Scene) (P : Nat → DeviceFault → Prop) : Prop where
  reports : ∀ r ∈ s.reports, P r.binding r.fault
  queue : ∀ b fault, .deviceFailed s.channel.id b fault ∈ s.queue.waiting → P b fault
  taken : ∀ b fault, s.taken = some (.deviceFailed s.channel.id b fault) → P b fault

theorem mem_post {q : EventQueue} {event other : Event} (h : other ∈ (q.post event).1.waiting) :
    other ∈ q.waiting ∨ other = event := by
  unfold EventQueue.post at h
  split at h
  · exact .inl h
  · split at h
    · exact .inl h
    · simpa using h

theorem mem_take {q : EventQueue} {event : Event}
    (h : event ∈ q.take?.1.waiting ∨ q.take?.2 = some event) : event ∈ q.waiting := by
  unfold EventQueue.take? at h
  split at h
  · rcases h with h | h
    · exact h
    · cases h
  · rename_i first rest hw
    rw [hw]
    rcases h with h | h
    · exact List.mem_cons_of_mem _ h
    · exact Option.some.inj h ▸ List.mem_cons_self

theorem Traced.step {P : Nat → DeviceFault → Prop} (h : s.Traced P) {happening : Happening}
    (hread : ∀ fault, happening = .read fault → P s.channel.binding fault) :
    (s.step happening).Traced P := by
  have hid := (step_turnover s happening).id
  cases happening with
  | work w => exact ⟨h.reports, hid ▸ h.queue, hid ▸ h.taken⟩
  | read fault =>
    refine ⟨fun r hr => ?_, h.queue, h.taken⟩
    rcases List.mem_append.mp hr with hr | hr
    · exact h.reports r hr
    · rw [List.mem_singleton.mp hr]
      exact hread fault rfl
  | queue n =>
    unfold Scene.step
    dsimp only
    split
    · exact h
    · rename_i r hr
      refine ⟨fun other ho => h.reports other (List.mem_of_mem_eraseIdx ho), fun b fault hq => ?_, h.taken⟩
      rcases mem_post hq with hq | hq
      · exact h.queue b fault hq
      · cases hq
        exact h.reports r (List.mem_of_getElem? hr)
  | post event =>
    unfold Scene.step
    dsimp only
    split
    · exact h
    · rename_i hf
      refine ⟨h.reports, fun b fault hq => ?_, h.taken⟩
      rcases mem_post hq with hq | hq
      · exact h.queue b fault hq
      · rw [← hq] at hf
        simp [Event.isFailureOf] at hf
  | take =>
    unfold Scene.step
    dsimp only
    split
    · exact h
    · exact ⟨h.reports, fun b fault hq => h.queue b fault (mem_take (.inl hq)),
        fun b fault hq => h.queue b fault (mem_take (.inr hq))⟩
  | handle =>
    unfold Scene.step at hid ⊢
    dsimp only at hid ⊢
    split at hid
    · exact h
    · exact ⟨h.reports, hid ▸ h.queue, nofun⟩
  | drop => exact ⟨h.reports, h.queue, nofun⟩

/-- A failure was reported before a moment, when a binding was the current one. -/
def Reported (s : Scene) (row : List Happening) (n b : Nat) (fault : DeviceFault) : Prop :=
  ∃ r, r < n ∧ row[r]? = some (.read fault) ∧ (s.moment row r).channel.binding = b

theorem moment_traced (hs : s.Traced fun _ _ => False) (row : List Happening) (n : Nat) :
    (s.moment row n).Traced (Reported s row n) := by
  induction n with
  | zero =>
    exact ⟨fun r hr => (hs.reports r hr).elim, fun b fault hq => (hs.queue b fault hq).elim,
      fun b fault ht => (hs.taken b fault ht).elim⟩
  | succ n ih =>
    have later : (s.moment row n).Traced (Reported s row (n + 1)) := by
      have hweak : ∀ b fault, Reported s row n b fault → Reported s row (n + 1) b fault :=
        fun _ _ ⟨r, hr, h⟩ => ⟨r, Nat.lt_succ_of_lt hr, h⟩
      exact ⟨fun r hr => hweak _ _ (ih.reports r hr), fun b fault hq => hweak _ _ (ih.queue b fault hq),
        fun b fault ht => hweak _ _ (ih.taken b fault ht)⟩
    cases hrow : row[n]? with
    | none =>
      rw [moment_end hrow]
      exact later
    | some happening =>
      rw [moment_succ hrow]
      exact later.step fun fault he => ⟨n, Nat.lt_succ_self n, he ▸ hrow, rfl⟩

end Scene

/-! ## What events do -/

namespace Scene

/-- An event about a failure under a binding is handled at a moment. -/
structure Handles (s : Scene) (row : List Happening) (n b : Nat) (fault : DeviceFault) : Prop where
  now : row[n]? = some .handle
  taken : (s.moment row n).taken = some (.deviceFailed s.channel.id b fault)

/-- The binding is the current one, and its device is connected. -/
def Struck (s : Scene) (b : Nat) : Prop := s.channel.binding = b ∧ s.channel.state = .connected

instance (s : Scene) (b : Nat) : Decidable (s.Struck b) := inferInstanceAs (Decidable (_ ∧ _))

variable {s : Scene} {row : List Happening} {n b : Nat} {fault : DeviceFault}

theorem Handles.channel (h : Handles s row n b fault) :
    (s.moment row (n + 1)).channel =
      if (s.moment row n).Struck b then (s.moment row n).channel.release.1
      else (s.moment row n).channel := by
  have hheed : (s.moment row (n + 1)).channel =
      ((s.moment row n).channel.failBinding b fault).1 := by
    rw [moment_succ h.now, step, h.taken]
    exact if_pos (moment_id s row n).symm
  rw [hheed]
  unfold failBinding
  by_cases hstruck : (s.moment row n).Struck b
  · rw [if_pos hstruck, if_pos (show _ ∧ _ from hstruck)]
  · rw [if_neg hstruck, if_neg (show ¬(_ ∧ _) from hstruck)]

/-- An event strikes once: it goes on to the next binding. -/
theorem Handles.strikes_once {n' : Nat} (h : Handles s row n b fault)
    (hstruck : (s.moment row n).Struck b) (hlater : n < n') : ¬(s.moment row n').Struck b := by
  intro hagain
  have hnext : (s.moment row (n + 1)).channel.binding = b + 1 := by
    rw [h.channel, if_pos hstruck, ← hstruck.1]
    rfl
  have hmono : _ ≤ (s.moment row n').channel.binding := binding_mono s row (Nat.succ_le_of_lt hlater)
  rw [hagain.1] at hmono
  change (s.moment row (n + 1)).channel.binding ≤ b at hmono
  omega

/-- An event that strikes a device was read since the device was bound, under the binding that it has. -/
theorem Handles.origin (hdevice : s.channel.device = none) (htraced : s.Traced fun _ _ => False)
    (h : Handles s row n b fault) (hstruck : (s.moment row n).Struck b) {device : RegisteredDevice}
    (hd : (s.moment row n).channel.device = some device) :
    ∃ k r, Stays s row device b k n ∧ k < r ∧ r < n ∧ row[r]? = some (.read fault) := by
  obtain ⟨k, hstays⟩ := stays_of_device hdevice hd
  rw [hstruck.1] at hstays
  obtain ⟨r, hrn, hread, hb⟩ :=
    (moment_traced htraced row n).taken b fault ((moment_id s row n).symm ▸ h.taken)
  refine ⟨k, r, hstays, Nat.lt_of_not_le fun hrk => ?_, hrn, hread⟩
  -- what was read before the device was bound was read under an earlier binding
  have hmono := binding_mono s row hrk
  have hlast := hstays.last
  omega

end Scene

/-- Bindings count what is bound and given up: each of it goes on to the next binding, and nothing else
does, so two moments with one binding belong to one period, in which one device is bound or none. An event
about a failure under a binding takes a device off only if this is the binding under which the device was
bound and still is, if the failure was read since, and if the device is connected; it does so once. Any
other event about failures leaves the channel as it is. -/
theorem reports_strike_their_binding (id : Nat) (transport : Transport) (threshold : Nat)
    (row : List Happening) :
    let s : Scene := { channel := new id transport threshold }
    let c (n : Nat) : Channel := (s.moment row n).channel
    (∀ n, (c (n + 1)).binding = (c n).binding ∧ (c (n + 1)).device = (c n).device ∨
      (c (n + 1)).binding = (c n).binding + 1 ∧ ((c n).device = none ∨ (c (n + 1)).device = none)) ∧
    (∀ i k j, i ≤ k → k ≤ j → (c i).binding = (c j).binding →
      (c k).binding = (c i).binding ∧ (c k).device = (c i).device) ∧
    (∀ n b fault, s.Handles row n b fault →
      if (c n).binding = b ∧ (c n).state = .connected then
        c (n + 1) = (c n).release.1 ∧ ∀ device, (c n).device = some device →
          ∃ k r, s.Stays row device b k n ∧ k < r ∧ r < n ∧ row[r]? = some (.read fault)
      else c (n + 1) = c n) ∧
    ∀ n n' b fault fault', s.Handles row n b fault → s.Handles row n' b fault' →
      (c n).binding = b ∧ (c n).state = .connected →
        (c n').binding = b ∧ (c n').state = .connected → n = n' := by
  intro s c
  have htraced : s.Traced fun _ _ => False := ⟨nofun, nofun, nofun⟩
  refine ⟨fun n => ?_, fun i k j hik hkj hb => Scene.period hik hkj hb, fun n b fault h => ?_,
    fun n n' b fault fault' h h' hstruck hstruck' => ?_⟩
  · cases Scene.moment_turnover s row n with
    | kept _ hdevice hbinding => exact .inl ⟨hbinding, hdevice⟩
    | bound _ _ _ hnone _ hbinding => exact .inr ⟨hbinding, .inl hnone⟩
    | released _ hnone hbinding => exact .inr ⟨hbinding, .inr hnone⟩
  · have hchannel : c (n + 1) = _ := h.channel
    split
    · rename_i hstruck
      rw [if_pos (show Scene.Struck _ b from hstruck)] at hchannel
      exact ⟨hchannel, fun device hd => h.origin rfl htraced hstruck hd⟩
    · rename_i hstruck
      rwa [if_neg (show ¬Scene.Struck _ b from hstruck)] at hchannel
  · rcases Nat.lt_trichotomy n n' with hlt | heq | hlt
    · exact absurd hstruck' (h.strikes_once hstruck hlt)
    · exact heq
    · exact absurd hstruck (h'.strikes_once hstruck' hlt)

/-! ## A report that comes too late -/

/-- One device is connected, fails and is disconnected before the report is queued; another one is
connected when the event is handled, and then fails itself. -/
def lateReport : List Happening :=
  let first : RegisteredDevice := ⟨.busAddress 1 1, { bus := 1, address := 1 }, .hotplug⟩
  let second : RegisteredDevice := ⟨.busAddress 1 2, { bus := 1, address := 2 }, .hotplug⟩
  let connect (call : Nat) (device : RegisteredDevice) : List Happening :=
    [.work (.bind device), .work (.begin call false), .work (.opened call (.ok ⟨device.key, call⟩)),
      .work (.resume call)]
  let deliver : List Happening := [.queue 0, .take, .handle]
  .work (.setContext {}) :: connect 0 first ++ [.read .lost, .work .disconnect] ++ connect 1 second ++
    deliver ++ .read .lost :: deliver

def unused : Scene := { channel := new 1 (.recording true false) 1000 }

/-- The first report passes the second device by, and the second one takes it off. -/
theorem late_report_passes :
    (unused.Handles lateReport 13 1 .lost ∧
      (unused.moment lateReport 13).channel.state = .connected ∧
      (unused.moment lateReport 14).channel = (unused.moment lateReport 13).channel) ∧
    unused.Handles lateReport 17 3 .lost ∧
      (unused.moment lateReport 17).channel.device ≠ none ∧
      (unused.moment lateReport 18).channel = (unused.moment lateReport 17).channel.release.1 := by
  have hlate : unused.Handles lateReport 13 1 .lost := ⟨rfl, by decide +kernel⟩
  have hfresh : unused.Handles lateReport 17 3 .lost := ⟨rfl, by decide +kernel⟩
  have h := (reports_strike_their_binding 1 (.recording true false) 1000 lateReport).2.2.1
  have hpasses := h 13 1 .lost hlate
  rw [if_neg (by decide +kernel)] at hpasses
  have hstrikes := h 17 3 .lost hfresh
  rw [if_pos (by decide +kernel)] at hstrikes
  exact ⟨⟨hlate, by decide +kernel, hpasses⟩, hfresh, by decide +kernel, hstrikes.1⟩

end Channel
end RemoteUsb
