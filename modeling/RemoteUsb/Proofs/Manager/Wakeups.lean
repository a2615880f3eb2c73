import RemoteUsb.Proofs.Manager.Owing

/-! # Wake-ups

A host that has queued data for its peer wakes the loop up: it puts an event of its channel into the queue,
which others fill as well. On a thread of its own it waits for room there. On a thread of the runtime it
must not wait, and if there is no room then, it is refused: the wake-up is lost, and the data stay where they
are until the channel is drained for another reason. `unsent_iff_refused` says that this is the only way in
which data stay behind. -/

namespace RemoteUsb

/-- A host is about to say that its channel has data. -/
structure Wakeup where
  channel : Nat
  /-- Whether it does so on a thread of the runtime. -/
  inRuntime : Bool
  deriving DecidableEq, Repr

/-- The queue once the wake-up has got there; `none` means that it waits for room. -/
def Wakeup.deliver (a : Wakeup) (q : EventQueue) : Option EventQueue :=
  if a.inRuntime then some (q.post (.dataPending a.channel)).1
  else (q.send? (.dataPending a.channel)).map (·.1)

/-- A wake-up gets into the queue if there is room. If not, it waits, or it is lost. -/
theorem Wakeup.deliver_cases (a : Wakeup) {q : EventQueue} (hopen : q.receiverGone = false) :
    (q.waiting.length < EventQueue.capacity ∧
      a.deliver q = some { q with waiting := q.waiting ++ [.dataPending a.channel] }) ∨
    (EventQueue.capacity ≤ q.waiting.length ∧ a.deliver q = if a.inRuntime then some q else none) := by
  by_cases hfull : EventQueue.capacity ≤ q.waiting.length
  · exact .inr ⟨hfull, by simp [deliver, EventQueue.send?, EventQueue.post, hopen, hfull]⟩
  · exact .inl ⟨Nat.lt_of_not_le hfull, by simp [deliver, EventQueue.send?, EventQueue.post, hopen, hfull]⟩

/-- A manager, and the wake-ups that are on their way to its queue. -/
structure Outbound where
  manager : Manager
  wakeups : List Wakeup := []

namespace Outbound

def new (addressing : Addressing) (settings : Settings) : Outbound := { manager := .new addressing settings }

/-- What may happen next. -/
inductive Happening where
  /-- Somebody has a turn, in which the hosts queue nothing. -/
  | turn (t : Manager.Turn)
  /-- The host of a channel queues data, and is about to say so. -/
  | queue (channel : Nat) (bytes : Bytes) (inRuntime : Bool)
  /-- One of the wake-ups gets to the queue, and in, or is lost there, or goes on waiting. -/
  | wake (n : Nat)

def step (drivers : Bool) (s : Outbound) : Happening → Outbound
  | .turn t => { s with manager := (s.manager.turn drivers t.quiet).1 }
  | .queue channel bytes inRuntime =>
    { manager := (s.manager.turn drivers { move := .stir channel (·.queue bytes) }).1
      wakeups := s.wakeups ++ [⟨channel, inRuntime⟩] }
  | .wake n =>
    match s.wakeups[n]? with
    | none => s
    | some a =>
      match a.deliver s.manager.queue with
      | none => s
      | some queue => { manager := { s.manager with queue }, wakeups := s.wakeups.eraseIdx n }

/-- What has become of it at a moment of a row of happenings. -/
def moment (drivers : Bool) (s : Outbound) (row : List Happening) (n : Nat) : Outbound :=
  (row.take n).foldl (step drivers) s

/-- A wake-up for the channel is lost, because the queue is full. -/
def Refuses (s : Outbound) (id : Nat) (h : Happening) : Prop :=
  ∃ n, h = .wake n ∧ s.wakeups[n]? = some ⟨id, true⟩ ∧
    EventQueue.capacity ≤ s.manager.queue.waiting.length

/-- The loop is going to send what the channel owes, for it was woken up or is going to be. -/
def Expects (s : Outbound) (id : Nat) : Prop :=
  .dataPending id ∈ s.manager.queue.waiting ∨ ∃ a ∈ s.wakeups, a.channel = id

variable {drivers : Bool} {s : Outbound} {row : List Happening} {h : Happening} {n id : Nat}

theorem moment_succ (hrow : row[n]? = some h) :
    s.moment drivers row (n + 1) = (s.moment drivers row n).step drivers h :=
  Channel.foldl_take_succ hrow

theorem moment_end (hrow : row[n]? = none) : s.moment drivers row (n + 1) = s.moment drivers row n :=
  Channel.foldl_take_end hrow

/-! ## One happening -/

/-- The receiving end of the queue is there, and the channels have numbers of their own. -/
structure Intact (s : Outbound) : Prop where
  receiver : s.manager.queue.receiverGone = false
  numbered : s.manager.Numbered

/-- A wake-up changes the queue only. -/
theorem wake_channels (drivers : Bool) (s : Outbound) (n : Nat) :
    (s.step drivers (.wake n)).manager.channels = s.manager.channels ∧
      (s.step drivers (.wake n)).manager.nextChannel = s.manager.nextChannel := by
  unfold step
  dsimp only
  split
  · exact ⟨rfl, rfl⟩
  · split <;> exact ⟨rfl, rfl⟩

theorem wake_owes : (s.step drivers (.wake n)).manager.Owes id ↔ s.manager.Owes id := by
  rw [Manager.Owes, Manager.Owes, (wake_channels drivers s n).1]

theorem step_intact (hs : s.Intact) (h : Happening) : (s.step drivers h).Intact := by
  cases h with
  | turn t =>
    have hattends := Manager.turn_attends s.manager drivers t
    exact ⟨hattends.receiver.trans hs.receiver, hattends.numbered hs.numbered⟩
  | queue channel bytes inRuntime =>
    have hqueues := Manager.stir_queues s.manager drivers channel bytes
    refine ⟨?_, hqueues.numbered hs.numbered⟩
    exact (congrArg EventQueue.receiverGone hqueues.queue).trans hs.receiver
  | wake n =>
    obtain ⟨hchannels, hnext⟩ := wake_channels drivers s n
    refine ⟨?_, hchannels ▸ hs.numbered.apart, ?_⟩
    · unfold step
      dsimp only
      split
      · exact hs.receiver
      · rename_i a _
        rcases a.deliver_cases hs.receiver with ⟨_, hin⟩ | ⟨_, hfull⟩
        · rw [hin]
          exact hs.receiver
        · rw [hfull]
          cases a.inRuntime <;> exact hs.receiver
    · rw [hchannels, hnext]
      exact hs.numbered.next

/-- A wake-up of one channel does nothing to those of the others. -/
theorem mem_eraseIdx {wakeups : List Wakeup} {a b : Wakeup} (hn : wakeups[n]? = some a)
    (hb : b ∈ wakeups) (hne : a.channel ≠ b.channel) : b ∈ wakeups.eraseIdx n := by
  obtain ⟨i, hi⟩ := List.mem_iff_getElem?.mp hb
  refine List.mem_eraseIdx_iff_getElem?.mpr ⟨i, ?_, hi⟩
  rintro rfl
  exact hne (congrArg Wakeup.channel (Option.some.inj (hn.symm.trans hi)))

/-- What a wake-up makes of what is expected: it may be lost. -/
theorem wake_expects (hopen : s.manager.queue.receiverGone = false) (n : Nat) (hx : s.Expects id) :
    (s.step drivers (.wake n)).Expects id ∨ s.Refuses id (.wake n) := by
  unfold step
  dsimp only
  cases ha : s.wakeups[n]? with
  | none => exact .inl hx
  | some a =>
    dsimp only
    have hothers : a.channel ≠ id → ∀ queue : EventQueue,
        (∀ event ∈ s.manager.queue.waiting, event ∈ queue.waiting) →
        Expects { manager := { s.manager with queue }, wakeups := s.wakeups.eraseIdx n } id := by
      rintro hne queue hwaiting
      rcases hx with hx | ⟨b, hb, rfl⟩
      · exact .inl (hwaiting _ hx)
      · exact .inr ⟨b, mem_eraseIdx ha hb hne, rfl⟩
    rcases a.deliver_cases hopen with ⟨_, hin⟩ | ⟨hfull, hout⟩
    · rw [hin]
      by_cases hid : a.channel = id
      · exact .inl (.inl (hid ▸ List.mem_append_right _ (List.mem_singleton_self _)))
      · exact .inl (hothers hid _ fun _ he => List.mem_append_left _ he)
    · rw [hout]
      obtain ⟨channel, inRuntime⟩ := a
      cases inRuntime with
      | false => exact .inl hx
      | true =>
        by_cases hid : channel = id
        · exact .inr ⟨n, rfl, hid ▸ ha, hfull⟩
        · exact .inl (hothers hid _ fun _ he => he)

/-- A channel comes to owe data only when its host queues some. -/
theorem step_owes (ho : (s.step drivers h).manager.Owes id) :
    s.manager.Owes id ∨ ∃ bytes inRuntime, h = .queue id bytes inRuntime := by
  cases h with
  | turn t => exact .inl ((Manager.turn_attends s.manager drivers t).owes id ho)
  | queue channel bytes inRuntime =>
    by_cases hid : id = channel
    · exact .inr ⟨bytes, inRuntime, by rw [hid]⟩
    · exact .inl ((Manager.stir_queues s.manager drivers channel bytes).owes id hid ho)
  | wake n => exact .inl (wake_owes.mp ho)

/-- It goes on to owe them unless a turn drains it. -/
theorem step_kept (hs : s.Intact) (hkept : ∀ t, h = .turn t → ¬s.manager.Drains id t.move)
    (ho : s.manager.Owes id) : (s.step drivers h).manager.Owes id := by
  cases h with
  | turn t => exact (Manager.turn_attends s.manager drivers t).kept hs.numbered id (hkept t rfl) ho
  | queue channel bytes inRuntime =>
    exact (Manager.stir_queues s.manager drivers channel bytes).kept hs.numbered id ho
  | wake n => exact wake_owes.mpr ho

/-- Data that are expected go on to be expected as long as they are owed, unless a wake-up is lost. -/
theorem step_expects (hopen : s.manager.queue.receiverGone = false)
    (ho : (s.step drivers h).manager.Owes id) (hx : s.Expects id) :
    (s.step drivers h).Expects id ∨ s.Refuses id h := by
  cases h with
  | turn t =>
    have hattends := Manager.turn_attends s.manager drivers t
    exact .inl (hx.imp (hattends.waiting id ho) fun hx => hx)
  | queue channel bytes inRuntime =>
    have hqueues := Manager.stir_queues s.manager drivers channel bytes
    refine .inl (hx.imp (fun hx => hqueues.queue ▸ hx) ?_)
    rintro ⟨a, ha, hid⟩
    exact ⟨a, List.mem_append_left _ ha, hid⟩
  | wake n => exact wake_expects hopen n hx

/-! ## A row of happenings -/

theorem moment_intact (hs : s.Intact) (row : List Happening) (n : Nat) :
    (s.moment drivers row n).Intact :=
  List.foldlRecOn _ _ hs fun _ hs h _ => step_intact hs h

/-- In none of the turns from one moment to another the channel is drained. -/
def Undrained (drivers : Bool) (s : Outbound) (row : List Happening) (k n id : Nat) : Prop :=
  ∀ j t, k ≤ j → j < n → row[j]? = some (.turn t) → ¬(s.moment drivers row j).manager.Drains id t.move

/-- What a channel owes it owes until it is drained. -/
theorem Undrained.owes (hs : s.Intact) {k : Nat} (hkn : k ≤ n) (hu : Undrained drivers s row k n id)
    (ho : (s.moment drivers row k).manager.Owes id) : (s.moment drivers row n).manager.Owes id := by
  induction hkn with
  | refl => exact ho
  | @step n hkn ih =>
    have howes := ih fun j t hkj hj => hu j t hkj (Nat.lt_succ_of_lt hj)
    cases hrow : row[n]? with
    | none =>
      rw [moment_end hrow]
      exact howes
    | some h =>
      rw [moment_succ hrow]
      refine step_kept (moment_intact hs row n) (fun t ht => ?_) howes
      exact hu n t hkn (Nat.lt_succ_self n) (ht ▸ hrow)

/-- A channel that still owes data was not drained just now. -/
theorem Undrained.succ (hs : s.Intact) {k : Nat} (hu : Undrained drivers s row k n id)
    (ho : (s.moment drivers row (n + 1)).manager.Owes id) : Undrained drivers s row k (n + 1) id := by
  intro j t hkj hj hrow
  rcases Nat.lt_succ_iff_lt_or_eq.mp hj with hj | rfl
  · exact hu j t hkj hj hrow
  · intro hdrains
    rw [moment_succ hrow] at ho
    exact Manager.turn_drained (moment_intact hs row j).numbered drivers hdrains ho

/-- A wake-up for the channel was lost before a moment, when the channel owed data, and it was not drained
since. -/
def Unheard (drivers : Bool) (s : Outbound) (row : List Happening) (n id : Nat) : Prop :=
  ∃ k h, k < n ∧ row[k]? = some h ∧ (s.moment drivers row k).Refuses id h ∧
    (s.moment drivers row k).manager.Owes id ∧ Undrained drivers s row k n id

theorem Unheard.succ (hs : s.Intact) (hu : Unheard drivers s row n id)
    (ho : (s.moment drivers row (n + 1)).manager.Owes id) : Unheard drivers s row (n + 1) id := by
  obtain ⟨k, h, hk, hrow, hrefused, howed, hundrained⟩ := hu
  exact ⟨k, h, Nat.lt_succ_of_lt hk, hrow, hrefused, howed, hundrained.succ hs ho⟩

/-- What a channel owes is expected, or went unheard. -/
theorem expects_or_unheard (hs : s.Intact) (hnone : ¬s.manager.Owes id) (row : List Happening) (n : Nat)
    (ho : (s.moment drivers row n).manager.Owes id) :
    (s.moment drivers row n).Expects id ∨ Unheard drivers s row n id := by
  induction n with
  | zero => exact absurd ho hnone
  | succ n ih =>
    have hafter := ho
    cases hrow : row[n]? with
    | none =>
      rw [moment_end hrow] at ho ⊢
      exact (ih ho).imp (fun hx => hx) fun hu => hu.succ hs hafter
    | some h =>
      rw [moment_succ hrow] at ho ⊢
      rcases step_owes ho with howed | ⟨bytes, inRuntime, rfl⟩
      · rcases ih howed with hx | hu
        · refine (step_expects (moment_intact hs row n).receiver ho hx).imp (fun hx => hx) fun hr => ?_
          refine ⟨n, h, Nat.lt_succ_self n, hrow, hr, howed, Undrained.succ hs ?_ hafter⟩
          exact fun j _ hnj hj => absurd hj (Nat.not_lt_of_le hnj)
        · exact .inr (hu.succ hs hafter)
      · exact .inl (.inr ⟨_, List.mem_append_right _ (List.mem_singleton_self _), rfl⟩)

/-- Whatever happens to a manager from its beginning, and whoever else uses its queue: when nothing waits
there, and no host of the channel is still about to say that it has data, a channel of the set has data left
for its peer exactly if a wake-up for it was lost before, on a thread of the runtime and while the queue was
full, when the channel had data, and no turn since has drained it. -/
theorem unsent_iff_refused (addressing : Addressing) (settings : Settings) (drivers : Bool)
    (row : List Happening) (n id : Nat)
    (hempty : ((new addressing settings).moment drivers row n).manager.queue.waiting = [])
    (harrived : ∀ a ∈ ((new addressing settings).moment drivers row n).wakeups, a.channel ≠ id) :
    let s := (new addressing settings).moment drivers row
    (s n).manager.Owes id ↔ ∃ k m, k < n ∧ row[k]? = some (.wake m) ∧
      (s k).wakeups[m]? = some ⟨id, true⟩ ∧
      EventQueue.capacity ≤ (s k).manager.queue.waiting.length ∧ (s k).manager.Owes id ∧
      ∀ j t, k ≤ j → j < n → row[j]? = some (.turn t) → ¬(s j).manager.Drains id t.move := by
  intro s
  have hs : (new addressing settings).Intact :=
    ⟨rfl, List.nodup_nil, fun _ hc => absurd hc List.not_mem_nil⟩
  constructor
  · intro ho
    have hnone : ¬(new addressing settings).manager.Owes id := by
      rintro ⟨c, hc, _⟩
      cases hc
    rcases expects_or_unheard hs hnone row n ho with
      (hwaits | ⟨a, ha, hid⟩) | ⟨k, _, hk, hrow, ⟨m, rfl, hwakeup, hfull⟩, howed, hu⟩
    · rw [hempty] at hwaits
      cases hwaits
    · exact absurd hid (harrived a ha)
    · exact ⟨k, m, hk, hrow, hwakeup, hfull, howed, hu⟩
  · rintro ⟨k, _, hk, _, _, _, howed, hu⟩
    exact Undrained.owes hs (Nat.le_of_lt hk) hu howed

/-! ## A wake-up that is lost -/

/-- There are two channels. The host of the first wakes the loop up as often as the queue has room, then the
host of the second does so once, and then the loop takes all events. -/
def crowded : List Happening :=
  [.turn { move := .addChannel (.recording true false) true },
    .turn { move := .addChannel (.recording true false) true }] ++
  (List.replicate EventQueue.capacity [.queue 1 [0] true, .wake 0]).flatten ++
  [.queue 2 [1] true, .wake 0] ++
  List.replicate EventQueue.capacity (.turn { move := .nextEvent })

/-- In the end the loop waits for an event, and the second channel still has its data. -/
theorem crowded_out :
    let s := (new .busAddress {}).moment false crowded 772
    s.manager.loop = .waiting ∧ s.manager.queue.waiting = [] ∧ s.wakeups = [] ∧
      ¬s.manager.Owes 1 ∧ s.manager.Owes 2 := by
  decide +kernel

/-- Its wake-up was lost. -/
theorem crowded_out_refused :
    ((new .busAddress {}).moment false crowded 772).manager.queue.waiting = [] ∧
      ((new .busAddress {}).moment false crowded 772).manager.Owes 2 ∧
      ∃ k m, k < 772 ∧ crowded[k]? = some (.wake m) ∧
        EventQueue.capacity ≤ ((new .busAddress {}).moment false crowded k).manager.queue.waiting.length := by
  have hempty : ((new .busAddress {}).moment false crowded 772).manager.queue.waiting = [] := by
    decide +kernel
  have harrived : ((new .busAddress {}).moment false crowded 772).wakeups = [] := by decide +kernel
  have howes : ((new .busAddress {}).moment false crowded 772).manager.Owes 2 := by decide +kernel
  obtain ⟨k, m, hk, hrow, _, hfull, _, _⟩ := (unsent_iff_refused .busAddress {} false crowded 772 2 hempty
    (by rw [harrived]; exact nofun)).mp howes
  exact ⟨hempty, howes, k, m, hk, hrow, hfull⟩

end Outbound
end RemoteUsb
