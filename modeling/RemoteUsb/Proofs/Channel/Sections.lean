import RemoteUsb.Proofs.Channel.Transit

/-! A channel is locked for less than a move at a time. A call that binds a device, notes it and asks its
helper does so in three sections, a reset takes the device off in one section and replaces the host in
another, and between any two of them somebody else may have the lock. So sections come in any order, and
what a call noted in one of them may be out of date in the next. `step_sections` says that moves are rows
of sections, and `locked_turnover` what a section makes of the binding. -/

namespace RemoteUsb.Channel

/-- What is done to a channel under one lock. -/
inductive Section where
  /-- The channel is reserved for a device. -/
  | bind (device : RegisteredDevice)
  /-- A call notes what is bound, and has it opened without asking anybody. -/
  | begin (call : Nat) (stopped : Bool)
  /-- A call asks its helper, with what it noted before. -/
  | ask (noted : Attempt)
  /-- The talk with the helper came to its end. -/
  | answered (noted : Attempt) (result : Except AccessError Unit)
  | stop (call : Nat)
  | signal (call : Nat) (signal : Access.Signal)
  | opened (call : Nat) (outcome : Except JobFault Handle)
  | resume (call : Nat)
  | abandon (call : Nat)
  /-- A call leaves that began under a binding. -/
  | leave (binding : Nat)
  | disconnect
  | renew (made : Option Host)
  | failDevice (fault : DeviceFault)
  | hear (payload : Wire.Payload)
  | setContext (host : Host)
  | flush
  | stir (act : Host → Host)

def ask (c : Channel) (noted : Attempt) : Channel :=
  { c with
    state := .waitingForAccess
    request := some noted.call
    attempts := c.attempts ++ [noted] }

/-- Unbinds the device of a call that leaves, unless it is connected or another one is bound by now. -/
def leave (c : Channel) (binding : Nat) : Channel :=
  if c.binding = binding ∧ c.state ≠ .connected then c.stopRequest.release.1 else c

def locked (c : Channel) : Section → Channel
  | .bind device => (c.bind device).toOption.getD c
  | .begin call stopped => (c.beginConnect call .unguarded stopped).1
  | .ask noted => c.ask noted
  | .answered noted result => (c.accessDecided noted result).1
  | .stop call => c.stop call
  | .signal call signal => (c.signal call signal).1
  | .opened call outcome => (c.opened call outcome).1
  | .resume call => (c.resume call).1
  | .abandon call => (c.abandon call).1
  | .leave binding => c.leave binding
  | .disconnect => c.disconnect.1
  | .renew made => (c.renew made).1
  | .failDevice fault => (c.failDevice fault).1
  | .hear payload => (c.hear payload).1
  | .setContext host => (c.setContext host).toOption.getD c
  | .flush => c.flush.1
  | .stir act => { c with host := c.host.map act }

def through (c : Channel) (sections : List Section) : Channel := sections.foldl locked c

variable {c d : Channel}

/-! ## Moves are rows of sections -/

/-- A request that is not granted gives the device up. -/
theorem accessDecided_error (hs : c.state ≠ .disconnecting) (a : Attempt) (error : AccessError) :
    (c.accessDecided a (.error error)).1 = (c.forget a.call).release.1 := by
  unfold accessDecided
  dsimp only
  rw [if_neg hs]

theorem connect_sections (h : c.Sound) (call : Nat) (device : RegisteredDevice) (entry : Entry)
    (stopped : Bool) : ∃ sections, c.through sections = (c.connect call device entry stopped).1 := by
  unfold connect
  cases hbind : c.bind device with
  | error error => exact ⟨[], rfl⟩
  | ok bound =>
    have hfree : c.isFree = true ∧ bound = { c with device := some device, binding := c.binding + 1 } := by
      unfold bind at hbind
      split at hbind
      · cases hbind
      · split at hbind <;> cases hbind
        exact ⟨‹_›, rfl⟩
    have hnil : c.attempts = [] := by
      simp only [isFree, Bool.and_eq_true, beq_iff_eq, Option.isNone_iff_eq_none] at hfree
      cases h with
      | idle h => exact h.attempts
      | pending a h => cases h.device.symm.trans hfree.1.2
      | holding _ _ h => cases h.state.symm.trans hfree.1.1
    have hlocked : c.locked (.bind device) = bound := by rw [locked, hbind]; rfl
    obtain ⟨_, rfl⟩ := hfree
    let noted : Attempt :=
      ⟨call, device, c.binding + 1, stopped, .asking (.start device.info.bus device.info.address)⟩
    cases entry with
    | unguarded => exact ⟨[.bind device, .begin call stopped], by rw [through, List.foldl, hlocked]; rfl⟩
    | guarded => exact ⟨[.bind device, .ask noted], by rw [through, List.foldl, hlocked]; rfl⟩
    | barred text =>
      refine ⟨[.bind device, .ask noted, .answered noted (.error (.spawn text))], ?_⟩
      rw [through, List.foldl, hlocked, List.foldl, List.foldl, List.foldl, locked, locked,
        accessDecided_error (by simp [ask])]
      simp [beginConnect, ask, forget, release, hnil, noted]

/-- Every move is a row of sections, but for what is done about a failure that a host reported. -/
theorem step_sections (h : c.Sound) (now : Nat) {move : Move}
    (hm : ∀ binding fault, move ≠ .failBinding binding fault) :
    ∃ sections, c.through sections = (c.step now move).1 := by
  cases move with
  | connect device entry stopped => exact connect_sections h now device entry stopped
  | stop call => exact ⟨[.stop call], rfl⟩
  | signal call signal => exact ⟨[.signal call signal], rfl⟩
  | opened call outcome => exact ⟨[.opened call _], rfl⟩
  | resume call => exact ⟨[.resume call], rfl⟩
  | abandon call => exact ⟨[.abandon call], rfl⟩
  | disconnect => exact ⟨[.disconnect], rfl⟩
  | reset made => exact ⟨[.disconnect, .renew (made.map Host.detach)], rfl⟩
  | failDevice fault => exact ⟨[.failDevice fault], rfl⟩
  | failBinding binding fault => exact absurd rfl (hm binding fault)
  | receive payload =>
    cases hf : c.hear payload with
    | mk heard fault =>
      cases fault with
      | none => exact ⟨[.hear payload], by simp [through, locked, step, receive, hf]⟩
      | some fault =>
        exact ⟨[.hear payload, .failDevice fault], by simp [through, locked, step, receive, hf]⟩
  | setContext host => exact ⟨[.setContext host.detach], rfl⟩
  | flush => exact ⟨[.flush], rfl⟩
  | stir act => exact ⟨[.stir fun h => { act h with handle := h.handle }], rfl⟩

/-! ## Bindings -/

/-- The device for which a section reserves the channel. -/
def Section.binds : Section → Option RegisteredDevice
  | .bind device => some device
  | _ => none

/-- What becomes of a binding: it stays, with its device; the device that is to be bound is bound under
the next one; or what was bound is given up for the next one. -/
inductive Turnover (c : Channel) (binds : Option RegisteredDevice) (d : Channel) : Prop where
  | kept (_ : d.id = c.id) (_ : d.device = c.device) (_ : d.binding = c.binding)
  | bound (device : RegisteredDevice) (_ : binds = some device) (_ : d.id = c.id) (_ : c.device = none)
      (_ : d.device = some device) (_ : d.binding = c.binding + 1)
  | released (_ : d.id = c.id) (_ : d.device = none) (_ : d.binding = c.binding + 1)

variable {binds : Option RegisteredDevice}

theorem Turnover.id (h : Turnover c binds d) : d.id = c.id := by
  cases h with
  | kept hid | bound _ _ hid | released hid => exact hid

theorem Alike.turnover (h : c.Alike d) : Turnover c binds d := .kept h.id h.device h.binding

/-- What the sections of a call do to the binding does not depend on what was done before them, as long
as that left the binding alone. -/
theorem Turnover.before {b : Channel} (h : Turnover b binds d) (hid : b.id = c.id)
    (hdevice : b.device = c.device) (hbinding : b.binding = c.binding) : Turnover c binds d := by
  cases h with
  | kept i e f => exact .kept (i.trans hid) (e.trans hdevice) (f.trans hbinding)
  | bound device hw i hn e f =>
    exact .bound device hw (i.trans hid) (hdevice ▸ hn) e (f.trans (congrArg (· + 1) hbinding))
  | released i e f => exact .released (i.trans hid) e (f.trans (congrArg (· + 1) hbinding))

theorem release_turnover (c : Channel) : Turnover c binds c.release.1 := .released rfl rfl rfl

theorem Shaken.turnover (h : c.Shaken d) : Turnover c binds d := by
  cases h with
  | same e => exact e.turnover
  | calledOff _ e =>
    have hc := stopRequest_keeps c
    exact .kept (e.id.trans hc.1) (e.device.trans hc.2.1) (e.binding.trans hc.2.2)
  | takenOff _ e => exact .released e.id e.device e.binding

theorem bind_turnover (c : Channel) (device : RegisteredDevice) :
    Turnover c (some device) ((c.bind device).toOption.getD c) := by
  unfold bind
  split
  · exact .kept rfl rfl rfl
  · split
    · rename_i hfree
      simp only [isFree, Bool.and_eq_true, Option.isNone_iff_eq_none] at hfree
      exact .bound device rfl rfl hfree.2 rfl rfl
    · exact .kept rfl rfl rfl

theorem accessDecided_turnover (c : Channel) (a : Attempt) (result : Except AccessError Unit) :
    Turnover c binds (c.accessDecided a result).1 := by
  unfold accessDecided
  dsimp only
  split
  · exact .released rfl rfl rfl
  · split
    · exact .kept rfl rfl rfl
    · exact .released rfl rfl rfl

theorem signal_turnover (c : Channel) (call : Nat) (heard : Access.Signal) :
    Turnover c binds (c.signal call heard).1 := by
  unfold Channel.signal
  split
  · exact .kept rfl rfl rfl
  · split
    · exact .kept rfl rfl rfl
    · split
      · exact .kept rfl rfl rfl
      · exact accessDecided_turnover c _ _

theorem attach_turnover (c : Channel) (call : Nat) (granted : Bool) (handle : Handle) :
    Turnover c binds (c.attach call granted handle).1 := by
  unfold attach
  split
  · exact .released rfl rfl rfl
  · split
    · exact .released rfl rfl rfl
    · split
      · exact .released rfl rfl rfl
      · exact .kept rfl rfl rfl

theorem resume_turnover (c : Channel) (call : Nat) : Turnover c binds (c.resume call).1 := by
  unfold Channel.resume
  split
  · exact attach_turnover c call _ _
  · exact .released rfl rfl rfl
  · exact .kept rfl rfl rfl

theorem opened_turnover (c : Channel) (call : Nat) (outcome : Except JobFault Handle) :
    Turnover c binds (c.opened call outcome).1 := by
  unfold Channel.opened
  split <;> exact .kept rfl rfl rfl

theorem abandon_turnover (c : Channel) (call : Nat) : Turnover c binds (c.abandon call).1 := by
  unfold Channel.abandon
  split
  · exact .kept rfl rfl rfl
  · dsimp only
    split
    · obtain ⟨hid, hdevice, hbinding⟩ := stopRequest_keeps { c.forget call with strays := _ }
      exact (release_turnover _).before hid hdevice hbinding
    · exact .kept rfl rfl rfl

theorem leave_turnover (c : Channel) (binding : Nat) : Turnover c binds (c.leave binding) := by
  unfold leave
  split
  · obtain ⟨hid, hdevice, hbinding⟩ := stopRequest_keeps c
    exact (release_turnover _).before hid hdevice hbinding
  · exact .kept rfl rfl rfl

theorem beginConnect_unguarded_turnover (c : Channel) (call : Nat) (stopped : Bool) :
    Turnover c binds (c.beginConnect call .unguarded stopped).1 := by
  unfold beginConnect
  split <;> exact .kept rfl rfl rfl

theorem renew_turnover (c : Channel) (made : Option Host) : Turnover c binds (c.renew made).1 := by
  unfold renew
  split <;> exact .kept rfl rfl rfl

theorem setContext_turnover (c : Channel) (host : Host) :
    Turnover c binds ((c.setContext host).toOption.getD c) := by
  unfold setContext
  split <;> exact .kept rfl rfl rfl

/-- Every section keeps the binding, or goes on to the next one. Only one that binds a device ends with a
device that was not bound before. -/
theorem locked_turnover (c : Channel) (w : Section) : Turnover c w.binds (c.locked w) := by
  cases w with
  | bind device => exact bind_turnover c device
  | begin call stopped => exact beginConnect_unguarded_turnover c call stopped
  | ask noted => exact .kept rfl rfl rfl
  | answered noted result => exact accessDecided_turnover c noted result
  | stop call => exact .kept rfl rfl rfl
  | signal call heard => exact signal_turnover c call heard
  | opened call outcome => exact opened_turnover c call outcome
  | resume call => exact resume_turnover c call
  | abandon call => exact abandon_turnover c call
  | leave binding => exact leave_turnover c binding
  | disconnect => exact (disconnect_shaken c).turnover
  | renew made => exact renew_turnover c made
  | failDevice fault => exact (failDevice_shaken c fault).turnover
  | hear payload => exact (hear_alike c payload).turnover
  | setContext host => exact setContext_turnover c host
  | flush => exact (flush_alike c).turnover
  | stir act => exact .kept rfl rfl rfl

/-! ## Rows

Whoever works on channels, what comes of a row of things that are done is taken one at a time. -/

section

variable {α σ : Type} {f : σ → α → σ} {s : σ} {row : List α} {n : Nat}

theorem foldl_take_succ {a : α} (h : row[n]? = some a) :
    (row.take (n + 1)).foldl f s = f ((row.take n).foldl f s) a := by
  rw [List.take_add_one, h, Option.toList_some, List.foldl_append]
  rfl

theorem foldl_take_end (h : row[n]? = none) : (row.take (n + 1)).foldl f s = (row.take n).foldl f s := by
  rw [List.take_add_one, h, Option.toList_none, List.append_nil]

end

/-- A channel at one moment after another, from the moment `i` on. -/
def Turnovers (s : Nat → Channel) (binds : Nat → Option RegisteredDevice) (i : Nat) : Prop :=
  ∀ n, i ≤ n → Turnover (s n) (binds n) (s (n + 1))

/-- The device that is bound at the moment `j` was bound at the moment `k`, and has stayed. -/
structure BoundSince (s : Nat → Channel) (binds : Nat → Option RegisteredDevice)
    (device : RegisteredDevice) (k j : Nat) : Prop where
  binds : binds k = some device
  free : (s k).device = none
  before : k < j
  last : (s k).binding < (s j).binding
  stays : ∀ n, k < n → n ≤ j → (s n).device = some device ∧ (s n).binding = (s j).binding

variable {s : Nat → Channel} {bindsAt : Nat → Option RegisteredDevice} {i j : Nat}

theorem Turnovers.from (h : Turnovers s bindsAt i) {k : Nat} (hik : i ≤ k) : Turnovers s bindsAt k :=
  fun n hkn => h n (Nat.le_trans hik hkn)

/-- Bindings are never gone back to. -/
theorem Turnovers.binding_le (h : Turnovers s bindsAt i) (hij : i ≤ j) :
    (s i).binding ≤ (s j).binding := by
  induction hij with
  | refl => exact Nat.le_refl _
  | @step j hij ih =>
    show _ ≤ (s (j + 1)).binding
    cases h j hij with
    | kept _ _ hb => exact hb ▸ ih
    | bound _ _ _ _ _ hb | released _ _ hb => omega

/-- While the binding stays, its device stays. -/
theorem Turnovers.device_eq (h : Turnovers s bindsAt i) (hij : i ≤ j)
    (hb : (s i).binding = (s j).binding) : (s j).device = (s i).device := by
  induction hij with
  | refl => rfl
  | @step j hij ih =>
    change _ = (s (j + 1)).binding at hb
    have hmono := h.binding_le hij
    cases h j hij with
    | kept _ hd hb' => exact hd.trans (ih (hb.trans hb'))
    | bound _ _ _ _ _ hb' | released _ _ hb' => omega

/-- What is bound under another binding than before was bound in the meantime. -/
theorem Turnovers.bound_since (h : Turnovers s bindsAt i) (hij : i ≤ j)
    (hb : (s i).binding ≠ (s j).binding) {device : RegisteredDevice} (hd : (s j).device = some device) :
    ∃ k, i ≤ k ∧ BoundSince s bindsAt device k j := by
  induction hij with
  | refl => exact absurd rfl hb
  | @step j hij ih =>
    change _ ≠ (s (j + 1)).binding at hb
    cases h j hij with
    | kept _ hkept hbkept =>
      obtain ⟨k, hik, hsince⟩ := ih (hbkept ▸ hb) (hkept ▸ hd)
      refine ⟨k, hik, hsince.binds, hsince.free, Nat.lt_succ_of_lt hsince.before, hbkept ▸ hsince.last,
        fun n hkn hnj => ?_⟩
      rcases Nat.lt_or_eq_of_le hnj with hnj | rfl
      · exact hbkept ▸ hsince.stays n hkn (Nat.le_of_lt_succ hnj)
      · exact ⟨hd, rfl⟩
    | bound other hbinds _ hnone hother hbnext =>
      cases hother.symm.trans hd
      refine ⟨j, hij, hbinds, hnone, Nat.lt_succ_self j, Nat.le_of_eq hbnext.symm, fun n hjn hnj => ?_⟩
      obtain rfl : n = j + 1 := by omega
      exact ⟨hd, rfl⟩
    | released _ hnone => cases hnone.symm.trans hd

end RemoteUsb.Channel
