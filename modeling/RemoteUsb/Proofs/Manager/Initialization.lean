import RemoteUsb.Proofs.Manager.Listeners

/-! # What an answer of the initialization is worth

Callers may call for the initialization as often as they like. Only the first call asks for the devices
that are there, registers those that are found, and registers for events of the bus. It ends with a failure
if one of these fails. Any other call is answered at once, whatever becomes of the first one.

`initialized_iff_first_succeeds` says what such an answer is worth. At most one registration for events
succeeds, and when a call is told that all is well, the manager was initialized exactly if the first call
was told so. -/

namespace RemoteUsb

/-- A registration for events of the bus that was not refused. -/
structure Subscription where
  call : Nat
  /-- What the call had found before. -/
  devices : List DeviceInfo
  /-- Whether there are events. -/
  given : Bool

namespace Manager

variable {drivers : Bool} {allowed : Kind → Prop} {kind : Kind} {m n : Manager} {w : Surroundings}
  {outputs : List Output} {t : Turn} {turns : List Turn} {call id : Nat}
  {outcome : Option (Except JobFault (List DeviceInfo))}

/-! ## Calls and their answers -/

/-- A call of the initialization begins in the turn, or goes on. -/
def Initializing (m : Manager) (t : Turn) (call : Nat) : Prop :=
  t.move = .start ∧ call = m.nextTask ∨
    t.move = .resume call ∧ ∃ outcome, m.work? call = some (.enumerating outcome)

/-- A call of the initialization is answered in the turn. -/
def Answers (m : Manager) (drivers : Bool) (t : Turn) (call : Nat) (result : Except RedirectError Unit) :
    Prop :=
  m.Initializing t call ∧ .ended call result ∈ (m.turn drivers t).2

/-- A call was told that all is well. -/
def Succeeds (m : Manager) (drivers : Bool) (call : Nat) (turns : List Turn) : Prop :=
  ∃ earlier t later, turns = earlier ++ t :: later ∧
    (m.run drivers earlier).Answers drivers t call (.ok ())

def firstCall? (m : Manager) (drivers : Bool) : List Turn → Option Nat
  | [] => none
  | t :: turns =>
    match t.move with
    | .start => some m.nextTask
    | _ => (m.turn drivers t).1.firstCall? drivers turns

/-- The registration for events that succeeds in the turn. -/
def subscription? (m : Manager) (t : Turn) : Option Subscription :=
  match t.move with
  | .resume call =>
    match m.work? call, t.subscription with
    | some (.enumerating (some (.ok devices))), .ok given => some ⟨call, devices, given⟩
    | _, _ => none
  | _ => none

/-- The registrations for events that succeed in the turns. -/
def subscriptions (m : Manager) (drivers : Bool) : List Turn → List Subscription
  | [] => []
  | t :: turns => (m.subscription? t).toList ++ (m.turn drivers t).1.subscriptions drivers turns

/-- What a call that goes all the way makes of a manager. -/
structure Completes (m : Manager) (s : Subscription) (n : Manager) : Prop where
  registered : ∀ info ∈ s.devices, info.isHub = false →
    ∃ device, n.registry.find? (info.key m.registry.addressing) = some device
  registry : n.registry = m.registry.addAll .coldplug s.devices
  registration : n.registration = s.given
  listeners : n.listening.listeners = m.listening.listeners + s.given.toNat

/-- Devices were found and reported, they were registered, and a registration for events succeeded. If
there are events, the registration is held until a shutdown, and counted. -/
def Initialized (m : Manager) (drivers : Bool) (turns : List Turn) : Prop :=
  ∃ earlier t later s, turns = earlier ++ t :: later ∧
    (m.run drivers earlier).subscription? t = some s ∧
    (∃ u ∈ earlier, u.move = .enumerationDone s.call (.ok s.devices)) ∧
    (m.run drivers earlier).Completes s (m.run drivers (earlier ++ [t])) ∧
    (s.given = true → (∀ u ∈ later, u.move ≠ .shutdown) → (m.run drivers turns).registration = true) ∧
    (m.run drivers turns).Counted

theorem subscription?_eq_some {s : Subscription} : m.subscription? t = some s ↔
    t.move = .resume s.call ∧ m.work? s.call = some (.enumerating (some (.ok s.devices))) ∧
      t.subscription = .ok s.given := by
  unfold subscription?
  constructor
  · intro h
    split at h
    · split at h
      · cases h
        exact ⟨‹_›, ‹_›, ‹_›⟩
      · cases h
    · cases h
  · rintro ⟨hmove, hwork, hsub⟩
    rw [hmove]
    dsimp only
    rw [hwork, hsub]

/-! ## What a call does -/

/-- The first call begins to ask for the devices, and any other is answered. -/
theorem turn_start (drivers : Bool) (hmove : t.move = .start) :
    m.turn drivers t = if m.initialized then
        ({ m.takeNumber.1.dropTask m.nextTask with
            loop := if m.loop = .handling m.nextTask then .waiting else m.loop },
          [.ended m.nextTask (.ok ())])
      else
        ({ m.takeNumber.1.setTask m.nextTask (.enumerating none) with initialized := true },
          [.started m.nextTask .enumerate]) := by
  rw [turn, hmove]
  change ((if m.initialized then endCall m.nextTask (.ok ()) else _).perform m.takeNumber.1).2 = _
  split <;> rfl

/-- Observers are told of devices that were registered, and nothing else happens. -/
def Announces (outputs : List Output) : Prop :=
  ∀ output ∈ outputs, ∃ device, output = .notified (.added device)

theorem Announces.ended {notices : List Output} (h : Announces notices) {other : Nat}
    {result last : Except RedirectError Unit} (he : .ended call result ∈ notices ++ [.ended other last]) :
    result = last := by
  rcases List.mem_append.mp he with he | he
  · obtain ⟨_, he⟩ := h _ he
    cases he
  · cases List.mem_singleton.mp he
    rfl

theorem perform_arrive_coldplug (info : DeviceInfo) (m : Manager) :
    ∃ notices, Announces notices ∧ (arrive info .coldplug).perform m =
      ((), { m with registry := (m.registry.add info .coldplug).1 }, notices) := by
  rcases arrive_cases info .coldplug m with ⟨hsame, hperform⟩ | ⟨key, _, hperform⟩
  · refine ⟨[], fun _ ho => absurd ho List.not_mem_nil, ?_⟩
    rw [hperform, hsame]
  · exact ⟨_, fun _ ho => ⟨_, List.mem_singleton.mp ho⟩, hperform⟩

theorem perform_arrivals (devices : List DeviceInfo) (m : Manager) :
    ∃ notices, Announces notices ∧ (Act.each (arrive · .coldplug) devices).perform m =
      ((), { m with registry := m.registry.addAll .coldplug devices }, notices) := by
  induction devices generalizing m with
  | nil => exact ⟨[], fun _ ho => absurd ho List.not_mem_nil, rfl⟩
  | cons info devices ih =>
    obtain ⟨first, hfirst, harrive⟩ := perform_arrive_coldplug info m
    obtain ⟨rest, hrest, harrivals⟩ := ih { m with registry := (m.registry.add info .coldplug).1 }
    refine ⟨first ++ rest, fun output ho => (List.mem_append.mp ho).elim (hfirst _) (hrest _), ?_⟩
    rw [Act.each, perform_bind, harrive]
    dsimp only
    rw [harrivals]
    rfl

/-- A call that the bus refuses to register has a failure for an answer. -/
theorem enumerated_refused {error : BackendError} (hs : w.subscription = .error error) (call : Nat)
    (devices : List DeviceInfo) (m : Manager) :
    ∃ notices, Announces notices ∧ ((enumerated w call (.ok devices)).perform m).2.2 =
      notices ++ [.ended call (.error (.usb error))] := by
  obtain ⟨notices, hnotices, harrivals⟩ := perform_arrivals devices m
  refine ⟨notices, hnotices, ?_⟩
  unfold enumerated
  dsimp only
  rw [perform_bind, harrivals, hs]
  rfl

/-- The manager after the call of a registration that succeeded. -/
def joined (m : Manager) (s : Subscription) : Manager :=
  let added : Manager := { m with registry := m.registry.addAll .coldplug s.devices }
  let n : Manager := if s.given then { added.startListening with registration := true } else added
  { n.dropTask s.call with loop := if n.loop = .handling s.call then .waiting else n.loop }

/-- A call that the bus does not refuse to register is told that all is well. -/
theorem enumerated_granted {s : Subscription} (hs : w.subscription = .ok s.given) (m : Manager) :
    ∃ notices, Announces notices ∧ (enumerated w s.call (.ok s.devices)).perform m =
      ((), m.joined s, notices ++ [.ended s.call (.ok ())]) := by
  obtain ⟨notices, hnotices, harrivals⟩ := perform_arrivals s.devices m
  refine ⟨notices, hnotices, ?_⟩
  unfold enumerated joined
  dsimp only
  rw [perform_bind, harrivals, hs]
  cases s.given <;> rfl

theorem joined_completes (hreg : m.registration = false) (s : Subscription) : m.Completes s (m.joined s) := by
  have hregistry : (m.joined s).registry = m.registry.addAll .coldplug s.devices := by
    unfold joined
    cases s.given <;> rfl
  refine ⟨fun info hin hhub => ?_, hregistry, ?_, ?_⟩
  · rw [hregistry]
    exact Registry.find?_addAll_of_mem hin hhub
  · unfold joined
    cases s.given with
    | true => rfl
    | false => exact hreg
  · unfold joined
    cases s.given with
    | true => exact listeners_start m.listening
    | false => rfl

theorem joined_work? (m : Manager) (s : Subscription) (id : Nat) :
    (m.joined s).work? id = if id = s.call then none else m.work? id := by
  unfold joined
  cases s.given <;> exact work?_dropTask m s.call id

/-- A call goes on with what it heard of the devices. -/
theorem turn_enumerated (drivers : Bool) {found : Except JobFault (List DeviceInfo)}
    (hmove : t.move = .resume call) (hw : m.work? call = some (.enumerating (some found))) :
    m.turn drivers t = ((enumerated (t.surroundings drivers) call found).perform m).2 := by
  rw [turn, hmove]
  change ((resume _ call).perform m).2 = _
  rw [resume, perform_manager, hw]

/-- A call that is registered for events is told that all is well. -/
theorem turn_joined (drivers : Bool) {s : Subscription} (hs : m.subscription? t = some s) :
    (m.turn drivers t).1 = m.joined s ∧ m.Answers drivers t s.call (.ok ()) := by
  obtain ⟨hmove, hw, hsub⟩ := subscription?_eq_some.mp hs
  obtain ⟨notices, _, hperform⟩ := enumerated_granted (w := t.surroundings drivers) hsub m
  have hturn := (turn_enumerated drivers hmove hw).trans (congrArg (·.2) hperform)
  refine ⟨congrArg (·.1) hturn, .inr ⟨hmove, _, hw⟩, ?_⟩
  rw [hturn]
  exact List.mem_append_right _ (List.mem_singleton_self _)

/-- Who is told that all is well was registered for events, or is not the first one. -/
theorem Answers.cases (h : m.Answers drivers t call (.ok ())) :
    t.move = .start ∧ call = m.nextTask ∧ m.initialized = true ∨
      ∃ s, m.subscription? t = some s ∧ s.call = call := by
  obtain ⟨⟨hmove, hcall⟩ | ⟨hmove, outcome, hw⟩, hended⟩ := h
  · cases hi : m.initialized with
    | true => exact .inl ⟨hmove, hcall, rfl⟩
    | false =>
      rw [turn_start drivers hmove, hi] at hended
      cases List.mem_singleton.mp hended
  · rcases outcome with _ | fault | devices
    · rw [turn, hmove] at hended
      change _ ∈ ((resume _ call).perform m).2.2 at hended
      rw [resume, perform_manager, hw] at hended
      cases hended
    · rw [turn_enumerated drivers hmove hw] at hended
      cases List.mem_singleton.mp hended
    · rw [turn_enumerated drivers hmove hw] at hended
      cases hsub : t.subscription with
      | error error =>
        obtain ⟨notices, hnotices, houtputs⟩ :=
          enumerated_refused (w := t.surroundings drivers) hsub call devices m
        rw [houtputs] at hended
        cases hnotices.ended hended
      | ok given =>
        exact .inr ⟨⟨call, devices, given⟩, subscription?_eq_some.mpr ⟨hmove, hw, hsub⟩, rfl⟩

/-! ## Where a call is -/

theorem Registering.enumerating (h : Registering m n kind) (hk : kind ≠ .beginning)
    (hw : n.work? id = some (.enumerating outcome)) :
    m.work? id = some (.enumerating outcome) ∨
      ∃ found, kind = .finding id found ∧ m.work? id = some (.enumerating none) ∧ outcome = some found := by
  cases h with
  | aside _ _ he => exact .inl (he id outcome hw)
  | begun => exact absurd rfl hk
  | found task found _ _ hold hn =>
    rw [hn] at hw
    split at hw
    · rename_i he
      cases hw
      exact .inr ⟨found, he ▸ rfl, he ▸ hold, rfl⟩
    · exact .inl hw
  | subscribed task _ _ _ hn =>
    rw [hn] at hw
    split at hw
    · cases hw
    · exact .inl hw
  | unsubscribed _ _ hn => exact .inl (hn id ▸ hw)

theorem Deeds.enumerating (h : Deeds drivers allowed m outputs n) (hb : ¬allowed .beginning)
    (hw : n.work? id = some (.enumerating outcome)) :
    m.work? id = some (.enumerating outcome) ∨
      ∃ found, allowed (.finding id found) ∧ m.work? id = some (.enumerating none) ∧
        outcome = some found := by
  induction h with
  | refl => exact .inl hw
  | @head m p n kind _ _ hkind d _ ih =>
    have hk : kind ≠ .beginning := by
      rintro rfl
      exact hkind.elim nofun hb
    rcases ih hw with hp | ⟨found, hfinding, hp, rfl⟩
    · rcases d.registering.enumerating hk hp with hm | ⟨found, rfl, hm, he⟩
      · exact .inl hm
      · exact .inr ⟨found, hkind.resolve_left nofun, hm, he⟩
    · rcases d.registering.enumerating hk hp with hm | ⟨_, _, _, he⟩
      · exact .inr ⟨found, hfinding, hm, rfl⟩
      · cases he

theorem Deeds.initialized (h : Deeds drivers allowed m outputs n) (hb : ¬allowed .beginning) :
    n.initialized = m.initialized := by
  induction h with
  | refl => rfl
  | @head m p n kind _ _ hkind d _ ih =>
    refine ih.trans ?_
    cases d.registering with
    | aside hi | found _ _ hi | subscribed _ hi | unsubscribed hi => exact hi
    | begun => exact absurd (hkind.resolve_left nofun) hb

theorem Deeds.registration (h : Deeds drivers allowed m outputs n) (hl : ¬allowed .leaving)
    (hr : m.registration = true) : n.registration = true := by
  induction h with
  | refl => exact hr
  | head hkind d _ ih =>
    refine ih ?_
    cases d.registering with
    | aside _ hreg | found _ _ _ hreg | begun _ _ _ hreg => exact hreg.trans hr
    | subscribed _ _ hreg => exact hreg
    | unsubscribed => exact absurd (hkind.resolve_left nofun) hl

theorem Move.allows_beginning {move : Move} (h : move.Allows w m .beginning) : move = .start := by
  cases move with
  | start => rfl
  | handle event => cases event <;> cases h
  | _ => cases h

theorem Move.allows_leaving {move : Move} (h : move.Allows w m .leaving) : move = .shutdown := by
  cases move with
  | shutdown => rfl
  | handle event => cases event <;> cases h
  | _ => cases h

theorem Move.allows_finding {move : Move} {found : Except JobFault (List DeviceInfo)}
    (h : move.Allows w m (.finding id found)) : move = .enumerationDone id found := by
  cases move with
  | enumerationDone task outcome =>
    obtain ⟨rfl, rfl⟩ := h
    rfl
  | handle event => cases event <;> cases h
  | _ => cases h

/-- A call waits for the devices since before the turn, or since the turn in which it came; and it heard of
them before the turn, or in it. -/
theorem turn_enumerating (hm : m.Matched) (hw : (m.turn drivers t).1.work? id = some (.enumerating outcome)) :
    m.work? id = some (.enumerating outcome) ∨
      (t.move = .start ∧ m.initialized = false ∧ id = m.nextTask ∧ outcome = none) ∨
      ∃ found, t.move = .enumerationDone id found ∧ m.work? id = some (.enumerating none) ∧
        outcome = some found := by
  by_cases hmove : t.move = .start
  · rw [turn_start drivers hmove] at hw
    split at hw
    · refine .inl ?_
      change (m.takeNumber.1.dropTask m.nextTask).work? id = _ at hw
      rw [work?_dropTask] at hw
      split at hw
      · cases hw
      · exact hw
    · rename_i hi
      change (m.takeNumber.1.setTask m.nextTask (.enumerating none)).work? id = _ at hw
      rw [work?_setTask] at hw
      split at hw
      · cases hw
        exact .inr (.inl ⟨hmove, eq_false_of_ne_true hi, ‹_›, rfl⟩)
      · exact .inl hw
  · rcases (turn_deeds hm drivers t).enumerating (fun h => hmove (Move.allows_beginning h)) hw with
      hw | ⟨found, hfinding, hw, he⟩
    · exact .inl hw
    · exact .inr (.inr ⟨found, Move.allows_finding hfinding, hw, he⟩)

theorem turn_initialized_start (hmove : t.move = .start) : (m.turn drivers t).1.initialized = true := by
  rw [turn_start drivers hmove]
  split
  · exact ‹_›
  · rfl

theorem turn_initialized_other (hm : m.Matched) (hmove : t.move ≠ .start) :
    (m.turn drivers t).1.initialized = m.initialized :=
  (turn_deeds hm drivers t).initialized fun h => hmove (Move.allows_beginning h)

theorem turn_initialized (hm : m.Matched) (hi : m.initialized = true) (drivers : Bool) (t : Turn) :
    (m.turn drivers t).1.initialized = true := by
  by_cases hmove : t.move = .start
  · exact turn_initialized_start hmove
  · exact (turn_initialized_other hm hmove).trans hi

/-! ## The first call -/

theorem firstCall?_start (hmove : t.move = .start) : m.firstCall? drivers (t :: turns) = some m.nextTask := by
  rw [firstCall?, hmove]

theorem firstCall?_other (hmove : t.move ≠ .start) :
    m.firstCall? drivers (t :: turns) = (m.turn drivers t).1.firstCall? drivers turns := by
  rw [firstCall?]
  split
  · exact absurd ‹_› hmove
  · rfl

theorem firstCall?_append (first others : List Turn) :
    m.firstCall? drivers (first ++ others) =
      (m.firstCall? drivers first).or ((m.run drivers first).firstCall? drivers others) := by
  induction first generalizing m with
  | nil => rfl
  | cons t first ih =>
    rw [List.cons_append]
    by_cases hmove : t.move = .start
    · rw [firstCall?_start hmove, firstCall?_start hmove, Option.some_or]
    · rw [firstCall?_other hmove, firstCall?_other hmove, ih]
      rfl

/-- A manager counts as initialized from the first call on. -/
theorem run_initialized (hm : m.Matched) (drivers : Bool) (turns : List Turn) :
    (m.run drivers turns).initialized = (m.initialized || (m.firstCall? drivers turns).isSome) := by
  induction turns generalizing m with
  | nil => exact (Bool.or_false _).symm
  | cons t turns ih =>
    refine (ih (turn_matched hm drivers t)).trans ?_
    by_cases hmove : t.move = .start
    · simp [firstCall?_start hmove, turn_initialized_start hmove]
    · rw [firstCall?_other hmove, turn_initialized_other hm hmove]

theorem firstCall?_lt (h : m.firstCall? drivers turns = some call) :
    m.nextTask ≤ call ∧ call < (m.run drivers turns).nextTask := by
  have hle : ∀ (n : Manager) (turns : List Turn), n.nextTask ≤ (n.run drivers turns).nextTask := by
    intro n turns
    induction turns generalizing n with
    | nil => exact Nat.le_refl _
    | cons t turns ih => exact Nat.le_trans (turn_turned n drivers t).nextTask_le (ih _)
  induction turns generalizing m with
  | nil => cases h
  | cons t turns ih =>
    by_cases hmove : t.move = .start
    · rw [firstCall?_start hmove] at h
      cases h
      refine ⟨Nat.le_refl _, Nat.lt_of_lt_of_le ?_ (hle (m.turn drivers t).1 turns)⟩
      rw [turn_start drivers hmove]
      split
      · exact Nat.lt_succ_self _
      · exact (setTask_nextTask ..).symm ▸ Nat.lt_succ_self _
    · obtain ⟨hfirst, hlast⟩ := ih (firstCall?_other hmove ▸ h)
      exact ⟨Nat.le_trans (turn_turned m drivers t).nextTask_le hfirst, hlast⟩

/-- Once a call was made, no other call waits for devices. -/
theorem run_enumerating (hm : m.Matched) (hi : m.initialized = true)
    (hw : (m.run drivers turns).work? id = some (.enumerating outcome)) :
    ∃ before, m.work? id = some (.enumerating before) := by
  induction turns generalizing m with
  | nil => exact ⟨outcome, hw⟩
  | cons t turns ih =>
    obtain ⟨before, hbefore⟩ := ih (turn_matched hm drivers t) (turn_initialized hm hi drivers t) hw
    rcases turn_enumerating hm hbefore with h | ⟨_, hfalse, _⟩ | ⟨_, _, h, _⟩
    · exact ⟨before, h⟩
    · cases hi.symm.trans hfalse
    · exact ⟨none, h⟩

/-- Who waits for devices, or has heard of them, is the first call. -/
theorem run_enumerating_first (hm : m.Matched) (hi : m.initialized = false)
    (hnone : ∀ id outcome, m.work? id ≠ some (.enumerating outcome))
    (hw : (m.run drivers turns).work? id = some (.enumerating outcome)) :
    m.firstCall? drivers turns = some id := by
  induction turns generalizing m with
  | nil => exact absurd hw (hnone id outcome)
  | cons t turns ih =>
    have hn := turn_matched hm drivers t
    by_cases hmove : t.move = .start
    · obtain ⟨before, hbefore⟩ := run_enumerating hn (turn_initialized_start hmove) hw
      rcases turn_enumerating hm hbefore with h | ⟨_, _, rfl, _⟩ | ⟨_, _, h, _⟩
      · exact absurd h (hnone id before)
      · exact firstCall?_start hmove
      · exact absurd h (hnone id none)
    · rw [firstCall?_other hmove]
      refine ih hn ((turn_initialized_other hm hmove).trans hi) (fun other outcome h => ?_) hw
      rcases turn_enumerating hm h with h | ⟨h, _⟩ | ⟨_, _, h, _⟩
      · exact hnone other outcome h
      · exact hmove h
      · exact hnone other none h

/-- What a call has heard of the devices was reported to it. -/
theorem run_found {found : Except JobFault (List DeviceInfo)} (hm : m.Matched)
    (hw : (m.run drivers turns).work? id = some (.enumerating (some found))) :
    m.work? id = some (.enumerating (some found)) ∨ ∃ u ∈ turns, u.move = .enumerationDone id found := by
  induction turns generalizing m with
  | nil => exact .inl hw
  | cons t turns ih =>
    rcases ih (turn_matched hm drivers t) hw with h | ⟨u, hu, hmove⟩
    · rcases turn_enumerating hm h with h | ⟨_, _, _, he⟩ | ⟨_, hmove, _, he⟩
      · exact .inl h
      · cases he
      · cases he
        exact .inr ⟨t, List.mem_cons_self, hmove⟩
    · exact .inr ⟨u, List.mem_cons_of_mem t hu, hmove⟩

/-- A registration is held until a shutdown. -/
theorem run_registration (hm : m.Matched) (hr : m.registration = true)
    (h : ∀ u ∈ turns, u.move ≠ .shutdown) : (m.run drivers turns).registration = true := by
  induction turns generalizing m with
  | nil => exact hr
  | cons t turns ih =>
    obtain ⟨ht, hturns⟩ := List.forall_mem_cons.mp h
    have hkept := (turn_deeds hm drivers t).registration (fun hl => ht (Move.allows_leaving hl)) hr
    exact ih (turn_matched hm drivers t) hkept hturns

/-! ## Registrations for events -/

theorem turn_registers (hm : m.Matched) (hr : m.Registers) (drivers : Bool) (t : Turn) :
    (m.turn drivers t).1.Registers :=
  (turn_deeds hm drivers t).keeps hm (fun _ d _ h => d.registers h) hr

theorem subscriptions_eq_nil (hm : m.Matched) (hi : m.initialized = true)
    (hnone : ∀ id outcome, m.work? id ≠ some (.enumerating outcome)) (turns : List Turn) :
    m.subscriptions drivers turns = [] := by
  induction turns generalizing m with
  | nil => rfl
  | cons t turns ih =>
    have hnow : m.subscription? t = none := by
      cases hs : m.subscription? t with
      | none => rfl
      | some s => exact absurd (subscription?_eq_some.mp hs).2.1 (hnone s.call _)
    rw [subscriptions, hnow]
    refine ih (turn_matched hm drivers t) (turn_initialized hm hi drivers t) fun id outcome hw => ?_
    have hrun : (m.run drivers [t]).work? id = some (.enumerating outcome) := hw
    obtain ⟨before, hbefore⟩ := run_enumerating hm hi hrun
    exact hnone id before hbefore

/-- At most one registration for events succeeds. -/
theorem subscriptions_length_le_one (hm : m.Matched) (hr : m.Registers) (turns : List Turn) :
    (m.subscriptions drivers turns).length ≤ 1 := by
  induction turns generalizing m with
  | nil => exact Nat.zero_le 1
  | cons t turns ih =>
    have hn := turn_matched hm drivers t
    rw [subscriptions]
    cases hs : m.subscription? t with
    | none => exact ih hn (turn_registers hm hr drivers t)
    | some s =>
      have hw := (subscription?_eq_some.mp hs).2.1
      have hi : m.initialized = true := by
        refine eq_true_of_ne_false fun hi => ?_
        exact (hr.unbegun hi).2 s.call _ hw
      have hrest : (m.turn drivers t).1.subscriptions drivers turns = [] := by
        refine subscriptions_eq_nil hn (turn_initialized hm hi drivers t) (fun id outcome h => ?_) turns
        rw [(turn_joined drivers hs).1, joined_work?] at h
        split at h
        · cases h
        · rename_i hne
          exact hne (hr.single id s.call _ _ h hw)
      rw [hrest]
      exact Nat.le_refl 1

theorem mem_subscriptions {earlier later : List Turn} {s : Subscription}
    (hs : (m.run drivers earlier).subscription? t = some s) :
    s ∈ m.subscriptions drivers (earlier ++ t :: later) := by
  induction earlier generalizing m with
  | nil =>
    change m.subscription? t = some s at hs
    rw [List.nil_append, subscriptions, hs]
    exact List.mem_cons_self
  | cons u earlier ih => exact List.mem_append_right _ (ih hs)

/-! ## What an answer is worth -/

/-- A manager is initialized exactly if the first call was told that all is well. -/
theorem Registers.initialized_iff (hm : m.Matched) (hr : m.Registers) (hc : m.Counted)
    (hi : m.initialized = false) (hfirst : m.firstCall? drivers turns = some call) :
    m.Initialized drivers turns ↔ m.Succeeds drivers call turns := by
  have hnone := (hr.unbegun hi).2
  constructor
  · rintro ⟨earlier, t, later, s, rfl, hs, _⟩
    have hcall := run_enumerating_first hm hi hnone (subscription?_eq_some.mp hs).2.1
    rw [firstCall?_append, hcall, Option.some_or] at hfirst
    cases hfirst
    exact ⟨earlier, t, later, rfl, (turn_joined drivers hs).2⟩
  · rintro ⟨earlier, t, later, rfl, hanswers⟩
    rcases hanswers.cases with ⟨_, rfl, hinit⟩ | ⟨s, hs, _⟩
    · -- The first call is not answered in the turn in which it comes, and has no number that is new later.
      rw [run_initialized hm, hi, Bool.false_or, Option.isSome_iff_exists] at hinit
      obtain ⟨first, hearlier⟩ := hinit
      rw [firstCall?_append, hearlier, Option.some_or] at hfirst
      cases hfirst
      exact absurd (firstCall?_lt hearlier).2 (Nat.lt_irrefl _)
    · have hw := (subscription?_eq_some.mp hs).2.1
      have hregisters : (m.run drivers earlier).Registers :=
        run_keeps hm drivers (fun d _ h => d.registers h) hr earlier
      have hlast : m.run drivers (earlier ++ [t]) = (m.run drivers earlier).joined s := by
        rw [run_append]
        exact (turn_joined drivers hs).1
      have hcompletes := joined_completes (hregisters.early _ _ hw) s
      rw [← hlast] at hcompletes
      refine ⟨earlier, t, later, s, rfl, hs, ?_, hcompletes, fun hgiven hlater => ?_, ?_⟩
      · exact (run_found hm hw).resolve_left (hnone _ _)
      · rw [List.append_cons, run_append]
        exact run_registration (run_matched hm drivers _) (hcompletes.registration.trans hgiven) hlater
      · exact run_counted hm hr hc drivers _

/-- At most one registration for events succeeds. Whenever a call is told that all is well, the manager was
initialized exactly if the first call was told so. -/
theorem initialized_iff_first_succeeds (addressing : Addressing) (settings : Settings) (drivers : Bool)
    (turns : List Turn) :
    let m := new addressing settings
    (m.subscriptions drivers turns).length ≤ 1 ∧
      ∀ t call, (m.run drivers turns).Answers drivers t call (.ok ()) →
        ∃ first, m.firstCall? drivers (turns ++ [t]) = some first ∧
          (m.Initialized drivers (turns ++ [t]) ↔ m.Succeeds drivers first (turns ++ [t])) := by
  intro m
  have hm : m.Matched := new_matched addressing settings
  have hr : m.Registers := new_registers addressing settings
  refine ⟨subscriptions_length_le_one hm hr turns, fun t call hanswers => ?_⟩
  obtain ⟨first, hfirst⟩ : ∃ first, m.firstCall? drivers turns = some first := by
    rcases hanswers.cases with ⟨_, _, hinit⟩ | ⟨s, hs, _⟩
    · rw [run_initialized hm, show m.initialized = false from rfl, Bool.false_or] at hinit
      exact Option.isSome_iff_exists.mp hinit
    · exact ⟨s.call, run_enumerating_first hm rfl (hr.unbegun rfl).2 (subscription?_eq_some.mp hs).2.1⟩
  have hall : m.firstCall? drivers (turns ++ [t]) = some first := by
    rw [firstCall?_append, hfirst, Option.some_or]
  exact ⟨first, hall, hr.initialized_iff hm rfl rfl hall⟩

/-- A hub and a stick are found. A call that comes before is told that all is well when it is not yet; for
one that comes afterwards it is true. -/
theorem first_call_initializes :
    let m := new .busAddress {}
    let hub : DeviceInfo := { bus := 1, address := 2, deviceClass := DeviceInfo.hubClass }
    let turns : List Turn := [{ move := .start }, { move := .start },
      { move := .enumerationDone 0 (.ok [hub, stick.info]) }, { move := .resume 0 }]
    (m.run false turns).Answers false { move := .start } 2 (.ok ()) ∧
      (m.subscriptions false turns).length = 1 ∧ m.Succeeds false 0 (turns ++ [{ move := .start }]) ∧
        m.Initialized false (turns ++ [{ move := .start }]) := by
  intro m hub turns
  have htold : ((m.run false turns).turn false { move := .start }).2 = [.ended 2 (.ok ())] := rfl
  have hanswers : (m.run false turns).Answers false { move := .start } 2 (.ok ()) :=
    ⟨.inl ⟨rfl, rfl⟩, htold ▸ List.mem_singleton_self _⟩
  have hsubscribed : (m.run false (turns.take 3)).subscription? { move := .resume 0 } =
      some ⟨0, [hub, stick.info], true⟩ := rfl
  have hsucceeds : m.Succeeds false 0 (turns ++ [{ move := .start }]) :=
    ⟨turns.take 3, { move := .resume 0 }, [{ move := .start }], rfl, (turn_joined false hsubscribed).2⟩
  obtain ⟨_, hends⟩ := initialized_iff_first_succeeds .busAddress {} false turns
  obtain ⟨first, hfirst, hiff⟩ := hends _ 2 hanswers
  cases hfirst
  exact ⟨hanswers, rfl, hsucceeds, hiff.mpr hsucceeds⟩

/-- The devices that are there cannot be asked for, so the first call fails; and the next one is told that
all is well. -/
theorem ok_after_failure :
    let m := new .busAddress {}
    let turns : List Turn := [{ move := .start }, { move := .enumerationDone 0 (.error (.failed .access)) }]
    (m.run false turns).Answers false { move := .resume 0 } 0 (.error (.usb .access)) ∧
      (m.run false (turns ++ [{ move := .resume 0 }])).Answers false { move := .start } 1 (.ok ()) ∧
        ¬m.Initialized false (turns ++ [{ move := .resume 0 }, { move := .start }]) := by
  intro m turns
  refine ⟨⟨.inr ⟨rfl, _, rfl⟩, List.mem_singleton_self _⟩,
    ⟨.inl ⟨rfl, rfl⟩, List.mem_singleton_self _⟩, ?_⟩
  rintro ⟨earlier, t, later, s, he, hs, _⟩
  have hnone : m.subscriptions false (turns ++ [{ move := .resume 0 }, { move := .start }]) = [] := rfl
  rw [he] at hnone
  exact absurd (hnone ▸ mem_subscriptions hs) List.not_mem_nil

end Manager
end RemoteUsb
