import RemoteUsb.Proofs.Channel.Requests

/-! # How long a grant lasts

A grant lasts as long as the input of the helper stays open. `grant_lasts` says of every call that asks a
helper, whatever happens: its device is opened only once access was granted; the input is open while the
host holds the device, and is closed after it, in the moment in which the device is taken off or the call
ends without it; and nothing but the request and its cancellation is written to the input. -/

namespace RemoteUsb.Channel

open Access (requestLine cancelLine)

variable (c : Channel) (moves : List Move)

/-- What was done outside before a moment, in order. -/
def trace : Nat → List Effect
  | 0 => []
  | n + 1 => trace n ++ c.effectsAt moves n

/-- A helper was asked for the call before a moment, and its input was not closed since. -/
def InputOpen (call n : Nat) : Prop :=
  (∃ bus address, Effect.asked call bus address ∈ c.trace moves n) ∧
    Effect.inputClosed call ∉ c.trace moves n

/-- The host holds the handle at a moment, and not any more at the next. -/
def Releases (n : Nat) (h : Handle) : Prop :=
  (c.stateAt moves n).handle? = some h ∧ (c.stateAt moves (n + 1)).handle? ≠ some h

/-- The call keeps the input of its helper open, or the device that was connected by it does. -/
def HoldsInput (c : Channel) (call : Nat) : Prop :=
  (∃ a ∈ c.attempts, a.call = call ∧ a.phase.guarded = true) ∨ c.grant = some call

variable {c d : Channel} {moves : List Move} {now n call : Nat} {move : Move} {effects : List Effect}
  {a : Attempt} {h : Handle} {device : RegisteredDevice} {stopped : Bool}

/-! ## Inputs -/

theorem Alike.holdsInput (e : c.Alike d) : d.HoldsInput call ↔ c.HoldsInput call := by
  unfold HoldsInput
  rw [e.attempts, e.grant]

theorem Idle.holds_no_input (hc : c.Idle) : ¬c.HoldsInput call := by
  simp [HoldsInput, hc.attempts, hc.grant]

theorem Pending.holdsInput_iff (hc : c.Pending a) :
    c.HoldsInput call ↔ a.call = call ∧ a.phase.guarded = true := by
  simp [HoldsInput, hc.attempts, hc.grant]

theorem Holding.holdsInput_iff (hc : c.Holding device h) : c.HoldsInput call ↔ c.grant = some call := by
  simp [HoldsInput, hc.attempts]

theorem inputClosed_mem_abandoned {other : Nat} {phase : Phase} :
    Effect.inputClosed call ∈ abandoned other phase ↔ other = call ∧ phase.guarded = true := by
  cases phase with
  | asking x => simp [abandoned, Phase.guarded, eq_comm]
  | opening granted outcome =>
    rcases outcome with _ | fault | handle <;> cases granted <;>
      simp [abandoned, Except.toOption, Phase.guarded, eq_comm]

/-- A call that ends without its device closes its handle before the input. -/
theorem abandoned_of_guarded {phase : Phase} (call : Nat) (hg : phase.guarded = true) :
    abandoned call phase = (phase.handle?.map Effect.closed).toList ++ [.inputClosed call] := by
  cases phase with
  | asking x => rfl
  | opening granted outcome =>
    have hg : granted = true := hg
    subst hg
    rcases outcome with _ | fault | handle <;> rfl

@[simp] theorem asked_not_mem_abandoned {other : Nat} {bus address : UInt8} {phase : Phase} :
    Effect.asked call bus address ∉ abandoned other phase := by
  cases phase with
  | asking x => simp [abandoned]
  | opening granted outcome =>
    rcases outcome with _ | fault | handle <;> cases granted <;> simp [abandoned, Except.toOption]

/-- An input is opened for a call that is made, and is kept from then on. -/
theorem Passage.asked {bus address : UInt8} (t : Passage c now move d effects)
    (h : Effect.asked call bus address ∈ effects) : call = now ∧ d.HoldsInput call := by
  cases t with
  | asks _ hd =>
    cases List.mem_singleton.mp h
    exact ⟨rfl, hd.holdsInput_iff.mpr ⟨rfl, rfl⟩⟩
  | stray => simp [closing] at h
  | _ => simp at h

/-- What is closed was kept before, and is not any more. -/
theorem Passage.closes (t : Passage c now move d effects) (h : Effect.inputClosed call ∈ effects) :
    c.HoldsInput call ∧ ¬d.HoldsInput call := by
  cases t with
  | denied hc _ _ hd | failed hc _ _ _ hd =>
    rcases List.mem_append.mp h with h | h
    · exact ⟨hc.holdsInput_iff.mpr (inputClosed_mem_abandoned.mp h), hd.holds_no_input⟩
    · simp at h
  | dropped hc hd =>
    exact ⟨hc.holdsInput_iff.mpr (inputClosed_mem_abandoned.mp h), hd.holds_no_input⟩
  | released _ hc hd => exact ⟨hc.holdsInput_iff.mpr (by simpa using h), hd.holds_no_input⟩
  | stray => simp [closing] at h
  | _ => simp at h

/-- What was opened for the call is closed before the input. -/
theorem Passage.closes_first (t : Passage c now move d effects) (h : Effect.inputClosed call ∈ effects) :
    ∃ (opened : Option Handle) (rest : List Effect),
      effects = (opened.map Effect.closed).toList ++ .inputClosed call :: rest ∧
        ∀ handle, c.Has call handle → opened = some handle := by
  have ending : ∀ {a : Attempt} {others : List Effect}, c.Pending a → Effect.inputClosed call ∉ others →
      Effect.inputClosed call ∈ abandoned a.call a.phase ++ others →
      ∃ (opened : Option Handle) (rest : List Effect), abandoned a.call a.phase ++ others =
        (opened.map Effect.closed).toList ++ .inputClosed call :: rest ∧
          ∀ handle, c.Has call handle → opened = some handle := by
    intro a others ha hnot hmem
    obtain ⟨rfl, hg⟩ := inputClosed_mem_abandoned.mp ((List.mem_append.mp hmem).resolve_right hnot)
    refine ⟨a.phase.handle?, others, ?_, fun handle hh => (ha.has_iff.mp hh).2⟩
    rw [abandoned_of_guarded _ hg, List.append_assoc]
    rfl
  cases t with
  | denied ha | failed ha => exact ending ha (by simp) h
  | dropped ha =>
    have hdropped := ending ha List.not_mem_nil (by rwa [List.append_nil])
    rwa [List.append_nil] at hdropped
  | @released _ _ _ handle _ hold =>
    have hgrant : c.grant = some call := by simpa using h
    refine ⟨some handle, [], by rw [hgrant]; rfl, fun other hh => ?_⟩
    rw [hold.has_iff.mp hh]
  | stray => simp [closing] at h
  | _ => simp at h

/-- What is kept stays so, or is closed. -/
theorem Passage.kept (t : Passage c now move d effects) (h : c.HoldsInput call) :
    d.HoldsInput call ∨ Effect.inputClosed call ∈ effects := by
  cases t with
  | alike _ e | stray e => exact .inl (e.holdsInput.mpr h)
  | refused => exact .inl h
  | barred hc | opens hc | asks hc => exact absurd h hc.holds_no_input
  | waits _ hc hd => exact .inl (hd.holdsInput_iff.mpr (hc.holdsInput_iff.mp h))
  | talks hc _ _ hd | granted hc _ _ _ hd =>
    exact .inl (hd.holdsInput_iff.mpr ⟨(hc.holdsInput_iff.mp h).1, rfl⟩)
  | done hc hp hd =>
    have hkept := hc.holdsInput_iff.mp h
    rw [hp] at hkept
    exact .inl (hd.holdsInput_iff.mpr hkept)
  | @connects _ a granted _ hc hp _ hd hgrant =>
    obtain ⟨rfl, hg⟩ := hc.holdsInput_iff.mp h
    rw [hp] at hg
    have hg : granted = true := hg
    rw [hg, if_pos rfl] at hgrant
    exact .inl (hd.holdsInput_iff.mpr hgrant)
  | denied hc | failed hc =>
    exact .inr (List.mem_append_left _ (inputClosed_mem_abandoned.mpr (hc.holdsInput_iff.mp h)))
  | dropped hc => exact .inr (inputClosed_mem_abandoned.mpr (hc.holdsInput_iff.mp h))
  | released _ hc =>
    have hgrant := hc.holdsInput_iff.mp h
    exact .inr (by simp [hgrant])

/-- What is kept was kept before, or is asked for now. -/
theorem Passage.holdsInput (t : Passage c now move d effects) (h : d.HoldsInput call) :
    c.HoldsInput call ∨ ∃ bus address, Effect.asked call bus address ∈ effects := by
  cases t with
  | alike _ e | stray e => exact .inl (e.holdsInput.mp h)
  | refused => exact .inl h
  | opens _ hd => cases (hd.holdsInput_iff.mp h).2
  | asks _ hd =>
    obtain ⟨rfl, _⟩ := hd.holdsInput_iff.mp h
    exact .inr ⟨_, _, List.mem_singleton_self _⟩
  | waits _ hc hd => exact .inl (hc.holdsInput_iff.mpr (hd.holdsInput_iff.mp h))
  | talks hc hp _ hd | granted hc hp _ _ hd =>
    exact .inl (hc.holdsInput_iff.mpr ⟨(hd.holdsInput_iff.mp h).1, by rw [hp]; rfl⟩)
  | done hc hp hd =>
    obtain ⟨hcall, hg⟩ := hd.holdsInput_iff.mp h
    exact .inl (hc.holdsInput_iff.mpr ⟨hcall, by rw [hp]; exact hg⟩)
  | @connects _ a granted _ hc hp _ hd hgrant =>
    have hkept := hgrant.symm.trans (hd.holdsInput_iff.mp h)
    cases granted with
    | false => cases hkept
    | true => exact .inl (hc.holdsInput_iff.mpr ⟨Option.some.inj hkept, by rw [hp]; rfl⟩)
  | barred _ hd | denied _ _ _ hd | failed _ _ _ _ hd | dropped _ hd | released _ _ hd =>
    exact absurd h hd.holds_no_input

theorem trace_succ (c : Channel) (moves : List Move) (n : Nat) :
    c.trace moves (n + 1) = c.trace moves n ++ c.effectsAt moves n := rfl

theorem mem_trace {effect : Effect} {j : Nat} (hj : j < n) (he : effect ∈ c.effectsAt moves j) :
    effect ∈ c.trace moves n := by
  induction hj with
  | refl => exact List.mem_append_right _ he
  | step _ ih => exact List.mem_append_left _ ih

/-- What was done outside for a call was done since the call was made. -/
structure Made (c : Channel) (moves : List Move) (call n : Nat) : Prop where
  inputOpen : c.InputOpen moves call n ↔ (c.stateAt moves n).HoldsInput call
  asked : (∃ bus address, Effect.asked call bus address ∈ c.trace moves n) → call < n
  closed : Effect.inputClosed call ∈ c.trace moves n → call < n

/-- The input of a helper is open as long as a call, or the device that it connected, keeps it. -/
theorem made_at (hc : c.Idle) (call n : Nat) : c.Made moves call n := by
  induction n with
  | zero =>
    have hstate : c.stateAt moves 0 = c := by simp [stateAt, after]
    refine ⟨iff_of_false (fun h => ?_) (hstate ▸ hc.holds_no_input), fun h => ?_, fun h => ?_⟩
    · obtain ⟨⟨_, _, h⟩, _⟩ := h
      cases h
    · obtain ⟨_, _, h⟩ := h
      cases h
    · cases h
  | succ n ih =>
    cases hm : moves[n]? with
    | none =>
      have htrace : c.trace moves (n + 1) = c.trace moves n := by
        rw [trace_succ, effectsAt_of_none hm, List.append_nil]
      refine ⟨?_, fun h => Nat.lt_succ_of_lt (ih.asked (htrace ▸ h)),
        fun h => Nat.lt_succ_of_lt (ih.closed (htrace ▸ h))⟩
      rw [InputOpen, htrace, stateAt_succ_of_none hm]
      exact ih.inputOpen
    | some move =>
      have t := passage_at hc hm
      have hkept : (c.stateAt moves n).HoldsInput call → call < n := fun h =>
        ih.asked (ih.inputOpen.mpr h).1
      refine ⟨⟨?_, fun h => ?_⟩, ?_, fun h => ?_⟩
      · rintro ⟨⟨bus, address, hasked⟩, hnot⟩
        rw [trace_succ, List.mem_append, not_or] at hnot
        rcases List.mem_append.mp hasked with hasked | hasked
        · exact (t.kept (ih.inputOpen.mp ⟨⟨bus, address, hasked⟩, hnot.1⟩)).resolve_right hnot.2
        · exact (t.asked hasked).2
      · have hnot : Effect.inputClosed call ∉ c.effectsAt moves n := fun hclosed => (t.closes hclosed).2 h
        rcases t.holdsInput h with h | ⟨bus, address, hasked⟩
        · obtain ⟨⟨bus, address, hasked⟩, hopen⟩ := ih.inputOpen.mpr h
          refine ⟨⟨bus, address, List.mem_append_left _ hasked⟩, fun hclosed => ?_⟩
          exact (List.mem_append.mp hclosed).elim hopen hnot
        · refine ⟨⟨bus, address, List.mem_append_right _ hasked⟩, fun hclosed => ?_⟩
          rcases List.mem_append.mp hclosed with hclosed | hclosed
          · have := ih.closed hclosed
            have := (t.asked hasked).1
            omega
          · exact hnot hclosed
      · rintro ⟨bus, address, hasked⟩
        rcases List.mem_append.mp hasked with hasked | hasked
        · exact Nat.lt_succ_of_lt (ih.asked ⟨bus, address, hasked⟩)
        · exact (t.asked hasked).1 ▸ Nat.lt_succ_self n
      · rcases List.mem_append.mp h with h | h
        · exact Nat.lt_succ_of_lt (ih.closed h)
        · exact Nat.lt_succ_of_lt (hkept (t.closes h).1)

/-! ## Handles under a grant -/

/-- What a call has was opened for it. -/
theorem attempt_openedFor (hc : c.Idle) (n : Nat) :
    ∀ a, (c.stateAt moves n).Pending a → ∀ h, a.phase.handle? = some h →
      ∃ k, c.OpenedFor moves a.call k h := by
  induction n with
  | zero =>
    intro a ha
    rw [show c.stateAt moves 0 = c by simp [stateAt, after]] at ha
    cases hc.attempts.symm.trans ha.attempts
  | succ n ih =>
    cases hm : moves[n]? with
    | none =>
      rw [stateAt_succ_of_none hm]
      exact ih
    | some move =>
      have t := passage_at hc hm
      generalize c.stateAt moves (n + 1) = d at t ⊢
      generalize c.effectsAt moves n = effects at t
      intro b hb h hh
      cases t with
      | alike _ e | stray e => exact ih b (hb.alike e.symm) h hh
      | refused => exact ih b hb h hh
      | waits _ ha hd =>
        cases hd.unique hb
        exact ih _ ha h hh
      | opens _ hd | asks _ hd | talks _ _ _ hd | granted _ _ _ _ hd =>
        cases hd.unique hb
        cases hh
      | @done outcome _ a _ ha _ hd =>
        cases hd.unique hb
        cases outcome with
        | error fault => cases hh
        | ok key =>
          cases hh
          exact ⟨n, key, hm, rfl⟩
      | barred _ hd | denied _ _ _ hd | failed _ _ _ _ hd | dropped _ hd | released _ _ hd =>
        exact absurd hd.attempts hb.busy
      | connects _ _ _ hd => exact absurd hd.attempts hb.busy

/-- What the host holds was opened for a call, and the grant that the channel has is that of the call. -/
structure Held (c : Channel) (moves : List Move) (n : Nat) (h : Handle) (call k : Nat) : Prop where
  opened : c.OpenedFor moves call k h
  grant : (c.stateAt moves n).grant = none ∨ (c.stateAt moves n).grant = some call
  granted : ∀ device stopped, moves[call]? = some (.connect device .guarded stopped) →
    (c.stateAt moves n).grant = some call

theorem held_at (hc : c.Idle) (n : Nat) :
    ∀ h, (c.stateAt moves n).handle? = some h → ∃ call k, c.Held moves n h call k := by
  induction n with
  | zero =>
    intro h hh
    rw [show c.stateAt moves 0 = c by simp [stateAt, after], hc.handle] at hh
    cases hh
  | succ n ih =>
    intro h hh
    have kept : (c.stateAt moves n).handle? = some h →
        (c.stateAt moves (n + 1)).grant = (c.stateAt moves n).grant →
          ∃ call k, c.Held moves (n + 1) h call k := by
      intro hh hgrant
      obtain ⟨call, k, hheld⟩ := ih h hh
      exact ⟨call, k, hheld.opened, hgrant ▸ hheld.grant, hgrant ▸ hheld.granted⟩
    cases hm : moves[n]? with
    | none =>
      have hsame := stateAt_succ_of_none (c := c) hm
      exact kept (hsame ▸ hh) (congrArg Channel.grant hsame)
    | some move =>
      have t := passage_at hc hm
      generalize hd : c.stateAt moves (n + 1) = d at t hh kept
      generalize c.effectsAt moves n = effects at t
      cases t with
      | alike _ e | stray e => exact kept (e.handle ▸ hh) e.grant
      | refused => exact kept hh rfl
      | barred _ h' | denied _ _ _ h' | failed _ _ _ _ h' | dropped _ h' | released _ _ h' =>
        cases h'.handle.symm.trans hh
      | opens _ h' | asks _ h' | waits _ _ h' | talks _ _ _ h' | granted _ _ _ _ h' | done _ _ h' =>
        cases h'.handle.symm.trans hh
      | @connects _ a granted _ ha hp _ h' hgrant =>
        cases h'.handle.symm.trans hh
        obtain ⟨k, hopened⟩ := attempt_openedFor hc n a ha h (by rw [hp]; rfl)
        refine ⟨a.call, k, hopened, ?_, fun device stopped made => ?_⟩
        · rw [hd, hgrant]
          cases granted
          · exact .inl rfl
          · exact .inr rfl
        · have hspoken := attempt_spoken hc made n a ha rfl
          rw [hp] at hspoken
          rw [hd, hgrant, hspoken.1]
          rfl

/-- A handle was opened for one call. -/
theorem OpenedFor.unique {other k m : Nat} (hk : c.OpenedFor moves call k h)
    (hm : c.OpenedFor moves other m h) : k = m ∧ call = other := by
  obtain ⟨key, hk, rfl⟩ := hk
  obtain ⟨_, hm, he⟩ := hm
  have hkm : k = m := congrArg Handle.ticket he
  subst hkm
  cases hk.symm.trans hm
  exact ⟨rfl, rfl⟩

theorem OpenedFor.grant (hc : c.Idle) (made : moves[call]? = some (.connect device .guarded stopped))
    {k : Nat} (hk : c.OpenedFor moves call k h) (hh : (c.stateAt moves n).handle? = some h) :
    (c.stateAt moves n).grant = some call := by
  obtain ⟨other, m, hheld⟩ := held_at hc n h hh
  obtain ⟨_, rfl⟩ := hk.unique hheld.opened
  exact hheld.granted device stopped made

/-- When a device is taken off, the handle is closed, and then the input that is its grant. -/
theorem Releases.closes (hc : c.Idle) (hr : c.Releases moves n h) :
    c.effectsAt moves n = .closed h :: ((c.stateAt moves n).grant.map Effect.inputClosed).toList := by
  obtain ⟨hh, hnot⟩ := hr
  cases hm : moves[n]? with
  | none => exact absurd ((stateAt_succ_of_none (c := c) hm).symm ▸ hh) hnot
  | some move =>
    have t := passage_at hc hm
    generalize c.stateAt moves (n + 1) = d at t hnot
    generalize c.effectsAt moves n = effects at t ⊢
    cases t with
    | alike _ e | stray e => exact absurd (e.handle.trans hh) hnot
    | refused => exact absurd hh hnot
    | barred h' | opens h' | asks h' => cases h'.handle.symm.trans hh
    | waits _ h' | talks h' | granted h' | denied h' | done h' | connects h' | failed h' | dropped h' =>
      cases h'.handle.symm.trans hh
    | released _ h' =>
      cases h'.handle.symm.trans hh
      rfl

/-! ## When an input is closed -/

/-- An input is closed only in a move, as one of the passages. -/
theorem passage_of_mem (hc : c.Idle) {effect : Effect} (h : effect ∈ c.effectsAt moves n) :
    ∃ move, moves[n]? = some move ∧
      Passage (c.stateAt moves n) n move (c.stateAt moves (n + 1)) (c.effectsAt moves n) := by
  cases hm : moves[n]? with
  | none =>
    rw [effectsAt_of_none hm] at h
    cases h
  | some move => exact ⟨move, rfl, passage_at hc hm⟩

/-- Whatever was opened for the call by then is closed before the input. -/
theorem OpenedFor.closed_first (hc : c.Idle) {k : Nat} (hk : c.OpenedFor moves call k h) (hkn : k < n)
    (hclosed : Effect.inputClosed call ∈ c.effectsAt moves n) :
    ∃ before after, c.effectsAt moves n = before ++ .inputClosed call :: after ∧
      Effect.closed h ∈ c.trace moves n ++ before := by
  obtain ⟨move, hm, t⟩ := passage_of_mem hc hclosed
  obtain ⟨opened, rest, heffects, hopened⟩ := t.closes_first hclosed
  refine ⟨_, rest, heffects, ?_⟩
  rcases hk.kept hc hkn with hh | ⟨j, _, hj, hbefore⟩
  · rw [hopened h hh]
    exact List.mem_append_right _ (List.mem_singleton_self _)
  · exact List.mem_append_left _ (mem_trace hj hbefore)

/-- The call is over without its device, or its device is taken off. -/
def Forfeits (c : Channel) (moves : List Move) (call n : Nat) : Prop :=
  (c.Over moves call n ∧ (call, .ok ()) ∉ c.endingsAt moves n) ∨
    ∃ k h, c.OpenedFor moves call k h ∧ c.Releases moves n h

/-- An input is closed only if it is open, and only when its grant is of no use any more. -/
theorem forfeits_of_closed (hc : c.Idle) (hclosed : Effect.inputClosed call ∈ c.effectsAt moves n) :
    c.InputOpen moves call n ∧ c.Forfeits moves call n := by
  obtain ⟨move, hm, t⟩ := passage_of_mem hc hclosed
  refine ⟨(made_at hc call n).inputOpen.mpr (t.closes hclosed).1, ?_⟩
  have hended := endingsAt_eq c moves n
  have ended : ∀ {a : Attempt} {error : RedirectError},
      c.endingsAt moves n = [(a.call, .error error)] → a.call = call → c.Forfeits moves call n := by
    intro a error he hcall
    refine .inl ⟨.inl ⟨.error error, ?_⟩, ?_⟩ <;> rw [he, hcall] <;> simp
  have hheld : ∀ h, (c.stateAt moves n).handle? = some h → ∃ call k, c.Held moves n h call k :=
    held_at hc n
  have hreleases : ∀ h, (c.stateAt moves n).handle? = some h →
      (c.stateAt moves (n + 1)).handle? = none → c.Releases moves n h :=
    fun h hh hnone => ⟨hh, by rw [hnone]; exact nofun⟩
  generalize c.stateAt moves (n + 1) = d at t hreleases
  generalize c.effectsAt moves n = effects at t hclosed hended
  cases t with
  | @denied _ _ a | @failed _ a =>
    have hcall := (inputClosed_mem_abandoned.mp ((List.mem_append.mp hclosed).resolve_right (by simp))).1
    rw [endings_append, endings_abandoned] at hended
    exact ended hended hcall
  | @dropped _ a ha =>
    obtain ⟨rfl, _⟩ := inputClosed_mem_abandoned.mp hclosed
    rw [endings_abandoned] at hended
    refine .inl ⟨.inr ⟨hm, ?_⟩, by rw [hended]; exact List.not_mem_nil⟩
    rw [ha.attempt?, if_pos rfl]
    exact nofun
  | @released _ _ _ handle _ hold hidle =>
    have hgrant : (c.stateAt moves n).grant = some call := by simpa using hclosed
    obtain ⟨other, k, hheld⟩ := hheld handle hold.handle
    have hother : other = call := by
      rcases hheld.grant with hnone | hsome
      · cases hgrant.symm.trans hnone
      · exact Option.some.inj (hsome.symm.trans hgrant)
    exact .inr ⟨k, handle, hother ▸ hheld.opened, hreleases handle hold.handle hidle.handle⟩
  | stray => simp [closing] at hclosed
  | _ => simp at hclosed

theorem Over.exists_move (h : c.Over moves call n) : ∃ move, moves[n]? = some move := by
  rcases h with ⟨result, h⟩ | ⟨h, _⟩
  · cases hm : moves[n]? with
    | none =>
      rw [endingsAt_of_none hm] at h
      cases h
    | some move => exact ⟨move, rfl⟩
  · exact ⟨_, h⟩

/-- When its grant is of no use any more, an open input is closed. -/
theorem closed_of_forfeits (hc : c.Idle) (made : moves[call]? = some (.connect device .guarded stopped))
    (hopen : c.InputOpen moves call n) (hf : c.Forfeits moves call n) :
    Effect.inputClosed call ∈ c.effectsAt moves n := by
  have hlater : call < n := (made_at hc call n).asked hopen.1
  rcases hf with ⟨hover, hend⟩ | ⟨k, h, hk, hr⟩
  · obtain ⟨move, hm⟩ := hover.exists_move
    have hkeeps := (made_at hc call n).inputOpen.mp hopen
    rcases (passage_at hc hm).kept hkeeps with hkept | hclosed
    · rcases hover.cases hc with hr | ⟨hnow, _⟩ | ⟨a, _, rfl, ⟨_, _, _, he⟩ | ⟨hidle, _⟩⟩
      · have := hr.moment
        omega
      · omega
      · rw [he] at hend
        exact absurd (List.mem_singleton_self _) hend
      · exact absurd hkept hidle.holds_no_input
    · exact hclosed
  · rw [hr.closes hc, hk.grant hc made hr.1]
    exact List.mem_cons_of_mem _ (List.mem_singleton_self _)

/-- Whatever happened to a channel before a call with a helper is made on it, and whatever happens from
then on: the device is opened only when the first reply to the request is taken, and that is the word, and
no cancellation was taken. While the host holds what was opened for the call the helper's input is open.
The input is closed in the moment in which the call is over without its device, or its device is taken off,
and at no other; everything that was opened for the call by then is closed before it. Nothing is written
but the request, and the cancellation after it if one was taken before a reply; and a call ends before the
request was written only if it is dropped or the input breaks. -/
theorem grant_lasts (id : Nat) (transport : Transport) (threshold : Nat) (before later : List Move)
    (device : RegisteredDevice) (stopped : Bool) :
    let c := new id transport threshold
    let moves := before ++ .connect device .guarded stopped :: later
    let call := before.length
    let request := requestLine device.info.bus device.info.address
    (∀ n key, Effect.opening call key ∈ c.effectsAt moves n →
      (∃ line text, c.Hears moves call n (.replied (.line line)) ∧
        Text.Utf8.decode (Access.lineContent line) = .ok text ∧ Text.trim text = "SUCCESS") ∧
      ∀ m, m < n → ¬c.Hears moves call m .cancelled ∧ ∀ reply, ¬c.Hears moves call m (.replied reply)) ∧
    (∀ n k h, c.OpenedFor moves call k h →
      ((c.stateAt moves n).handle? = some h → c.InputOpen moves call n) ∧
      (c.Releases moves n h → c.effectsAt moves n = [.closed h, .inputClosed call]) ∧
      (k < n → Effect.inputClosed call ∈ c.effectsAt moves n →
        ∃ first rest, c.effectsAt moves n = first ++ .inputClosed call :: rest ∧
          Effect.closed h ∈ c.trace moves n ++ first)) ∧
    (∀ n, Effect.inputClosed call ∈ c.effectsAt moves n ↔
      c.InputOpen moves call n ∧ c.Forfeits moves call n) ∧
    (∀ n, c.writtenTo moves call n <+: request ∨
      (∃ m, m < n ∧ c.Hears moves call m .cancelled) ∧
        request <+: c.writtenTo moves call n ∧ c.writtenTo moves call n <+: request ++ cancelLine) ∧
    ∀ n, c.Over moves call n → c.InputOpen moves call n → moves[n]? ≠ some (.abandon call) →
      (∀ text, moves[n]? ≠ some (.signal call (.broken text))) → request <+: c.writtenTo moves call n := by
  intro c moves call request
  have hc : c.Idle := new_idle id transport threshold
  have made : moves[call]? = some (.connect device .guarded stopped) := by simp [moves, call]
  refine ⟨fun n key ho => ?_, fun n k h hk => ⟨fun hh => ?_, fun hr => ?_, hk.closed_first hc⟩,
    fun n => ⟨forfeits_of_closed hc, fun h => closed_of_forfeits hc made h.1 h.2⟩,
    writtenTo_lines hc made, fun n hover hopen hstayed hwhole => ?_⟩
  · obtain ⟨line, text, hheard, hdecode, htrim, hwithdrawn, hanswered⟩ := opening_granted hc made ho
    exact ⟨⟨line, text, hheard, hdecode, htrim⟩, fun m hm =>
      ⟨fun h => hwithdrawn ⟨m, hm, h⟩, fun reply h => hanswered ⟨m, hm, reply, h⟩⟩⟩
  · exact (made_at hc call n).inputOpen.mpr (.inr (hk.grant hc made hh))
  · rw [hr.closes hc, hk.grant hc made hr.1]
    rfl
  · rcases (made_at hc call n).inputOpen.mp hopen with ⟨a, ha, hcall, _⟩ | hgrant
    · exact hover.asked hc made ((stateAt_sound hc moves n).pending_of_mem ha) hcall hstayed hwhole
    · rcases hover.cases hc with hr | ⟨hnow, _⟩ | ⟨a, ha, _⟩
      · have := (made_at hc call n).asked hopen.1
        have := hr.moment
        omega
      · have := (made_at hc call n).asked hopen.1
        omega
      · cases ha.grant.symm.trans hgrant

end RemoteUsb.Channel
