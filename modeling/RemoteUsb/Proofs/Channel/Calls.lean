import RemoteUsb.Proofs.Channel.Transit

/-! # A call connects its device, or leaves nothing behind

The main statement is `call_ends`. A call that is made on a channel ends at most once, and until then it
goes on. It ends connected; or it is refused at once, and the channel is as it was; or, whatever happens
to it and wherever it is dropped, it leaves the channel free, under a binding of its own, and nothing
that was opened for it is with a host at any time. It is over with the move that makes it, if it cannot
begin, or with the first move that brings what it waits for. -/

namespace RemoteUsb.Channel

variable (c : Channel) (moves : List Move)

def stateAt (n : Nat) : Channel := c.after 0 (moves.take n)

def endingsAt (n : Nat) : List (Nat × Except RedirectError Unit) :=
  match moves[n]? with
  | some move => endings ((c.stateAt moves n).step n move).2
  | none => []

/-- A call is over at a moment: it ends then, or it is dropped while it goes on. -/
def Over (call n : Nat) : Prop :=
  (∃ result, (call, result) ∈ c.endingsAt moves n) ∨
    (moves[n]? = some (.abandon call) ∧ (c.stateAt moves n).attempt? call ≠ none)

/-- A call cannot begin: there is no host, the channel is not free, or the helper cannot be started. -/
def Rejects (entry : Entry) : Prop :=
  c.host = none ∨ c.isFree = false ∨ ∃ text, entry = .barred text

inductive Way where
  | connected
  | refused
  | undone
  deriving DecidableEq, Repr

/-- The call made at the moment `call` ends connected at the moment `n`. -/
structure Connected (call n : Nat) (d : RegisteredDevice) : Prop where
  result : c.endingsAt moves n = [(call, .ok ())]
  state : (c.stateAt moves (n + 1)).state = .connected
  device : (c.stateAt moves (n + 1)).device = some d
  handle : ∃ h key, (c.stateAt moves (n + 1)).handle? = some h ∧ h.key = d.key ∧
    moves[h.ticket]? = some (.opened call (.ok key))

/-- The call is refused when it is made, and nothing changes. -/
structure Refused (call n : Nat) : Prop where
  moment : n = call
  result : c.endingsAt moves n = [(call, .error .contextNotSet)] ∧ (c.stateAt moves n).host = none ∨
    c.endingsAt moves n = [(call, .error .channelBusy)] ∧ (c.stateAt moves n).isFree = false
  unchanged : c.stateAt moves (n + 1) = c.stateAt moves n

/-- The call ends with an error, or is dropped, and leaves nothing behind. What is opened for it, be it
before or after, is never with a host. -/
structure Undone (call n : Nat) : Prop where
  result : (∃ error, c.endingsAt moves n = [(call, .error error)]) ∨
    (moves[n]? = some (.abandon call) ∧ c.endingsAt moves n = [])
  free : (c.stateAt moves (n + 1)).isFree = true
  grant : (c.stateAt moves (n + 1)).grant = none
  request : (c.stateAt moves (n + 1)).request = none
  binding : (c.stateAt moves call).binding + 1 < (c.stateAt moves (n + 1)).binding
  detached : ∀ k h key, (c.stateAt moves k).handle? = some h →
    moves[h.ticket]? ≠ some (.opened call (.ok key))

def EndsAs (call n : Nat) (device : RegisteredDevice) : Way → Prop
  | .connected => c.Connected moves call n device
  | .refused => c.Refused moves call n
  | .undone => c.Undone moves call n

variable {c : Channel} {moves : List Move} {n : Nat}

theorem stateAt_succ {move : Move} (h : moves[n]? = some move) :
    c.stateAt moves (n + 1) = ((c.stateAt moves n).step n move).1 := by
  have hn := (List.getElem?_eq_some_iff.mp h).1
  have ht : (moves.take n).length = n := by simp; omega
  rw [stateAt, List.take_add_one, h, Option.toList_some, after_append, ht, Nat.zero_add]
  rfl

theorem stateAt_succ_of_none (h : moves[n]? = none) :
    c.stateAt moves (n + 1) = c.stateAt moves n := by
  rw [stateAt, List.take_add_one, h, Option.toList_none, List.append_nil, ← stateAt]

theorem endingsAt_of_none (h : moves[n]? = none) : c.endingsAt moves n = [] := by
  rw [endingsAt, h]

theorem stateAt_sound (hc : c.Idle) (moves : List Move) (n : Nat) : (c.stateAt moves n).Sound :=
  after_sound (.idle hc) 0 _

/-- The move at a moment as a transit. -/
theorem transit_at (hc : c.Idle) {move : Move} (h : moves[n]? = some move) :
    Transit (c.stateAt moves n) n move (c.stateAt moves (n + 1)) (c.endingsAt moves n) := by
  rw [stateAt_succ h, endingsAt, h]
  exact step_transit (stateAt_sound hc moves n) n move

/-! ## Where calls come from -/

/-- A call that goes on was made by a move before, under the next binding. -/
theorem attempts_made (hc : c.Idle) (n : Nat) :
    ∀ a ∈ (c.stateAt moves n).attempts, a.call < n ∧
      (∃ entry stopped, moves[a.call]? = some (.connect a.device entry stopped)) ∧
      (c.stateAt moves n).binding = (c.stateAt moves a.call).binding + 1 := by
  induction n with
  | zero =>
    intro a ha
    have : c.stateAt moves 0 = c := by simp [stateAt, after]
    rw [this, hc.attempts] at ha
    cases ha
  | succ n ih =>
    cases hm : moves[n]? with
    | none =>
      rw [stateAt_succ_of_none hm]
      exact fun a ha => ⟨Nat.lt_succ_of_lt (ih a ha).1, (ih a ha).2⟩
    | some move =>
      have t := transit_at hc hm
      generalize c.stateAt moves (n + 1) = d, c.endingsAt moves n = ended at t ⊢
      intro a ha
      cases t with
      | idle _ hd | barred _ hd | undone _ _ _ hd | dropped _ hd | released _ hd =>
        rw [hd.attempts] at ha; cases ha
      | connects _ _ hd | holds _ hd => rw [hd.attempts] at ha; cases ha
      | refused => exact ⟨Nat.lt_succ_of_lt (ih a ha).1, (ih a ha).2⟩
      | begun _ hd hcall hdevice hb =>
        rw [hd.attempts, List.mem_singleton] at ha
        subst ha
        rw [hcall, hdevice]
        exact ⟨Nat.lt_succ_self n, ⟨_, _, hm⟩, hb⟩
      | goes hp hd hcall hdevice hb =>
        rw [hd.attempts, List.mem_singleton] at ha
        subst ha
        obtain ⟨hlt, hmade, hbinding⟩ := ih _ hp.mem
        rw [hcall, hdevice]
        exact ⟨Nat.lt_succ_of_lt hlt, hmade, hb.trans hbinding⟩

/-- A call that is over was refused, or could not start its helper, or went on and either got its device
connected or left the channel idle. -/
theorem Over.cases {call : Nat} (hc : c.Idle) (h : c.Over moves call n) :
    c.Refused moves call n ∨
    (call = n ∧ (c.stateAt moves (n + 1)).Idle ∧
      (c.stateAt moves (n + 1)).binding = (c.stateAt moves n).binding + 2 ∧
      ∃ error, c.endingsAt moves n = [(call, .error error)]) ∨
    ∃ a, (c.stateAt moves n).Pending a ∧ a.call = call ∧
      ((∃ h, a.phase.handle? = some h ∧ (c.stateAt moves (n + 1)).Holding a.device h ∧
          c.endingsAt moves n = [(call, .ok ())]) ∨
        ((c.stateAt moves (n + 1)).Idle ∧
          (c.stateAt moves (n + 1)).binding = (c.stateAt moves n).binding + 1 ∧
          ((∃ error, c.endingsAt moves n = [(call, .error error)]) ∨
            (moves[n]? = some (.abandon call) ∧ c.endingsAt moves n = [])))) := by
  rcases h with ⟨result, h⟩ | ⟨hm, hp⟩
  · cases hm : moves[n]? with
    | none => rw [endingsAt_of_none hm] at h; cases h
    | some move =>
      have t := transit_at hc hm
      generalize hd : c.stateAt moves (n + 1) = d, he : c.endingsAt moves n = ended at t h ⊢
      cases t with
      | idle | begun | goes | dropped | holds | released => cases h
      | refused hwhy =>
        obtain rfl : call = n := congrArg Prod.fst (List.mem_singleton.mp h)
        refine .inl ⟨rfl, ?_, hd⟩
        rcases hwhy with ⟨rfl, hhost⟩ | ⟨rfl, _, hfree⟩
        · exact .inl ⟨he, hhost⟩
        · exact .inr ⟨he, hfree⟩
      | barred _ hidle hb =>
        obtain rfl : call = n := congrArg Prod.fst (List.mem_singleton.mp h)
        exact .inr (.inl ⟨rfl, hidle, hb, _, rfl⟩)
      | connects hp hh hold =>
        obtain rfl := congrArg Prod.fst (List.mem_singleton.mp h)
        exact .inr (.inr ⟨_, hp, rfl, .inl ⟨_, hh, hold, rfl⟩⟩)
      | undone hp _ _ hidle hb =>
        obtain rfl := congrArg Prod.fst (List.mem_singleton.mp h)
        exact .inr (.inr ⟨_, hp, rfl, .inr ⟨hidle, hb, .inl ⟨_, rfl⟩⟩⟩)
  · obtain ⟨a, hs, rfl⟩ := (stateAt_sound hc moves n).pending_of_attempt? hp
    obtain ⟨hidle, hb, he⟩ := hs.abandon
    refine .inr (.inr ⟨a, hs, rfl, .inr ⟨?_, ?_, .inr ⟨hm, ?_⟩⟩⟩)
    · rw [stateAt_succ hm]; exact hidle
    · rw [stateAt_succ hm]; exact hb
    · rw [endingsAt, hm]; exact he

theorem Over.le {call : Nat} (hc : c.Idle) (h : c.Over moves call n) : call ≤ n := by
  rcases h.cases hc with hr | ⟨he, _⟩ | ⟨a, hp, rfl, _⟩
  · exact Nat.le_of_eq hr.moment.symm
  · exact Nat.le_of_eq he
  · have ha : a ∈ (c.stateAt moves n).attempts := hp.mem
    exact Nat.le_of_lt (attempts_made hc n a ha).1

/-- The calls that go on are those that went on before, and the one that was made just now. -/
theorem attempts_next (hc : c.Idle) {a : Attempt} (ha : a ∈ (c.stateAt moves (n + 1)).attempts) :
    a.call = n ∨ ∃ b ∈ (c.stateAt moves n).attempts, b.call = a.call := by
  cases hm : moves[n]? with
  | none =>
    rw [stateAt_succ_of_none hm] at ha
    exact .inr ⟨a, ha, rfl⟩
  | some move =>
    have t := transit_at hc hm
    generalize c.stateAt moves (n + 1) = d, c.endingsAt moves n = ended at t ha
    cases t with
    | idle _ hd | barred _ hd | undone _ _ _ hd | dropped _ hd | released _ hd =>
      rw [hd.attempts] at ha; cases ha
    | connects _ _ hd | holds _ hd => rw [hd.attempts] at ha; cases ha
    | refused => exact .inr ⟨a, ha, rfl⟩
    | begun _ hd hcall =>
      rw [hd.attempts, List.mem_singleton] at ha
      exact .inl (ha ▸ hcall)
    | goes hp hd hcall =>
      rw [hd.attempts, List.mem_singleton] at ha
      refine .inr ⟨_, ?_, ha ▸ hcall.symm⟩
      rw [hp.attempts]
      exact List.mem_singleton_self _

/-- A call that is over does not go on. -/
theorem Over.gone {call : Nat} (hc : c.Idle) (h : c.Over moves call n) :
    ∀ a ∈ (c.stateAt moves (n + 1)).attempts, a.call ≠ call := by
  intro a ha
  rcases h.cases hc with hr | ⟨_, hi, _⟩ | ⟨_, _, _, ⟨_, _, hh, _⟩ | ⟨hi, _⟩⟩
  · rw [hr.unchanged] at ha
    have hlt := (attempts_made hc n a ha).1
    have hn := hr.moment
    omega
  · rw [hi.attempts] at ha; cases ha
  · rw [hh.attempts] at ha; cases ha
  · rw [hi.attempts] at ha; cases ha

/-- Nor does it ever go on again. -/
theorem Over.gone_after {call : Nat} (hc : c.Idle) (h : c.Over moves call n) (k : Nat) :
    ∀ a ∈ (c.stateAt moves (n + 1 + k)).attempts, a.call ≠ call := by
  induction k with
  | zero => exact h.gone hc
  | succ k ih =>
    intro a ha
    rcases attempts_next (n := n + 1 + k) hc ha with hnow | ⟨b, hb, hcall⟩
    · rw [hnow]
      have hle := h.le hc
      omega
    · exact hcall ▸ ih b hb

/-- A call is over at most once. -/
theorem Over.unique {call m : Nat} (hc : c.Idle) (h : c.Over moves call n) (h' : c.Over moves call m) :
    n = m := by
  have key : ∀ {i j : Nat}, c.Over moves call i → c.Over moves call j → ¬i < j := by
    intro i j hi hj hlt
    have hle := hi.le hc
    rcases hj.cases hc with hr | ⟨he, _⟩ | ⟨a, hp, hcall, _⟩
    · have := hr.moment
      omega
    · omega
    · have hgone := hi.gone_after hc (j - (i + 1))
      rw [show i + 1 + (j - (i + 1)) = j by omega] at hgone
      exact hgone a hp.mem hcall
  exact Nat.le_antisymm (Nat.not_lt.mp (key h' h)) (Nat.not_lt.mp (key h h'))

/-- A call that goes on is over with the next move, or still goes on after it. -/
theorem Pending.next (hc : c.Idle) {a : Attempt} (ha : (c.stateAt moves n).Pending a) :
    c.Over moves a.call n ∨ ∃ b, (c.stateAt moves (n + 1)).Pending b ∧ b.call = a.call := by
  have same : ∀ {b : Attempt}, (c.stateAt moves n).Pending b → b.call = a.call := by
    intro b hb
    rw [ha.unique hb]
  have busy : ∀ {p : Prop}, (c.stateAt moves n).attempts = [] → p := by
    intro p hn
    cases hn.symm.trans ha.attempts
  cases hm : moves[n]? with
  | none =>
    rw [stateAt_succ_of_none hm]
    exact .inr ⟨a, ha, rfl⟩
  | some move =>
    have t := transit_at hc hm
    generalize hd : c.stateAt moves (n + 1) = d, he : c.endingsAt moves n = ended at t ⊢
    have ends : ∀ {call result}, ended = [(call, result)] → c.Over moves call n := by
      intro call result hr
      exact .inl ⟨result, by rw [he, hr]; exact List.mem_singleton_self _⟩
    cases t with
    | idle hi | begun hi | barred hi => exact busy hi.attempts
    | holds hh | released hh => exact busy hh.attempts
    | refused => exact .inr ⟨a, ha, rfl⟩
    | goes hp hp' hcall => exact .inr ⟨_, hp', hcall.trans (same hp)⟩
    | connects hp => exact .inl (same hp ▸ ends rfl)
    | undone hp => exact .inl (same hp ▸ ends rfl)
    | dropped hp =>
      refine .inl (.inr ⟨same hp ▸ hm, ?_⟩)
      rw [ha.attempt?, if_pos rfl]
      exact nofun

/-- A call that was made is over, or goes on. -/
theorem over_or_pending (hc : c.Idle) {call : Nat} {device : RegisteredDevice} {entry : Entry}
    {stopped : Bool} (made : moves[call]? = some (.connect device entry stopped)) (k : Nat) :
    (∃ n, c.Over moves call n ∧ n ≤ call + k) ∨
      ∃ a, (c.stateAt moves (call + k + 1)).Pending a ∧ a.call = call := by
  induction k with
  | zero =>
    have hd : c.stateAt moves (call + 1) = ((c.stateAt moves call).connect call device entry stopped).1 :=
      stateAt_succ made
    have ends : ∀ {error}, endings ((c.stateAt moves call).connect call device entry stopped).2 =
        [(call, .error error)] → ∃ n, c.Over moves call n ∧ n ≤ call + 0 := by
      intro error hr
      have he : c.endingsAt moves call = [(call, .error error)] := by
        rw [endingsAt, made]
        exact hr
      exact ⟨call, .inl ⟨.error error, he ▸ List.mem_singleton_self _⟩, Nat.le_refl _⟩
    rcases connect_cases (stateAt_sound hc moves call) call device entry stopped with
      ⟨error, hr, _⟩ | ⟨_, _, _, error, hr⟩ | ⟨_, a, hp, hcall, _⟩
    · exact .inl (ends (by rw [hr]; rfl))
    · exact .inl (ends hr)
    · exact .inr ⟨a, hd ▸ hp, hcall⟩
  | succ k ih =>
    rcases ih with ⟨n, hn, hle⟩ | ⟨a, ha, rfl⟩
    · exact .inl ⟨n, hn, Nat.le_succ_of_le hle⟩
    · rcases ha.next hc with hover | hgoes
      · exact .inl ⟨_, hover, Nat.le_refl _⟩
      · exact .inr hgoes

/-! ## When calls are over -/

/-- A call is over with the move that makes it exactly if it cannot begin. -/
theorem endings_connect (c : Channel) (now : Nat) (device : RegisteredDevice) (entry : Entry)
    (stopped : Bool) :
    c.Rejects entry ∧
        (∃ error, endings (c.connect now device entry stopped).2 = [(now, .error error)]) ∨
      ¬c.Rejects entry ∧ endings (c.connect now device entry stopped).2 = [] := by
  unfold connect bind
  cases hh : c.host with
  | none => exact .inl ⟨.inl hh, _, rfl⟩
  | some host =>
    cases hf : c.isFree with
    | false => exact .inl ⟨.inr (.inl hf), _, rfl⟩
    | true =>
      have hbegins : (∀ text, entry ≠ .barred text) → ¬c.Rejects entry := by
        rintro hne (hnone | hbusy | ⟨text, rfl⟩)
        · cases hh.symm.trans hnone
        · cases hf.symm.trans hbusy
        · exact hne text rfl
      cases entry with
      | unguarded => exact .inr ⟨hbegins nofun, rfl⟩
      | guarded => exact .inr ⟨hbegins nofun, rfl⟩
      | barred text =>
        refine .inl ⟨.inr (.inr ⟨text, rfl⟩), .accessControl (.spawn text), ?_⟩
        simp [beginConnect]

theorem over_at_once_iff {call : Nat} {device : RegisteredDevice} {entry : Entry} {stopped : Bool}
    (made : moves[call]? = some (.connect device entry stopped)) :
    c.Over moves call call ↔ (c.stateAt moves call).Rejects entry := by
  have he : c.endingsAt moves call =
      endings ((c.stateAt moves call).connect call device entry stopped).2 := by
    rw [endingsAt, made]
    rfl
  rcases endings_connect (c.stateAt moves call) call device entry stopped with
    ⟨hrejects, error, hends⟩ | ⟨hbegins, hends⟩
  · refine iff_of_true (.inl ⟨.error error, ?_⟩) hrejects
    rw [he, hends]
    exact List.mem_singleton_self _
  · refine iff_of_false ?_ hbegins
    rintro (⟨result, hresult⟩ | ⟨hdropped, _⟩)
    · rw [he, hends] at hresult
      cases hresult
    · cases made.symm.trans hdropped

theorem accessDecided_ends {a : Attempt} {result : Except AccessError Unit}
    (h : result = .ok () → c.state = .disconnecting) :
    ∃ error, endings (c.accessDecided a result).2 = [(a.call, .error error)] := by
  unfold accessDecided
  dsimp only
  split
  · refine ⟨.cancelled, ?_⟩
    cases result <;> simp
  · cases result with
    | ok => exact absurd (h rfl) ‹_›
    | error error =>
      refine ⟨if error = .cancelled then .cancelled else .accessControl error, ?_⟩
      simp

theorem attach_ends (c : Channel) (call : Nat) (granted : Bool) (handle : Handle) :
    ∃ result, endings (c.attach call granted handle).2 = [(call, result)] := by
  unfold Channel.attach
  split
  · exact ⟨_, endings_failAttempt ..⟩
  · split
    · exact ⟨_, endings_failAttempt ..⟩
    · split
      · rename_i error _
        exact ⟨.error (.host error), by simp⟩
      · exact ⟨.ok (), by simp⟩

/-- What a pending call waits for ends it. -/
theorem Finishes.ends {call : Nat} {move : Move} (hc : c.Sound) (h : c.Finishes call move) (now : Nat) :
    move = .abandon call ∨ ∃ result, endings (c.step now move).2 = [(call, result)] := by
  obtain ⟨a, ha, rfl, hwhy⟩ := h
  have hself : c.attempt? a.call = some a := by rw [(hc.pending_of_mem ha).attempt?, if_pos rfl]
  rcases hwhy with ⟨x, heard, result, hp, hx, hok, rfl⟩ | ⟨granted, outcome, hp, rfl⟩ | rfl
  · obtain ⟨error, hends⟩ := accessDecided_ends (a := a) hok
    refine .inr ⟨.error error, ?_⟩
    change endings (c.signal a.call heard).2 = _
    unfold Channel.signal
    rw [hself]
    dsimp only
    rw [hp]
    dsimp only
    rw [hx]
    exact hends
  · right
    change ∃ result, endings (c.resume a.call).2 = _
    unfold Channel.resume
    rw [hself]
    obtain ⟨call, device, binding, stopped, phase⟩ := a
    cases hp
    cases outcome with
    | error fault => exact ⟨_, endings_failAttempt ..⟩
    | ok handle => exact attach_ends ..
  · exact .inl rfl

/-- A call that was made before is over when what it waits for has come. -/
theorem over_of_finishes (hc : c.Idle) {call : Nat} {move : Move} (hm : moves[n]? = some move)
    (h : (c.stateAt moves n).Finishes call move) : c.Over moves call n := by
  have hsound := stateAt_sound hc moves n
  rcases h.ends hsound n with rfl | ⟨result, hends⟩
  · obtain ⟨a, ha, hcall, _⟩ := h
    refine .inr ⟨hm, ?_⟩
    rw [(hsound.pending_of_mem ha).attempt?, if_pos hcall]
    exact nofun
  · refine .inl ⟨result, ?_⟩
    rw [endingsAt, hm]
    dsimp only
    rw [hends]
    exact List.mem_singleton_self _

/-- It is not over before. -/
theorem Over.finishes (hc : c.Idle) {call : Nat} (h : c.Over moves call n) (hne : call ≠ n) :
    ∃ move, moves[n]? = some move ∧ (c.stateAt moves n).Finishes call move := by
  rcases h with ⟨result, h⟩ | ⟨hm, hp⟩
  · cases hm : moves[n]? with
    | none => rw [endingsAt_of_none hm] at h; cases h
    | some move =>
      have t := transit_at hc hm
      generalize c.stateAt moves (n + 1) = d, c.endingsAt moves n = ended at t h
      refine ⟨move, rfl, ?_⟩
      cases t with
      | idle | begun | goes | dropped | holds | released => cases h
      | refused => exact absurd (congrArg Prod.fst (List.mem_singleton.mp h)) hne
      | barred => exact absurd (congrArg Prod.fst (List.mem_singleton.mp h)) hne
      | @connects _ a handle hp hh =>
        obtain rfl := congrArg Prod.fst (List.mem_singleton.mp h)
        obtain ⟨granted, hphase⟩ := Phase.handle?_eq_some hh
        exact ⟨a, hp.mem, rfl, .inr (.inl ⟨granted, _, hphase, rfl⟩)⟩
      | undone hp hends =>
        obtain rfl := congrArg Prod.fst (List.mem_singleton.mp h)
        exact hends
  · obtain ⟨a, hs, hcall⟩ := (stateAt_sound hc moves n).pending_of_attempt? hp
    exact ⟨_, hm, a, hs.mem, hcall, .inr (.inr rfl)⟩

/-- A call is over when it is made, if it cannot begin, or when what it waits for has come. -/
theorem over_iff (hc : c.Idle) {call : Nat} {device : RegisteredDevice} {entry : Entry} {stopped : Bool}
    (made : moves[call]? = some (.connect device entry stopped)) (n : Nat) :
    c.Over moves call n ↔ n = call ∧ (c.stateAt moves call).Rejects entry ∨
      ∃ move, moves[n]? = some move ∧ (c.stateAt moves n).Finishes call move := by
  constructor
  · intro hover
    by_cases hn : call = n
    · subst hn
      exact .inl ⟨rfl, (over_at_once_iff made).mp hover⟩
    · exact .inr (hover.finishes hc hn)
  · rintro (⟨rfl, hrejects⟩ | ⟨move, hm, hfinishes⟩)
    · exact (over_at_once_iff made).mpr hrejects
    · exact over_of_finishes hc hm hfinishes

/-! ## Where handles come from -/

/-- What an attempt holds was opened for its call. -/
theorem attempt_handle (hc : c.Idle) (n : Nat) :
    ∀ a ∈ (c.stateAt moves n).attempts, ∀ h, a.phase.handle? = some h →
      ∃ key, moves[h.ticket]? = some (.opened a.call (.ok key)) := by
  induction n with
  | zero =>
    intro a ha
    rw [show c.stateAt moves 0 = c by simp [stateAt, after], hc.attempts] at ha
    cases ha
  | succ n ih =>
    cases hm : moves[n]? with
    | none =>
      rw [stateAt_succ_of_none hm]
      exact ih
    | some move =>
      have t := transit_at hc hm
      generalize c.stateAt moves (n + 1) = d, c.endingsAt moves n = ended at t ⊢
      intro a ha h hh
      cases t with
      | idle _ hd | barred _ hd | undone _ _ _ hd | dropped _ hd | released _ hd =>
        rw [hd.attempts] at ha; cases ha
      | connects _ _ hd | holds _ hd => rw [hd.attempts] at ha; cases ha
      | refused => exact ih a ha h hh
      | begun _ hd _ _ _ hnone =>
        rw [hd.attempts, List.mem_singleton] at ha
        rw [ha, hnone] at hh
        cases hh
      | goes hp hd hcall _ _ hfrom =>
        rw [hd.attempts, List.mem_singleton] at ha
        subst ha
        rw [hcall]
        rcases hfrom h hh with hbefore | ⟨key, rfl, hticket⟩
        · exact ih _ hp.mem h hbefore
        · exact ⟨key, hticket ▸ hm⟩

/-- What the host holds was opened for a call that ended connected. -/
theorem held_handle (hc : c.Idle) (n : Nat) :
    ∀ h, (c.stateAt moves n).handle? = some h → ∃ call key m,
      moves[h.ticket]? = some (.opened call (.ok key)) ∧ (call, .ok ()) ∈ c.endingsAt moves m := by
  induction n with
  | zero =>
    intro h hh
    rw [show c.stateAt moves 0 = c by simp [stateAt, after], hc.handle] at hh
    cases hh
  | succ n ih =>
    cases hm : moves[n]? with
    | none =>
      rw [stateAt_succ_of_none hm]
      exact ih
    | some move =>
      have t := transit_at hc hm
      generalize c.stateAt moves (n + 1) = d, he : c.endingsAt moves n = ended at t ⊢
      intro h hh
      cases t with
      | idle _ hd | barred _ hd | undone _ _ _ hd | dropped _ hd | released _ hd =>
        rw [hd.handle] at hh; cases hh
      | begun _ hd | goes _ hd => rw [hd.handle] at hh; cases hh
      | refused => exact ih h hh
      | holds hold hd =>
        rw [hd.handle] at hh
        exact ih h (hold.handle.trans hh)
      | connects hp hphase hd =>
        rw [hd.handle] at hh
        cases hh
        obtain ⟨key, hopened⟩ := attempt_handle hc n _
          hp.mem h hphase
        exact ⟨_, key, n, hopened, by rw [he]; exact List.mem_singleton_self _⟩

/-- Nothing that was opened for a call that did not end connected is ever with a host. -/
theorem Over.detached {call : Nat} (hc : c.Idle) (hn : c.Over moves call n)
    (hend : (call, .ok ()) ∉ c.endingsAt moves n) (k : Nat) (h : Handle) (key : DeviceKey)
    (hh : (c.stateAt moves k).handle? = some h) : moves[h.ticket]? ≠ some (.opened call (.ok key)) := by
  intro hopened
  obtain ⟨other, _, m, hother, hm⟩ := held_handle hc k h hh
  cases hother.symm.trans hopened
  rw [hn.unique hc (.inl ⟨_, hm⟩)] at hend
  exact hend hm

/-! ## How calls end -/

/-- A call that is over ended in one of the ways. -/
theorem Over.endsAs {call : Nat} (hc : c.Idle) {device : RegisteredDevice} {entry : Entry}
    {stopped : Bool} (made : moves[call]? = some (.connect device entry stopped))
    (hn : c.Over moves call n) : ∃ way, c.EndsAs moves call n device way := by
  have undone : (c.stateAt moves (n + 1)).Idle →
      (c.stateAt moves call).binding + 1 < (c.stateAt moves (n + 1)).binding →
      ((∃ error, c.endingsAt moves n = [(call, .error error)]) ∨
        (moves[n]? = some (.abandon call) ∧ c.endingsAt moves n = [])) →
      c.Undone moves call n := by
    intro hi hb he
    refine ⟨he, ?_, hi.grant, hi.request, hb, fun k h key hh => hn.detached hc ?_ k h key hh⟩
    · simp [isFree, hi.state, hi.device]
    · rcases he with ⟨error, he⟩ | ⟨_, he⟩
      · rw [he]
        intro hm
        cases List.mem_singleton.mp hm
      · rw [he]
        exact List.not_mem_nil
  rcases hn.cases hc with hr | ⟨rfl, hi, hb, he⟩ | ⟨a, hp, rfl, hend⟩
  · exact ⟨.refused, hr⟩
  · exact ⟨.undone, undone hi (by omega) (.inl he)⟩
  · have ha : a ∈ (c.stateAt moves n).attempts := hp.mem
    obtain ⟨hlt, ⟨entry', stopped', hmade⟩, hbinding⟩ := attempts_made hc n a ha
    rcases hend with ⟨h, hh, hold, he⟩ | ⟨hi, hb, he⟩
    · have hdevice : a.device = device := by
        cases hmade.symm.trans made
        rfl
      obtain ⟨key, hopened⟩ := attempt_handle hc n a ha h hh
      refine ⟨.connected, he, hold.state, hdevice ▸ hold.device, h, key, hold.handle, ?_, hopened⟩
      rw [hold.key, hdevice]
    · exact ⟨.undone, undone hi (by omega) he⟩

/-- It did not end in two of them. -/
theorem EndsAs.unique {call : Nat} {device : RegisteredDevice} {way other : Way}
    (h : c.EndsAs moves call n device way) (h' : c.EndsAs moves call n device other) : other = way := by
  have connected_refused : c.Connected moves call n device → ¬c.Refused moves call n := by
    intro hc hr
    rcases hr.result with ⟨he, _⟩ | ⟨he, _⟩ <;> cases hc.result.symm.trans he
  have connected_undone : c.Connected moves call n device → ¬c.Undone moves call n := by
    intro hc hu
    rcases hu.result with ⟨error, he⟩ | ⟨_, he⟩ <;> cases hc.result.symm.trans he
  have refused_undone : c.Refused moves call n → ¬c.Undone moves call n := by
    intro hr hu
    have hb := hu.binding
    rw [hr.unchanged, hr.moment] at hb
    omega
  cases way <;> cases other <;>
    first
    | rfl
    | exact absurd h' (connected_refused h)
    | exact absurd h' (connected_undone h)
    | exact absurd h' (refused_undone h)
    | exact absurd h (connected_refused h')
    | exact absurd h (connected_undone h')
    | exact absurd h (refused_undone h')

/-- Whatever happened to the channel before a call is made on it, and whatever happens from then on: the
call is over at one moment, and then it has ended in exactly one of the three ways; or it is never over,
and goes on. It is over when it is made if it cannot begin, and else when what it waits for has come. -/
theorem call_ends (id : Nat) (transport : Transport) (threshold : Nat) (before later : List Move)
    (device : RegisteredDevice) (entry : Entry) (stopped : Bool) :
    let c := new id transport threshold
    let moves := before ++ .connect device entry stopped :: later
    let call := before.length
    ((∃ n, c.Over moves call n ∧ (∀ m, c.Over moves call m → m = n) ∧
      ∃ way, c.EndsAs moves call n device way ∧
        ∀ other, c.EndsAs moves call n device other → other = way) ∨
    ((∀ n, ¬c.Over moves call n) ∧ ∃ a, (c.after 0 moves).Pending a ∧ a.call = call)) ∧
    ∀ n, c.Over moves call n ↔ n = call ∧ (c.stateAt moves call).Rejects entry ∨
      ∃ move, moves[n]? = some move ∧ (c.stateAt moves n).Finishes call move := by
  intro c moves call
  have hc : c.Idle := new_idle id transport threshold
  have made : moves[call]? = some (.connect device entry stopped) := by simp [moves, call]
  refine ⟨?_, over_iff hc made⟩
  by_cases hover : ∃ n, c.Over moves call n
  · obtain ⟨n, hn⟩ := hover
    obtain ⟨way, hway⟩ := hn.endsAs hc made
    exact .inl ⟨n, hn, fun m hm => hm.unique hc hn, way, hway, fun other => hway.unique⟩
  · have never : ∀ n, ¬c.Over moves call n := fun n hn => hover ⟨n, hn⟩
    refine .inr ⟨never, ?_⟩
    rcases over_or_pending hc made later.length with ⟨n, hn, _⟩ | ⟨a, ha, hcall⟩
    · exact absurd hn (never n)
    · have hall : c.stateAt moves (call + later.length + 1) = c.after 0 moves := by
        rw [stateAt, List.take_of_length_le]
        simp [moves, call]
        omega
      exact ⟨a, hall ▸ ha, hcall⟩

end RemoteUsb.Channel
