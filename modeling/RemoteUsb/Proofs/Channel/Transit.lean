import RemoteUsb.Proofs.Channel.Situation

/-! What a move makes of the situation of a channel. -/

namespace RemoteUsb.Channel

/-- The calls that end, with their results. -/
def endings (effects : List Effect) : List (Nat × Except RedirectError Unit) :=
  effects.filterMap fun
    | .ended call result => some (call, result)
    | _ => none

@[simp] theorem endings_nil : endings [] = [] := rfl

@[simp] theorem endings_append (first others : List Effect) :
    endings (first ++ others) = endings first ++ endings others := List.filterMap_append

@[simp] theorem endings_cons_ended (call : Nat) (result : Except RedirectError Unit)
    (others : List Effect) : endings (.ended call result :: others) = (call, result) :: endings others :=
  rfl

@[simp] theorem endings_cons_asked (call : Nat) (bus address : UInt8) (others : List Effect) :
    endings (.asked call bus address :: others) = endings others := rfl

@[simp] theorem endings_cons_inputClosed (call : Nat) (others : List Effect) :
    endings (.inputClosed call :: others) = endings others := rfl

@[simp] theorem endings_cons_opening (call : Nat) (key : DeviceKey) (others : List Effect) :
    endings (.opening call key :: others) = endings others := rfl

@[simp] theorem endings_cons_closed (handle : Handle) (others : List Effect) :
    endings (.closed handle :: others) = endings others := rfl

@[simp] theorem endings_closed (handle : Option Handle) :
    endings (handle.map Effect.closed).toList = [] := by
  cases handle <;> rfl

@[simp] theorem endings_inputClosed (call : Option Nat) :
    endings (call.map Effect.inputClosed).toList = [] := by
  cases call <;> rfl

@[simp] theorem endings_release (c : Channel) : endings c.release.2 = [] := by
  simp [release]

@[simp] theorem endings_disconnect (c : Channel) : endings c.disconnect.2.1 = [] := by
  unfold disconnect
  split <;> first | rfl | exact endings_release c

@[simp] theorem endings_failDevice (c : Channel) (fault : DeviceFault) :
    endings (c.failDevice fault).2.1 = [] := by
  unfold failDevice
  split <;> first | rfl | exact endings_release c

@[simp] theorem endings_failBinding (c : Channel) (binding : Nat) (fault : DeviceFault) :
    endings (c.failBinding binding fault).2.1 = [] := by
  unfold failBinding
  split
  · exact endings_release c
  · rfl

@[simp] theorem endings_receive (c : Channel) (payload : Wire.Payload) :
    endings (c.receive payload).2.1 = [] := by
  unfold receive
  split
  · rfl
  · exact endings_failDevice _ _

@[simp] theorem endings_abandoned (call : Nat) (phase : Phase) : endings (abandoned call phase) = [] := by
  cases phase with
  | asking x => rfl
  | opening granted outcome =>
    rw [abandoned, endings_append, endings_closed]
    split <;> rfl

/-- What ends a pending call comes with the move: its talk with the helper ends without access, or after the
request was called off; or it goes on after its opening; or it is dropped. -/
def Finishes (c : Channel) (call : Nat) (move : Move) : Prop :=
  ∃ a ∈ c.attempts, a.call = call ∧
    ((∃ x heard result, a.phase = .asking x ∧ x.step heard = .ends result ∧
        (result = .ok () → c.state = .disconnecting) ∧ move = .signal call heard) ∨
      (∃ granted outcome, a.phase = .opening granted (some outcome) ∧ move = .resume call) ∨
      move = .abandon call)

/-- The move that a situation makes possible, the situation after it, and the calls that it ends. -/
inductive Transit (c : Channel) (now : Nat) :
    Move → Channel → List (Nat × Except RedirectError Unit) → Prop where
  | idle {move : Move} {d : Channel} (_ : c.Idle) (_ : d.Idle) (_ : d.binding = c.binding) :
    Transit c now move d []
  /-- A call finds no host, or a channel that is not free. -/
  | refused {device : RegisteredDevice} {entry : Entry} {stopped : Bool} {error : RedirectError}
      (_ : error = .contextNotSet ∧ c.host = none ∨
        error = .channelBusy ∧ c.host ≠ none ∧ c.isFree = false) :
    Transit c now (.connect device entry stopped) c [(now, .error error)]
  | begun {device : RegisteredDevice} {entry : Entry} {stopped : Bool} {d : Channel} {a : Attempt}
      (_ : c.Idle) (_ : d.Pending a) (_ : a.call = now) (_ : a.device = device)
      (_ : d.binding = c.binding + 1) (_ : a.phase.handle? = none) :
    Transit c now (.connect device entry stopped) d []
  /-- The helper of a call cannot be started. -/
  | barred {device : RegisteredDevice} {entry : Entry} {stopped : Bool} {d : Channel}
      {error : RedirectError} (_ : c.Idle) (_ : d.Idle) (_ : d.binding = c.binding + 2) :
    Transit c now (.connect device entry stopped) d [(now, .error error)]
  | goes {move : Move} {d : Channel} {a b : Attempt} (_ : c.Pending a) (_ : d.Pending b)
      (_ : b.call = a.call) (_ : b.device = a.device) (_ : d.binding = c.binding)
      (_ : ∀ h, b.phase.handle? = some h → a.phase.handle? = some h ∨
        ∃ key, move = .opened a.call (.ok key) ∧ h.ticket = now) :
    Transit c now move d []
  | connects {d : Channel} {a : Attempt} {h : Handle} (_ : c.Pending a)
      (_ : a.phase.handle? = some h) (_ : d.Holding a.device h) (_ : d.binding = c.binding) :
    Transit c now (.resume a.call) d [(a.call, .ok ())]
  | undone {move : Move} {d : Channel} {a : Attempt} {error : RedirectError} (_ : c.Pending a)
      (_ : c.Finishes a.call move) (_ : move ≠ .abandon a.call) (_ : d.Idle)
      (_ : d.binding = c.binding + 1) :
    Transit c now move d [(a.call, .error error)]
  | dropped {d : Channel} {a : Attempt} (_ : c.Pending a) (_ : d.Idle)
      (_ : d.binding = c.binding + 1) :
    Transit c now (.abandon a.call) d []
  | holds {move : Move} {d : Channel} {device : RegisteredDevice} {h : Handle}
      (_ : c.Holding device h) (_ : d.Holding device h) (_ : d.binding = c.binding) :
    Transit c now move d []
  | released {move : Move} {d : Channel} {device : RegisteredDevice} {h : Handle}
      (_ : c.Holding device h) (_ : d.Idle) (_ : d.binding = c.binding + 1) :
    Transit c now move d []

variable {c d : Channel} {now : Nat} {move : Move}

theorem Shaken.transit (e : c.Shaken d) (h : c.Sound) : Transit c now move d [] := by
  cases e with
  | same e =>
    cases h with
    | idle h => exact .idle h (h.alike e) e.binding
    | pending a h => exact .goes h (h.alike e) rfl rfl e.binding fun _ => .inl
    | holding _ _ h => exact .holds h (h.alike e) e.binding
  | calledOff hs e =>
    cases h with
    | idle h => cases h.state.symm.trans hs
    | pending a h =>
      obtain ⟨_, h'⟩ := h.cancelRequest hs
      refine .goes h (h'.alike e) rfl rfl ?_ fun _ => .inl
      exact (h'.alike e).binding.symm.trans h.binding
    | holding _ _ h => cases h.state.symm.trans hs
  | takenOff hs e =>
    cases h with
    | idle h => cases h.state.symm.trans hs
    | pending a h =>
      cases hg : a.phase.guarded with
      | true => rcases h.guarded hg with h | h <;> cases h.symm.trans hs
      | false => cases (h.unguarded hg).symm.trans hs
    | holding _ _ h => exact .released h ((release_idle h.attempts).alike e) e.binding

theorem Alike.transit (e : c.Alike d) (h : c.Sound) : Transit c now move d [] :=
  (Shaken.same e).transit h

/-! ## The moves of calls -/

/-- A call that is made is refused, or cannot start its helper, or goes on. -/
theorem connect_cases (h : c.Sound) (now : Nat) (device : RegisteredDevice) (entry : Entry) (stopped : Bool) :
    (∃ error, c.connect now device entry stopped = (c, [.ended now (.error error)]) ∧
      (error = .contextNotSet ∧ c.host = none ∨
        error = .channelBusy ∧ c.host ≠ none ∧ c.isFree = false)) ∨
    (c.Idle ∧ (c.connect now device entry stopped).1.Idle ∧
      (c.connect now device entry stopped).1.binding = c.binding + 2 ∧
      ∃ error, endings (c.connect now device entry stopped).2 = [(now, .error error)]) ∨
    (c.Idle ∧ ∃ a, (c.connect now device entry stopped).1.Pending a ∧ a.call = now ∧
      a.device = device ∧ (c.connect now device entry stopped).1.binding = c.binding + 1 ∧
      a.phase.handle? = none ∧ endings (c.connect now device entry stopped).2 = []) := by
  unfold connect bind
  by_cases hn : c.host = none
  · simp only [hn, Option.isNone_none, if_true]
    exact .inl ⟨_, rfl, .inl ⟨rfl, trivial⟩⟩
  have hsome : c.host.isNone = false := by
    cases hh : c.host with
    | none => exact absurd hh hn
    | some host => rfl
  cases hf : c.isFree with
  | false =>
    simp only [hsome, Bool.false_eq_true, if_false]
    exact .inl ⟨_, rfl, .inr ⟨rfl, hn, trivial⟩⟩
  | true =>
    have hidle : c.Idle := by
      simp only [isFree, Bool.and_eq_true, beq_iff_eq, Option.isNone_iff_eq_none] at hf
      cases h with
      | idle h => exact h
      | pending a h => cases h.device.symm.trans hf.2
      | holding _ _ h => cases h.state.symm.trans hf.1
    simp only [hsome, Bool.false_eq_true, if_false, if_true, beginConnect]
    cases entry with
    | unguarded =>
      refine .inr (.inr ⟨hidle, ⟨now, device, c.binding + 1, stopped, .opening false none⟩,
        ⟨?_, rfl, rfl, hidle.handle, hidle.grant, fun hg => ?_, fun _ => hidle.state, ?_,
          fun _ hh => ?_⟩, rfl, rfl, rfl, rfl, rfl⟩)
      · simp [hidle.attempts]
      · cases hg
      · exact hidle.request
      · cases hh
    | barred text =>
      refine .inr (.inl ⟨hidle, release_idle hidle.attempts, rfl, .accessControl (.spawn text), ?_⟩)
      simp only [endings_append, endings_release, endings_cons_ended, endings_nil, List.nil_append]
    | guarded =>
      refine .inr (.inr ⟨hidle, ⟨now, device, c.binding + 1, stopped,
        .asking (.start device.info.bus device.info.address)⟩,
        ⟨?_, rfl, rfl, hidle.handle, hidle.grant, fun _ => .inl rfl, fun hg => ?_, rfl,
          fun _ hh => ?_⟩, rfl, rfl, rfl, rfl, rfl⟩)
      · simp [hidle.attempts]
      · cases hg
      · cases hh

theorem connect_transit (h : c.Sound) (device : RegisteredDevice) (entry : Entry) (stopped : Bool) :
    Transit c now (.connect device entry stopped) (c.connect now device entry stopped).1
      (endings (c.connect now device entry stopped).2) := by
  rcases connect_cases h now device entry stopped with
    ⟨error, he, hwhy⟩ | ⟨hidle, hd, hb, error, he⟩ | ⟨hidle, a, hp, hcall, hdevice, hb, hh, he⟩
  · rw [he]
    exact .refused hwhy
  · rw [he]
    exact .barred hidle hd hb
  · rw [he]
    exact .begun hidle hp hcall hdevice hb hh

theorem stop_transit (h : c.Sound) (call : Nat) : Transit c now move (c.stop call) [] := by
  cases h with
  | idle h =>
    refine .idle h ⟨h.state, h.device, h.handle, h.grant, h.request, ?_⟩ rfl
    simp [stop, h.attempts]
  | pending a h =>
    by_cases hc : a.call = call
    · refine .goes (b := { a with stopped := true }) h ⟨?_, h.device, h.binding, h.handle, h.grant,
        h.guarded, h.unguarded, h.request, h.opened⟩ rfl rfl rfl fun _ => .inl
      simp [stop, h.attempts, hc]
    · refine .goes h ⟨?_, h.device, h.binding, h.handle, h.grant, h.guarded, h.unguarded, h.request,
        h.opened⟩ rfl rfl rfl fun _ => .inl
      simp [stop, h.attempts, hc]
  | holding _ _ h =>
    refine .holds h ⟨h.state, h.device, h.handle, h.key, h.request, ?_⟩ rfl
    simp [stop, h.attempts]

@[simp] theorem endings_failAttempt (c : Channel) (call : Nat) (granted : Bool) (error : RedirectError) :
    endings (c.failAttempt call granted error).2 = [(call, .error error)] := by
  unfold failAttempt
  cases granted <;> simp

/-- A call ends with an error, and the channel is idle again. -/
theorem Pending.failAttempt {a : Attempt} (h : c.Pending a) (granted : Bool) (error : RedirectError) :
    (c.failAttempt a.call granted error).1.Idle ∧
      (c.failAttempt a.call granted error).1.binding = c.binding + 1 ∧
      endings (c.failAttempt a.call granted error).2 = [(a.call, .error error)] :=
  ⟨release_idle h.forget, rfl, endings_failAttempt ..⟩

theorem accessDecided_transit {a : Attempt} (h : c.Pending a) {x : Access.Exchange}
    (hp : a.phase = .asking x) {heard : Access.Signal} {result : Except AccessError Unit}
    (hx : x.step heard = .ends result) :
    Transit c now (.signal a.call heard) (c.accessDecided a result).1
      (endings (c.accessDecided a result).2) := by
  have hg : a.phase.guarded = true := by rw [hp]; rfl
  have finishes (hend : result = .ok () → c.state = .disconnecting) :
      c.Finishes a.call (.signal a.call heard) :=
    ⟨a, h.mem, rfl, .inl ⟨x, heard, result, hp, hx, hend, rfl⟩⟩
  have hidle : (c.forget a.call).release.1.Idle := release_idle h.forget
  unfold accessDecided
  dsimp only
  split
  · rename_i hs
    have he (granted : Bool) : endings ((if granted = true then
        (c.forget a.call).release.2 ++ [Effect.inputClosed a.call]
        else Effect.inputClosed a.call :: (c.forget a.call).release.2) ++
          [.ended a.call (.error .cancelled)]) = [(a.call, .error .cancelled)] := by
      cases granted <;> simp
    dsimp only
    rw [he]
    exact .undone h (finishes fun _ => hs) nofun hidle rfl
  · rename_i hs
    have hwait : c.state = .waitingForAccess := (h.guarded hg).resolve_right hs
    split
    · refine .goes (b := { a with phase := .opening true none }) h ⟨?_, h.device, h.binding, h.handle,
        h.grant, fun _ => .inl hwait, fun hn => ?_, rfl, fun _ hh => ?_⟩ rfl rfl rfl fun _ hh => ?_
      · simp [setPhase, h.attempts]
      · cases hn
      · cases hh
      · cases hh
    · simp only [List.cons_append, endings_cons_inputClosed, endings_append, endings_release,
        endings_cons_ended, endings_nil, List.nil_append]
      exact .undone h (finishes nofun) nofun hidle rfl

theorem signal_transit (h : c.Sound) (call : Nat) (signal : Access.Signal) :
    Transit c now (.signal call signal) (c.signal call signal).1
      (endings (c.signal call signal).2) := by
  unfold Channel.signal
  cases h with
  | idle h => rw [attempt?_of_nil h.attempts]; exact .idle h h rfl
  | holding _ _ h => rw [attempt?_of_nil h.attempts]; exact .holds h h rfl
  | pending a h =>
    rw [h.attempt?]
    by_cases hc : a.call = call
    · subst hc
      rw [if_pos rfl]
      dsimp only
      split
      · exact .goes h h rfl rfl rfl fun _ => .inl
      · rename_i exchange hp
        split
        · rename_i x _
          have hs := h.guarded (by rw [hp]; rfl)
          refine .goes (b := { a with phase := .asking x }) h ⟨?_, h.device, h.binding, h.handle,
            h.grant, fun _ => hs, fun hn => ?_, ?_, fun _ hh => ?_⟩ rfl rfl rfl fun _ hh => ?_
          · simp [setPhase, h.attempts]
          · cases hn
          · exact h.request.trans (by rw [hp]; rfl)
          · cases hh
          · cases hh
        · exact accessDecided_transit h hp ‹_›
    · rw [if_neg hc]
      exact .goes h h rfl rfl rfl fun _ => .inl

theorem opened_transit (h : c.Sound) (call : Nat) (outcome : Except JobFault DeviceKey) :
    Transit c now (.opened call outcome) (c.opened call (outcome.map (c.handleFor call now))).1
      (endings (c.opened call (outcome.map (c.handleFor call now))).2) := by
  have hstray : ∀ o : Except JobFault Handle,
      c.Alike { c with strays := c.strays.erase call } ∧
        endings (o.toOption.map Effect.closed).toList = [] := fun o =>
    ⟨⟨rfl, rfl, rfl, rfl, rfl, rfl, rfl, rfl⟩, endings_closed _⟩
  unfold Channel.opened
  split
  · rename_i granted heq
    cases h with
    | idle h => rw [attempt?_of_nil h.attempts] at heq; cases heq
    | holding _ _ h => rw [attempt?_of_nil h.attempts] at heq; cases heq
    | pending a h =>
      rw [h.attempt?] at heq
      split at heq
      · rename_i hc
        have hp : a.phase = .opening granted none := by rw [Option.some.inj heq]
        refine .goes
          (b := { a with phase := .opening granted (some (outcome.map (c.handleFor call now))) }) h
          ⟨?_, h.device, h.binding, h.handle, h.grant, fun hg => h.guarded (by rw [hp]; exact hg),
            fun hg => h.unguarded (by rw [hp]; exact hg), h.request.trans (by rw [hp]; rfl),
            fun handle hh => ?_⟩ rfl rfl rfl fun handle hh => .inr ?_
        · simp [setPhase, h.attempts, hc]
        · cases outcome with
          | error fault => cases hh
          | ok key =>
            cases hh
            simp [handleFor, h.attempt?, hc]
        · cases outcome with
          | error fault => cases hh
          | ok key =>
            cases hh
            exact ⟨key, by rw [hc], rfl⟩
      · cases heq
  · dsimp only
    rw [(hstray _).2]
    exact (hstray (.error .died)).1.transit h

theorem attach_transit {a : Attempt} {granted : Bool} {handle : Handle} (h : c.Pending a)
    (hp : a.phase = .opening granted (some (.ok handle))) :
    Transit c now (.resume a.call) (c.attach a.call granted handle).1
      (endings (c.attach a.call granted handle).2) := by
  have hk : handle.key = a.device.key := h.opened handle (by rw [hp]; rfl)
  have finishes : c.Finishes a.call (.resume a.call) := ⟨a, h.mem, rfl, .inr (.inl ⟨_, _, hp, rfl⟩)⟩
  unfold Channel.attach
  split
  · obtain ⟨hidle, hb, he⟩ := h.failAttempt granted .cancelled
    dsimp only
    rw [endings_cons_closed, he]
    exact .undone h finishes nofun hidle hb
  · split
    · obtain ⟨hidle, hb, he⟩ := h.failAttempt granted .contextNotSet
      dsimp only
      rw [endings_cons_closed, he]
      exact .undone h finishes nofun hidle hb
    · rename_i host hh
      have hnone : host.handle = none := by
        have := h.handle
        simpa [handle?, hh] using this
      unfold Host.attach
      cases hfault : host.attachFault with
      | some error =>
        have h' : ({ c with host := some { host with attachFault := none } } : Channel).Pending a :=
          h.alike ⟨rfl, rfl, rfl, by simp [handle?, hh], rfl, rfl, rfl, rfl⟩
        obtain ⟨hidle, hb, he⟩ := h'.failAttempt granted (.host error)
        dsimp only
        rw [endings_append, endings_closed, he]
        exact .undone h finishes nofun hidle hb
      | none =>
        simp only [endings_append, endings_closed, endings_inputClosed, endings_cons_ended,
          endings_nil, List.nil_append]
        exact .connects h (by rw [hp]; rfl)
          ⟨rfl, h.device, rfl, hk, rfl, h.forget⟩ rfl

theorem resume_transit (h : c.Sound) (call : Nat) :
    Transit c now (.resume call) (c.resume call).1 (endings (c.resume call).2) := by
  have hsame : Transit c now (.resume call) c [] := (Alike.refl c).transit h
  unfold Channel.resume
  cases h with
  | idle h => rw [attempt?_of_nil h.attempts]; exact hsame
  | holding _ _ h => rw [attempt?_of_nil h.attempts]; exact hsame
  | pending a h =>
    rw [h.attempt?]
    by_cases hc : a.call = call
    · subst hc
      rw [if_pos rfl]
      split
      · rename_i granted handle heq
        cases heq
        exact attach_transit h rfl
      · rename_i granted fault heq
        cases heq
        obtain ⟨hidle, hb, he⟩ := h.failAttempt granted (fault.toError .openFailed)
        rw [he]
        exact .undone h ⟨_, h.mem, rfl, .inr (.inl ⟨_, _, rfl, rfl⟩)⟩ nofun hidle hb
      · exact hsame
    · rw [if_neg hc]
      exact hsame

/-- A call that is dropped leaves the channel idle. -/
theorem Pending.abandon {a : Attempt} (h : c.Pending a) :
    (c.abandon a.call).1.Idle ∧ (c.abandon a.call).1.binding = c.binding + 1 ∧
      endings (c.abandon a.call).2 = [] := by
  have hstate : c.state ≠ .connected := by
    cases hg : a.phase.guarded with
    | true => rcases h.guarded hg with h | h <;> rw [h] <;> decide
    | false => rw [h.unguarded hg]; decide
  have hstop : ∀ strays : List Nat,
      let b : Channel := { c.forget a.call with strays }
      b.stopRequest.attempts = [] ∧ b.stopRequest.binding = c.binding := by
    intro strays b
    have hb : b.attempts = [] := h.forget
    unfold stopRequest
    split
    · exact ⟨by simp [stop, hb], rfl⟩
    · exact ⟨hb, rfl⟩
  unfold Channel.abandon
  rw [h.attempt?, if_pos rfl]
  dsimp only
  rw [if_pos ⟨h.binding.symm, hstate⟩]
  refine ⟨release_idle (hstop _).1, congrArg (· + 1) (hstop _).2, ?_⟩
  rw [endings_append, endings_abandoned, endings_release]
  rfl

theorem abandon_transit (h : c.Sound) (call : Nat) :
    Transit c now (.abandon call) (c.abandon call).1 (endings (c.abandon call).2) := by
  have hsame : c.attempt? call = none → Transit c now (.abandon call) (c.abandon call).1
      (endings (c.abandon call).2) := by
    intro hn
    unfold Channel.abandon
    rw [hn]
    exact (Alike.refl c).transit h
  cases h with
  | idle h => exact hsame (attempt?_of_nil h.attempts call)
  | holding _ _ h => exact hsame (attempt?_of_nil h.attempts call)
  | pending a h =>
    by_cases hc : a.call = call
    · subst hc
      obtain ⟨hidle, hb, he⟩ := h.abandon
      rw [he]
      exact .dropped h hidle hb
    · exact hsame (by rw [h.attempt?, if_neg hc])

/-! ## All moves -/

/-- Every move of a channel in one of the situations is one of the transits. -/
theorem step_transit (h : c.Sound) (now : Nat) (move : Move) :
    Transit c now move (c.step now move).1 (endings (c.step now move).2) := by
  cases move with
  | connect device entry stopped => exact connect_transit h device entry stopped
  | stop call => exact stop_transit h call
  | signal call signal => exact signal_transit h call signal
  | opened call outcome => exact opened_transit h call outcome
  | resume call => exact resume_transit h call
  | abandon call => exact abandon_transit h call
  | disconnect =>
    rw [show endings (c.step now .disconnect).2 = [] from endings_disconnect c]
    exact (disconnect_shaken c).transit h
  | reset made =>
    rw [show endings (c.step now (.reset made)).2 = [] from endings_disconnect c]
    exact (reset_shaken h made).transit h
  | failDevice fault =>
    rw [show endings (c.step now (.failDevice fault)).2 = [] from endings_failDevice c fault]
    exact (failDevice_shaken c fault).transit h
  | failBinding binding fault =>
    rw [show endings (c.step now (.failBinding binding fault)).2 = [] from
      endings_failBinding c binding fault]
    exact (failBinding_shaken c binding fault).transit h
  | receive payload =>
    rw [show endings (c.step now (.receive payload)).2 = [] from endings_receive c payload]
    exact (receive_shaken c payload).transit h
  | setContext host => exact (setContext_alike h host).transit h
  | flush => exact (flush_alike c).transit h
  | stir act => exact (stir_alike c act).transit h

/-- The situations are kept. -/
theorem Transit.sound {ended : List (Nat × Except RedirectError Unit)}
    (t : Transit c now move d ended) (h : c.Sound) : d.Sound := by
  cases t with
  | refused => exact h
  | idle _ h | barred _ h | undone _ _ _ h | dropped _ h | released _ h => exact .idle h
  | begun _ h | goes _ h => exact .pending _ h
  | connects _ _ h | holds _ h => exact .holding _ _ h

theorem step_sound (h : c.Sound) (now : Nat) (move : Move) : (c.step now move).1.Sound :=
  (step_transit h now move).sound h

theorem new_idle (id : Nat) (transport : Transport) (threshold : Nat) :
    (new id transport threshold).Idle := ⟨rfl, rfl, rfl, rfl, rfl, rfl⟩

/-- Whatever happens to a channel, it stays in one of the situations. -/
theorem after_sound (h : c.Sound) (now : Nat) (moves : List Move) : (c.after now moves).Sound := by
  induction moves generalizing c now with
  | nil => exact h
  | cons move moves ih => exact ih (step_sound h now move) (now + 1)

/-! ## What stays -/

theorem Shaken.id {d : Channel} (h : c.Shaken d) : d.id = c.id := by
  cases h with
  | same h => exact h.id
  | calledOff _ h =>
    refine h.id.trans ?_
    unfold Channel.cancelRequest stopRequest
    split <;> rfl
  | takenOff _ h => exact h.id

theorem connect_id (c : Channel) (call : Nat) (device : RegisteredDevice) (entry : Entry) (stopped : Bool) :
    (c.connect call device entry stopped).1.id = c.id := by
  unfold connect bind
  split
  · rfl
  · rename_i bound hbind
    have hid : bound.id = c.id := by
      split at hbind
      · cases hbind
      · split at hbind <;> cases hbind
        rfl
    unfold beginConnect
    split
    · exact hid
    · split <;> exact hid

theorem accessDecided_id (c : Channel) (a : Attempt) (result : Except AccessError Unit) :
    (c.accessDecided a result).1.id = c.id := by
  unfold accessDecided
  dsimp only
  split
  · rfl
  · split <;> rfl

theorem signal_id (c : Channel) (call : Nat) (signal : Access.Signal) :
    (c.signal call signal).1.id = c.id := by
  unfold Channel.signal
  split
  · rfl
  · split
    · rfl
    · split
      · rfl
      · exact accessDecided_id ..

theorem resume_id (c : Channel) (call : Nat) : (c.resume call).1.id = c.id := by
  unfold Channel.resume
  split
  · unfold Channel.attach
    split
    · rfl
    · split
      · rfl
      · split <;> rfl
  · rfl
  · rfl

theorem opened_id (c : Channel) (call : Nat) (outcome : Except JobFault Handle) :
    (c.opened call outcome).1.id = c.id := by
  unfold Channel.opened
  split <;> rfl

theorem abandon_id (c : Channel) (call : Nat) : (c.abandon call).1.id = c.id := by
  unfold Channel.abandon
  split
  · rfl
  · dsimp only
    split
    · show (stopRequest _).id = c.id
      unfold stopRequest
      split <;> rfl
    · rfl

/-- No move changes the number of a channel. -/
theorem step_id (h : c.Sound) (now : Nat) (move : Move) : (c.step now move).1.id = c.id := by
  cases move with
  | connect => exact connect_id ..
  | stop => rfl
  | signal => exact signal_id ..
  | opened => exact opened_id ..
  | resume => exact resume_id ..
  | abandon => exact abandon_id ..
  | disconnect => exact (disconnect_shaken c).id
  | reset made => exact (reset_shaken h made).id
  | failDevice fault => exact (failDevice_shaken c fault).id
  | failBinding binding fault => exact (failBinding_shaken c binding fault).id
  | receive payload => exact (receive_shaken c payload).id
  | setContext host => exact (setContext_alike h host).id
  | flush => exact (flush_alike c).id
  | stir act => rfl

/-- A device is only bound by a call. -/
theorem step_key? (h : c.Sound) (now : Nat) {move : Move} (hm : move.connects = false)
    {key : DeviceKey} (hk : (c.step now move).1.key? = some key) : c.key? = some key := by
  have none : ∀ {d : Channel}, d.device = none → d.key? ≠ some key := by
    intro d hd
    rw [key?, hd]
    exact (Option.some_ne_none key).symm
  have t := step_transit h now move
  generalize (c.step now move).1 = d, endings (c.step now move).2 = ended at t hk
  cases t with
  | idle _ hd | undone _ _ _ hd | dropped _ hd | released _ hd => exact absurd hk (none hd.device)
  | refused | begun | barred => cases hm
  | goes hp hd _ hdevice => rwa [key?, hd.device, hdevice, ← hp.device] at hk
  | connects hp _ hd => rwa [key?, hd.device, ← hp.device] at hk
  | holds hh hd => rwa [key?, hd.device, ← hh.device] at hk

/-- A call binds the device that it is about, or none. -/
theorem connect_key? (h : c.Sound) {call : Nat} {device : RegisteredDevice} {entry : Entry}
    {stopped : Bool} {key : DeviceKey}
    (hk : (c.connect call device entry stopped).1.key? = some key) :
    c.key? = some key ∨ device.key = key := by
  rcases connect_cases h call device entry stopped with
    ⟨_, he, _⟩ | ⟨_, hidle, _⟩ | ⟨_, a, hp, _, hdevice, _⟩
  · rw [he] at hk
    exact .inl hk
  · rw [key?, hidle.device] at hk
    cases hk
  · rw [key?, hp.device, hdevice] at hk
    exact .inr (Option.some.inj hk)

end RemoteUsb.Channel
