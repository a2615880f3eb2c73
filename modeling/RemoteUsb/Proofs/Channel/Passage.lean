import RemoteUsb.Proofs.Channel.Calls
import RemoteUsb.Proofs.Channel.Outcome

/-! # Everything that a move does outside

`Transit` says what a move makes of a channel and which calls it ends. `Passage` also says what else is
done outside: which helper is asked, which opening is begun, and which handles and inputs are closed, in
order. A call that ends without its device closes what `abandoned` says of its phase, whatever it ends by. -/

namespace RemoteUsb.Channel

/-- What is done outside when an opening was done that nobody waits for. -/
def closing (outcome : Except JobFault Handle) : List Effect := (outcome.toOption.map Effect.closed).toList

/-- The error with which a call ends that did not get access. -/
def refusal (state : ChannelState) (result : Except AccessError Unit) : RedirectError :=
  if state = .disconnecting then .cancelled
  else match result with
    | .error error => if error = .cancelled then .cancelled else .accessControl error
    | .ok () => .cancelled

/-- The move brings what the channel does not pass over: what was opened in the background, or a signal in
the talk that a call has with its helper. -/
def Minds (c : Channel) : Move → Prop
  | .opened .. => True
  | .signal call _ => ∃ a ∈ c.attempts, a.call = call ∧ a.phase.isAsking = true
  | _ => False

/-- A move, the channel after it, and all that it does outside. -/
inductive Passage (c : Channel) (now : Nat) : Move → Channel → List Effect → Prop where
  | alike {move : Move} {d : Channel} (_ : ¬c.Minds move) (_ : c.Alike d) :
      Passage c now move d []
  /-- An opening is done that nobody waits for. -/
  | stray {call : Nat} {outcome : Except JobFault DeviceKey} {d : Channel} (_ : c.Alike d)
      (_ : ∀ granted, ∀ a ∈ c.attempts, a.call = call → a.phase ≠ .opening granted none) :
      Passage c now (.opened call outcome) d (closing (outcome.map (c.handleFor call now)))
  | refused {device : RegisteredDevice} {entry : Entry} {stopped : Bool} {error : RedirectError} :
      Passage c now (.connect device entry stopped) c [.ended now (.error error)]
  | barred {device : RegisteredDevice} {entry : Entry} {stopped : Bool} {d : Channel}
      {error : RedirectError} (_ : c.Idle) (_ : d.Idle) (_ : d.binding = c.binding + 2) :
      Passage c now (.connect device entry stopped) d [.ended now (.error error)]
  | opens {device : RegisteredDevice} {stopped : Bool} {d : Channel} (_ : c.Idle)
      (_ : d.Pending ⟨now, device, d.binding, stopped, .opening false none⟩)
      (_ : d.binding = c.binding + 1) :
      Passage c now (.connect device .unguarded stopped) d [.opening now device.key]
  | asks {device : RegisteredDevice} {stopped : Bool} {d : Channel} (_ : c.Idle)
      (_ : d.Pending ⟨now, device, d.binding, stopped,
        .asking (.start device.info.bus device.info.address)⟩)
      (_ : d.binding = c.binding + 1) (_ : d.state = .waitingForAccess) :
      Passage c now (.connect device .guarded stopped) d
        [.asked now device.info.bus device.info.address]
  /-- The call is told to stop, or its request is called off. -/
  | waits {move : Move} {d : Channel} {a : Attempt} {stopped : Bool} (_ : ¬c.Minds move)
      (_ : c.Pending a) (_ : d.Pending { a with stopped }) (_ : d.binding = c.binding)
      (_ : d.state = c.state ∨ c.state = .waitingForAccess ∧ d.state = .disconnecting) :
      Passage c now move d []
  | talks {heard : Access.Signal} {d : Channel} {a : Attempt} {x y : Access.Exchange}
      (_ : c.Pending a) (_ : a.phase = .asking x) (_ : x.step heard = .goes y)
      (_ : d.Pending { a with phase := .asking y }) (_ : d.binding = c.binding) (_ : d.state = c.state) :
      Passage c now (.signal a.call heard) d []
  | granted {heard : Access.Signal} {d : Channel} {a : Attempt} {x : Access.Exchange}
      (_ : c.Pending a) (_ : a.phase = .asking x) (_ : x.step heard = .ends (.ok ()))
      (_ : c.state = .waitingForAccess) (_ : d.Pending { a with phase := .opening true none })
      (_ : d.binding = c.binding) (_ : d.state = c.state) :
      Passage c now (.signal a.call heard) d [.opening a.call a.device.key]
  | denied {heard : Access.Signal} {d : Channel} {a : Attempt} {x : Access.Exchange}
      {result : Except AccessError Unit} (_ : c.Pending a) (_ : a.phase = .asking x)
      (_ : x.step heard = .ends result) (_ : d.Idle) (_ : d.binding = c.binding + 1) :
      Passage c now (.signal a.call heard) d
        (abandoned a.call a.phase ++ [.ended a.call (.error (refusal c.state result))])
  /-- The opening that a call waits for is done. -/
  | done {outcome : Except JobFault DeviceKey} {d : Channel} {a : Attempt} {granted : Bool}
      (_ : c.Pending a) (_ : a.phase = .opening granted none)
      (_ : d.Pending { a with phase := .opening granted (some (outcome.map (c.handleFor a.call now))) })
      (_ : d.binding = c.binding) (_ : d.state = c.state) :
      Passage c now (.opened a.call outcome) d []
  | connects {d : Channel} {a : Attempt} {granted : Bool} {handle : Handle} (_ : c.Pending a)
      (_ : a.phase = .opening granted (some (.ok handle))) (_ : c.state ≠ .disconnecting)
      (_ : d.Holding a.device handle) (_ : d.grant = if granted then some a.call else none)
      (_ : d.binding = c.binding) :
      Passage c now (.resume a.call) d [.ended a.call (.ok ())]
  /-- The opening failed, or what was opened did not get to the host. -/
  | failed {d : Channel} {a : Attempt} {granted : Bool} {outcome : Except JobFault Handle}
      {error : RedirectError} (_ : c.Pending a) (_ : a.phase = .opening granted (some outcome))
      (_ : ∀ fault, outcome = .error fault → error = fault.toError .openFailed)
      (_ : ∀ handle, outcome = .ok handle → c.state = .disconnecting → error = .cancelled)
      (_ : d.Idle) (_ : d.binding = c.binding + 1) :
      Passage c now (.resume a.call) d (abandoned a.call a.phase ++ [.ended a.call (.error error)])
  | dropped {d : Channel} {a : Attempt} (_ : c.Pending a) (_ : d.Idle) (_ : d.binding = c.binding + 1) :
      Passage c now (.abandon a.call) d (abandoned a.call a.phase)
  | released {move : Move} {d : Channel} {device : RegisteredDevice} {handle : Handle}
      (_ : ¬c.Minds move) (_ : c.Holding device handle) (_ : d.Idle)
      (_ : d.binding = c.binding + 1) :
      Passage c now move d (.closed handle :: (c.grant.map Effect.inputClosed).toList)

variable {c d : Channel} {now : Nat} {move : Move} {a : Attempt}

/-! ## What a release closes -/

theorem release_effects (hh : c.handle? = none) (hg : c.grant = none) : c.release.2 = [] := by
  simp [release, hh, hg]

theorem stopRequest_release_effects (hh : c.handle? = none) (hg : c.grant = none) :
    c.stopRequest.release.2 = [] := by
  refine release_effects ?_ ?_ <;> unfold stopRequest <;> split <;> assumption

/-- A call holds nothing that a release would close. -/
theorem Pending.release_effects (h : c.Pending a) : (c.forget a.call).release.2 = [] :=
  Channel.release_effects h.handle h.grant

theorem Holding.release_effects {device : RegisteredDevice} {handle : Handle}
    (h : c.Holding device handle) :
    c.release.2 = .closed handle :: (c.grant.map Effect.inputClosed).toList := by
  simp [Channel.release, h.handle]

/-- A call that ends with an error closes what belongs to its phase. -/
theorem Pending.failAttempt_effects (h : c.Pending a) (granted : Bool) (error : RedirectError) :
    (c.failAttempt a.call granted error).2 =
      abandoned a.call (.opening granted none) ++ [.ended a.call (.error error)] := by
  change (c.forget a.call).release.2 ++ _ ++ _ = _
  rw [h.release_effects]
  cases granted <;> rfl

/-! ## The moves of calls -/

theorem connect_passage (h : c.Sound) (device : RegisteredDevice) (entry : Entry) (stopped : Bool) :
    Passage c now (.connect device entry stopped) (c.connect now device entry stopped).1
      (c.connect now device entry stopped).2 := by
  unfold connect bind
  split
  · rename_i error hbind
    exact .refused
  · rename_i bound hbind
    split at hbind
    · cases hbind
    split at hbind
    · rename_i hfree
      cases hbind
      have hidle : c.Idle := h.idle_of_isFree hfree
      unfold beginConnect
      cases entry with
      | unguarded =>
        refine .opens hidle ⟨?_, rfl, rfl, hidle.handle, hidle.grant, nofun, fun _ => hidle.state,
          hidle.request, nofun⟩ rfl
        simp [hidle.attempts]
      | barred text =>
        have he := Channel.release_effects (c := { c with device := some device, binding := c.binding + 1 })
          hidle.handle hidle.grant
        dsimp only
        rw [he]
        exact .barred hidle (release_idle hidle.attempts) rfl
      | guarded =>
        refine .asks hidle ⟨?_, rfl, rfl, hidle.handle, hidle.grant, fun _ => .inl rfl, nofun, rfl,
          nofun⟩ rfl rfl
        simp [hidle.attempts]
    · cases hbind

theorem stop_passage (h : c.Sound) (call : Nat) : Passage c now (.stop call) (c.stop call) [] := by
  have same : c.attempts = [] → Passage c now (.stop call) (c.stop call) [] := by
    intro hn
    exact .alike not_false ⟨rfl, rfl, rfl, rfl, rfl, rfl, by simp [stop, hn], rfl⟩
  cases h with
  | idle h => exact same h.attempts
  | holding _ _ h => exact same h.attempts
  | pending a h =>
    have hpending : (c.stop call).Pending { a with stopped := if a.call = call then true else a.stopped } := by
      refine ⟨?_, h.device, h.binding, h.handle, h.grant, h.guarded, h.unguarded, h.request, h.opened⟩
      by_cases hc : a.call = call <;> simp [stop, h.attempts, hc]
    exact .waits not_false h hpending rfl (.inl rfl)

theorem accessDecided_passage (h : c.Pending a) {x : Access.Exchange} (hp : a.phase = .asking x)
    {heard : Access.Signal} {result : Except AccessError Unit} (hx : x.step heard = .ends result) :
    Passage c now (.signal a.call heard) (c.accessDecided a result).1 (c.accessDecided a result).2 := by
  have hg : a.phase.guarded = true := by rw [hp]; rfl
  have hidle : (c.forget a.call).release.1.Idle := release_idle h.forget
  have hdenied : Passage c now _ _ _ := .denied h hp hx hidle rfl
  have hrelease := h.release_effects
  unfold accessDecided
  unfold refusal at hdenied
  dsimp only
  rw [hrelease]
  split
  · rename_i hs
    rw [if_pos hs, hp] at hdenied
    cases result <;> exact hdenied
  · rename_i hs
    have hwait : c.state = .waitingForAccess := (h.guarded hg).resolve_right hs
    cases result with
    | ok u =>
      refine .granted h hp hx hwait ⟨?_, h.device, h.binding, h.handle, h.grant, fun _ => .inl hwait,
        nofun, rfl, nofun⟩ rfl rfl
      simp [setPhase, h.attempts]
    | error error =>
      rw [if_neg hs, hp] at hdenied
      exact hdenied

theorem signal_passage (h : c.Sound) (call : Nat) (heard : Access.Signal) :
    Passage c now (.signal call heard) (c.signal call heard).1 (c.signal call heard).2 := by
  have same : ¬c.Minds (.signal call heard) → Passage c now (.signal call heard) c [] :=
    fun hm => .alike hm (.refl c)
  have nobody : c.attempts = [] → ¬c.Minds (.signal call heard) := by
    rintro hn ⟨a, ha, _⟩
    rw [hn] at ha
    cases ha
  unfold Channel.signal
  cases h with
  | idle h => rw [attempt?_of_nil h.attempts]; exact same (nobody h.attempts)
  | holding _ _ h => rw [attempt?_of_nil h.attempts]; exact same (nobody h.attempts)
  | pending a h =>
    have hminds : c.Minds (.signal call heard) ↔ a.call = call ∧ a.phase.isAsking = true := by
      simp [Minds, h.attempts]
    rw [h.attempt?]
    by_cases hc : a.call = call
    · subst hc
      rw [if_pos rfl]
      dsimp only
      split
      · rename_i hp
        refine same fun hm => ?_
        have := (hminds.mp hm).2
        rw [hp] at this
        cases this
      · rename_i x hp
        split
        · rename_i y hx
          have hs := h.guarded (by rw [hp]; rfl)
          refine .talks h hp hx ⟨?_, h.device, h.binding, h.handle, h.grant, fun _ => hs, nofun, ?_,
            nofun⟩ rfl rfl
          · simp [setPhase, h.attempts]
          · exact h.request.trans (by rw [hp]; rfl)
        · exact accessDecided_passage h hp ‹_›
    · rw [if_neg hc]
      exact same fun hm => hc (hminds.mp hm).1

theorem opened_passage (h : c.Sound) (call : Nat) (outcome : Except JobFault DeviceKey) :
    Passage c now (.opened call outcome) (c.opened call (outcome.map (c.handleFor call now))).1
      (c.opened call (outcome.map (c.handleFor call now))).2 := by
  unfold Channel.opened
  split
  · rename_i granted heq
    cases h with
    | idle h => rw [attempt?_of_nil h.attempts] at heq; cases heq
    | holding _ _ h => rw [attempt?_of_nil h.attempts] at heq; cases heq
    | pending a h =>
      rw [h.attempt?] at heq
      split at heq
      · rename_i hc
        subst hc
        have hp : a.phase = .opening granted none := by rw [Option.some.inj heq]
        refine .done h hp ⟨?_, h.device, h.binding, h.handle, h.grant,
          fun hg => h.guarded (by rw [hp]; exact hg), fun hg => h.unguarded (by rw [hp]; exact hg),
          h.request.trans (by rw [hp]; rfl), fun handle hh => ?_⟩ rfl rfl
        · simp [setPhase, h.attempts]
        · cases outcome with
          | error fault => cases hh
          | ok key =>
            cases hh
            simp [handleFor, h.attempt?]
      · cases heq
  · rename_i hnot
    refine .stray ⟨rfl, rfl, rfl, rfl, rfl, rfl, rfl, rfl⟩ fun granted a ha hc hp => ?_
    have hpending := h.pending_of_mem ha
    refine hnot a.call a.device a.binding a.stopped granted ?_
    rw [hpending.attempt?, if_pos hc, ← hp]

theorem attach_passage {granted : Bool} {handle : Handle} (h : c.Pending a)
    (hp : a.phase = .opening granted (some (.ok handle))) :
    Passage c now (.resume a.call) (c.attach a.call granted handle).1
      (c.attach a.call granted handle).2 := by
  -- what does not get to the host is closed before the input of the helper
  have fails : ∀ {d : Channel} {error : RedirectError}, d.Pending a → d.binding = c.binding →
      (c.state = .disconnecting → error = .cancelled) →
      Passage c now (.resume a.call) (d.failAttempt a.call granted error).1
        (.closed handle :: (d.failAttempt a.call granted error).2) := by
    intro d error hd hb herror
    obtain ⟨hidle, hnext, _⟩ := hd.failAttempt granted error
    have hfailed : Passage c now _ _ _ :=
      .failed h hp nofun (fun _ _ => herror) hidle (by rw [hnext, hb])
    rw [hp] at hfailed
    rw [hd.failAttempt_effects]
    exact hfailed
  unfold Channel.attach
  split
  · exact fails h rfl fun _ => rfl
  · rename_i hs
    split
    · exact fails h rfl fun hd => absurd hd hs
    · rename_i host hh
      have hnone : host.handle = none := by simpa [handle?, hh] using h.handle
      unfold Host.attach
      cases host.attachFault with
      | some error =>
        have hd : ({ c with host := some { host with attachFault := none } } : Channel).Pending a :=
          h.alike ⟨rfl, rfl, rfl, by simp [handle?, hh], rfl, rfl, rfl, rfl⟩
        exact fails hd rfl fun hd => absurd hd hs
      | none =>
        dsimp only
        rw [hnone, h.grant]
        exact .connects h hp hs
          ⟨rfl, h.device, rfl, h.opened handle (by rw [hp]; rfl), rfl, h.forget⟩ rfl rfl

theorem resume_passage (h : c.Sound) (call : Nat) :
    Passage c now (.resume call) (c.resume call).1 (c.resume call).2 := by
  have same : Passage c now (.resume call) c [] := .alike not_false (.refl c)
  unfold Channel.resume
  cases h with
  | idle h => rw [attempt?_of_nil h.attempts]; exact same
  | holding _ _ h => rw [attempt?_of_nil h.attempts]; exact same
  | pending a h =>
    rw [h.attempt?]
    by_cases hc : a.call = call
    · subst hc
      rw [if_pos rfl]
      split
      · rename_i heq
        cases heq
        exact attach_passage h rfl
      · rename_i granted fault heq
        cases heq
        obtain ⟨hidle, hb, _⟩ := h.failAttempt granted (fault.toError .openFailed)
        rw [h.failAttempt_effects]
        exact .failed h rfl (fun _ hf => by cases hf; rfl) nofun hidle hb
      · exact same
    · rw [if_neg hc]
      exact same

theorem abandon_passage (h : c.Sound) (call : Nat) :
    Passage c now (.abandon call) (c.abandon call).1 (c.abandon call).2 := by
  have same : c.attempt? call = none → Passage c now (.abandon call) (c.abandon call).1
      (c.abandon call).2 := by
    intro hn
    unfold Channel.abandon
    rw [hn]
    exact .alike not_false (.refl c)
  cases h with
  | idle h => exact same (attempt?_of_nil h.attempts call)
  | holding _ _ h => exact same (attempt?_of_nil h.attempts call)
  | pending a h =>
    by_cases hc : a.call = call
    · subst hc
      obtain ⟨hidle, hb, _⟩ := h.abandon
      have hdropped : Passage c now _ _ _ := .dropped h hidle hb
      have hrelease : ∀ strays, ({ c.forget a.call with strays } : Channel).stopRequest.release.2 = [] :=
        fun strays => stopRequest_release_effects (c := { c.forget a.call with strays }) h.handle h.grant
      have heffects : (c.abandon a.call).2 = abandoned a.call a.phase := by
        unfold Channel.abandon
        rw [h.attempt?, if_pos rfl]
        dsimp only
        rw [if_pos ⟨h.binding.symm, h.not_connected⟩]
        dsimp only
        rw [hrelease, List.append_nil]
      rw [heffects]
      exact hdropped
    · exact same (by rw [h.attempt?, if_neg hc])

/-! ## What takes a device off -/

/-- What shakes a channel closes something outside exactly if it takes off a device. -/
theorem Shaken.passage (h : c.Shaken d) (move : Move) (hm : ¬c.Minds move) (hs : c.Sound)
    {effects : List Effect}
    (he : effects = if c.state = .connected ∧ d.state ≠ .connected then c.release.2 else []) :
    Passage c now move d effects := by
  cases h with
  | same e =>
    rw [if_neg fun hc => hc.2 (e.state.trans hc.1)] at he
    exact he ▸ .alike hm e
  | calledOff hw e =>
    rw [if_neg fun hc => by cases hw.symm.trans hc.1] at he
    cases hs with
    | idle h => cases h.state.symm.trans hw
    | holding _ _ h => cases h.state.symm.trans hw
    | pending a h =>
      obtain ⟨stopped, hd⟩ := h.cancelRequest hw
      have hb : d.binding = c.binding := e.binding.trans (hd.binding.symm.trans h.binding)
      exact he ▸ .waits hm h (hd.alike e) hb (.inr ⟨hw, e.state⟩)
  | takenOff hw e =>
    have hfree : d.state = .disconnected := e.state
    rw [if_pos ⟨hw, by rw [hfree]; decide⟩] at he
    obtain ⟨device, handle, hold⟩ := hs.holding_of_connected hw
    rw [he, hold.release_effects]
    exact .released hm hold ((release_idle hold.attempts).alike e) e.binding

theorem disconnect_effects (c : Channel) : c.disconnect.2.1 =
    if c.state = .connected ∧ c.disconnect.1.state ≠ .connected then c.release.2 else [] := by
  unfold disconnect
  split <;> rename_i hs <;> simp [hs, release]

theorem failDevice_effects (c : Channel) (fault : DeviceFault) : (c.failDevice fault).2.1 =
    if c.state = .connected ∧ (c.failDevice fault).1.state ≠ .connected then c.release.2 else [] := by
  unfold failDevice
  split <;> rename_i hs <;> simp [hs, release]

theorem failBinding_effects (c : Channel) (binding : Nat) (fault : DeviceFault) :
    (c.failBinding binding fault).2.1 =
      if c.state = .connected ∧ (c.failBinding binding fault).1.state ≠ .connected then c.release.2
      else [] := by
  unfold failBinding
  split
  · rename_i hs
    simp [hs.2, release]
  · rw [if_neg fun h => h.2 h.1]

theorem receive_passage (h : c.Sound) (payload : Wire.Payload) :
    Passage c now (.receive payload) (c.receive payload).1 (c.receive payload).2.1 := by
  have e := hear_alike c payload
  have hshaken := receive_shaken c payload
  unfold receive at hshaken ⊢
  split
  · rename_i d heq
    rw [heq] at e
    exact .alike not_false e
  · rename_i d fault heq
    rw [heq] at e hshaken
    refine hshaken.passage (.receive payload) not_false h ?_
    have hhandle : d.handle? = c.handle? := e.handle
    have hgrant : d.grant = c.grant := e.grant
    have hrelease : c.release.2 = d.release.2 := by simp [release, hhandle, hgrant]
    rw [hrelease, ← e.state]
    exact failDevice_effects d fault

theorem reset_passage (h : c.Sound) (made : Option Host) :
    Passage c now (.reset made) (c.reset (made.map Host.detach)).1 (c.reset (made.map Host.detach)).2 := by
  refine (reset_shaken h made).passage (.reset made) not_false h ?_
  have hstate : (c.reset (made.map Host.detach)).1.state = c.disconnect.1.state := by
    change (c.disconnect.1.renew _).1.state = _
    unfold renew
    split <;> rfl
  rw [hstate]
  exact disconnect_effects c

/-! ## All moves -/

/-- Every move of a channel in one of the situations is one of the passages. -/
theorem step_passage (h : c.Sound) (now : Nat) (move : Move) :
    Passage c now move (c.step now move).1 (c.step now move).2 := by
  cases move with
  | connect device entry stopped => exact connect_passage h device entry stopped
  | stop call => exact stop_passage h call
  | signal call heard => exact signal_passage h call heard
  | opened call outcome => exact opened_passage h call outcome
  | resume call => exact resume_passage h call
  | abandon call => exact abandon_passage h call
  | disconnect => exact (disconnect_shaken c).passage .disconnect not_false h (disconnect_effects c)
  | reset made => exact reset_passage h made
  | failDevice fault =>
    exact (failDevice_shaken c fault).passage (.failDevice fault) not_false h (failDevice_effects c fault)
  | failBinding binding fault =>
    exact (failBinding_shaken c binding fault).passage (.failBinding binding fault) not_false h
      (failBinding_effects c binding fault)
  | receive payload => exact receive_passage h payload
  | setContext host => exact .alike not_false (setContext_alike h host)
  | flush => exact .alike not_false (flush_alike c)
  | stir act => exact .alike not_false (stir_alike c act)

end RemoteUsb.Channel
