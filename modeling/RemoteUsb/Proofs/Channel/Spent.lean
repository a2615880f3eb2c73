import RemoteUsb.Proofs.Channel.Outcome

/-! Channels on which nothing will be connected any more, whatever happens to them, as long as no device
is bound to them: no call asks for access, those that were granted access are called off, and those that
need none could not open their device, or have no host to give it to and will get none. -/

namespace RemoteUsb

inductive Phase.Follows : Phase → Phase → Prop where
  | same (p : Phase) : Follows p p
  | talks (x y : Access.Exchange) : Follows (.asking x) (.asking y)
  | granted (x : Access.Exchange) : Follows (.asking x) (.opening true none)
  | opened (granted : Bool) (outcome : Except JobFault Handle) :
    Follows (.opening granted none) (.opening granted (some outcome))

namespace Channel

/-- Nobody new asks for access, and the calls go on with their phases. -/
structure Onward (c d : Channel) : Prop where
  waiting : d.state = .waitingForAccess → c.state = .waitingForAccess
  phases : ∀ b ∈ d.attempts, ∃ a ∈ c.attempts, a.phase.Follows b.phase

variable {c d : Channel} {now : Nat} {move : Move} {a : Attempt}

theorem Onward.of_eq (hs : d.state = c.state) (ha : d.attempts = c.attempts) : c.Onward d where
  waiting hd := hs.symm.trans hd
  phases b hb := ⟨b, ha ▸ hb, .same _⟩

theorem Alike.onward (h : c.Alike d) : c.Onward d := .of_eq h.state h.attempts

theorem Onward.of_nil (hs : d.state ≠ .waitingForAccess) (ha : d.attempts = []) : c.Onward d where
  waiting hd := absurd hd hs
  phases b hb := by
    rw [ha] at hb
    cases hb

theorem stop_onward (c : Channel) (call : Nat) : c.Onward (c.stop call) where
  waiting h := h
  phases b hb := by
    obtain ⟨a, ha, rfl⟩ := List.mem_map.mp hb
    refine ⟨a, ha, ?_⟩
    split <;> exact .same _

theorem Shaken.onward (h : c.Shaken d) : c.Onward d := by
  cases h with
  | same h => exact h.onward
  | calledOff hs h =>
    refine ⟨fun _ => hs, fun b hb => ?_⟩
    rw [h.attempts] at hb
    unfold cancelRequest stopRequest at hb
    split at hb
    · exact (stop_onward c _).phases b hb
    · exact ⟨b, hb, .same _⟩
  | takenOff _ h =>
    refine ⟨fun hd => ?_, fun b hb => ⟨b, h.attempts ▸ hb, .same _⟩⟩
    cases h.state.symm.trans hd

/-- A call of which the phase goes on. -/
theorem Pending.setPhase_onward (h : c.Pending a) {phase : Phase} (hf : a.phase.Follows phase)
    (hs : d.state = c.state) (hd : d.attempts = (c.setPhase a.call phase).attempts) : c.Onward d where
  waiting hw := hs.symm.trans hw
  phases b hb := by
    rw [hd] at hb
    simp only [setPhase, h.attempts, List.map_cons, List.map_nil, List.mem_singleton, if_true] at hb
    exact ⟨a, h.mem, hb ▸ hf⟩

theorem signal_onward (h : c.Sound) (call : Nat) (heard : Access.Signal) :
    c.Onward (c.signal call heard).1 := by
  unfold Channel.signal
  split
  · exact .of_eq rfl rfl
  · rename_i a ha
    have hp := h.pending_of_mem (List.mem_of_find?_eq_some ha)
    obtain rfl : a.call = call := by simpa using List.find?_some ha
    split
    · exact .of_eq rfl rfl
    · rename_i exchange hphase
      split
      · rename_i x _
        exact hp.setPhase_onward (hphase ▸ .talks exchange x) rfl rfl
      · unfold accessDecided
        dsimp only
        split
        · exact .of_nil nofun hp.forget
        · split
          · exact hp.setPhase_onward (hphase ▸ .granted exchange) rfl rfl
          · exact .of_nil nofun hp.forget

theorem opened_onward (h : c.Sound) (call : Nat) (outcome : Except JobFault Handle) :
    c.Onward (c.opened call outcome).1 := by
  unfold Channel.opened
  split
  · rename_i granted ha
    have hp := h.pending_of_mem (List.mem_of_find?_eq_some ha)
    have hcall := List.find?_some ha
    simp only [beq_iff_eq] at hcall
    subst hcall
    exact hp.setPhase_onward (.opened granted outcome) rfl rfl
  · exact .of_eq rfl rfl

theorem resume_onward (h : c.Sound) (call : Nat) : c.Onward (c.resume call).1 := by
  have hforget : ∀ {a : Attempt}, c.attempt? call = some a → (c.forget call).attempts = [] := by
    intro a ha
    have hp := h.pending_of_mem (List.mem_of_find?_eq_some ha)
    obtain rfl : a.call = call := by simpa using List.find?_some ha
    exact hp.forget
  unfold Channel.resume
  split
  · rename_i ha
    unfold Channel.attach
    split
    · exact .of_nil nofun (hforget ha)
    · split
      · exact .of_nil nofun (hforget ha)
      · split
        · exact .of_nil nofun (hforget ha)
        · exact .of_nil nofun (hforget ha)
  · rename_i ha
    exact .of_nil nofun (hforget ha)
  · exact .of_eq rfl rfl

theorem abandon_onward (h : c.Sound) (call : Nat) : c.Onward (c.abandon call).1 := by
  cases ha : c.attempt? call with
  | none =>
    unfold Channel.abandon
    rw [ha]
    exact .of_eq rfl rfl
  | some a =>
    have hp := h.pending_of_mem (List.mem_of_find?_eq_some ha)
    obtain rfl : a.call = call := by simpa using List.find?_some ha
    obtain ⟨hidle, _⟩ := hp.abandon
    exact .of_nil (by rw [hidle.state]; decide) hidle.attempts

/-- No move that binds nothing makes a call ask for access. -/
theorem step_onward (h : c.Sound) (now : Nat) (hm : move.connects = false) :
    c.Onward (c.step now move).1 := by
  cases move with
  | connect => cases hm
  | stop call => exact stop_onward c call
  | signal call heard => exact signal_onward h call heard
  | opened call outcome => exact opened_onward h call _
  | resume call => exact resume_onward h call
  | abandon call => exact abandon_onward h call
  | disconnect => exact (disconnect_shaken c).onward
  | reset made => exact (reset_shaken h made).onward
  | failDevice fault => exact (failDevice_shaken c fault).onward
  | failBinding binding fault => exact (failBinding_shaken c binding fault).onward
  | receive payload => exact (receive_shaken c payload).onward
  | setContext host => exact (setContext_alike h host).onward
  | flush => exact (flush_alike c).onward
  | stir act => exact (stir_alike c act).onward

/-! ## Hosts -/

/-- Without a host before, without one after. -/
structure Hostless (c d : Channel) : Prop where
  host : d.host = none
  hasFactory : d.hasFactory = c.hasFactory

theorem release_hostless (hn : c.host = none) : c.Hostless c.release.1 :=
  ⟨by rw [Channel.release, hn]; rfl, rfl⟩

theorem forget_hostless (hn : c.host = none) (call : Nat) : c.Hostless (c.forget call).release.1 :=
  ⟨(release_hostless (c := c.forget call) hn).host, rfl⟩

theorem stopRequest_hostless (hn : c.host = none) : c.Hostless c.stopRequest := by
  unfold stopRequest
  split
  · exact ⟨hn, rfl⟩
  · exact ⟨hn, rfl⟩

theorem disconnect_hostless (hn : c.host = none) : c.Hostless c.disconnect.1 := by
  unfold disconnect
  split
  · exact ⟨hn, rfl⟩
  · exact ⟨hn, rfl⟩
  · exact ⟨(stopRequest_hostless hn).host, (stopRequest_hostless hn).hasFactory⟩
  · exact release_hostless hn

theorem failDevice_hostless (hn : c.host = none) (fault : DeviceFault) :
    c.Hostless (c.failDevice fault).1 := by
  unfold failDevice
  split
  · exact release_hostless hn
  · exact ⟨(stopRequest_hostless hn).host, (stopRequest_hostless hn).hasFactory⟩
  · exact ⟨hn, rfl⟩
  · exact ⟨hn, rfl⟩

theorem receive_hostless (hn : c.host = none) (payload : Wire.Payload) :
    c.Hostless (c.receive payload).1 := by
  have hgive : ∀ bytes, c.give bytes = (c, none) := fun bytes => by rw [give, hn]
  have hhear : c.Hostless (c.hear payload).1 := by
    unfold hear
    split
    · exact ⟨hn, rfl⟩
    · rw [hgive]
      exact ⟨hn, rfl⟩
    · split
      · rw [hgive]
        exact ⟨hn, rfl⟩
      · exact ⟨hn, rfl⟩
  unfold receive
  split
  · rename_i d heq
    rw [heq] at hhear
    exact hhear
  · rename_i d fault heq
    rw [heq] at hhear
    have hfail := failDevice_hostless hhear.host fault
    exact ⟨hfail.host, hfail.hasFactory.trans hhear.hasFactory⟩

theorem attach_hostless (hn : c.host = none) (call : Nat) (granted : Bool) (handle : Handle) :
    c.Hostless (c.attach call granted handle).1 := by
  unfold Channel.attach
  split
  · exact forget_hostless hn call
  · rw [hn]
    exact forget_hostless hn call

theorem accessDecided_hostless (hn : c.host = none) (a : Attempt) (result : Except AccessError Unit) :
    c.Hostless (c.accessDecided a result).1 := by
  unfold accessDecided
  dsimp only
  split
  · exact forget_hostless hn a.call
  · split
    · exact ⟨hn, rfl⟩
    · exact forget_hostless hn a.call

theorem signal_hostless (hn : c.host = none) (call : Nat) (heard : Access.Signal) :
    c.Hostless (c.signal call heard).1 := by
  unfold Channel.signal
  split
  · exact ⟨hn, rfl⟩
  · split
    · exact ⟨hn, rfl⟩
    · split
      · exact ⟨hn, rfl⟩
      · exact accessDecided_hostless hn _ _

theorem abandon_hostless (hn : c.host = none) (call : Nat) : c.Hostless (c.abandon call).1 := by
  cases ha : c.attempt? call with
  | none =>
    unfold Channel.abandon
    rw [ha]
    exact ⟨hn, rfl⟩
  | some a =>
    unfold Channel.abandon
    rw [ha]
    dsimp only
    split
    · have hleft : ∀ strays, c.Hostless ({ c.forget call with strays } : Channel).stopRequest.release.1 := by
        intro strays
        have hstop := stopRequest_hostless (c := { c.forget call with strays }) hn
        have hrelease := release_hostless hstop.host
        exact ⟨hrelease.host, hrelease.hasFactory.trans hstop.hasFactory⟩
      exact hleft _
    · exact ⟨hn, rfl⟩

/-- A channel without a host gets one only with a reset, and only if hosts can be made for it, as long as
a device is bound. -/
theorem step_hostless (hn : c.host = none) (hd : c.device ≠ none) (now : Nat)
    (hm : move.connects = false) (hf : c.hasFactory = false ∨ move.proceeds = true) :
    c.Hostless (c.step now move).1 := by
  cases move with
  | connect => cases hm
  | stop call => exact ⟨hn, rfl⟩
  | signal call heard => exact signal_hostless hn call heard
  | opened call outcome =>
    change c.Hostless (c.opened call _).1
    unfold Channel.opened
    split
    · exact ⟨hn, rfl⟩
    · exact ⟨hn, rfl⟩
  | resume call =>
    change c.Hostless (c.resume call).1
    unfold Channel.resume
    split
    · exact attach_hostless hn _ _ _
    · exact forget_hostless hn call
    · exact ⟨hn, rfl⟩
  | abandon call => exact abandon_hostless hn call
  | disconnect => exact disconnect_hostless hn
  | reset made =>
    have hleft := disconnect_hostless hn
    have hfactory : c.disconnect.1.hasFactory = false := hleft.hasFactory.trans (hf.resolve_right nofun)
    change c.Hostless (c.disconnect.1.renew (made.map Host.detach)).1
    rw [renew, if_neg (by rw [hfactory]; decide)]
    exact hleft
  | failDevice fault => exact failDevice_hostless hn fault
  | failBinding binding fault =>
    change c.Hostless (c.failBinding binding fault).1
    unfold failBinding
    split
    · exact release_hostless hn
    · exact ⟨hn, rfl⟩
  | receive payload => exact receive_hostless hn payload
  | setContext host =>
    change c.Hostless ((c.setContext host.detach).toOption.getD c)
    have hbusy : c.isFree = false := by
      cases hdevice : c.device with
      | none => exact absurd hdevice hd
      | some device => simp [isFree, hdevice]
    rw [setContext, if_neg (by rw [hbusy]; decide)]
    exact ⟨hn, rfl⟩
  | flush =>
    change c.Hostless c.flush.1
    rw [flush, flushBy, hn]
    exact ⟨hn, rfl⟩
  | stir act => exact ⟨by rw [Channel.step, hn]; rfl, rfl⟩

/-! ## Nothing will be connected -/

/-- A call that opens its device without having asked for access cannot connect it: the device could not be
opened, or there is no host to give it to. If the channel is `fixed`, it will get no other host. -/
def Fruitless (c : Channel) (fixed : Prop) : Prop :=
  ∀ a ∈ c.attempts, ∀ outcome, a.phase = .opening false outcome →
    (∃ fault, outcome = some (.error fault)) ∨ c.host = none ∧ (c.hasFactory = false ∨ fixed)

/-- Nothing is connected, and no call that goes on will connect its device. -/
structure Spent (c : Channel) (fixed : Prop) : Prop where
  state : c.state = .disconnected ∨ c.state = .disconnecting
  opening : c.Fruitless fixed

variable {fixed : Prop}

theorem Idle.spent (h : c.Idle) : c.Spent fixed where
  state := .inl h.state
  opening a ha := by
    rw [h.attempts] at ha
    cases ha

theorem Spent.not_connected (h : c.Spent fixed) : c.state ≠ .connected := by
  rcases h.state with hs | hs <;> rw [hs] <;> decide

/-- A channel that will not get a host any more. -/
theorem Spent.fix (h : c.Spent False) : c.Spent True where
  state := h.state
  opening a ha outcome hp := (h.opening a ha outcome hp).imp_right fun hn => ⟨hn.1, .inr trivial⟩

/-- A device is not attached if the call was called off, or if there is no host. -/
theorem attach_not_connected (h : c.state = .disconnecting ∨ c.host = none) (call : Nat) (granted : Bool)
    (handle : Handle) : (c.attach call granted handle).1.state ≠ .connected := by
  unfold Channel.attach
  split
  · exact nofun
  · rename_i hs
    rw [h.resolve_left hs]
    exact nofun

theorem Pending.resume_eq (h : c.Pending a) {granted : Bool} {handle : Handle}
    (hp : a.phase = .opening granted (some (.ok handle))) :
    c.resume a.call = c.attach a.call granted handle := by
  rw [Channel.resume, h.attempt?, if_pos rfl]
  obtain ⟨call, device, binding, stopped, phase⟩ := a
  cases hp
  rfl

theorem Spent.step_not_connected (hc : c.Sound) (h : c.Spent fixed) (now : Nat)
    (hm : move.connects = false) : (c.step now move).1.state ≠ .connected := by
  have t := step_transit hc now move
  generalize hd : (c.step now move).1 = d, endings (c.step now move).2 = ended at t
  cases t with
  | idle _ hidle | barred _ hidle | undone _ _ _ hidle | dropped _ hidle | released _ hidle =>
    exact hidle.not_connected
  | goes _ hp => exact hp.not_connected
  | refused | begun => cases hm
  | holds hold => exact absurd hold.state h.not_connected
  | @connects _ a handle hp hh hold =>
    obtain ⟨granted, hphase⟩ : ∃ granted, a.phase = .opening granted (some (.ok handle)) := by
      cases hphase : a.phase with
      | asking exchange =>
        rw [hphase] at hh
        cases hh
      | opening granted outcome =>
        rw [hphase] at hh
        match outcome, hh with
        | some (.ok _), rfl => exact ⟨granted, rfl⟩
    have hstep : (c.step now (.resume a.call)).1 = (c.attach a.call granted handle).1 :=
      congrArg Prod.fst (hp.resume_eq hphase)
    rw [← hd, hstep]
    refine attach_not_connected ?_ a.call granted handle
    cases granted with
    | true =>
      refine .inl (h.state.resolve_left fun hs => ?_)
      rcases hp.guarded (by rw [hphase]; rfl) with hw | hw <;> cases hs.symm.trans hw
    | false =>
      rcases h.opening a hp.mem _ hphase with
        ⟨fault, he⟩ | ⟨hn, _⟩
      · cases he
      · exact .inr hn

/-- A move that binds nothing leaves it so; a channel that is fixed goes on with what it has. -/
theorem Spent.step (hc : c.Sound) (h : c.Spent fixed) (now : Nat) (hm : move.connects = false)
    (hf : fixed → move.proceeds = true) : (c.step now move).1.Spent fixed where
  state := by
    have hconnected := h.step_not_connected hc now hm
    have hwaiting := (step_onward hc now hm).waiting
    cases hs : (c.step now move).1.state with
    | disconnected => exact .inl rfl
    | disconnecting => exact .inr rfl
    | connected => exact absurd hs hconnected
    | waitingForAccess => rcases h.state with hn | hn <;> cases hn.symm.trans (hwaiting hs)
  opening b hb outcome hphase := by
    obtain ⟨a, ha, hfollows⟩ := (step_onward hc now hm).phases b hb
    have hbound : c.device ≠ none := by
      rw [(hc.pending_of_mem ha).device]
      exact nofun
    have hleft : c.host = none ∧ (c.hasFactory = false ∨ fixed) →
        (c.step now move).1.host = none ∧ ((c.step now move).1.hasFactory = false ∨ fixed) := by
      rintro ⟨hn, hwhy⟩
      have hstep := step_hostless hn hbound now hm (hwhy.imp_right hf)
      exact ⟨hstep.host, hwhy.imp_left hstep.hasFactory.trans⟩
    rw [hphase] at hfollows
    generalize hbefore : a.phase = before at hfollows
    cases hfollows with
    | same => exact (h.opening a ha outcome hbefore).imp_right hleft
    | opened _ done =>
      rcases h.opening a ha none hbefore with ⟨fault, he⟩ | hn
      · cases he
      · exact .inr (hleft hn)

end Channel
end RemoteUsb
