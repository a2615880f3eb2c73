import RemoteUsb.Proofs.Channel.Moves

/-! A channel is always in one of three situations: nothing is bound and nothing goes on; a device is
bound and exactly one call, which owns the current binding, goes on with it; or a device is connected
and the host holds a handle of it. `step_transit` says once what a move makes of a situation. Everything
else that is known of channels follows from it. -/

namespace RemoteUsb

namespace Channel

/-- Nothing is bound, and no call goes on. -/
structure Idle (c : Channel) : Prop where
  state : c.state = .disconnected
  device : c.device = none
  handle : c.handle? = none
  grant : c.grant = none
  request : c.request = none
  attempts : c.attempts = []

end Channel

namespace Phase

def guarded : Phase → Bool
  | .asking _ => true
  | .opening granted _ => granted

def isAsking : Phase → Bool
  | .asking _ => true
  | .opening .. => false

/-- The handle that was opened and is not with the host yet. -/
def handle? : Phase → Option Handle
  | .opening _ (some (.ok handle)) => some handle
  | _ => none

theorem handle?_eq_some {phase : Phase} {handle : Handle} (h : phase.handle? = some handle) :
    ∃ granted, phase = .opening granted (some (.ok handle)) := by
  unfold handle? at h
  split at h
  · cases h
    exact ⟨_, rfl⟩
  · cases h

end Phase

namespace Channel

/-- One call goes on, under the current binding. -/
structure Pending (c : Channel) (a : Attempt) : Prop where
  attempts : c.attempts = [a]
  device : c.device = some a.device
  binding : a.binding = c.binding
  handle : c.handle? = none
  grant : c.grant = none
  guarded : a.phase.guarded = true → c.state = .waitingForAccess ∨ c.state = .disconnecting
  unguarded : a.phase.guarded = false → c.state = .disconnected
  request : c.request = if a.phase.isAsking then some a.call else none
  opened : ∀ h, a.phase.handle? = some h → h.key = a.device.key

/-- The device is connected, and the host holds a handle of it. -/
structure Holding (c : Channel) (d : RegisteredDevice) (h : Handle) : Prop where
  state : c.state = .connected
  device : c.device = some d
  handle : c.handle? = some h
  key : h.key = d.key
  request : c.request = none
  attempts : c.attempts = []

/-- The three situations. -/
inductive Sound (c : Channel) : Prop where
  | idle (_ : c.Idle)
  | pending (a : Attempt) (_ : c.Pending a)
  | holding (d : RegisteredDevice) (h : Handle) (_ : c.Holding d h)

/-- A host holds a handle of the device that is bound. -/
theorem Sound.key?_of_handle {c : Channel} (h : c.Sound) {handle : Handle}
    (hh : c.handle? = some handle) : c.key? = some handle.key := by
  cases h with
  | idle h => cases h.handle.symm.trans hh
  | pending _ h => cases h.handle.symm.trans hh
  | holding d g h =>
    cases h.handle.symm.trans hh
    rw [key?, h.device, h.key]
    rfl

/-- A device is bound because a call connects it, or because the host holds a handle of it. -/
theorem Sound.key?_iff {c : Channel} (h : c.Sound) (key : DeviceKey) :
    c.key? = some key ↔
      (∃ a ∈ c.attempts, a.device.key = key) ∨ ∃ handle, c.handle? = some handle ∧ handle.key = key := by
  cases h with
  | idle h => simp [key?, h.device, h.attempts, h.handle]
  | pending a h => simp [key?, h.device, h.attempts, h.handle]
  | holding d g h => simp [key?, h.device, h.attempts, h.handle, h.key]

/-! ## What does not matter to the situation -/

/-- Two channels that differ in nothing that matters to their situation. -/
structure Alike (c d : Channel) : Prop where
  id : d.id = c.id
  state : d.state = c.state
  device : d.device = c.device
  handle : d.handle? = c.handle?
  grant : d.grant = c.grant
  request : d.request = c.request
  attempts : d.attempts = c.attempts
  binding : d.binding = c.binding

theorem Alike.refl (c : Channel) : c.Alike c := ⟨rfl, rfl, rfl, rfl, rfl, rfl, rfl, rfl⟩

theorem Alike.trans {c d e : Channel} (h : c.Alike d) (h' : d.Alike e) : c.Alike e :=
  ⟨h'.id.trans h.id, h'.state.trans h.state, h'.device.trans h.device, h'.handle.trans h.handle,
    h'.grant.trans h.grant, h'.request.trans h.request, h'.attempts.trans h.attempts,
    h'.binding.trans h.binding⟩

theorem Idle.alike {c d : Channel} (h : c.Idle) (e : c.Alike d) : d.Idle :=
  ⟨e.state.trans h.state, e.device.trans h.device, e.handle.trans h.handle, e.grant.trans h.grant,
    e.request.trans h.request, e.attempts.trans h.attempts⟩

theorem Pending.alike {c d : Channel} {a : Attempt} (h : c.Pending a) (e : c.Alike d) :
    d.Pending a where
  attempts := e.attempts.trans h.attempts
  device := e.device.trans h.device
  binding := h.binding.trans e.binding.symm
  handle := e.handle.trans h.handle
  grant := e.grant.trans h.grant
  guarded := by rw [e.state]; exact h.guarded
  unguarded := by rw [e.state]; exact h.unguarded
  request := e.request.trans h.request
  opened := h.opened

theorem Holding.alike {c d : Channel} {device : RegisteredDevice} {handle : Handle}
    (h : c.Holding device handle) (e : c.Alike d) : d.Holding device handle :=
  ⟨e.state.trans h.state, e.device.trans h.device, e.handle.trans h.handle, h.key,
    e.request.trans h.request, e.attempts.trans h.attempts⟩

/-! ## The parts of the moves -/

theorem handle?_detach (host : Option Host) : (host.map Host.detach).bind (·.handle) = none := by
  cases host <;> rfl

theorem release_idle {c : Channel} (h : c.attempts = []) : c.release.1.Idle :=
  ⟨rfl, rfl, handle?_detach c.host, rfl, rfl, h⟩

theorem Alike.release {c d : Channel} (h : c.Alike d) : c.release.1.Alike d.release.1 where
  id := h.id
  state := rfl
  device := rfl
  handle := (handle?_detach d.host).trans (handle?_detach c.host).symm
  grant := rfl
  request := rfl
  attempts := h.attempts
  binding := congrArg (· + 1) h.binding

theorem stopRequest_keeps (c : Channel) :
    c.stopRequest.id = c.id ∧ c.stopRequest.device = c.device ∧ c.stopRequest.binding = c.binding := by
  unfold stopRequest
  split <;> exact ⟨rfl, rfl, rfl⟩

theorem Alike.cancelRequest {c d : Channel} (h : c.Alike d) : c.cancelRequest.Alike d.cancelRequest := by
  obtain ⟨hid, _, hdevice, hhandle, hgrant, hrequest, hattempts, hbinding⟩ := h
  unfold Channel.cancelRequest Channel.stopRequest
  rw [hrequest]
  cases c.request with
  | none => exact ⟨hid, rfl, hdevice, hhandle, hgrant, by simp [hrequest], hattempts, hbinding⟩
  | some call =>
    refine ⟨hid, rfl, hdevice, hhandle, hgrant, hrequest, ?_, hbinding⟩
    simp only [Channel.stop, hattempts]

theorem attempt?_of_nil {c : Channel} (h : c.attempts = []) (call : Nat) : c.attempt? call = none := by
  simp [attempt?, h]

theorem Pending.attempt? {c : Channel} {a : Attempt} (h : c.Pending a) (call : Nat) :
    c.attempt? call = if a.call = call then some a else none := by
  simp [Channel.attempt?, h.attempts, List.find?_singleton]

theorem Pending.mem {c : Channel} {a : Attempt} (h : c.Pending a) : a ∈ c.attempts :=
  h.attempts ▸ List.mem_singleton_self a

theorem Pending.busy {c : Channel} {a : Attempt} (h : c.Pending a) : c.attempts ≠ [] :=
  List.ne_nil_of_mem h.mem

theorem Sound.pending_of_mem {c : Channel} {a : Attempt} (h : c.Sound) (ha : a ∈ c.attempts) :
    c.Pending a := by
  cases h with
  | idle h => rw [h.attempts] at ha; cases ha
  | holding _ _ h => rw [h.attempts] at ha; cases ha
  | pending b h =>
    rw [h.attempts, List.mem_singleton] at ha
    exact ha ▸ h

theorem Sound.pending_of_attempt? {c : Channel} {call : Nat} (h : c.Sound) (hp : c.attempt? call ≠ none) :
    ∃ a, c.Pending a ∧ a.call = call := by
  cases h with
  | idle h => exact absurd (attempt?_of_nil h.attempts call) hp
  | holding _ _ h => exact absurd (attempt?_of_nil h.attempts call) hp
  | pending a h =>
    rw [h.attempt?] at hp
    exact ⟨a, h, Decidable.byContradiction fun hne => hp (if_neg hne)⟩

/-- At most one call is pending. -/
theorem Pending.unique {c : Channel} {a b : Attempt} (h : c.Pending a) (h' : c.Pending b) : b = a :=
  List.singleton_inj.mp (h'.attempts.symm.trans h.attempts)

theorem Pending.forget {c : Channel} {a : Attempt} (h : c.Pending a) :
    (c.forget a.call).attempts = [] := by
  simp [Channel.forget, h.attempts]

/-- A request that is called off leaves the call with its device and its binding. -/
theorem Pending.cancelRequest {c : Channel} {a : Attempt} (h : c.Pending a)
    (hs : c.state = .waitingForAccess) :
    ∃ stopped, c.cancelRequest.Pending { a with stopped } := by
  have hg : a.phase.guarded = true := by
    cases hp : a.phase.guarded with
    | true => rfl
    | false => rw [h.unguarded hp] at hs; cases hs
  unfold Channel.cancelRequest Channel.stopRequest
  cases hr : c.request with
  | none =>
    refine ⟨a.stopped, h.attempts, h.device, h.binding, h.handle, h.grant, fun _ => .inr rfl,
      fun hn => ?_, h.request, h.opened⟩
    rw [hg] at hn; cases hn
  | some call =>
    have hcall : a.call = call := by
      have := hr.symm.trans h.request
      split at this <;> cases this
      rfl
    refine ⟨true, ?_, h.device, h.binding, h.handle, h.grant, fun _ => .inr rfl, fun hn => ?_,
      h.request, h.opened⟩
    · simp [stop, h.attempts, hcall]
    · rw [hg] at hn; cases hn

/-! ## What takes a device off -/

/-- What disconnections, resets and failures make of a channel, up to what does not matter: nothing, a
request that is called off, or a device that is taken off. -/
inductive Shaken (c : Channel) : Channel → Prop where
  | same {d : Channel} (_ : c.Alike d) : Shaken c d
  | calledOff {d : Channel} (_ : c.state = .waitingForAccess) (_ : c.cancelRequest.Alike d) : Shaken c d
  | takenOff {d : Channel} (_ : c.state = .connected) (_ : c.release.1.Alike d) : Shaken c d

theorem Shaken.before {b c d : Channel} (h : c.Shaken d) (e : b.Alike c) : b.Shaken d := by
  cases h with
  | same h => exact .same (e.trans h)
  | calledOff hs h => exact .calledOff (e.state.symm.trans hs) (e.cancelRequest.trans h)
  | takenOff hs h => exact .takenOff (e.state.symm.trans hs) (e.release.trans h)

theorem Shaken.after {c d e : Channel} (h : c.Shaken d) (h' : d.Alike e) : c.Shaken e := by
  cases h with
  | same h => exact .same (h.trans h')
  | calledOff hs h => exact .calledOff hs (h.trans h')
  | takenOff hs h => exact .takenOff hs (h.trans h')

theorem disconnect_shaken (c : Channel) : c.Shaken c.disconnect.1 := by
  unfold disconnect
  split
  · exact .same (.refl c)
  · exact .same (.refl c)
  · rename_i hs; exact .calledOff hs (.refl _)
  · rename_i hs; exact .takenOff hs (.refl _)

theorem failDevice_shaken (c : Channel) (fault : DeviceFault) : c.Shaken (c.failDevice fault).1 := by
  unfold failDevice
  split
  · rename_i hs; exact .takenOff hs (.refl _)
  · rename_i hs; exact .calledOff hs (.refl _)
  · exact .same (.refl c)
  · exact .same (.refl c)

theorem failBinding_shaken (c : Channel) (binding : Nat) (fault : DeviceFault) :
    c.Shaken (c.failBinding binding fault).1 := by
  unfold failBinding
  split
  · rename_i hs; exact .takenOff hs.2 (.refl _)
  · exact .same (.refl c)

theorem Sound.disconnect_handle? {c : Channel} (h : c.Sound) : c.disconnect.1.handle? = none := by
  unfold disconnect
  cases h with
  | idle h => rw [h.state]; exact h.handle
  | pending a h =>
    split
    · exact h.handle
    · exact h.handle
    · obtain ⟨_, h'⟩ := h.cancelRequest ‹_›
      exact h'.handle
    · exact handle?_detach c.host
  | holding d handle h => rw [h.state]; exact handle?_detach c.host

theorem reset_shaken {c : Channel} (h : c.Sound) (made : Option Host) :
    c.Shaken (c.reset (made.map Host.detach)).1 := by
  refine (disconnect_shaken c).after ?_
  change c.disconnect.1.Alike (c.disconnect.1.renew (made.map Host.detach)).1
  have hn := h.disconnect_handle?
  unfold renew
  split
  · exact ⟨rfl, rfl, rfl, (handle?_detach made).trans hn.symm, rfl, rfl, rfl, rfl⟩
  · exact .refl _

theorem read_handle (h : Host) (bytes : Bytes) : (h.read bytes).1.handle = h.handle := by
  unfold Host.read
  split <;> rfl

theorem give_alike (c : Channel) (bytes : Bytes) : c.Alike (c.give bytes).1 := by
  unfold give
  split
  · exact .refl c
  · rename_i host hh
    have handle : (host.read bytes).1.handle = c.handle? := by
      rw [read_handle, handle?, hh]; rfl
    dsimp only
    split <;> exact ⟨rfl, rfl, rfl, handle, rfl, rfl, rfl, rfl⟩

theorem hear_alike (c : Channel) (payload : Wire.Payload) : c.Alike (c.hear payload).1 := by
  unfold hear
  split
  · exact ⟨rfl, rfl, rfl, rfl, rfl, rfl, rfl, rfl⟩
  · exact give_alike c _
  · split
    · exact give_alike c _
    · exact .refl c

theorem receive_shaken (c : Channel) (payload : Wire.Payload) :
    c.Shaken (c.receive payload).1 := by
  have e := hear_alike c payload
  unfold receive
  split
  · rename_i d heq
    rw [heq] at e; exact .same e
  · rename_i d fault heq
    rw [heq] at e
    exact (failDevice_shaken d fault).before e

theorem drain_handle (h : Host) : h.drain.1.handle = h.handle := by
  unfold Host.drain
  split <;> rfl

theorem flush_alike (c : Channel) : c.Alike c.flush.1 := by
  unfold flush flushBy
  split
  · rename_i host bytes heq
    have handle : host.handle = c.handle? := by
      cases hh : c.host with
      | none => rw [hh] at heq; cases heq
      | some h =>
        rw [hh] at heq
        simp only [Option.map_some, Option.some.injEq] at heq
        have := drain_handle h
        rw [heq] at this
        simpa [handle?, hh] using this
    exact ⟨rfl, rfl, rfl, handle, rfl, rfl, rfl, rfl⟩
  · exact .refl c

theorem stir_alike (c : Channel) (act : Host → Host) :
    c.Alike { c with host := c.host.map fun h => { act h with handle := h.handle } } := by
  refine ⟨rfl, rfl, rfl, ?_, rfl, rfl, rfl, rfl⟩
  unfold handle?
  cases c.host <;> rfl

theorem setContext_alike {c : Channel} (h : c.Sound) (host : Host) :
    c.Alike ((c.setContext host.detach).toOption.getD c) := by
  unfold setContext
  split
  · rename_i hf
    have hn : c.handle? = none := by
      cases h with
      | idle h => exact h.handle
      | pending a h => exact h.handle
      | holding d handle h => simp [isFree, h.state] at hf
    exact ⟨rfl, rfl, rfl, hn.symm, rfl, rfl, rfl, rfl⟩
  · exact .refl c

end Channel

end RemoteUsb
