import RemoteUsb.Proofs.Channel.Transit

/-! What a move means to those who keep accounts of a channel. A move of a call leaves everything as it
is, connects the call's device, or ends the call. What takes a device off answers the device exactly if
it was connected, and leaves everything as it is if not. -/

namespace RemoteUsb

def Failure.freed (f : Failure) : Option RegisteredDevice := if f.released then f.device else none

namespace Channel

/-- The calls that go on, with the devices that they connect. -/
def calls (c : Channel) : List (Nat × RegisteredDevice) := c.attempts.map fun a => (a.call, a.device)

/-- Two channels with the same device, the same calls, and both connected or both not. -/
structure Steady (c d : Channel) : Prop where
  id : d.id = c.id
  device : d.device = c.device
  calls : d.calls = c.calls
  connected : d.state = .connected ↔ c.state = .connected

variable {c d : Channel} {now : Nat} {a : Attempt} {device : RegisteredDevice} {handle : Handle}

theorem Idle.calls (h : c.Idle) : c.calls = [] := by rw [Channel.calls, h.attempts]; rfl

theorem Holding.calls (h : c.Holding device handle) : c.calls = [] := by
  rw [Channel.calls, h.attempts]; rfl

theorem Pending.calls (h : c.Pending a) : c.calls = [(a.call, a.device)] := by
  rw [Channel.calls, h.attempts]; rfl

theorem Idle.not_connected (h : c.Idle) : c.state ≠ .connected := by rw [h.state]; decide

theorem Pending.not_connected (h : c.Pending a) : c.state ≠ .connected := by
  cases hg : a.phase.guarded with
  | true => rcases h.guarded hg with hs | hs <;> rw [hs] <;> decide
  | false => rw [h.unguarded hg]; decide

theorem Alike.steady (h : c.Alike d) : c.Steady d where
  id := h.id
  device := h.device
  calls := by rw [Channel.calls, Channel.calls, h.attempts]
  connected := by rw [h.state]

/-- A connected channel is one whose host holds a handle. -/
theorem Sound.holding_of_connected (h : c.Sound) (hs : c.state = .connected) :
    ∃ device handle, c.Holding device handle := by
  cases h with
  | idle h => exact absurd hs h.not_connected
  | pending _ h => exact absurd hs h.not_connected
  | holding device handle h => exact ⟨device, handle, h⟩

theorem Sound.handle?_none (h : c.Sound) (hs : c.state ≠ .connected) : c.handle? = none := by
  cases h with
  | idle h => exact h.handle
  | pending _ h => exact h.handle
  | holding _ _ h => exact absurd h.state hs

theorem Sound.idle_of_isFree (h : c.Sound) (hf : c.isFree = true) : c.Idle := by
  simp only [isFree, Bool.and_eq_true, beq_iff_eq, Option.isNone_iff_eq_none] at hf
  cases h with
  | idle h => exact h
  | pending _ h => cases h.device.symm.trans hf.2
  | holding _ _ h => cases h.state.symm.trans hf.1

/-! ## Moves of calls -/

/-- Whether a move goes on with a call, so that the call may end. -/
def Move.Advances (move : Move) (call : Nat) : Prop :=
  (∃ heard, move = .signal call heard) ∨ move = .resume call

theorem Finishes.advances {move : Move} {call : Nat} (h : c.Finishes call move)
    (hne : move ≠ .abandon call) : move.Advances call := by
  obtain ⟨_, _, _, ⟨_, heard, _, _, _, _, rfl⟩ | ⟨_, _, _, rfl⟩ | rfl⟩ := h
  · exact .inl ⟨heard, rfl⟩
  · exact .inr rfl
  · exact absurd rfl hne

/-- What becomes of the call that goes on. -/
inductive Progress (c : Channel) : Move → Channel → List (Nat × Except RedirectError Unit) → Prop where
  | steady {move : Move} {d : Channel} (_ : c.Steady d) : Progress c move d []
  | connects {d : Channel} {a : Attempt} {handle : Handle} (_ : c.Pending a)
      (_ : a.phase.handle? = some handle) (_ : d.Holding a.device handle) :
      Progress c (.resume a.call) d [(a.call, .ok ())]
  | undone {move : Move} {d : Channel} {a : Attempt} {error : RedirectError} (_ : c.Pending a)
      (_ : move.Advances a.call) (_ : d.Idle) : Progress c move d [(a.call, .error error)]

/-- Whether the move is one of a call that goes on, or does not touch the device. -/
def Move.proceeds : Move → Bool
  | .stop _ | .signal .. | .opened .. | .resume _ | .stir _ | .flush => true
  | _ => false

theorem Move.connects_of_proceeds {move : Move} (h : move.proceeds = true) : move.connects = false := by
  cases move with
  | connect => cases h
  | _ => rfl

theorem Holding.step (h : c.Holding device handle) {move : Move} (hm : move.proceeds = true) :
    (c.step now move).1.Holding device handle := by
  have hnone := attempt?_of_nil h.attempts
  cases move with
  | stop call =>
    refine ⟨h.state, h.device, h.handle, h.key, h.request, ?_⟩
    simp [Channel.step, stop, h.attempts]
  | signal call heard => simpa [Channel.step, Channel.signal, hnone] using h
  | opened call outcome =>
    have e : c.Alike (c.step now (.opened call outcome)).1 := by
      simp only [Channel.step, Channel.opened, hnone]
      exact ⟨rfl, rfl, rfl, rfl, rfl, rfl, rfl, rfl⟩
    exact h.alike e
  | resume call => simpa [Channel.step, Channel.resume, hnone] using h
  | stir act => exact h.alike (stir_alike c act)
  | flush => exact h.alike (flush_alike c)
  | connect | abandon | disconnect | reset | failDevice | failBinding | receive | setContext => cases hm

theorem step_progress (h : c.Sound) {move : Move} (hm : move.proceeds = true) :
    Progress c move (c.step now move).1 (endings (c.step now move).2) := by
  have hid := step_id h now move
  have t := step_transit h now move
  have hstep : ∀ device handle, c.Holding device handle → (c.step now move).1.Holding device handle :=
    fun _ _ h => h.step hm
  generalize (c.step now move).1 = d, endings (c.step now move).2 = ended at t hid hstep
  cases t with
  | idle hc hd =>
    exact .steady ⟨hid, hd.device.trans hc.device.symm, hd.calls.trans hc.calls.symm,
      iff_of_false hd.not_connected hc.not_connected⟩
  | goes hc hd hcall hdevice =>
    refine .steady ⟨hid, ?_, ?_, iff_of_false hd.not_connected hc.not_connected⟩
    · rw [hd.device, hc.device, hdevice]
    · rw [hd.calls, hc.calls, hcall, hdevice]
  | connects hc hh hd => exact .connects hc hh hd
  | undone hc hends hne hd => exact .undone hc (hends.advances hne) hd
  | holds hc hd =>
    exact .steady ⟨hid, hd.device.trans hc.device.symm, hd.calls.trans hc.calls.symm,
      iff_of_true hd.state hc.state⟩
  | released hc hd => exact absurd (hstep _ _ hc).state hd.not_connected
  | refused | begun | barred | dropped => cases hm

/-! ## What takes a device off -/

/-- What becomes of the device that is bound. -/
inductive Freed (c d : Channel) : Option RegisteredDevice → Prop where
  | steady (_ : c.Steady d) : Freed c d none
  | released {device : RegisteredDevice} {handle : Handle} (_ : c.Holding device handle) (_ : d.Idle)
      (_ : d.id = c.id) : Freed c d (some device)

theorem Freed.of_none (h : Freed c d none) : c.Steady d := by
  cases h with
  | steady h => exact h

theorem Freed.of_some (h : Freed c d (some device)) : ∃ handle, c.Holding device handle ∧ d.Idle := by
  cases h with
  | released hold hidle => exact ⟨_, hold, hidle⟩

theorem Freed.before {b : Channel} {released : Option RegisteredDevice} (h : Freed c d released)
    (hs : b.Sound) (e : b.Alike c) : Freed b d released := by
  cases h with
  | steady h =>
    exact .steady ⟨h.id.trans e.id, h.device.trans e.device, h.calls.trans e.steady.calls,
      h.connected.trans e.steady.connected⟩
  | released hc hd hid =>
    obtain ⟨device, handle, hb⟩ := hs.holding_of_connected (e.state ▸ hc.state)
    cases (hb.alike e).device.symm.trans hc.device
    exact .released hb hd (hid.trans e.id)

theorem Freed.after {e : Channel} {released : Option RegisteredDevice} (h : Freed c d released)
    (he : d.Alike e) : Freed c e released := by
  cases h with
  | steady h =>
    exact .steady ⟨he.id.trans h.id, he.device.trans h.device, he.steady.calls.trans h.calls,
      he.steady.connected.trans h.connected⟩
  | released hc hd hid => exact .released hc (hd.alike he) (he.id.trans hid)

theorem cancelRequest_steady (hs : c.state = .waitingForAccess) : c.Steady c.cancelRequest := by
  have hcalls : ∀ call, (c.stop call).calls = c.calls := by
    intro call
    simp only [Channel.calls, stop, List.map_map]
    refine List.map_congr_left fun a _ => ?_
    by_cases h : a.call = call <;> simp [h]
  have hrequest : c.stopRequest.id = c.id ∧ c.stopRequest.device = c.device ∧
      c.stopRequest.calls = c.calls := by
    unfold stopRequest
    split
    · exact ⟨rfl, rfl, hcalls _⟩
    · exact ⟨rfl, rfl, rfl⟩
  obtain ⟨hid, hdevice, hcalls⟩ := hrequest
  have hstate : c.cancelRequest.state = .disconnecting := rfl
  exact ⟨hid, hdevice, hcalls, iff_of_false (by rw [hstate]; decide) (by rw [hs]; decide)⟩

theorem Holding.release (h : c.Holding device handle) : Freed c c.release.1 (some device) :=
  .released h (release_idle h.attempts) rfl

theorem disconnect_freed (h : c.Sound) : Freed c c.disconnect.1 c.disconnect.2.2 := by
  unfold disconnect
  split
  · exact .steady (Alike.refl c).steady
  · exact .steady (Alike.refl c).steady
  · exact .steady (cancelRequest_steady ‹_›)
  · obtain ⟨device, handle, hc⟩ := h.holding_of_connected ‹_›
    exact hc.device ▸ hc.release

/-- Nothing that is told to disconnect stays connected, or goes on waiting for access. -/
theorem disconnect_state (c : Channel) :
    c.disconnect.1.state = .disconnected ∨ c.disconnect.1.state = .disconnecting := by
  unfold disconnect
  split
  · exact .inl ‹_›
  · exact .inr ‹_›
  · exact .inr rfl
  · exact .inl rfl

theorem disconnect_not_connected (c : Channel) : c.disconnect.1.state ≠ .connected := by
  rcases c.disconnect_state with h | h <;> rw [h] <;> decide

theorem reset_freed (h : c.Sound) (made : Option Host) :
    Freed c (c.reset (made.map Host.detach)).1 c.disconnect.2.2 := by
  refine (disconnect_freed h).after ?_
  change c.disconnect.1.Alike (c.disconnect.1.renew (made.map Host.detach)).1
  have hn := h.disconnect_handle?
  unfold renew
  split
  · exact ⟨rfl, rfl, rfl, (handle?_detach made).trans hn.symm, rfl, rfl, rfl, rfl⟩
  · exact .refl _

theorem failDevice_freed (h : c.Sound) (fault : DeviceFault) :
    Freed c (c.failDevice fault).1 (c.failDevice fault).2.2.freed ∧
      (c.failDevice fault).2.2.released = (c.failDevice fault).2.2.freed.isSome := by
  unfold failDevice
  split
  · obtain ⟨device, handle, hc⟩ := h.holding_of_connected ‹_›
    have hfreed : Failure.freed { device := c.device, released := true, fault } = some device := hc.device
    exact ⟨hfreed ▸ hc.release, by rw [hfreed]; rfl⟩
  · exact ⟨.steady (cancelRequest_steady ‹_›), rfl⟩
  · exact ⟨.steady (Alike.refl c).steady, rfl⟩
  · exact ⟨.steady (Alike.refl c).steady, rfl⟩

theorem failBinding_freed (h : c.Sound) (binding : Nat) (fault : DeviceFault) :
    Freed c (c.failBinding binding fault).1 ((c.failBinding binding fault).2.2.bind Failure.freed) ∧
      ∀ f, (c.failBinding binding fault).2.2 = some f → f.released = f.freed.isSome := by
  unfold failBinding
  split
  · obtain ⟨device, handle, hc⟩ := h.holding_of_connected (And.right ‹_›)
    have hfreed : Failure.freed { device := c.device, released := true, fault } = some device := hc.device
    refine ⟨?_, fun f hf => ?_⟩
    · change Freed c _ (Failure.freed _)
      exact hfreed ▸ hc.release
    · cases hf
      rw [hfreed]
      rfl
  · exact ⟨.steady (Alike.refl c).steady, nofun⟩

theorem receive_freed (h : c.Sound) (payload : Wire.Payload) :
    Freed c (c.receive payload).1 ((c.receive payload).2.2.bind Failure.freed) ∧
      ∀ f, (c.receive payload).2.2 = some f → f.released = f.freed.isSome := by
  have e := hear_alike c payload
  unfold receive
  split
  · rename_i d heq
    rw [heq] at e
    exact ⟨.steady e.steady, nofun⟩
  · rename_i d fault heq
    rw [heq] at e
    have t : Transit c 0 (.receive payload) d [] := e.transit h
    have hd : d.Sound := t.sound h
    obtain ⟨hfreed, hreleased⟩ := failDevice_freed hd fault
    refine ⟨hfreed.before h e, fun f hf => ?_⟩
    cases hf
    exact hreleased

end Channel
end RemoteUsb
