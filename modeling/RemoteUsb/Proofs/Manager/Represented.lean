import RemoteUsb.Proofs.Channel.Calls
import RemoteUsb.Proofs.Manager.Deeds

/-! # What the fields of a channel say

A channel is described by fields that are written in many places: its state, its device, its host, its
grant, its request and its binding. `channels_represented` says how they belong together at every moment,
and that a device is bound without being connected exactly as long as one call, which began under the
current binding, has not ended. -/

namespace RemoteUsb

namespace Channel

/-- How the fields of a channel belong together. `pending call tag` says of a call to connect a device on
the channel that it goes on, and that it began under the binding `tag`. -/
structure Represented (c : Channel) (pending : Nat → Nat → Prop) : Prop where
  connected : c.state = .connected ↔ ∃ host handle, c.host = some host ∧ host.handle = some handle
  handle : ∀ host handle, c.host = some host → host.handle = some handle →
    ∃ device, c.device = some device ∧ handle.key = device.key
  waiting : c.state = .waitingForAccess ∨ c.state = .disconnecting → c.device ≠ none
  request : c.request ≠ none → c.state = .waitingForAccess ∨ c.state = .disconnecting
  grant : c.grant ≠ none → c.state = .connected
  pending : c.device ≠ none ∧ c.state ≠ .connected ↔
    ∃ call, pending call c.binding ∧ ∀ other tag, pending other tag → other = call

variable {c : Channel} {pending : Nat → Nat → Prop}

theorem exists_handle_iff :
    (∃ host handle, c.host = some host ∧ host.handle = some handle) ↔ ∃ handle, c.handle? = some handle := by
  simp only [handle?, Option.bind_eq_some_iff]
  exact exists_comm

/-- Without a handle, the host says nothing. -/
theorem Represented.of_no_handle (hh : c.handle? = none) (hs : c.state ≠ .connected) :
    (c.state = .connected ↔ ∃ host handle, c.host = some host ∧ host.handle = some handle) ∧
      ∀ host handle, c.host = some host → host.handle = some handle →
        ∃ device, c.device = some device ∧ handle.key = device.key := by
  have hnone : ∀ host handle, c.host = some host → host.handle ≠ some handle := by
    intro host handle hhost hhandle
    rw [handle?, hhost] at hh
    cases hh.symm.trans hhandle
  refine ⟨iff_of_false hs ?_, fun host handle hhost hhandle => absurd hhandle (hnone host handle hhost)⟩
  rintro ⟨host, handle, hhost, hhandle⟩
  exact hnone host handle hhost hhandle

/-- The three situations keep the fields together, if the calls that go on are those with an attempt. -/
theorem Sound.represented (h : c.Sound)
    (hp : ∀ call tag, pending call tag ↔ ∃ a ∈ c.attempts, a.call = call ∧ a.binding = tag) :
    c.Represented pending := by
  cases h with
  | idle h =>
    obtain ⟨hconnected, hhandle⟩ := Represented.of_no_handle h.handle h.not_connected
    refine ⟨hconnected, hhandle, ?_, fun hr => absurd h.request hr, fun hg => absurd h.grant hg, ?_⟩
    · simp [h.state]
    · refine iff_of_false (fun hb => hb.1 h.device) ?_
      rintro ⟨call, hcall, _⟩
      obtain ⟨a, ha, _⟩ := (hp call _).mp hcall
      rw [h.attempts] at ha
      cases ha
  | pending a h =>
    obtain ⟨hconnected, hhandle⟩ := Represented.of_no_handle h.handle h.not_connected
    have hbound : c.device ≠ none := by
      rw [h.device]
      exact nofun
    refine ⟨hconnected, hhandle, fun _ => hbound, fun hr => ?_, fun hg => absurd h.grant hg, ?_⟩
    · cases hphase : a.phase with
      | asking exchange => exact h.guarded (by rw [hphase]; rfl)
      | opening granted outcome =>
        rw [h.request, hphase] at hr
        exact absurd rfl hr
    · refine iff_of_true ⟨hbound, h.not_connected⟩ ⟨a.call, ?_, fun other tag hother => ?_⟩
      · exact (hp a.call c.binding).mpr ⟨a, h.mem, rfl, h.binding⟩
      · obtain ⟨b, hb, rfl, _⟩ := (hp other tag).mp hother
        rw [h.attempts, List.mem_singleton] at hb
        rw [hb]
  | holding device handle h =>
    refine ⟨iff_of_true h.state (exists_handle_iff.mpr ⟨handle, h.handle⟩), ?_, ?_, ?_, fun _ => h.state, ?_⟩
    · intro host other hhost hother
      have hsome : c.handle? = some other := by
        rw [handle?, hhost]
        exact hother
      cases h.handle.symm.trans hsome
      exact ⟨device, h.device, h.key⟩
    · simp [h.state]
    · exact fun hr => absurd h.request hr
    · refine iff_of_false (fun hb => hb.2 h.state) ?_
      rintro ⟨call, hcall, _⟩
      obtain ⟨a, ha, _⟩ := (hp call _).mp hcall
      rw [h.attempts] at ha
      cases ha

/-! ## Calls that go on -/

/-- A call that was made before a moment has not come to its end before it. -/
structure GoesOn (c : Channel) (moves : List Move) (call n : Nat) : Prop where
  before : call < n
  made : ∃ device entry stopped, moves[call]? = some (.connect device entry stopped)
  going : ∀ k < n, ¬c.Over moves call k

/-- The calls that go on are those with an attempt. -/
theorem goesOn_iff (hc : c.Idle) (moves : List Move) (call n : Nat) :
    c.GoesOn moves call n ↔ ∃ a ∈ (c.stateAt moves n).attempts, a.call = call := by
  constructor
  · rintro ⟨hlt, ⟨device, entry, stopped, hmade⟩, hgoing⟩
    obtain ⟨k, rfl⟩ : ∃ k, n = call + k + 1 := ⟨n - call - 1, by omega⟩
    rcases over_or_pending hc hmade k with ⟨i, hover, hle⟩ | ⟨a, ha, hcall⟩
    · exact absurd hover (hgoing i (by omega))
    · exact ⟨a, ha.mem, hcall⟩
  · rintro ⟨a, ha, rfl⟩
    obtain ⟨hlt, ⟨entry, stopped, hmade⟩, _⟩ := attempts_made hc n a ha
    refine ⟨hlt, ⟨a.device, entry, stopped, hmade⟩, fun k hk hover => ?_⟩
    obtain ⟨i, rfl⟩ : ∃ i, n = k + 1 + i := ⟨n - (k + 1), by omega⟩
    exact hover.gone_after hc i a ha rfl

/-- The binding under which a call goes on is the one that it took. -/
theorem goesOn_tag_iff (hc : c.Idle) (moves : List Move) (n call tag : Nat) :
    (c.GoesOn moves call n ∧ tag = (c.stateAt moves call).binding + 1) ↔
      ∃ a ∈ (c.stateAt moves n).attempts, a.call = call ∧ a.binding = tag := by
  have htag : ∀ a ∈ (c.stateAt moves n).attempts, a.binding = (c.stateAt moves a.call).binding + 1 := by
    intro a ha
    rw [((stateAt_sound hc moves n).pending_of_mem ha).binding]
    exact (attempts_made hc n a ha).2.2
  rw [goesOn_iff hc]
  constructor
  · rintro ⟨⟨a, ha, rfl⟩, rfl⟩
    exact ⟨a, ha, rfl, htag a ha⟩
  · rintro ⟨a, ha, rfl, rfl⟩
    exact ⟨⟨a, ha, rfl⟩, htag a ha⟩

end Channel

namespace Manager

/-- A call of the manager connects a device on a channel, and began under a binding of it. -/
def PendingOn (m : Manager) (c : Channel) (call tag : Nat) : Prop :=
  (∃ connect device, m.work? call = some (.connecting connect device c.id)) ∧
    ∃ a ∈ c.attempts, a.call = call ∧ a.binding = tag

theorem Matched.represented {m : Manager} (hm : m.Matched) {c : Channel}
    (hc : c ∈ m.channels ++ m.retired) : c.Represented (m.PendingOn c) := by
  have hs := hm.sound.channels.sound c hc
  refine hs.represented fun call tag => ⟨fun h => h.2, fun h => ⟨?_, h⟩⟩
  obtain ⟨a, ha, rfl, _⟩ := h
  obtain ⟨connect, hwork⟩ := hm.work? hc (hs.pending_of_mem ha)
  exact ⟨connect, a.device, hwork⟩

/-- No call connects a device on a channel without an attempt there. -/
theorem Matched.pendingOn {m : Manager} (hm : m.Matched) {c : Channel}
    (hc : c ∈ m.channels ++ m.retired) {call : Nat} {connect : Connect} {device : RegisteredDevice}
    (hw : m.work? call = some (.connecting connect device c.id)) : ∃ tag, m.PendingOn c call tag := by
  obtain ⟨d, a, hd, hid, hp, hcall, _⟩ := hm.pending hw
  obtain rfl := hm.sound.channels.eq hd hc hid
  exact ⟨a.binding, ⟨connect, device, hw⟩, a, hp.mem, hcall, rfl⟩

/-- The fields of a channel belong together at every moment: of a channel on which calls, helpers,
openings, its peer and its host do whatever they do, in any order; and of each channel of a manager, also
of those that were removed, whatever the manager goes through. -/
theorem channels_represented :
    (∀ id transport threshold moves n,
      let c := Channel.new id transport threshold
      (c.stateAt moves n).Represented fun call tag =>
        c.GoesOn moves call n ∧ tag = (c.stateAt moves call).binding + 1) ∧
    ∀ addressing settings drivers turns,
      let m := (new addressing settings).run drivers turns
      ∀ c ∈ m.channels ++ m.retired, c.Represented (m.PendingOn c) ∧
        ∀ call connect device, m.work? call = some (.connecting connect device c.id) →
          ∃ tag, m.PendingOn c call tag := by
  refine ⟨fun id transport threshold moves n => ?_, fun addressing settings drivers turns c hc => ?_⟩
  · have hidle := Channel.new_idle id transport threshold
    exact (Channel.stateAt_sound hidle moves n).represented
      fun call tag => Channel.goesOn_tag_iff hidle moves n call tag
  · have hm := run_matched (new_matched addressing settings) drivers turns
    exact ⟨hm.represented hc, fun call connect device hw => hm.pendingOn hc hw⟩

end Manager
end RemoteUsb
