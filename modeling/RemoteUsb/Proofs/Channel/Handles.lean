import RemoteUsb.Proofs.Channel.Passage

/-! # What becomes of a handle

A handle that was opened is with the call that it was opened for, or with the host, until it is closed. So
what was opened for a call that ends without its device is closed when the call ends, or at once if it
comes later. -/

namespace RemoteUsb.Channel

variable (c : Channel) (moves : List Move)

/-- What is done outside at a moment, in order. -/
def effectsAt (n : Nat) : List Effect :=
  match moves[n]? with
  | some move => ((c.stateAt moves n).step n move).2
  | none => []

/-- The handle was opened for the call, and that was done at the moment `k`. -/
def OpenedFor (call k : Nat) (h : Handle) : Prop :=
  ∃ key, moves[k]? = some (.opened call (.ok key)) ∧ h = (c.stateAt moves k).handleFor call k key

/-- The channel has the handle: the call that it was opened for keeps it, or the host. -/
def Has (c : Channel) (call : Nat) (h : Handle) : Prop :=
  (∃ a ∈ c.attempts, a.call = call ∧ a.phase.handle? = some h) ∨ c.handle? = some h

variable {c d : Channel} {moves : List Move} {now n : Nat} {move : Move} {effects : List Effect}

theorem endingsAt_eq (c : Channel) (moves : List Move) (n : Nat) :
    c.endingsAt moves n = endings (c.effectsAt moves n) := by
  unfold endingsAt effectsAt
  cases moves[n]? <;> rfl

theorem effectsAt_of_some (h : moves[n]? = some move) :
    c.effectsAt moves n = ((c.stateAt moves n).step n move).2 := by
  rw [effectsAt, h]

theorem effectsAt_of_none (h : moves[n]? = none) : c.effectsAt moves n = [] := by
  rw [effectsAt, h]

/-- The move at a moment as a passage. -/
theorem passage_at (hc : c.Idle) (h : moves[n]? = some move) :
    Passage (c.stateAt moves n) n move (c.stateAt moves (n + 1)) (c.effectsAt moves n) := by
  rw [stateAt_succ h, effectsAt_of_some h]
  exact step_passage (stateAt_sound hc moves n) n move

/-- Bindings are never gone back to. -/
theorem Passage.binding_le (h : Passage c now move d effects) : c.binding ≤ d.binding := by
  cases h with
  | alike _ e | stray e => exact Nat.le_of_eq e.binding.symm
  | refused => exact Nat.le_refl _
  | barred _ _ hb | opens _ _ hb | asks _ _ hb => omega
  | waits _ _ _ hb | talks _ _ _ _ hb | granted _ _ _ _ _ hb => omega
  | denied _ _ _ _ hb | done _ _ _ hb | connects _ _ _ _ _ hb => omega
  | failed _ _ _ _ _ hb | dropped _ _ hb | released _ _ _ hb => omega

theorem stateAt_binding_le (hc : c.Idle) {i j : Nat} (h : i ≤ j) :
    (c.stateAt moves i).binding ≤ (c.stateAt moves j).binding := by
  induction h with
  | refl => exact Nat.le_refl _
  | @step j _ ih =>
    refine Nat.le_trans ih ?_
    cases hm : moves[j]? with
    | none => exact Nat.le_of_eq (congrArg Channel.binding (stateAt_succ_of_none hm).symm)
    | some move => exact (passage_at hc hm).binding_le

/-! ## Handles -/

theorem Alike.has {call : Nat} {h : Handle} (e : c.Alike d) (hh : c.Has call h) : d.Has call h := by
  unfold Has at hh ⊢
  rwa [e.attempts, e.handle]

theorem Idle.has_nothing {call : Nat} {h : Handle} (hc : c.Idle) : ¬c.Has call h := by
  intro hh
  rcases hh with ⟨a, ha, _⟩ | hh
  · rw [hc.attempts] at ha
    cases ha
  · cases hc.handle.symm.trans hh

theorem Pending.has_iff {a : Attempt} {call : Nat} {h : Handle} (hc : c.Pending a) :
    c.Has call h ↔ a.call = call ∧ a.phase.handle? = some h := by
  simp [Has, hc.attempts, hc.handle]

theorem Holding.has_iff {device : RegisteredDevice} {handle h : Handle} {call : Nat}
    (hc : c.Holding device handle) : c.Has call h ↔ handle = h := by
  simp [Has, hc.attempts, hc.handle]

/-- A call that ends without its device closes the handle that it has. -/
theorem closed_mem_abandoned {call : Nat} {phase : Phase} {h : Handle} (hh : phase.handle? = some h) :
    Effect.closed h ∈ abandoned call phase := by
  obtain ⟨granted, rfl⟩ := Phase.handle?_eq_some hh
  simp [abandoned, Except.toOption]

/-- A move keeps a handle, or closes it. -/
theorem Passage.has {call : Nat} {h : Handle} (t : Passage c now move d effects) (hh : c.Has call h) :
    d.Has call h ∨ Effect.closed h ∈ effects := by
  cases t with
  | alike _ e | stray e => exact .inl (e.has hh)
  | refused => exact .inl hh
  | barred hc | opens hc | asks hc => exact absurd hh hc.has_nothing
  | waits _ hc hd => exact .inl (hd.has_iff.mpr (hc.has_iff.mp hh))
  | talks hc hp | granted hc hp | done hc hp =>
    have := (hc.has_iff.mp hh).2
    rw [hp] at this
    cases this
  | connects hc hp _ hd =>
    have := (hc.has_iff.mp hh).2
    rw [hp] at this
    cases this
    exact .inl (hd.has_iff.mpr rfl)
  | denied hc | failed hc =>
    exact .inr (List.mem_append_left _ (closed_mem_abandoned (hc.has_iff.mp hh).2))
  | dropped hc => exact .inr (closed_mem_abandoned (hc.has_iff.mp hh).2)
  | released _ hc =>
    cases hc.has_iff.mp hh
    exact .inr List.mem_cons_self

/-- What is opened is with its call, or is closed at once. -/
theorem Passage.brings {call : Nat} {key : DeviceKey}
    (t : Passage c now (.opened call (.ok key)) d effects) :
    d.Has call (c.handleFor call now key) ∨ Effect.closed (c.handleFor call now key) ∈ effects := by
  generalize hm : Move.opened call (.ok key) = move at t
  cases t with
  | alike hnot | waits hnot | released hnot =>
    rw [← hm] at hnot
    exact absurd trivial hnot
  | stray =>
    cases hm
    exact .inr List.mem_cons_self
  | done _ _ hd =>
    cases hm
    exact .inl (hd.has_iff.mpr ⟨rfl, rfl⟩)
  | _ => cases hm

/-- A handle that was opened is still there, or was closed in the meantime. -/
theorem OpenedFor.kept (hc : c.Idle) {call k : Nat} {h : Handle} (hk : c.OpenedFor moves call k h)
    (hn : k < n) : (c.stateAt moves n).Has call h ∨
      ∃ j, k ≤ j ∧ j < n ∧ Effect.closed h ∈ c.effectsAt moves j := by
  induction hn with
  | refl =>
    obtain ⟨key, hm, rfl⟩ := hk
    rcases (passage_at hc hm).brings with hh | hclosed
    · exact .inl hh
    · exact .inr ⟨k, Nat.le_refl k, Nat.lt_succ_self k, hclosed⟩
  | @step i hi ih =>
    rcases ih with hh | ⟨j, hkj, hj, hclosed⟩
    · cases hm : moves[i]? with
      | none => exact .inl ((stateAt_succ_of_none hm).symm ▸ hh)
      | some move =>
        rcases (passage_at hc hm).has hh with hh | hclosed
        · exact .inl hh
        · exact .inr ⟨i, Nat.le_of_succ_le hi, Nat.lt_succ_self i, hclosed⟩
    · exact .inr ⟨j, hkj, Nat.lt_succ_of_lt hj, hclosed⟩

/-- What is opened for a call that ends without its device is closed: when the call ends, or before, or
as soon as it is opened if that comes later. -/
theorem Over.closes {call m k : Nat} {h : Handle} (hc : c.Idle) (hm : c.Over moves call m)
    (hend : (call, .ok ()) ∉ c.endingsAt moves m) (hk : c.OpenedFor moves call k h) :
    ∃ j, k ≤ j ∧ j ≤ max k m ∧ Effect.closed h ∈ c.effectsAt moves j := by
  rcases hk.kept (n := max k m + 1) hc (by omega) with hh | ⟨j, hkj, hj, hclosed⟩
  · obtain ⟨key, hopened, rfl⟩ := hk
    rcases hh with ⟨a, ha, hcall, _⟩ | hh
    · obtain ⟨i, hi⟩ : ∃ i, max k m + 1 = m + 1 + i := ⟨max k m - m, by omega⟩
      rw [hi] at ha
      exact absurd hcall (hm.gone_after hc i a ha)
    · exact absurd hopened (hm.detached hc hend _ _ key hh)
  · exact ⟨j, hkj, Nat.le_of_lt_succ hj, hclosed⟩

end RemoteUsb.Channel
