import RemoteUsb.Proofs.Manager.Steps

/-! What a turn makes of a manager: a row of changes, or a departure. -/

namespace RemoteUsb.Manager

variable {b : Bool} {m n p : Manager} {w : Surroundings} {outputs more : List Output}

theorem Change.weaken (h : Change false m outputs n) : Change true m outputs n := by
  cases h with
  | aside h => exact .aside h
  | told output h => exact .told output h
  | numbered => exact .numbered
  | dropped id => exact .dropped id
  | worked id work hk hw => exact .worked id work hk hw
  | begun id connect outcome hk hf => exact .begun id connect outcome hk hf
  | installed id other next hw ho => exact .installed id other next hw ho
  | bound call entry stopped hw hc hf => exact .bound call entry stopped hw hc hf
  | moved now move hc hm => exact .moved now move hc hm
  | added transport host hh => exact .added transport host hh
  | skipped => exact .skipped
  | removed h => exact .removed h

theorem Changes.weaken (h : Changes false m outputs n) : Changes true m outputs n := by
  induction h with
  | refl m => exact .refl m
  | head c _ ih => exact .head c.weaken ih

/-- What comes of a turn. In a departure nothing is registered, and a device is taken out. -/
inductive Turned (m : Manager) : List Output → Manager → Prop where
  | goes {n : Manager} {outputs : List Output} (_ : Changes true m outputs n) : Turned m outputs n
  | departs {n p : Manager} {outputs more : List Output} {device : RegisteredDevice}
      (_ : Changes false m outputs p) (_ : p.registry.find? device.key = some device)
      (_ : Changes false { p with registry := (p.registry.remove device.key).1 } more n) :
    Turned m (outputs ++ .notified (.removed device) :: more) n

theorem Turned.before (h : Changes false m outputs n) (h' : Turned n more p) :
    Turned m (outputs ++ more) p := by
  cases h' with
  | goes h' => exact .goes (h.weaken.trans h')
  | departs h₁ hf h₂ =>
    rw [← List.append_assoc]
    exact .departs (h.trans h₁) hf h₂

theorem Turned.nextTask_le (h : Turned m outputs n) : m.nextTask ≤ n.nextTask := by
  cases h with
  | goes c => exact c.nextTask_le
  | departs c _ c' => exact Nat.le_trans c.nextTask_le c'.nextTask_le

/-- The step is a turn, or the rest of one. -/
def Turns {α : Type} (act : Act α) (m : Manager) : Prop :=
  Turned m (act.perform m).2.2 (act.perform m).2.1

section

variable {α β : Type}

theorem Goes.turns {act : Act α} (h : Goes b act m) : Turns act m := by
  cases b with
  | false => exact .goes (Changes.weaken h)
  | true => exact .goes h

theorem Turns.bind {act : Act α} {next : α → Act β} (h : Goes false act m)
    (h' : Turns (next (act.perform m).1) (act.perform m).2.1) : Turns (act >>= next) m :=
  Turned.before h h'

theorem Turns.manager {next : Manager → Act β} (h : Turns (next m) m) :
    Turns (Act.manager >>= next) m := h

theorem Turns.ite {c : Prop} [Decidable c] {act other : Act α} (h : Turns act m)
    (h' : Turns other m) : Turns (if c then act else other) m := by
  split
  · exact h
  · exact h'

end

/-! ## Departures -/

theorem uninstalled_turns (task : Nat) (cleanup : Cleanup) (outcome : Except JobFault Unit) :
    Turns (uninstalled task cleanup outcome) m := by
  cases cleanup with
  | apart => exact (uninstalled_goes (b := false) (by intro key h; cases h) task outcome).turns
  | call => exact (uninstalled_goes (b := false) (by intro key h; cases h) task outcome).turns
  | departure key =>
    refine .manager ?_
    cases hf : m.registry.find? key with
    | none =>
      rw [show m.registry.remove key = (m.registry, none) by unfold Registry.remove; rw [hf]]
      exact Goes.turns (b := false)
        (.bind (.aside ⟨rfl, rfl, rfl, rfl, rfl, rfl⟩) (endCall_goes task (.ok ())))
    | some device =>
      have hkey := Registry.key_of_find? hf
      have hremove : m.registry.remove key = ((m.registry.remove device.key).1, some device) := by
        rw [hkey]
        unfold Registry.remove
        rw [hf]
      rw [hremove]
      rw [← hkey] at hf
      exact Turned.departs (.refl m) hf (endCall_goes (b := false) task (.ok ()))

theorem cleanUp_turns {task : Nat} (h : task < m.nextTask) (cleanup : Cleanup)
    (released : Option RegisteredDevice) : Turns (cleanUp w task cleanup released) m := by
  unfold cleanUp
  split
  · exact .ite (uninstall_goes (b := false) (.inl h) _).turns (uninstalled_turns ..)
  · exact uninstalled_turns ..

theorem leave_turns {task : Nat} (h : task < m.nextTask) (key : DeviceKey) :
    Turns (leave w task key) m := by
  refine .manager ?_
  split
  · exact (endCall_goes (b := false) ..).turns
  · have hr := releaseDevice_goes (b := false) (m := m) (w := w) key
    exact .bind hr (cleanUp_turns (hr.lt_nextTask h) _ _)

/-! ## All moves -/

theorem handleEvent_turns {task : Nat} (h : task < m.nextTask) (event : Event) :
    Turns (handleEvent w task event) m := by
  cases event with
  | arrived info => exact (Goes.bind (arrive_goes info .hotplug) (endCall_goes ..)).turns
  | left key => exact leave_turns h key
  | dataPending id => exact (Goes.bind (b := false) (flush_goes id) (endCall_goes ..)).turns
  | deviceFailed id binding fault =>
    exact (Goes.bind (b := false) (failBinding_goes id binding fault) (endCall_goes ..)).turns

theorem nextEvent_turns : Turns (nextEvent w) m := by
  refine .manager ?_
  split
  · split
    · refine .bind ?_ (handleEvent_turns (Nat.lt_succ_self _) _)
      have ready : ∀ queue loop, Change false m.takeNumber.1 [] { m.takeNumber.1 with queue, loop } :=
        fun _ _ => .aside ⟨rfl, rfl, rfl, rfl, rfl, rfl⟩
      exact Change.numbered.changes.trans (ready _ _).changes
    · exact (Goes.pure (b := false) ()).turns
  · exact (Goes.pure (b := false) ()).turns

theorem resume_turns (id : Nat) : Turns (resume w id) m := by
  refine .manager ?_
  split
  · exact (bindAndConnect_goes (b := false) ‹_›).turns
  · exact (endConnect_goes (b := false) ..).turns
  · exact (onChannel_goes (b := false) _ 0 (.resume id) rfl).turns
  · exact (enumerated_goes ..).turns
  · exact uninstalled_turns ..
  · exact (Goes.pure (b := false) ()).turns

theorem act_turns (hw : w.Fresh) (move : Move) : Turns (move.act w) m := by
  cases move with
  | connect key stopped =>
    exact (Goes.bind (b := false) number_goes (callConnect_goes number_lt key stopped)).turns
  | begin task => exact (begin_goes (b := false) task).turns
  | stop call => exact (stopCall_goes (b := false) call).turns
  | abandon call => exact (abandon_goes (b := false) call).turns
  | jobDone task outcome => exact (jobDone_goes (b := false) task outcome).turns
  | enumerationDone task outcome => exact (enumerationDone_goes (b := false) task outcome).turns
  | resume task => exact resume_turns task
  | signal channel call heard =>
    exact (onChannel_goes (b := false) channel 0 (.signal call heard) rfl).turns
  | opened channel call ticket outcome =>
    exact (onChannel_goes (b := false) channel ticket (.opened call outcome) rfl).turns
  | disconnect key => exact (Goes.bind (b := false) (disconnect_goes key) (.pure ())).turns
  | disconnectAndWait key =>
    exact (Goes.bind (b := false) number_goes (disconnectAndWait_goes number_lt key)).turns
  | addChannel transport withHost =>
    exact (Goes.bind (b := false) (addChannel_goes hw transport withHost) (.pure ())).turns
  | removeChannel channel =>
    exact (Goes.bind (b := false) (removeChannel_goes channel) (.pure ())).turns
  | resetChannel channel =>
    exact (Goes.bind (b := false) number_goes (resetChannel_goes hw number_lt channel)).turns
  | receive channel payload =>
    exact (Goes.bind (b := false) (receive_goes channel payload) (.pure ())).turns
  | stir channel act => exact (onChannel_goes (b := false) channel 0 (.stir act) rfl).turns
  | post event => exact (Goes.aside (b := false) ⟨rfl, rfl, rfl, rfl, rfl, rfl⟩).turns
  | handle event => exact .bind number_goes (handleEvent_turns number_lt event)
  | nextEvent => exact nextEvent_turns
  | endLoop =>
    refine (Goes.aside (b := false) (f := fun m => _) ?_).turns
    split <;> exact ⟨rfl, rfl, rfl, rfl, rfl, rfl⟩
  | start => exact (Goes.bind (b := false) number_goes (start_goes number_lt)).turns
  | shutdown => exact (shutdown_goes (b := false)).turns
  | configure f => exact (Goes.aside (b := false) ⟨rfl, rfl, rfl, rfl, rfl, rfl⟩).turns

/-- Every turn is a row of changes, or a departure. -/
theorem turn_turned (m : Manager) (drivers : Bool) (t : Turn) :
    Turned m (m.turn drivers t).2 (m.turn drivers t).1 :=
  act_turns (t.surroundings_fresh drivers) t.move

end RemoteUsb.Manager
