import RemoteUsb.Proofs.Manager.Ordinary
import RemoteUsb.Proofs.Manager.Turned

/-! What the loop waits for. It takes an event under the next number, and all that is done otherwise leaves
it as it is or sets it free. So it never waits for a call whose number was not given out yet. -/

namespace RemoteUsb.Manager

variable {α β : Type} {w : Surroundings} {m : Manager}

/-- After the step, the loop waits for no call that it did not wait for before. -/
structure Frees (act : Act α) : Prop where
  before : ∀ m task, (act.perform m).2.1.loop = .handling task → m.loop = .handling task

theorem Frees.pure (a : α) : Frees (Pure.pure a : Act α) := ⟨fun _ _ h => h⟩

theorem Frees.bind {act : Act α} {next : α → Act β} (h : Frees act) (h' : ∀ a, Frees (next a)) :
    Frees (act >>= next) := ⟨fun m task hafter => h.before m task ((h' _).before _ task hafter)⟩

theorem Frees.manager {next : Manager → Act β} (h : ∀ m, Frees (next m)) :
    Frees (Act.manager >>= next) := ⟨fun m => (h m).before m⟩

theorem Frees.emit (output : Output) : Frees (Act.emit output) := ⟨fun _ _ h => h⟩

theorem Ordinary.frees {act : Act α} (h : Ordinary act) : Frees act where
  before m task hafter := by
    induction h generalizing m with
    | pure | look | emit => exact hafter
    | bind _ _ ih ih' => exact ih m (ih' _ _ hafter)
    | change hf => exact (hf m).symm.trans hafter
    | endCall call result =>
      change (if m.loop = .handling call then EventLoop.waiting else m.loop) = .handling task at hafter
      split at hafter
      · cases hafter
      · exact hafter

/-! ## Messages and events -/

theorem deviceFailed_frees (failure : Failure) : Frees (deviceFailed w failure) := by
  obtain ⟨device, released, fault⟩ := failure
  cases released with
  | false =>
    cases device with
    | none => exact .pure ()
    | some device => exact .emit _
  | true =>
    cases device with
    | none => exact .bind stopListening_ordinary.frees fun _ => .pure ()
    | some device =>
      exact .bind stopListening_ordinary.frees fun _ => .bind (tidy_ordinary _).frees fun _ => .emit _

theorem receive_frees (id : Nat) (payload : Wire.Payload) : Frees (receive w id payload) := by
  refine .manager fun m => ?_
  split
  · exact .pure _
  · rename_i channel _
    generalize channel.receive payload = heard
    obtain ⟨d, effects, failure⟩ := heard
    refine .bind (settleChannel_ordinary ..).frees fun _ => ?_
    cases failure with
    | none => exact .pure _
    | some failure => exact .bind (deviceFailed_frees failure) fun _ => .pure _

theorem failBinding_frees (id binding : Nat) (fault : DeviceFault) :
    Frees (failBinding w id binding fault) := by
  refine .manager fun m => ?_
  split
  · exact .pure ()
  · rename_i channel _
    generalize channel.failBinding binding fault = failed
    obtain ⟨d, effects, failure⟩ := failed
    refine .bind (settleChannel_ordinary ..).frees fun _ => ?_
    cases failure with
    | none => exact .pure ()
    | some failure => exact deviceFailed_frees failure

theorem handleEvent_frees (task : Nat) (event : Event) : Frees (handleEvent w task event) := by
  have hend : Frees (endCall task (.ok ())) := (Ordinary.endCall ..).frees
  cases event with
  | arrived info => exact .bind (arrive_ordinary info .hotplug).frees fun _ => hend
  | left key => exact (leave_ordinary task key).frees
  | dataPending id => exact .bind (flush_ordinary id).frees fun _ => hend
  | deviceFailed id binding fault => exact .bind (failBinding_frees id binding fault) fun _ => hend

/-! ## Turns -/

/-- Only the turn in which the loop takes an event makes it wait. -/
theorem act_frees (w : Surroundings) {move : Move} (hmove : move ≠ .nextEvent) : Frees (move.act w) := by
  cases hordinary : move.isOrdinary with
  | true => exact (act_ordinary w hordinary).frees
  | false =>
    cases move with
    | receive channel payload => exact .bind (receive_frees channel payload) fun _ => .pure ()
    | handle event => exact .bind number_ordinary.frees fun _ => handleEvent_frees ..
    | nextEvent => exact absurd rfl hmove
    | endLoop =>
      refine ⟨fun m task h => ?_⟩
      change (if m.stopped = true ∧ m.loop = .waiting then { m with loop := .ended } else m).loop = _ at h
      split at h
      · cases h
      · exact h
    | _ => cases hordinary

/-- The loop waits for a call only under a number that was given out. -/
def LoopNumbered (m : Manager) : Prop := ∀ task, m.loop = .handling task → task < m.nextTask

theorem Frees.loopNumbered {act : Act α} (h : Frees act) (ht : Turns act m) (hm : m.LoopNumbered) :
    (act.perform m).2.1.LoopNumbered := fun task hafter =>
  Nat.lt_of_lt_of_le (hm task (h.before m task hafter)) (Turned.nextTask_le ht)

theorem nextEvent_loopNumbered (h : m.LoopNumbered) : ((nextEvent w).perform m).2.1.LoopNumbered := by
  rw [nextEvent, perform_manager]
  split
  · split
    · rename_i queue event _
      have htaken : LoopNumbered { m.takeNumber.1 with queue, loop := .handling m.nextTask } := by
        rintro task ⟨⟩
        exact Nat.lt_succ_self _
      exact (handleEvent_frees m.nextTask event).loopNumbered
        (handleEvent_turns (Nat.lt_succ_self _) event) htaken
    · exact h
  · exact h

theorem turn_loopNumbered (h : m.LoopNumbered) (drivers : Bool) (t : Turn) :
    (m.turn drivers t).1.LoopNumbered := by
  by_cases hmove : t.move = .nextEvent
  · rw [turn, hmove]
    exact nextEvent_loopNumbered h
  · exact (act_frees _ hmove).loopNumbered (act_turns (t.surroundings_fresh drivers) t.move) h

theorem run_loopNumbered (h : m.LoopNumbered) (drivers : Bool) (turns : List Turn) :
    (m.run drivers turns).LoopNumbered := by
  induction turns generalizing m with
  | nil => exact h
  | cons t turns ih => exact ih (turn_loopNumbered h drivers t)

theorem new_loopNumbered (addressing : Addressing) (settings : Settings) :
    (new addressing settings).LoopNumbered := fun _ h => by cases h

end RemoteUsb.Manager
