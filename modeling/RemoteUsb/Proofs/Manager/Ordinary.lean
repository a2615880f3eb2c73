import RemoteUsb.Proofs.Manager.Moves

/-! Most steps of a manager are put together from parts of a few kinds: they look at the manager, change it
but for its loop, let something be known that is no failure of a device, and end calls. What is true of
these parts, and of two steps in a row if it is true of each, is true of all of them. `act_ordinary` says
which moves are of this kind. -/

namespace RemoteUsb

def Output.failure? : Output → Option (RegisteredDevice × Failure)
  | .notified (.deviceFailed device failure) => some (device, failure)
  | _ => none

namespace Manager

inductive Ordinary : {α : Type} → Act α → Prop where
  | pure {α : Type} (a : α) : Ordinary (Pure.pure a : Act α)
  | bind {α β : Type} {act : Act α} {next : α → Act β} (_ : Ordinary act) (_ : ∀ a, Ordinary (next a)) :
    Ordinary (act >>= next)
  | look : Ordinary Act.manager
  | change {f : Manager → Manager} (_ : ∀ m, (f m).loop = m.loop) : Ordinary (Act.change f)
  | emit {output : Output} (_ : output.failure? = none) : Ordinary (Act.emit output)
  | endCall (call : Nat) (result : Except RedirectError Unit) : Ordinary (endCall call result)

variable {α β : Type} {w : Surroundings}

theorem Ordinary.manager {next : Manager → Act β} (h : ∀ m, Ordinary (next m)) :
    Ordinary (Act.manager >>= next) := .bind .look h

theorem Ordinary.ite {c : Prop} [Decidable c] {act other : Act α} (h : Ordinary act)
    (h' : Ordinary other) : Ordinary (if c then act else other) := by
  split
  · exact h
  · exact h'

theorem Ordinary.each {act : α → Act Unit} (h : ∀ a, Ordinary (act a)) (as : List α) :
    Ordinary (Act.each act as) := by
  induction as with
  | nil => exact .pure ()
  | cons a as ih => exact .bind (h a) fun _ => ih

theorem number_ordinary : Ordinary number :=
  .manager fun m => .bind (.change (f := fun m => m.takeNumber.1) fun _ => rfl) fun _ => .pure m.nextTask

@[simp] theorem setTask_loop (m : Manager) (id : Nat) (work : Work) : (m.setTask id work).loop = m.loop := by
  unfold setTask
  split <;> rfl

theorem setTask_ordinary (id : Nat) (work : Work) : Ordinary (Act.change (·.setTask id work)) :=
  .change fun _ => setTask_loop ..

theorem spawn_ordinary (work : Work) : Ordinary (Act.change (·.spawn work)) :=
  .change fun _ => setTask_loop ..

theorem dropTask_ordinary (id : Nat) : Ordinary (Act.change (·.dropTask id)) := .change fun _ => rfl

theorem startListening_ordinary : Ordinary (Act.change startListening) := .change fun _ => rfl

theorem stopListening_ordinary : Ordinary (Act.change stopListening) := .change fun _ => rfl

/-! ## Calls -/

theorem endConnect_ordinary (call : Nat) (connect : Connect) (result : Except RedirectError Unit) :
    Ordinary (endConnect call connect result) := by
  refine .bind (.endCall call result) fun _ => ?_
  split
  · exact .emit rfl
  · exact .pure ()

theorem tidy_ordinary (info : DeviceInfo) : Ordinary (tidy w info) := .ite (spawn_ordinary _) (.pure ())

theorem undoConnect_ordinary (info : DeviceInfo) : Ordinary (undoConnect w info) :=
  .bind stopListening_ordinary fun _ => tidy_ordinary info

theorem attemptEnded_ordinary (call : Nat) (result : Except RedirectError Unit) :
    Ordinary (attemptEnded w call result) := by
  refine .manager fun m => ?_
  split
  · exact .ite (.bind (undoConnect_ordinary _) fun _ => endConnect_ordinary ..) (endConnect_ordinary ..)
  · exact .endCall call result

theorem settleChannel_ordinary (channel : Channel) (effects : List Effect) :
    Ordinary (settleChannel w channel effects) := by
  refine .bind (.change fun _ => rfl) fun _ => .each (fun effect => ?_) effects
  unfold settleEffect
  split
  · exact attemptEnded_ordinary ..
  · exact .emit rfl

theorem onChannel_ordinary (id : Nat) (step : Channel → Channel × List Effect) :
    Ordinary (onChannel w id step) := by
  refine .manager fun m => ?_
  split
  · exact .pure ()
  · exact settleChannel_ordinary ..

theorem bindAndConnect_ordinary (call : Nat) (connect : Connect) (device : RegisteredDevice) :
    Ordinary (bindAndConnect w call connect device) := by
  refine .bind startListening_ordinary fun _ => .manager fun m => ?_
  split
  · refine .bind stopListening_ordinary fun _ => ?_
    exact .ite (endConnect_ordinary ..) (.bind (tidy_ordinary _) fun _ => endConnect_ordinary ..)
  · exact .bind (setTask_ordinary ..) fun _ => settleChannel_ordinary ..

theorem beginConnect_ordinary (call : Nat) (connect : Connect) : Ordinary (beginConnect w call connect) := by
  refine .manager fun m => ?_
  split
  · exact endConnect_ordinary ..
  · exact .ite (.bind (setTask_ordinary ..) fun _ => .emit rfl)
      (.bind (setTask_ordinary ..) fun _ => bindAndConnect_ordinary ..)

theorem stopCall_ordinary (call : Nat) : Ordinary (stopCall w call) := by
  refine .manager fun m => ?_
  split
  · exact setTask_ordinary ..
  · exact setTask_ordinary ..
  · exact onChannel_ordinary ..
  · exact .pure ()

theorem abandon_ordinary (call : Nat) : Ordinary (abandon w call) := by
  refine .manager fun m => ?_
  split
  · exact .bind (dropTask_ordinary call) fun _ =>
      .bind (onChannel_ordinary ..) fun _ => undoConnect_ordinary _
  · exact dropTask_ordinary call
  · exact .pure ()

/-! ## Disconnections -/

theorem releaseDevice_ordinary (key : DeviceKey) : Ordinary (releaseDevice w key) := by
  refine .manager fun m => ?_
  split
  · exact .pure none
  · exact .bind (settleChannel_ordinary ..) fun _ =>
      .ite (.bind stopListening_ordinary fun _ => .pure _) (.pure _)

theorem disconnect_ordinary (key : DeviceKey) : Ordinary (disconnect w key) := by
  refine .bind (releaseDevice_ordinary key) fun released => ?_
  split
  · exact .bind (tidy_ordinary _) fun _ => .pure _
  · exact .pure _

theorem uninstall_ordinary (task : Nat) (cleanup : Cleanup) (info : DeviceInfo) :
    Ordinary (uninstall w task cleanup info) :=
  .ite (.bind (setTask_ordinary ..) fun _ => .emit rfl) (setTask_ordinary ..)

theorem uninstalled_ordinary (task : Nat) (cleanup : Cleanup) (outcome : Except JobFault Unit) :
    Ordinary (uninstalled task cleanup outcome) := by
  cases cleanup with
  | apart => exact dropTask_ordinary task
  | call => exact .endCall ..
  | departure key =>
    refine .manager fun m => .bind (.change fun _ => rfl) fun _ => ?_
    split
    · exact .bind (.emit rfl) fun _ => .endCall ..
    · exact .endCall ..

theorem cleanUp_ordinary (task : Nat) (cleanup : Cleanup) (released : Option RegisteredDevice) :
    Ordinary (cleanUp w task cleanup released) := by
  unfold cleanUp
  split
  · exact .ite (uninstall_ordinary ..) (uninstalled_ordinary ..)
  · exact uninstalled_ordinary ..

theorem leave_ordinary (task : Nat) (key : DeviceKey) : Ordinary (leave w task key) := by
  refine .manager fun m => ?_
  split
  · exact .endCall ..
  · exact .bind (releaseDevice_ordinary key) fun _ => cleanUp_ordinary ..

theorem removeChannel_ordinary (id : Nat) : Ordinary (removeChannel w id) := by
  refine .manager fun m => ?_
  split
  · exact .pure none
  · rename_i channel _
    refine .bind (.change fun _ => rfl) fun _ => ?_
    generalize channel.disconnect = left
    obtain ⟨d, effects, released⟩ := left
    refine .bind (settleChannel_ordinary ..) fun _ => ?_
    cases released with
    | none => exact .pure _
    | some device => exact .bind stopListening_ordinary fun _ => .bind (tidy_ordinary _) fun _ => .pure _

theorem resetChannel_ordinary (call id : Nat) : Ordinary (resetChannel w call id) := by
  refine .manager fun m => ?_
  split
  · exact .endCall ..
  · refine .bind (settleChannel_ordinary ..) fun _ => ?_
    have hrest : ∀ released : Option RegisteredDevice, Ordinary (do
        if released.isSome then Act.change stopListening
        cleanUp w call .call released) := fun released =>
      .ite (.bind stopListening_ordinary fun _ => cleanUp_ordinary ..) (cleanUp_ordinary ..)
    exact .ite (.bind (.emit rfl) fun _ => hrest _) (hrest _)

theorem stopPolicy_ordinary (task : Task) : Ordinary (stopPolicy w task) := by
  unfold stopPolicy
  split
  · exact stopCall_ordinary _
  · exact .pure ()

theorem disconnectChannel_ordinary (id : Nat) : Ordinary (disconnectChannel w id) := by
  refine .manager fun m => ?_
  split
  · exact .pure ()
  · exact .bind (settleChannel_ordinary ..) fun _ => .ite stopListening_ordinary (.pure ())

theorem shutdown_ordinary : Ordinary (shutdown w) := by
  refine .manager fun m => .ite (.pure ()) (.bind (.change fun _ => rfl) fun _ => ?_)
  refine .bind (.each stopPolicy_ordinary _) fun _ => ?_
  refine .bind (.each (fun channel : Channel => disconnectChannel_ordinary channel.id) _) fun _ => ?_
  exact .manager fun m => .ite (.change fun _ => rfl) (.pure ())

/-! ## Devices and channels that come -/

theorem autoConnect_ordinary (device : RegisteredDevice) : Ordinary (autoConnect device) :=
  .manager fun _ => .ite (spawn_ordinary _) (.pure ())

theorem arrive_ordinary (info : DeviceInfo) (arrival : Arrival) : Ordinary (arrive info arrival) := by
  refine .manager fun m => ?_
  split
  split
  · refine .bind (.change fun _ => rfl) fun _ => ?_
    split
    · exact .bind (.emit rfl) fun _ => .ite (autoConnect_ordinary _) (.pure ())
    · exact .pure ()
  · exact .pure ()

theorem redirectOnConnect_ordinary : Ordinary redirectOnConnect := by
  refine .manager fun m => ?_
  split
  · exact .pure ()
  · split
    · exact .pure ()
    · exact .ite (spawn_ordinary _) (.pure ())

theorem addChannel_ordinary (transport : Transport) (withHost : Bool) :
    Ordinary (addChannel w transport withHost) := by
  refine .manager fun m => .bind (.change fun _ => rfl) fun _ => ?_
  split
  · exact .pure _
  · exact .bind (.change fun _ => rfl) fun _ => .bind redirectOnConnect_ordinary fun _ => .pure _

theorem enumerated_ordinary (call : Nat) (outcome : Except JobFault (List DeviceInfo)) :
    Ordinary (enumerated w call outcome) := by
  unfold enumerated
  split
  · exact .endCall ..
  · refine .bind (.each (fun info => arrive_ordinary info .coldplug) _) fun _ => ?_
    split
    · exact .endCall ..
    · exact .ite (.bind (.change fun _ => rfl) fun _ => .endCall ..) (.endCall ..)

theorem start_ordinary (call : Nat) : Ordinary (start call) :=
  .manager fun _ => .ite (.endCall ..) (.bind (.change fun _ => setTask_loop ..) fun _ => .emit rfl)

theorem begin_ordinary (id : Nat) : Ordinary (begin w id) := by
  refine .manager fun m => ?_
  split
  · exact beginConnect_ordinary ..
  · exact uninstall_ordinary ..
  · exact .pure ()

theorem jobDone_ordinary (id : Nat) (outcome : Except JobFault Unit) : Ordinary (jobDone id outcome) := by
  refine .manager fun m => ?_
  split
  · exact setTask_ordinary ..
  · exact setTask_ordinary ..
  · exact .pure ()

theorem enumerationDone_ordinary (id : Nat) (outcome : Except JobFault (List DeviceInfo)) :
    Ordinary (enumerationDone id outcome) := by
  refine .manager fun m => ?_
  split
  · exact setTask_ordinary ..
  · exact .pure ()

theorem resume_ordinary (id : Nat) : Ordinary (resume w id) := by
  refine .manager fun m => ?_
  split
  · exact bindAndConnect_ordinary ..
  · exact endConnect_ordinary ..
  · exact onChannel_ordinary ..
  · exact enumerated_ordinary ..
  · exact uninstalled_ordinary ..
  · exact .pure ()

theorem flush_ordinary (id : Nat) : Ordinary (flush id) := by
  refine .manager fun m => ?_
  split
  · exact .pure ()
  · exact .change fun _ => rfl

/-! ## Moves -/

/-- Whether a move is ordinary, whatever it finds. A message or an event can be about a device that fails,
and the loop takes events and ends. -/
def Move.isOrdinary : Move → Bool
  | .receive .. | .handle _ | .nextEvent | .endLoop => false
  | _ => true

theorem act_ordinary (w : Surroundings) {move : Move} (h : move.isOrdinary = true) :
    Ordinary (move.act w) := by
  cases move with
  | connect key stopped => exact .bind number_ordinary fun _ => setTask_ordinary ..
  | begin task => exact begin_ordinary task
  | stop call => exact stopCall_ordinary call
  | abandon call => exact abandon_ordinary call
  | jobDone task outcome => exact jobDone_ordinary task outcome
  | enumerationDone task outcome => exact enumerationDone_ordinary task outcome
  | resume task => exact resume_ordinary task
  | signal channel call heard => exact onChannel_ordinary channel _
  | opened channel call ticket outcome => exact onChannel_ordinary channel _
  | stir channel act => exact onChannel_ordinary channel fun c => c.step 0 (.stir act)
  | disconnect key => exact .bind (disconnect_ordinary key) fun _ => .pure ()
  | disconnectAndWait key =>
    exact .bind number_ordinary fun _ => .bind (releaseDevice_ordinary key) fun _ => cleanUp_ordinary ..
  | addChannel transport withHost =>
    exact .bind (addChannel_ordinary transport withHost) fun _ => .pure ()
  | removeChannel channel => exact .bind (removeChannel_ordinary channel) fun _ => .pure ()
  | resetChannel channel => exact .bind number_ordinary fun _ => resetChannel_ordinary ..
  | post event => exact .change fun _ => rfl
  | start => exact .bind number_ordinary fun _ => start_ordinary _
  | shutdown => exact shutdown_ordinary
  | configure f => exact .change fun _ => rfl
  | receive | handle | nextEvent | endLoop => cases h

end Manager
end RemoteUsb
