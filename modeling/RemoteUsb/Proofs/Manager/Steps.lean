import RemoteUsb.Proofs.Manager.Change
import RemoteUsb.Proofs.Registry

/-! The parts of the turns, each as a row of changes. -/

namespace RemoteUsb.Manager

variable {b : Bool} {m : Manager} {w : Surroundings}

theorem mem_of_anyChannel? {id : Nat} {channel : Channel} (h : m.anyChannel? id = some channel) :
    channel ∈ m.channels ++ m.retired := List.mem_of_find?_eq_some h

theorem mem_of_channel? {id : Nat} {channel : Channel} (h : m.channel? id = some channel) :
    channel ∈ m.channels ++ m.retired := List.mem_append_left _ (List.mem_of_find?_eq_some h)

theorem id_of_anyChannel? {id : Nat} {channel : Channel} (h : m.anyChannel? id = some channel) :
    channel.id = id := by
  simpa using List.find?_some h

theorem id_of_channel? {id : Nat} {channel : Channel} (h : m.channel? id = some channel) :
    channel.id = id := by
  simpa using List.find?_some h

theorem key_of_channelFor? {key : DeviceKey} {channel : Channel} (h : m.channelFor? key = some channel) :
    channel.key? = some key := by
  simpa using List.find?_some h

theorem knows_of_work? {id : Nat} {work : Work} (h : m.work? id = some work) : m.Knows id :=
  .inr (by rw [h]; exact nofun)

theorem number_goes : Goes b number m := Change.numbered.changes

theorem number_lt : (number.perform m).1 < (number.perform m).2.1.nextTask := Nat.lt_succ_self _

theorem startListening_goes : Goes b (Act.change startListening) m :=
  .aside ⟨rfl, rfl, rfl, rfl, rfl, rfl⟩

theorem stopListening_goes : Goes b (Act.change stopListening) m :=
  .aside ⟨rfl, rfl, rfl, rfl, rfl, rfl⟩

theorem spawn_goes {work : Work} (h : work.connects = false) :
    Goes b (Act.change (·.spawn work)) m :=
  Change.numbered.changes.trans (Change.worked _ work (.inl (Nat.lt_succ_self _)) h).changes

/-! ## Ends of calls -/

theorem endCall_goes (call : Nat) (result : Except RedirectError Unit) :
    Goes b (endCall call result) m := by
  refine .bind ?_ (.emit rfl)
  have ready : ∀ loop, Change b (m.dropTask call) [] { m.dropTask call with loop } :=
    fun _ => .aside ⟨rfl, rfl, rfl, rfl, rfl, rfl⟩
  exact (Change.dropped call).changes.trans (ready _).changes

theorem endConnect_goes (call : Nat) (connect : Connect) (result : Except RedirectError Unit) :
    Goes b (endConnect call connect result) m := by
  refine .bind (endCall_goes call result) ?_
  split
  · exact .emit rfl
  · exact .pure ()

theorem tidy_goes (info : DeviceInfo) : Goes b (tidy w info) m :=
  .ite (spawn_goes rfl) (.pure ())

theorem undoConnect_goes (info : DeviceInfo) : Goes b (undoConnect w info) m :=
  .bind stopListening_goes (tidy_goes info)

theorem attemptEnded_goes (call : Nat) (result : Except RedirectError Unit) :
    Goes b (attemptEnded w call result) m := by
  refine .manager ?_
  split
  · exact .ite (.bind (undoConnect_goes _) (endConnect_goes ..)) (endConnect_goes ..)
  · exact endCall_goes call result

theorem settleEffect_goes (channel : Nat) (effect : Effect) :
    Goes b (settleEffect w channel effect) m := by
  unfold settleEffect
  split
  · exact attemptEnded_goes ..
  · exact .emit rfl

theorem settleChannel_goes {channel : Channel} (now : Nat) (move : Channel.Move)
    (h : channel ∈ m.channels ++ m.retired) (hm : move.connects = false) (effects : List Effect) :
    Goes b (settleChannel w (channel.step now move).1 effects) m :=
  .bind (.change (.moved now move h hm)) (.each (fun effect _ => settleEffect_goes _ effect) effects)

theorem onChannel_goes (id now : Nat) (move : Channel.Move) (hm : move.connects = false) :
    Goes b (onChannel w id (·.step now move)) m := by
  refine .manager ?_
  split
  · exact .pure ()
  · exact settleChannel_goes now move (mem_of_anyChannel? ‹_›) hm _

/-! ## Connects -/

theorem bindAndConnect_goes {call : Nat} {connect : Connect} {device : RegisteredDevice}
    (h : m.work? call = some (.installing connect device (some (.ok ())))) :
    Goes b (bindAndConnect w call connect device) m := by
  refine .bind startListening_goes (.manager ?_)
  show Goes b _ m.startListening
  split
  · refine .bind stopListening_goes ?_
    exact .ite (endConnect_goes ..) (.bind (tidy_goes _) (endConnect_goes ..))
  · rename_i bound hbind
    unfold bindFree at hbind
    split at hbind
    · cases hbind
    · rename_i hfree
      split at hbind
      · cases hbind
      · rename_i channel hfind
        -- The binding and the beginning of the attempt are one change: nothing can come in between.
        have hstep : ∀ stopped, (channel.connect call device (entry w m.startListening.settings) stopped) =
            bound.beginConnect call (entry w m.startListening.settings) stopped := by
          intro stopped
          rw [Channel.connect, hbind]
        have hid : bound.id = channel.id := by
          unfold Channel.bind at hbind
          split at hbind
          · cases hbind
          · split at hbind <;> cases hbind
            rfl
        have hchange := Change.bound (b := b) (m := m.startListening) call
          (entry w m.startListening.settings)
          (connect.stopped || connect.policy.isSome && m.startListening.stopped) h
          (eq_false_of_ne_true hfree) hfind
        rw [hstep, ← hid] at hchange
        exact hchange.changes.trans (Goes.each (fun effect _ => settleEffect_goes _ effect) _)

theorem beginConnect_goes {call : Nat} {connect : Connect} (h : m.Knows call) :
    Goes b (beginConnect w call connect) m := by
  refine .manager ?_
  split
  · exact endConnect_goes ..
  · rename_i device hfind
    split
    · exact .bind (.change (.begun call connect none h hfind)) (.emit rfl)
    · exact .bind (.change (.begun call connect (some (.ok ())) h hfind))
        (bindAndConnect_goes (work?_setTask_self ..))

theorem callConnect_goes {call : Nat} (h : call < m.nextTask) (key : DeviceKey) (stopped : Bool) :
    Goes b (callConnect call key stopped) m := .change (.worked call _ (.inl h) rfl)

theorem connectByPolicy_goes (device : RegisteredDevice) : Goes b (connectByPolicy device) m :=
  spawn_goes rfl

theorem stopCall_goes (call : Nat) : Goes b (stopCall w call) m := by
  refine .manager ?_
  split
  · rename_i connect h
    exact .change (.worked call _ (knows_of_work? h) rfl)
  · rename_i connect device outcome h
    exact .change (.installed call _ outcome h (.inr rfl))
  · exact onChannel_goes _ 0 (.stop call) rfl
  · exact .pure ()

theorem abandon_goes (call : Nat) : Goes b (abandon w call) m := by
  refine .manager ?_
  split
  · refine .bind (.change (.dropped call)) (.bind ?_ (undoConnect_goes _))
    exact onChannel_goes _ 0 (.abandon call) rfl
  · exact .change (.dropped call)
  · exact .pure ()

/-! ## Disconnecting -/

theorem releaseDevice_goes (key : DeviceKey) : Goes b (releaseDevice w key) m := by
  refine .manager ?_
  split
  · exact .pure none
  · rename_i channel h
    refine .bind (settleChannel_goes 0 .disconnect
      (List.mem_append_left _ (List.mem_of_find?_eq_some h)) rfl _) ?_
    exact .ite (.bind stopListening_goes (.pure _)) (.pure _)

theorem disconnect_goes (key : DeviceKey) : Goes b (disconnect w key) m := by
  refine .bind (releaseDevice_goes key) ?_
  split
  · exact .bind (tidy_goes _) (.pure _)
  · exact .pure _

theorem uninstall_goes {task : Nat} {cleanup : Cleanup} (h : m.Knows task) (info : DeviceInfo) :
    Goes b (uninstall w task cleanup info) m := by
  unfold uninstall
  split
  · exact .bind (.change (.worked task _ h rfl)) (.emit rfl)
  · exact .change (.worked task _ h rfl)

/-- The removal of a driver that does not belong to a departure. -/
theorem uninstalled_goes {cleanup : Cleanup} (hc : ∀ key, cleanup ≠ .departure key) (task : Nat)
    (outcome : Except JobFault Unit) : Goes b (uninstalled task cleanup outcome) m := by
  cases cleanup with
  | apart => exact .change (.dropped task)
  | departure key => exact absurd rfl (hc key)
  | call => exact endCall_goes ..

theorem cleanUp_goes {cleanup : Cleanup} (hc : ∀ key, cleanup ≠ .departure key) {task : Nat}
    (h : task < m.nextTask) (released : Option RegisteredDevice) :
    Goes b (cleanUp w task cleanup released) m := by
  unfold cleanUp
  split
  · exact .ite (uninstall_goes (.inl h) _) (uninstalled_goes hc ..)
  · exact uninstalled_goes hc ..

theorem disconnectAndWait_goes {call : Nat} (h : call < m.nextTask) (key : DeviceKey) :
    Goes b (disconnectAndWait w call key) m := by
  have hr := releaseDevice_goes (b := b) (m := m) (w := w) key
  exact .bind hr (cleanUp_goes (by intro key h; cases h) (hr.lt_nextTask h) _)

/-! ## Devices, failures and data -/

theorem autoConnect_goes (device : RegisteredDevice) : Goes b (autoConnect device) m :=
  .manager (.ite (connectByPolicy_goes device) (.pure ()))

theorem arrive_goes (info : DeviceInfo) (arrival : Arrival) : Goes true (arrive info arrival) m := by
  refine .manager ?_
  have hadd : ∀ key, (m.registry.add info arrival).2 = .added key →
      (m.registry.add info arrival).1.find? key = some ⟨key, info, arrival⟩ := fun _ => Registry.find?_add
  have hregister : ∀ key, (m.registry.add info arrival).2 = .added key → Change true m
      [.notified (.added ⟨key, info, arrival⟩)] { m with registry := (m.registry.add info arrival).1 } :=
    fun _ h => .registered arrival h
  generalize m.registry.add info arrival = added at hadd hregister
  obtain ⟨registry, outcome⟩ := added
  cases outcome with
  | duplicate key => exact .pure ()
  | skipped => exact .pure ()
  | added key =>
    have hfind := hadd key rfl
    have hnext : Goes true (if arrival = .hotplug then autoConnect ⟨key, info, arrival⟩ else pure ())
        { m with registry } := .ite (autoConnect_goes _) (.pure ())
    dsimp only at hfind ⊢
    rw [hfind]
    exact (hregister key rfl).changes.trans hnext

theorem deviceFailed_goes (failure : Failure) : Goes b (deviceFailed w failure) m := by
  obtain ⟨device, released, fault⟩ := failure
  cases device with
  | none => exact .ite (.bind stopListening_goes (.pure ())) (.pure ())
  | some device =>
    exact .ite (.bind stopListening_goes (.bind (tidy_goes _) (.emit rfl))) (.emit rfl)

theorem flush_goes (id : Nat) : Goes b (flush id) m := by
  refine .manager ?_
  split
  · exact .pure ()
  · exact .change (.moved 0 .flush (mem_of_channel? ‹_›) rfl)

theorem failBinding_goes (id binding : Nat) (fault : DeviceFault) :
    Goes b (failBinding w id binding fault) m := by
  refine .manager ?_
  split
  · exact .pure ()
  · refine .bind (settleChannel_goes 0 (.failBinding binding fault) (mem_of_channel? ‹_›) rfl _) ?_
    split
    · exact deviceFailed_goes _
    · exact .pure ()

/-! ## Tasks -/

theorem start_goes {call : Nat} (h : call < m.nextTask) : Goes b (start call) m := by
  refine .manager (.ite (endCall_goes ..) (.bind ?_ (.emit rfl)))
  have ready : ∀ m : Manager, Change b m [] { m with initialized := true } :=
    fun _ => .aside ⟨rfl, rfl, rfl, rfl, rfl, rfl⟩
  exact (Change.worked call (.enumerating none) (.inl h) rfl).changes.trans (ready _).changes

theorem enumerated_goes (call : Nat) (outcome : Except JobFault (List DeviceInfo)) :
    Goes true (enumerated w call outcome) m := by
  unfold enumerated
  split
  · exact endCall_goes ..
  · refine .bind (.each (fun info _ => arrive_goes info .coldplug) _) ?_
    split
    · exact endCall_goes ..
    · exact .ite (.bind (.aside ⟨rfl, rfl, rfl, rfl, rfl, rfl⟩) (endCall_goes ..)) (endCall_goes ..)

theorem begin_goes (id : Nat) : Goes b (begin w id) m := by
  refine .manager ?_
  split
  · exact beginConnect_goes (knows_of_work? ‹_›)
  · exact uninstall_goes (knows_of_work? ‹_›) _
  · exact .pure ()

theorem jobDone_goes (id : Nat) (outcome : Except JobFault Unit) : Goes b (jobDone id outcome) m := by
  refine .manager ?_
  split
  · rename_i connect device h
    exact .change (.installed id connect _ h (.inl rfl))
  · exact .change (.worked id _ (knows_of_work? ‹_›) rfl)
  · exact .pure ()

theorem enumerationDone_goes (id : Nat) (outcome : Except JobFault (List DeviceInfo)) :
    Goes b (enumerationDone id outcome) m := by
  refine .manager ?_
  split
  · exact .change (.worked id _ (knows_of_work? ‹_›) rfl)
  · exact .pure ()

/-! ## Channels -/

theorem redirectOnConnect_goes : Goes b redirectOnConnect m := by
  refine .manager ?_
  split
  · exact .pure ()
  · split
    · exact .pure ()
    · exact .ite (connectByPolicy_goes _) (.pure ())

theorem addChannel_goes (hw : w.Fresh) (transport : Transport) (withHost : Bool) :
    Goes b (addChannel w transport withHost) m := by
  have hredirect : ∀ n, Goes b
      (do redirectOnConnect; return (Except.ok m.nextChannel : Except RedirectError Nat)) n :=
    fun _ => .bind redirectOnConnect_goes (.pure _)
  refine .manager ?_
  cases withHost with
  | false => exact (Change.added transport none rfl).changes.trans (hredirect _)
  | true =>
    cases hnew : w.newHost with
    | error error =>
      simp only [if_true]
      exact .bind (.change .skipped) (.pure _)
    | ok host => exact (Change.added transport (some host) (hw host hnew)).changes.trans (hredirect _)

theorem removeChannel_goes (id : Nat) : Goes b (removeChannel w id) m := by
  refine .manager ?_
  split
  · exact .pure none
  · rename_i channel h
    refine .bind (.change (.removed h)) ?_
    have hsettle : ∀ n : Manager, channel ∈ n.channels ++ n.retired →
        Goes b (settleChannel w channel.disconnect.1 channel.disconnect.2.1) n :=
      fun n hn => settleChannel_goes 0 .disconnect hn rfl _
    generalize channel.disconnect = left at hsettle
    obtain ⟨disconnected, effects, released⟩ := left
    refine .bind (hsettle _ ?_) ?_
    · exact List.mem_append_right _ (List.mem_append_right _ (List.mem_singleton_self _))
    · cases released with
      | none => exact .pure none
      | some device => exact .bind stopListening_goes (.bind (tidy_goes _) (.pure _))

theorem resetChannel_goes (hw : w.Fresh) {call : Nat} (h : call < m.nextTask) (id : Nat) :
    Goes b (resetChannel w call id) m := by
  refine .manager ?_
  split
  · exact endCall_goes ..
  · rename_i channel hc
    have hmade : w.newHost.toOption = w.newHost.toOption.map Host.detach := by
      cases hnew : w.newHost with
      | error error => rfl
      | ok host =>
        have := hw host hnew
        obtain ⟨handle⟩ := host
        cases this
        rfl
    have hsettle : Goes b (settleChannel w (channel.disconnect.1.renew w.newHost.toOption).1
        channel.disconnect.2.1) m := by
      rw [hmade]
      exact settleChannel_goes 0 (.reset w.newHost.toOption) (mem_of_channel? hc) rfl _
    have hclean : ∀ n : Manager, call < n.nextTask →
        Goes b (cleanUp w call .call channel.disconnect.2.2) n :=
      fun n hn => cleanUp_goes (by intro key h; cases h) hn _
    refine .bind hsettle ?_
    have hlt := hsettle.lt_nextTask h
    refine .ite (.bind (.emit rfl) ?_) ?_
    · exact .ite (.bind stopListening_goes (hclean _ hlt)) (hclean _ hlt)
    · exact .ite (.bind stopListening_goes (hclean _ hlt)) (hclean _ hlt)

theorem receive_goes (id : Nat) (payload : Wire.Payload) : Goes b (receive w id payload) m := by
  refine .manager ?_
  split
  · exact .pure _
  · refine .bind (settleChannel_goes 0 (.receive payload) (mem_of_channel? ‹_›) rfl _) ?_
    split
    · exact .pure _
    · exact .bind (deviceFailed_goes _) (.pure _)

/-! ## The end -/

theorem stopPolicy_goes (task : Task) : Goes b (stopPolicy w task) m := by
  unfold stopPolicy
  split
  · exact stopCall_goes _
  · exact .pure ()

theorem disconnectChannel_goes (id : Nat) : Goes b (disconnectChannel w id) m := by
  refine .manager ?_
  split
  · exact .pure ()
  · refine .bind (settleChannel_goes 0 .disconnect (mem_of_channel? ‹_›) rfl _) ?_
    exact .ite stopListening_goes (.pure ())

theorem shutdown_goes : Goes b (shutdown w) m := by
  refine .manager (.ite (.pure ()) (.bind (.aside ⟨rfl, rfl, rfl, rfl, rfl, rfl⟩) ?_))
  refine .bind (.each (fun task _ => stopPolicy_goes task) _) (.bind ?_ (.manager ?_))
  · exact .each (fun channel _ => disconnectChannel_goes channel.id) _
  · exact .ite (.aside ⟨rfl, rfl, rfl, rfl, rfl, rfl⟩) (.pure ())

end RemoteUsb.Manager
