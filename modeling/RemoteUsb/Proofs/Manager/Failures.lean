import RemoteUsb.Proofs.Manager.Periods
import RemoteUsb.Proofs.Manager.Revival
import RemoteUsb.Proofs.Manager.Silence

/-! # A device that has failed

A message that cannot be read makes the device of its channel fail, whatever phase the channel is in, and
observers are told whenever a device is bound. But only a connected device is taken off. `failed_iff` says
exactly when a failure that observers are told of is the end of the binding: when the device is not told to
have failed again, and when it is not connected afterwards. `opening_fails_and_connects` shows a device
that fails while it is being opened, fails again, and is connected then. -/

namespace RemoteUsb.Manager

variable {drivers : Bool} {m n : Manager} {w : Surroundings}

/-- In the turn, observers are told that the device failed that is bound to a channel under a binding. -/
def Fails (m : Manager) (drivers : Bool) (t : Turn) (id binding : Nat) : Prop :=
  ∃ device failure, .notified (.deviceFailed device failure) ∈ (m.turn drivers t).2 ∧
    ∃ c ∈ m.channels, c.id = id ∧ c.binding = binding ∧ c.device = some device

/-! ## The end of a binding -/

/-- A binding that was gone past is not told of. -/
theorem not_fails {id binding : Nat} (h : m.Tracks id (binding < ·.binding)) (t : Turn) :
    ¬m.Fails drivers t id binding := by
  rintro ⟨_, _, _, c, hc, hid, hb, _⟩
  have hlt : binding < c.binding := h.true_of c (List.mem_append_left _ hc) hid
  omega

/-- A channel that is done with a binding is not connected under it. -/
theorem not_connectedUnder {id binding : Nat} (h : m.Tracks id (·.Done binding)) :
    ¬m.ConnectedUnder id binding := by
  rintro ⟨c, hc, hid, hb, hs⟩
  rcases h.true_of c hc hid with hlt | ⟨_, hspent⟩
  · omega
  · exact hspent.not_connected hs

/-! ## Failures that are told again -/

def garbled : Wire.Payload := .compressed .lz4 0 []

theorem receive_garbled (c : Channel) : c.receive garbled =
    ((c.failDevice .parse).1, (c.failDevice .parse).2.1, some (c.failDevice .parse).2.2) := rfl

variable (drivers) in
/-- Whatever phase a channel with a device is in, a message that cannot be read makes the device fail. -/
theorem garbled_fails (hm : m.Matched) {c : Channel} {device : RegisteredDevice} (hc : c ∈ m.channels)
    (hd : c.device = some device) : m.Fails drivers { move := .receive c.id garbled } c.id c.binding := by
  let failure := (c.failDevice .parse).2.2
  have hfailure : failure.device = some device := (Channel.failDevice_failed c .parse).2.trans hd
  refine ⟨device, failure, ?_, c, hc, rfl, rfl, hd⟩
  rw [← mem_failures]
  change _ ∈ failures (((receive _ c.id garbled).perform m).2.2 ++ [])
  rw [List.append_nil, receive, perform_manager, hm.sound.channel?_of_mem hc]
  dsimp only
  rw [receive_garbled]
  dsimp only
  rw [perform_bind, settleChannel_told (Channel.endings_failDevice c .parse)]
  change _ ∈ failures (_ ++ (((deviceFailed _ failure).perform _).2.2 ++ []))
  rw [List.append_nil, failures_append, deviceFailed_failures, hfailure]
  exact List.mem_append_right _ (List.mem_singleton_self _)

/-! ## Every failure -/

/-- Observers are told of one failure in a turn at most. It is the last thing that they are told of the
binding exactly if the device was connected. The binding is not connected afterwards exactly if the device
was connected, or no call that opens it can connect it. -/
theorem failed_iff (addressing : Addressing) (settings : Settings) (drivers : Bool) (turns : List Turn)
    (t : Turn) (device : RegisteredDevice) (failure : Failure)
    (told : .notified (.deviceFailed device failure) ∈
      (((new addressing settings).run drivers turns).turn drivers t).2) :
    let m := (new addressing settings).run drivers turns
    let n := (m.turn drivers t).1
    failures (m.turn drivers t).2 = [(device, failure)] ∧
      ∃ c ∈ m.channels, ∃ d ∈ n.channels, c.device = some device ∧ d.id = c.id ∧
        ((∀ later t', ¬(n.run drivers later).Fails drivers t' c.id c.binding) ↔ c.state = .connected) ∧
        ((∀ later, ¬(n.run drivers later).ConnectedUnder c.id c.binding) ↔
          c.state = .connected ∨ d.Fruitless False) := by
  have hm : ((new addressing settings).run drivers turns).Matched :=
    run_matched (new_matched addressing settings) drivers turns
  intro m n
  have hn : n.Matched := turn_matched hm drivers t
  have hmem : (device, failure) ∈ failures (m.turn drivers t).2 := mem_failures.mpr told
  cases turn_tells hm.sound drivers t with
  | nothing hnone =>
    rw [hnone] at hmem
    cases hmem
  | @failure c d other blame hc hfailed hdevice hfailures hafter =>
    rw [hfailures, List.mem_singleton] at hmem
    cases hmem
    have hid : d.id = c.id := hfailed.shaken.id
    have hd : d ∈ n.channels := by
      change d ∈ (m.turn drivers t).1.channels
      rw [hafter]
      exact List.mem_map.mpr ⟨c, hc, if_pos hid.symm⟩
    have hin : d ∈ n.channels ++ n.retired := List.mem_append_left _ hd
    have hover : c.state = .connected → ∀ later, (n.run drivers later).Tracks c.id (c.binding < ·.binding) := by
      intro hs later
      have hnext : c.binding < d.binding := hfailed.binding_of_connected hs ▸ Nat.lt_succ_self _
      refine run_tracks (fun x now move hx hlt => ?_) hn (hid ▸ hn.sound.tracks hin hnext) later
      exact Nat.lt_of_lt_of_le hlt (Channel.step_binding_le hx now move)
    refine ⟨hfailures, c, hc, d, hd, hdevice, hid, ⟨fun honce => ?_, fun hs later t' => ?_⟩,
      ⟨fun hnever => ?_, fun hwhy later => ?_⟩⟩
    · refine Classical.byContradiction fun hs => ?_
      -- a message that cannot be read would be told again
      obtain ⟨hsame, hbinding, _⟩ := hfailed.kept hs
      have hagain := garbled_fails drivers hn hd (hsame.trans hdevice)
      rw [hid, hbinding] at hagain
      exact honce [] _ hagain
    · exact not_fails (hover hs later) t'
    · refine Classical.byContradiction fun hnot => ?_
      obtain ⟨hs, hfruit⟩ := not_or.mp hnot
      have hleads : n.Leads drivers (·.ConnectedUnder d.id d.binding) :=
        fruitful_connects hn hin (fun _ => hd) hfruit
      obtain ⟨later, _, hconnected⟩ := hleads
      rw [hid, (hfailed.kept hs).2.1] at hconnected
      exact hnever later hconnected
    · refine not_connectedUnder ?_
      by_cases hs : c.state = .connected
      · have hpast := hover hs later
        exact ⟨hpast.given, fun x hx he => .inl (hpast.true_of x hx he)⟩
      · obtain ⟨_, hbinding, hstate⟩ := hfailed.kept hs
        have hdone : d.Done c.binding := .inr ⟨hbinding, hstate, hwhy.resolve_left hs⟩
        exact run_tracks (fun x now move hx hdone => hdone.step hx now move) hn
          (hid ▸ hn.sound.tracks hin hdone) later

/-! ## One device that fails in two phases -/

/-- A message that cannot be read comes to the first channel. -/
def stickFails : Turn := { move := .receive 1 garbled }

def tellsFailure (device : RegisteredDevice) (output : Output) : Bool :=
  output.failure?.any (·.1 == device)

theorem eq_of_tellsFailure {device : RegisteredDevice} {outputs : List Output}
    (h : outputs.any (tellsFailure device) = true) :
    ∃ failure, .notified (.deviceFailed device failure) ∈ outputs := by
  obtain ⟨output, hm, he⟩ := List.any_eq_true.mp h
  unfold tellsFailure Output.failure? at he
  split at he
  · rename_i other failure
    obtain rfl : other = device := by simpa using he
    exact ⟨failure, hm⟩
  · cases he

/-- A connected device that fails is told once, and its binding is over. -/
theorem connected_fails_once :
    (∃ failure, .notified (.deviceFailed stick failure) ∈ (stickConnected.turn false stickFails).2) ∧
      ∃ c ∈ stickConnected.channels, c.device = some stick ∧
        (∀ later t', ¬((stickConnected.turn false stickFails).1.run false later).Fails false t' c.id
          c.binding) ∧
        ∀ later, ¬((stickConnected.turn false stickFails).1.run false later).ConnectedUnder c.id
          c.binding := by
  have hall : stickConnected.channels.all (·.state == .connected) = true := by decide +kernel
  obtain ⟨failure, told⟩ : ∃ failure, .notified (.deviceFailed stick failure) ∈
      (stickConnected.turn false stickFails).2 := eq_of_tellsFailure (by decide +kernel)
  obtain ⟨_, c, hc, d, _, hdevice, _, honce, hnever⟩ :=
    failed_iff .busAddress { autoConnect := false } false (stickOpening ++ stickOpened) stickFails stick
      failure told
  have hs : c.state = .connected := by simpa using List.all_eq_true.mp hall c hc
  exact ⟨⟨failure, told⟩, c, hc, hdevice, honce.mpr hs, hnever.mpr (.inl hs)⟩

def stickBegun : Manager := (new .busAddress { autoConnect := false }).run false stickOpening

/-- A device that fails while it is being opened fails again under the same binding, and is connected. -/
theorem opening_fails_and_connects :
    stickBegun.Fails false stickFails 1 1 ∧
      (stickBegun.turn false stickFails).1.Fails false stickFails 1 1 ∧
        ((stickBegun.turn false stickFails).1.run false stickOpened).ConnectedUnder 1 1 := by
  have hbound : ∃ c ∈ stickBegun.channels, c.id = 1 ∧ c.binding = 1 ∧ c.device = some stick := by
    decide +kernel
  have hstays : ∃ c ∈ (stickBegun.turn false stickFails).1.channels,
      c.id = 1 ∧ c.binding = 1 ∧ c.device = some stick := by decide +kernel
  have hconnected : ∃ c ∈ ((stickBegun.turn false stickFails).1.run false stickOpened).channels ++
      ((stickBegun.turn false stickFails).1.run false stickOpened).retired,
      c.id = 1 ∧ c.binding = 1 ∧ c.state = .connected := by decide +kernel
  obtain ⟨failure, told⟩ : ∃ failure, .notified (.deviceFailed stick failure) ∈
      (stickBegun.turn false stickFails).2 := eq_of_tellsFailure (by decide +kernel)
  obtain ⟨failure', told'⟩ : ∃ failure, .notified (.deviceFailed stick failure) ∈
      ((stickBegun.turn false stickFails).1.turn false stickFails).2 :=
    eq_of_tellsFailure (by decide +kernel)
  exact ⟨⟨stick, failure, told, hbound⟩, ⟨stick, failure', told', hstays⟩, hconnected⟩

end RemoteUsb.Manager
