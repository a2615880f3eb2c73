import RemoteUsb.Proofs.Channel.Spent

/-! A channel on which every call connects its device. It has a host that takes devices, and the world does
what a call asks it for: access is granted, devices are opened. `Fit.progress` says that a call on such a
channel goes on, or ends connected. -/

namespace RemoteUsb.Channel

/-- The host takes the next device, nobody called an attempt off, and no device failed to be opened. -/
structure Fit (c : Channel) : Prop where
  host : ∃ host, c.host = some host ∧ host.attachFault = none ∧ host.guestFilter = none
  state : c.state ≠ .disconnecting
  opening : ∀ a ∈ c.attempts, ∀ granted fault, a.phase ≠ .opening granted (some (.error fault))

/-- The move is one of a call, and the world gives what the call asked for. -/
def Smooth (c : Channel) : Move → Prop
  | .signal call heard => ∀ a ∈ c.attempts, a.call = call → ∀ exchange error,
      a.phase = .asking exchange → exchange.step heard ≠ .ends (.error error)
  | .opened _ outcome => ∃ key, outcome = .ok key
  | .resume _ => True
  | _ => False

variable {c : Channel} {a : Attempt} {move : Move}

theorem Smooth.proceeds (h : c.Smooth move) : move.proceeds = true := by
  cases move with
  | signal | opened | resume => rfl
  | _ => exact h.elim

theorem Fit.setPhase (h : c.Fit) (call : Nat) {phase : Phase}
    (hp : ∀ granted fault, phase ≠ .opening granted (some (.error fault))) : (c.setPhase call phase).Fit where
  host := h.host
  state := h.state
  opening a ha := by
    obtain ⟨b, hb, rfl⟩ := List.mem_map.mp ha
    split
    · exact hp
    · exact h.opening b hb

theorem attempt?_mem {call : Nat} (h : c.attempt? call = some a) : a ∈ c.attempts ∧ a.call = call :=
  ⟨List.mem_of_find?_eq_some h, by simpa using List.find?_some h⟩

/-- A channel is made fit, with a host. -/
theorem new_fit (id : Nat) (transport : Transport) (threshold : Nat) {host : Host}
    (hfault : host.attachFault = none) (hguest : host.guestFilter = none) :
    ({ new id transport threshold with host := some host, hasFactory := true } : Channel).Fit where
  host := ⟨host, rfl, hfault, hguest⟩
  state := ChannelState.noConfusion
  opening _ ha := absurd ha List.not_mem_nil

/-- A free channel is fit for the device that is bound to it. -/
theorem Fit.connect (h : c.Fit) (hfree : c.isFree = true) {entry : Entry}
    (he : entry = .unguarded ∨ entry = .guarded) (call : Nat) (device : RegisteredDevice) (stopped : Bool) :
    (c.connect call device entry stopped).1.Fit := by
  obtain ⟨host, hhost, hfault, hguest⟩ := h.host
  rw [Channel.connect, bind, hhost, if_neg (by simp), if_pos hfree]
  have hopening : ∀ (phase : Phase), (∀ granted fault, phase ≠ .opening granted (some (.error fault))) →
      ∀ a ∈ c.attempts ++ [⟨call, device, c.binding + 1, stopped, phase⟩],
        ∀ granted fault, a.phase ≠ .opening granted (some (.error fault)) := by
    intro phase hp a ha
    rcases List.mem_append.mp ha with ha | ha
    · exact h.opening a ha
    · rw [List.mem_singleton.mp ha]
      exact hp
  rcases he with rfl | rfl
  · exact ⟨⟨host, rfl, hfault, hguest⟩, h.state, hopening _ nofun⟩
  · exact ⟨⟨host, rfl, hfault, hguest⟩, nofun, hopening _ nofun⟩

theorem Fit.signal (h : c.Fit) {call : Nat} {heard : Access.Signal} (hs : c.Smooth (.signal call heard)) :
    (c.signal call heard).1.Fit ∧ endings (c.signal call heard).2 = [] := by
  unfold Channel.signal
  split
  · exact ⟨h, rfl⟩
  · rename_i a hfound
    obtain ⟨ha, hcall⟩ := attempt?_mem hfound
    split
    · exact ⟨h, rfl⟩
    · rename_i exchange hphase
      split
      · exact ⟨h.setPhase call nofun, rfl⟩
      · rename_i result hends
        cases result with
        | error error => exact absurd hends (hs a ha hcall exchange error hphase)
        | ok =>
          unfold accessDecided
          rw [if_neg h.state]
          have hgranted : (c.setPhase a.call (.opening true none)).Fit := h.setPhase a.call nofun
          exact ⟨⟨hgranted.host, hgranted.state, hgranted.opening⟩, rfl⟩

theorem Fit.opened (h : c.Fit) (call : Nat) (handle : Handle) :
    (c.opened call (.ok handle)).1.Fit ∧ endings (c.opened call (.ok handle)).2 = [] := by
  unfold Channel.opened
  split
  · exact ⟨h.setPhase call nofun, rfl⟩
  · exact ⟨⟨h.host, h.state, h.opening⟩, rfl⟩

theorem Fit.attach (h : c.Fit) (call : Nat) (granted : Bool) (handle : Handle) :
    (c.attach call granted handle).1.Fit ∧ endings (c.attach call granted handle).2 = [(call, .ok ())] := by
  obtain ⟨host, hhost, hfault, hguest⟩ := h.host
  rw [Channel.attach, if_neg h.state, hhost]
  dsimp only
  rw [Host.attach, hfault]
  refine ⟨⟨⟨_, rfl, rfl, hguest⟩, nofun, fun a ha => h.opening a (List.mem_filter.mp ha).1⟩, ?_⟩
  cases host.handle <;> cases c.grant <;> rfl

theorem Fit.resume (h : c.Fit) (call : Nat) : (c.resume call).1.Fit ∧
    ∀ other error, (other, .error error) ∉ endings (c.resume call).2 := by
  unfold Channel.resume
  split
  · rename_i granted handle _
    obtain ⟨hfit, hends⟩ := h.attach call granted handle
    refine ⟨hfit, fun other error hin => ?_⟩
    rw [hends, List.mem_singleton] at hin
    cases hin
  · rename_i hfound
    exact absurd rfl (h.opening _ (attempt?_mem hfound).1 _ _)
  · exact ⟨h, fun _ _ => List.not_mem_nil⟩

theorem Fit.step (h : c.Fit) (now : Nat) (hs : c.Smooth move) : (c.step now move).1.Fit ∧
    ∀ call error, (call, .error error) ∉ endings (c.step now move).2 := by
  cases move with
  | signal call heard =>
    obtain ⟨hfit, hends⟩ := h.signal hs
    exact ⟨hfit, fun _ _ hin => nomatch hends ▸ hin⟩
  | opened call outcome =>
    obtain ⟨key, rfl⟩ := hs
    obtain ⟨hfit, hends⟩ := h.opened call (c.handleFor call now key)
    exact ⟨hfit, fun _ _ hin => nomatch hends ▸ hin⟩
  | resume call => exact h.resume call
  | _ => exact hs.elim

/-- What goes on stays fit. It goes on as it is, or it ends connected. -/
inductive Advances (c : Channel) : Move → Channel → List (Nat × Except RedirectError Unit) → Prop where
  | steady {move : Move} {d : Channel} (_ : c.Steady d) : Advances c move d []
  | connects {d : Channel} {a : Attempt} (_ : c.Pending a) (_ : d.state = .connected)
      (_ : d.device = some a.device) : Advances c (.resume a.call) d [(a.call, .ok ())]

theorem Fit.progress (h : c.Fit) (hc : c.Sound) (now : Nat) (hs : c.Smooth move) :
    (c.step now move).1.Fit ∧
      Advances c move (c.step now move).1 (endings (c.step now move).2) := by
  obtain ⟨hfit, hok⟩ := h.step now hs
  refine ⟨hfit, ?_⟩
  have p : Progress c move (c.step now move).1 (endings (c.step now move).2) :=
    step_progress hc hs.proceeds
  generalize (c.step now move).1 = d, endings (c.step now move).2 = ended at p hok
  cases p with
  | steady hsteady => exact .steady hsteady
  | connects hp _ hold => exact .connects hp hold.state hold.device
  | undone => exact absurd (List.mem_singleton_self _) (hok _ _)

end RemoteUsb.Channel
