import RemoteUsb.Proofs.Channel.Spent
import RemoteUsb.Proofs.Manager.Deeds

/-! The periods of a channel in a manager. Whatever a manager does, a channel makes moves of its own, in the
set or removed from it, and its number is never given to another one. So what moves keep of a channel,
runs of the manager keep: its binding is never gone back to, and a binding under which nothing will be
connected stays like that. -/

namespace RemoteUsb

namespace Channel

variable {c : Channel}

/-- Bindings are never gone back to. -/
theorem step_binding_le (h : c.Sound) (now : Nat) (move : Move) :
    c.binding ≤ (c.step now move).1.binding := by
  have t := step_transit h now move
  generalize (c.step now move).1 = d, endings (c.step now move).2 = ended at t
  cases t with
  | refused => exact Nat.le_refl _
  | idle _ _ hb | goes _ _ _ _ hb | connects _ _ _ hb | holds _ _ hb => exact Nat.le_of_eq hb.symm
  | begun _ _ _ _ hb | barred _ _ hb | undone _ _ _ _ hb | dropped _ _ hb | released _ _ hb => omega

/-- The channel has gone past a binding, or is under it and will not be connected. -/
def Done (c : Channel) (b : Nat) : Prop := b < c.binding ∨ c.binding = b ∧ c.Spent False

theorem Done.step {b : Nat} (hc : c.Sound) (h : c.Done b) (now : Nat) (move : Move) :
    (c.step now move).1.Done b := by
  have hle := step_binding_le hc now move
  rcases h with hlt | ⟨hb, hspent⟩
  · exact .inl (Nat.lt_of_lt_of_le hlt hle)
  · rcases Nat.lt_or_eq_of_le hle with hlt | heq
    · exact .inl (hb ▸ hlt)
    · refine .inr ⟨heq.symm.trans hb, ?_⟩
      cases hm : move.connects with
      | false => exact hspent.step hc now hm False.elim
      | true =>
        -- A call that binds its device goes on to the next binding, so this one was refused.
        cases move with
        | connect device entry stopped =>
          change c.binding = (c.connect now device entry stopped).1.binding at heq
          change (c.connect now device entry stopped).1.Spent False
          rcases connect_cases hc now device entry stopped with
            ⟨_, he, _⟩ | ⟨_, _, hb', _⟩ | ⟨_, _, _, _, _, hb', _⟩
          · rw [he]
            exact hspent
          · omega
          · omega
        | _ => cases hm

end Channel

namespace Manager

variable {drivers : Bool} {kind : Kind} {m n : Manager} {outputs : List Output}

/-- A channel after a deed was there before, or has made a move, or is new. -/
theorem Deed.channel (h : Deed drivers kind m outputs n) {d : Channel}
    (hd : d ∈ n.channels ++ n.retired) :
    d ∈ m.channels ++ m.retired ∨
      (∃ c ∈ m.channels ++ m.retired, ∃ now move, d = (c.step now move).1) ∨ d.id = m.nextChannel := by
  have put : ∀ {c : Channel} (now : Nat) (move : Channel.Move) {channels retired : List Channel},
      c ∈ m.channels ++ m.retired → channels = m.channels → retired = m.retired →
      d ∈ channels.map (Manager.put (c.step now move).1) ++ retired.map (Manager.put (c.step now move).1) →
      d ∈ m.channels ++ m.retired ∨
        (∃ c ∈ m.channels ++ m.retired, ∃ now move, d = (c.step now move).1) ∨ d.id = m.nextChannel := by
    rintro c now move _ _ hc rfl rfl hput
    rw [← List.map_append] at hput
    rcases mem_map_put hput with ⟨rfl, _⟩ | ⟨hold, _⟩
    · exact .inr (.inl ⟨c, hc, now, move, rfl⟩)
    · exact .inl hold
  cases h with
  | still e =>
    rw [e.channels, e.retired] at hd
    exact .inl hd
  | told | subscribed | unsubscribed | skipped | registered | departed => exact .inl hd
  | task id =>
    rw [putTask_channels, putTask_retired] at hd
    exact .inl hd
  | spawned info =>
    rw [spawn, setTask_channels, setTask_retired] at hd
    exact .inl hd
  | begun id =>
    change d ∈ (m.setTask id _).channels ++ (m.setTask id _).retired at hd
    rw [setTask_channels, setTask_retired] at hd
    exact .inl hd
  | @bound _ call connect device c _ entry stopped _ _ hfind =>
    exact put call (.connect device entry stopped)
      (List.mem_append_left _ (List.mem_of_find?_eq_some hfind))
      (setTask_channels m.startListening call _) (setTask_retired m.startListening call _) hd
  | @barred _ call device c entry stopped _ hfind =>
    exact put call (.connect device entry stopped)
      (List.mem_append_left _ (List.mem_of_find?_eq_some hfind)) rfl rfl hd
  | moved now move hc | connected now move hc | failed now move hc => exact put now move hc rfl rfl hd
  | released now move hc => exact put now move (List.mem_append_left _ hc) rfl rfl hd
  | added transport host =>
    rcases List.mem_append.mp hd with hd | hd
    · rcases List.mem_append.mp hd with hd | hd
      · exact .inl (List.mem_append_left _ hd)
      · exact .inr (.inr (by rw [List.mem_singleton.mp hd]; rfl))
    · exact .inl (List.mem_append_right _ hd)
  | @removed _ c hc =>
    rcases List.mem_append.mp hd with hd | hd
    · exact .inl (List.mem_append_left _ (List.mem_of_mem_filter hd))
    · rcases List.mem_append.mp hd with hd | hd
      · exact .inl (List.mem_append_right _ hd)
      · exact .inr (.inl ⟨c, List.mem_append_left _ hc, 0, .disconnect, List.mem_singleton.mp hd⟩)

/-- Numbers of channels are never given out again. -/
theorem Deed.nextChannel_le (h : Deed drivers kind m outputs n) : m.nextChannel ≤ n.nextChannel := by
  cases h with
  | still e => exact Nat.le_of_eq e.nextChannel.symm
  | @task _ _ id work =>
    cases work with
    | none => exact Nat.le_refl _
    | some work => exact Nat.le_of_eq (setTask_nextChannel ..).symm
  | spawned info => exact Nat.le_of_eq (setTask_nextChannel m.takeNumber.1 m.nextTask _).symm
  | begun id => exact Nat.le_of_eq (setTask_nextChannel m id _).symm
  | bound call => exact Nat.le_of_eq (setTask_nextChannel m.startListening call _).symm
  | added | skipped => exact Nat.le_succ _
  | told | subscribed | unsubscribed | barred | moved | connected | failed | released | removed
  | registered | departed => exact Nat.le_refl _

/-- The number of a channel was given out, and something is true of the channel that has it. -/
structure Tracks (m : Manager) (id : Nat) (P : Channel → Prop) : Prop where
  given : id < m.nextChannel
  true_of : ∀ c ∈ m.channels ++ m.retired, c.id = id → P c

variable {id : Nat} {P : Channel → Prop}

/-- What moves keep of a channel, runs of the manager keep. -/
theorem run_tracks (hstep : ∀ c now move, c.Sound → P c → P (Channel.step c now move).1)
    (hm : m.Matched) (h : m.Tracks id P) (turns : List Turn) : (m.run drivers turns).Tracks id P := by
  refine run_keeps (P := (·.Tracks id P)) hm drivers (fun {kind m n outputs} d hm h => ?_) h turns
  refine ⟨Nat.lt_of_lt_of_le h.given d.nextChannel_le, fun x hx hid => ?_⟩
  rcases d.channel hx with hx | ⟨c, hc, now, move, rfl⟩ | hnew
  · exact h.true_of x hx hid
  · have hs := hm.sound.channels.sound c hc
    exact hstep c now move hs (h.true_of c hc ((Channel.step_id hs now move).symm.trans hid))
  · exact absurd h.given (by omega)

theorem Sound.tracks (hm : m.Sound) {c : Channel} (hc : c ∈ m.channels ++ m.retired) (h : P c) :
    m.Tracks c.id P :=
  ⟨hm.channels.numbers c hc, fun _ hx hid => hm.channels.eq hx hc hid ▸ h⟩

end Manager
end RemoteUsb
