import RemoteUsb.Proofs.Channel.Handles

/-! # A request that is called off

While a call waits for access, or for its device to be opened under a grant, its channel can be told to
let go: it is disconnecting from then on, until the call ends. `called_off_iff` says that the call never
gets its device, that it ends as soon as what it waits for has come, whatever that is, and that it leaves
the channel free and nothing open. It ends as cancelled, unless its opening failed: then it ends with that
failure. -/

namespace RemoteUsb

/-- The error with which a call ends that was called off. -/
def Phase.parting : Phase → RedirectError
  | .opening _ (some (.error fault)) => fault.toError .openFailed
  | _ => .cancelled

theorem Phase.parting_eq_cancelled {phase : Phase} :
    phase.parting = .cancelled ↔ ∀ granted fault, phase ≠ .opening granted (some (.error fault)) := by
  constructor
  · rintro h granted fault rfl
    cases fault <;> cases h
  · intro h
    unfold Phase.parting
    split
    · exact absurd rfl (h _ _)
    · rfl

namespace Channel

/-- What the call waits for comes with the move: the talk with the helper ends, or the call goes on after
its opening, or it is dropped. -/
def Settles (c : Channel) (call : Nat) (move : Move) : Prop :=
  ∃ a ∈ c.attempts, a.call = call ∧
    ((∃ x heard result, a.phase = .asking x ∧ x.step heard = .ends result ∧ move = .signal call heard) ∨
      (∃ granted outcome, a.phase = .opening granted (some outcome) ∧ move = .resume call) ∨
      move = .abandon call)

/-- The call was called off, and has not ended. -/
structure Leaving (c : Channel) (a : Attempt) : Prop where
  pending : c.Pending a
  state : c.state = .disconnecting
  guarded : a.phase.guarded = true

variable {c d : Channel} {moves : List Move} {now n : Nat} {move : Move} {effects : List Effect}
  {a : Attempt}

/-- What a move makes of a call that was called off: it goes on as such; or it ends, or is dropped, and
the channel is idle. -/
inductive Leaving.Next (a : Attempt) (binding : Nat) (settles : Prop) :
    Move → Channel → List (Nat × Except RedirectError Unit) → Prop where
  | goes {move : Move} {d : Channel} {b : Attempt} {ended : List (Nat × Except RedirectError Unit)}
      (_ : d.Leaving b) (_ : b.call = a.call) (_ : d.binding = binding) :
      Next a binding settles move d ended
  | ends {move : Move} {d : Channel} (_ : settles) (_ : move ≠ .abandon a.call) (_ : d.Idle)
      (_ : d.binding = binding + 1) :
      Next a binding settles move d [(a.call, .error a.phase.parting)]
  | dropped {d : Channel} (_ : settles) (_ : d.Idle) (_ : d.binding = binding + 1) :
      Next a binding settles (.abandon a.call) d []

theorem Leaving.next (h : c.Leaving a) (t : Passage c now move d effects) :
    Next a c.binding (c.Settles a.call move) move d (endings effects) := by
  cases t with
  | alike _ e => exact .goes ⟨h.pending.alike e, e.state.trans h.state, h.guarded⟩ rfl e.binding
  | stray e =>
    rw [closing, endings_closed]
    exact .goes ⟨h.pending.alike e, e.state.trans h.state, h.guarded⟩ rfl e.binding
  | refused => exact .goes h rfl rfl
  | barred hc | opens hc | asks hc => exact absurd hc.attempts h.pending.busy
  | released _ hc => exact absurd hc.attempts h.pending.busy
  | waits _ hc hd hb hs =>
    cases h.pending.unique hc
    refine .goes ⟨hd, ?_, h.guarded⟩ rfl hb
    rcases hs with hs | ⟨_, hs⟩
    · exact hs.trans h.state
    · exact hs
  | talks hc hp _ hd hb hs =>
    cases h.pending.unique hc
    exact .goes ⟨hd, hs.trans h.state, rfl⟩ rfl hb
  | granted hc hp _ hw => cases hw.symm.trans h.state
  | @denied heard d a' x result hc hp hx hd hb =>
    cases h.pending.unique hc
    have herror : refusal c.state result = a.phase.parting := by
      unfold refusal
      rw [if_pos h.state, hp]
      rfl
    rw [endings_append, endings_abandoned, herror]
    exact .ends ⟨a, h.pending.mem, rfl, .inl ⟨x, heard, result, hp, hx, rfl⟩⟩ nofun hd hb
  | done hc hp hd hb hs =>
    cases h.pending.unique hc
    refine .goes ⟨hd, hs.trans h.state, ?_⟩ rfl hb
    have := h.guarded
    rw [hp] at this
    exact this
  | connects _ _ hs => exact absurd h.state hs
  | @failed d a' granted outcome error hc hp hfault hok hd hb =>
    cases h.pending.unique hc
    have herror : error = a.phase.parting := by
      rw [hp]
      cases outcome with
      | error fault => exact hfault fault rfl
      | ok handle => exact hok handle rfl h.state
    rw [endings_append, endings_abandoned, herror]
    exact .ends ⟨a, h.pending.mem, rfl, .inr (.inl ⟨granted, outcome, hp, rfl⟩)⟩ nofun hd hb
  | dropped hc hd hb =>
    cases h.pending.unique hc
    rw [endings_abandoned]
    exact .dropped ⟨a, h.pending.mem, rfl, .inr (.inr rfl)⟩ hd hb

/-- Whatever the talk with the helper ends with, it ends a call that was called off. -/
theorem Settles.finishes {call : Nat} (h : c.Settles call move) (hs : c.state = .disconnecting) :
    c.Finishes call move := by
  obtain ⟨a, ha, hcall, ⟨x, heard, result, hp, hx, hm⟩ | hwhy⟩ := h
  · exact ⟨a, ha, hcall, .inl ⟨x, heard, result, hp, hx, fun _ => hs, hm⟩⟩
  · exact ⟨a, ha, hcall, .inr hwhy⟩

/-! ## From the moment at which it is called off -/

/-- Only a call that waits for access or opens its device under a grant can be called off. -/
theorem leaving_of_called_off (hc : c.Idle) (hw : (c.stateAt moves n).state = .waitingForAccess)
    (hd : (c.stateAt moves (n + 1)).state = .disconnecting) :
    ∃ a, (c.stateAt moves n).Pending a ∧ ∃ b, (c.stateAt moves (n + 1)).Leaving b ∧ b.call = a.call ∧
      (c.stateAt moves (n + 1)).binding = (c.stateAt moves n).binding := by
  have hpending : ∃ a, (c.stateAt moves n).Pending a ∧ a.phase.guarded = true := by
    cases stateAt_sound hc moves n with
    | idle h => cases h.state.symm.trans hw
    | holding _ _ h => cases h.state.symm.trans hw
    | pending a h =>
      refine ⟨a, h, ?_⟩
      cases hg : a.phase.guarded with
      | true => rfl
      | false => cases (h.unguarded hg).symm.trans hw
  obtain ⟨a, ha, hg⟩ := hpending
  refine ⟨a, ha, ?_⟩
  have unmoved : (c.stateAt moves (n + 1)).state ≠ (c.stateAt moves n).state := by
    rw [hw, hd]
    decide
  cases hm : moves[n]? with
  | none => exact absurd (congrArg state (stateAt_succ_of_none hm)) unmoved
  | some move =>
    have t := passage_at hc hm
    generalize c.stateAt moves (n + 1) = d, c.effectsAt moves n = effects at t hd unmoved ⊢
    cases t with
    | alike _ e | stray e => exact absurd e.state unmoved
    | refused => exact absurd rfl unmoved
    | talks _ _ _ _ _ hs | granted _ _ _ _ _ _ hs | done _ _ _ _ hs => exact absurd hs unmoved
    | barred _ h | denied _ _ _ h | failed _ _ _ _ h | dropped _ h | released _ _ h =>
      cases h.state.symm.trans hd
    | opens h | asks h => cases h.state.symm.trans hw
    | connects _ _ _ h => cases h.state.symm.trans hd
    | waits _ h h' hb =>
      cases ha.unique h
      exact ⟨_, ⟨h', hd, hg⟩, rfl, hb⟩

/-- From then on the call goes on as one that was called off, until it is over. -/
theorem Leaving.run (hc : c.Idle) (h : (c.stateAt moves (n + 1)).Leaving a) (i : Nat) :
    (∃ b, (c.stateAt moves (n + 1 + i)).Leaving b ∧ b.call = a.call ∧
      (c.stateAt moves (n + 1 + i)).binding = (c.stateAt moves (n + 1)).binding) ∨
    ∃ m, m < n + 1 + i ∧ c.Over moves a.call m ∧
      (c.stateAt moves (m + 1)).binding = (c.stateAt moves (n + 1)).binding + 1 := by
  induction i with
  | zero => exact .inl ⟨a, h, rfl, rfl⟩
  | succ i ih =>
    rcases ih with ⟨b, hb, hcall, hbinding⟩ | ⟨m, hm, hover⟩
    · cases hm : moves[n + 1 + i]? with
      | none =>
        have hsame : c.stateAt moves (n + 1 + (i + 1)) = _ := stateAt_succ_of_none hm
        exact .inl ⟨b, hsame ▸ hb, hcall, hsame ▸ hbinding⟩
      | some move =>
        have t := hb.next (passage_at hc hm)
        have hended := endingsAt_eq c moves (n + 1 + i)
        rw [← hended] at t
        change (∃ b, (c.stateAt moves (n + 1 + i + 1)).Leaving b ∧ _ ∧
          (c.stateAt moves (n + 1 + i + 1)).binding = _) ∨ _
        generalize hd : c.stateAt moves (n + 1 + i + 1) = d, he : c.endingsAt moves (n + 1 + i) = ended at t
        cases t with
        | goes h' hc' hb' => exact .inl ⟨_, h', hc'.trans hcall, hb'.trans hbinding⟩
        | ends _ _ _ hb' =>
          refine .inr ⟨n + 1 + i, by omega, .inl ⟨.error b.phase.parting, ?_⟩, by rw [hd, hb', hbinding]⟩
          rw [he, hcall]
          exact List.mem_singleton_self _
        | dropped _ _ hb' =>
          refine .inr ⟨n + 1 + i, by omega, .inr ⟨hcall ▸ hm, ?_⟩, by rw [hd, hb', hbinding]⟩
          rw [hb.pending.attempt?, if_pos hcall]
          exact nofun
    · exact .inr ⟨m, by omega, hover⟩

variable {m : Nat}

/-- A call that goes on at a moment was not over before. -/
theorem Over.not_before (hc : c.Idle) {call : Nat} (hm : c.Over moves call m) (hmn : m < n)
    (ha : a ∈ (c.stateAt moves n).attempts) : a.call ≠ call := by
  obtain ⟨i, rfl⟩ : ∃ i, n = m + 1 + i := ⟨n - (m + 1), by omega⟩
  exact hm.gone_after hc i a ha

/-- Under the binding of a call that was called off the channel is never connected. -/
theorem Leaving.never_connected (hc : c.Idle) (h : (c.stateAt moves (n + 1)).Leaving a) (k : Nat)
    (hk : (c.stateAt moves k).binding = (c.stateAt moves (n + 1)).binding) :
    (c.stateAt moves k).state ≠ .connected := by
  rcases Nat.lt_or_ge k (n + 1) with hlt | hle
  · obtain ⟨hcall, ⟨entry, stopped, hmade⟩, hbinding⟩ := attempts_made hc (n + 1) a h.pending.mem
    rcases Nat.lt_or_ge a.call k with hgt | hle
    · obtain ⟨i, rfl⟩ : ∃ i, k = a.call + i + 1 := ⟨k - a.call - 1, by omega⟩
      rcases over_or_pending hc hmade i with ⟨m, hm, hle⟩ | ⟨b, hb, _⟩
      · exact absurd rfl (hm.not_before hc (by omega) h.pending.mem)
      · exact hb.not_connected
    · have : (c.stateAt moves k).binding ≤ _ := stateAt_binding_le hc hle
      omega
  · obtain ⟨i, rfl⟩ : ∃ i, k = n + 1 + i := ⟨k - (n + 1), by omega⟩
    rcases h.run hc i with ⟨b, hb, _⟩ | ⟨m, hm, _, hb⟩
    · rw [hb.state]
      decide
    · have : (c.stateAt moves (m + 1)).binding ≤ _ := stateAt_binding_le hc (Nat.succ_le_of_lt hm)
      omega

/-- When a call that was called off is over, it was dropped or ends with what its phase says. -/
structure Left (c : Channel) (moves : List Move) (call m : Nat) : Prop where
  settled : ∃ move, moves[m]? = some move ∧ (c.stateAt moves m).Settles call move
  idle : (c.stateAt moves (m + 1)).Idle
  result : moves[m]? = some (.abandon call) ∧ c.endingsAt moves m = [] ∨
    moves[m]? ≠ some (.abandon call) ∧ ∃ b ∈ (c.stateAt moves m).attempts, b.call = call ∧
      c.endingsAt moves m = [(call, .error b.phase.parting)]

theorem Leaving.left (hc : c.Idle) (h : (c.stateAt moves (n + 1)).Leaving a)
    (hm : c.Over moves a.call m) : c.Left moves a.call m := by
  have hlater : n < m := by
    refine Nat.lt_of_not_le fun hle => ?_
    exact absurd rfl (hm.not_before hc (Nat.lt_succ_of_le hle) h.pending.mem)
  obtain ⟨i, rfl⟩ : ∃ i, m = n + 1 + i := ⟨m - (n + 1), by omega⟩
  rcases h.run hc i with ⟨b, hb, hcall, _⟩ | ⟨m', hm', hover, _⟩
  · cases hmove : moves[n + 1 + i]? with
    | none =>
      have hsame : c.stateAt moves (n + 1 + i + 1) = _ := stateAt_succ_of_none hmove
      exact absurd hcall (hm.gone hc b (hsame ▸ hb.pending.mem))
    | some move =>
      have t := hb.next (passage_at hc hmove)
      have hgone := hm.gone hc
      rw [← endingsAt_eq] at t
      generalize hd : c.stateAt moves (n + 1 + i + 1) = d at t hgone
      generalize he : c.endingsAt moves (n + 1 + i) = ended at t
      cases t with
      | goes h' hc' =>
        exact absurd (hc'.trans hcall) (hgone _ h'.pending.mem)
      | ends hs hne hidle =>
        refine ⟨⟨move, hmove, hcall ▸ hs⟩, hd ▸ hidle, .inr ⟨?_, b, hb.pending.mem, hcall, hcall ▸ he⟩⟩
        rw [hmove, ← hcall]
        exact fun he => hne (Option.some.inj he)
      | dropped hs hidle =>
        exact ⟨⟨_, hmove, hcall ▸ hs⟩, hd ▸ hidle, .inl ⟨hcall ▸ hmove, he⟩⟩
  · exact absurd (hover.unique hc hm) (by omega)

/-- It is over as soon as what it waits for has come. -/
theorem Leaving.over_of_settles (hc : c.Idle) (h : (c.stateAt moves (n + 1)).Leaving a) (hlater : n < m)
    (hmove : moves[m]? = some move) (hs : (c.stateAt moves m).Settles a.call move) :
    c.Over moves a.call m := by
  obtain ⟨i, rfl⟩ : ∃ i, m = n + 1 + i := ⟨m - (n + 1), by omega⟩
  rcases h.run hc i with ⟨b, hb, _⟩ | ⟨m', hm', hover, _⟩
  · exact over_of_finishes hc hmove (hs.finishes hb.state)
  · obtain ⟨b, hb, hcall, _⟩ := hs
    exact absurd hcall (hover.not_before hc hm' hb)

/-- Whatever happens to a channel: if it goes from waiting for access to disconnecting, then the call that
waits is never connected under its binding. The call is over once, at the moment at which what it waits
for comes. Then the channel is disconnected, and no device is bound; what was opened for the call is
closed, then or as soon as it comes. Unless the call is dropped it ends with an error, and that is the
cancellation exactly if the call does not go on from an opening that failed. -/
theorem called_off_iff (id : Nat) (transport : Transport) (threshold : Nat) (moves : List Move) (n : Nat)
    (hwaiting : ((new id transport threshold).stateAt moves n).state = .waitingForAccess)
    (hleaving : ((new id transport threshold).stateAt moves (n + 1)).state = .disconnecting) :
    let c := new id transport threshold
    ∃ a ∈ (c.stateAt moves n).attempts,
      (∀ k, (c.stateAt moves k).binding = (c.stateAt moves n).binding →
        (c.stateAt moves k).state ≠ .connected) ∧
      (∀ m m', c.Over moves a.call m → c.Over moves a.call m' → m = m') ∧
      (∀ m, c.Over moves a.call m ↔
        n < m ∧ ∃ move, moves[m]? = some move ∧ (c.stateAt moves m).Settles a.call move) ∧
      ∀ m, c.Over moves a.call m →
        (c.stateAt moves (m + 1)).state = .disconnected ∧ (c.stateAt moves (m + 1)).device = none ∧
        (∀ k h, c.OpenedFor moves a.call k h →
          ∃ j, k ≤ j ∧ j ≤ max k m ∧ Effect.closed h ∈ c.effectsAt moves j) ∧
        (moves[m]? = some (.abandon a.call) → c.endingsAt moves m = []) ∧
        (moves[m]? ≠ some (.abandon a.call) →
          (∃ error, c.endingsAt moves m = [(a.call, .error error)]) ∧
          (c.endingsAt moves m = [(a.call, .error .cancelled)] ↔
            ∀ b ∈ (c.stateAt moves m).attempts, ∀ granted fault,
              b.phase ≠ .opening granted (some (.error fault)))) := by
  intro c
  have hc : c.Idle := new_idle id transport threshold
  obtain ⟨a, ha, b, hb, hcall, hbinding⟩ := leaving_of_called_off hc hwaiting hleaving
  have hlater : ∀ m, c.Over moves a.call m → n < m := by
    intro m hm
    refine Nat.lt_of_not_le fun hle => ?_
    exact hm.not_before hc (Nat.lt_succ_of_le hle) hb.pending.mem hcall
  have left : ∀ m, c.Over moves a.call m → c.Left moves a.call m :=
    fun m hm => hcall ▸ hb.left hc (hcall ▸ hm)
  refine ⟨a, ha.mem, fun k hk => hb.never_connected hc k (hk.trans hbinding.symm),
    fun m m' hm hm' => hm.unique hc hm', fun m => ⟨fun hm => ⟨hlater m hm, (left m hm).settled⟩,
      fun hm => ?_⟩, fun m hm => ?_⟩
  · obtain ⟨hnm, move, hmove, hs⟩ := hm
    exact hcall ▸ hb.over_of_settles hc hnm hmove (hcall ▸ hs)
  · have hleft := left m hm
    refine ⟨hleft.idle.state, hleft.idle.device, fun k h hk => hm.closes hc ?_ hk, fun hdropped => ?_,
      fun hstayed => ?_⟩
    · rcases hleft.result with ⟨_, he⟩ | ⟨_, b, _, _, he⟩ <;> rw [he] <;> simp
    · rcases hleft.result with ⟨_, he⟩ | ⟨hne, _⟩
      · exact he
      · exact absurd hdropped hne
    · rcases hleft.result with ⟨hdropped, _⟩ | ⟨_, b, hb, hbcall, he⟩
      · exact absurd hdropped hstayed
      · refine ⟨⟨_, he⟩, ?_⟩
        have hpending := (stateAt_sound hc moves m).pending_of_mem hb
        rw [he]
        simp only [List.cons.injEq, Prod.mk.injEq, Except.error.injEq, true_and, and_true,
          Phase.parting_eq_cancelled, hpending.attempts, List.mem_singleton, forall_eq]

/-! ## An opening that fails, and one that does not -/

/-- Access is granted, the channel is told to disconnect, and then the opening fails. -/
def refusedOpening : List Move :=
  [.setContext {},
    .connect ⟨.busAddress 1 2, { bus := 1, address := 2 }, .hotplug⟩ .guarded false,
    .signal 1 (.accepted 4), .signal 1 (.replied (.line (Text.Utf8.encode "SUCCESS\n"))),
    .disconnect, .opened 1 (.error (.failed .access)), .resume 1]

def untouched : Channel := new 1 (.recording true false) 1000

/-- The channel goes from waiting for access to disconnecting, and its call ends with the failure of the
opening. -/
theorem refused_opening_is_told :
    (untouched.stateAt refusedOpening 4).state = .waitingForAccess ∧
      (untouched.stateAt refusedOpening 5).state = .disconnecting ∧
      untouched.endingsAt refusedOpening 6 = [(1, .error (.openFailed .access))] := by
  exact ⟨by decide +kernel, by decide +kernel, by with_unfolding_all rfl⟩

/-- Access is granted, the channel is told to disconnect, and then the device is opened. -/
def lateOpening : List Move :=
  refusedOpening.take 5 ++ [.opened 1 (.ok (.busAddress 1 2)), .resume 1]

/-- The call goes on until its device is opened. Then it ends as cancelled, and the device is closed. -/
theorem late_opening_called_off :
    (untouched.stateAt lateOpening 4).state = .waitingForAccess ∧
      (untouched.stateAt lateOpening 5).state = .disconnecting ∧
      (∀ m, untouched.Over lateOpening 1 m ↔ m = 6) ∧
      untouched.endingsAt lateOpening 6 = [(1, .error .cancelled)] ∧
      (untouched.stateAt lateOpening 7).device = none := by
  have hwaiting : (untouched.stateAt lateOpening 4).state = .waitingForAccess := by decide +kernel
  have hleaving : (untouched.stateAt lateOpening 5).state = .disconnecting := by decide +kernel
  obtain ⟨a, ha, _, honce, hover, hends⟩ :=
    called_off_iff 1 (.recording true false) 1000 lateOpening 4 hwaiting hleaving
  have hcalls : ∀ a ∈ (untouched.stateAt lateOpening 4).attempts, a.call = 1 := by decide +kernel
  rw [hcalls a ha] at honce hover hends
  have hopened : (untouched.stateAt lateOpening 6).attempts =
      [⟨1, ⟨.busAddress 1 2, { bus := 1, address := 2 }, .hotplug⟩, 1, false,
        .opening true (some (.ok ⟨.busAddress 1 2, 5⟩))⟩] := by with_unfolding_all rfl
  have hsettles : (untouched.stateAt lateOpening 6).Settles 1 (.resume 1) :=
    ⟨_, hopened ▸ List.mem_singleton_self _, rfl, .inr (.inl ⟨true, _, rfl, rfl⟩)⟩
  have hlast : untouched.Over lateOpening 1 6 := (hover 6).mpr ⟨by decide, .resume 1, rfl, hsettles⟩
  obtain ⟨_, hdevice, _, _, hresult⟩ := hends 6 hlast
  refine ⟨hwaiting, hleaving, fun m => ⟨fun hm => honce m 6 hm hlast, fun hm => hm ▸ hlast⟩,
    (hresult nofun).2.mpr fun b hb granted fault hphase => ?_, hdevice⟩
  have hb : b ∈ (untouched.stateAt lateOpening 6).attempts := hb
  rw [hopened, List.mem_singleton] at hb
  subst hb
  cases hphase

end Channel
end RemoteUsb
