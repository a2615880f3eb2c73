import RemoteUsb.Proofs.Access.Exchange
import RemoteUsb.Proofs.Channel.Handles

/-! # What is said in the course of a call

Along a run, every byte that is written to the helper of a call belongs to the conversation of the call,
and a device is opened under a grant only after the first reply granted it. -/

namespace RemoteUsb.Channel

open Access (Signal requestLine cancelLine)

/-- The first reply of a call's helper is awaited, or a cancellation. -/
def Awaits (c : Channel) (call : Nat) : Prop :=
  ∃ a ∈ c.attempts, a.call = call ∧ ∃ x, a.phase = .asking x ∧ x.stage = .waiting

variable (c : Channel) (moves : List Move)

/-- The signal is taken at the moment `n`, while the first reply is awaited. -/
def Hears (call n : Nat) (heard : Signal) : Prop :=
  moves[n]? = some (.signal call heard) ∧ (c.stateAt moves n).Awaits call

/-- Before the moment `n` a cancellation was taken, and no reply before it. -/
def Withdrawn (call n : Nat) : Prop := ∃ m, m < n ∧ c.Hears moves call m .cancelled

/-- Before the moment `n` the first reply was taken. -/
def Answered (call n : Nat) : Prop := ∃ m, m < n ∧ ∃ reply, c.Hears moves call m (.replied reply)

/-- All the bytes that were written to the helper of a call before a moment. -/
def writtenTo (call : Nat) : Nat → List UInt8
  | 0 => []
  | n + 1 =>
    match ((c.stateAt moves (n + 1)).attempt? call).map Attempt.phase with
    | some (.asking x) => x.written
    | _ => writtenTo call n

variable {c : Channel} {moves : List Move} {call n : Nat} {a : Attempt} {x : Access.Exchange}
  {device : RegisteredDevice} {stopped : Bool}

theorem attempt?_of_mem (hc : c.Sound) (ha : a ∈ c.attempts) : c.attempt? a.call = some a := by
  rw [(hc.pending_of_mem ha).attempt?, if_pos rfl]

theorem writtenTo_asking (hc : c.Idle) (ha : a ∈ (c.stateAt moves (n + 1)).attempts)
    (hx : a.phase = .asking x) : c.writtenTo moves a.call (n + 1) = x.written := by
  rw [writtenTo, attempt?_of_mem (stateAt_sound hc moves (n + 1)) ha, Option.map_some, hx]

theorem writtenTo_silent
    (h : ∀ a ∈ (c.stateAt moves (n + 1)).attempts, a.call = call → a.phase.isAsking = false) :
    c.writtenTo moves call (n + 1) = c.writtenTo moves call n := by
  rw [writtenTo]
  cases hf : (c.stateAt moves (n + 1)).attempt? call with
  | none => rfl
  | some a =>
    have hcall : a.call = call := by simpa using List.find?_some hf
    have hsilent := h a (List.mem_of_find?_eq_some hf) hcall
    rw [Option.map_some]
    split
    · rename_i x hx
      rw [Option.some.inj hx] at hsilent
      cases hsilent
    · rfl

theorem writtenTo_opening (ha : (c.stateAt moves (n + 1)).Pending a) (hp : a.phase.isAsking = false) :
    c.writtenTo moves call (n + 1) = c.writtenTo moves call n := by
  refine writtenTo_silent fun b hb _ => ?_
  rw [ha.attempts, List.mem_singleton] at hb
  rw [hb, hp]

theorem withdrawn_succ : c.Withdrawn moves call (n + 1) ↔
    c.Withdrawn moves call n ∨ c.Hears moves call n .cancelled := Nat.exists_lt_succ_right

theorem answered_succ : c.Answered moves call (n + 1) ↔
    c.Answered moves call n ∨ ∃ reply, c.Hears moves call n (.replied reply) := Nat.exists_lt_succ_right

/-- Only signals are heard, in the talk of a call that asks. -/
theorem Hears.minds {heard : Signal} (h : c.Hears moves call n heard) {move : Move}
    (hm : moves[n]? = some move) : (c.stateAt moves n).Minds move := by
  obtain ⟨hsignal, a, ha, hcall, x, hx, _⟩ := h
  cases hm.symm.trans hsignal
  exact ⟨a, ha, hcall, by rw [hx]; rfl⟩

/-- What is heard is heard by the call that asks. -/
theorem Hears.pending {heard : Signal} (h : c.Hears moves call n heard)
    (ha : (c.stateAt moves n).Pending a) : a.call = call ∧ ∃ x, a.phase = .asking x ∧ x.stage = .waiting := by
  obtain ⟨_, b, hb, hcall, hwhere⟩ := h
  rw [ha.attempts, List.mem_singleton] at hb
  exact hb ▸ ⟨hcall, hwhere⟩

/-- A signal in the talk of a call is heard exactly if the first reply is awaited. -/
theorem hears_iff {heard other : Signal} (ha : (c.stateAt moves n).Pending a) (hx : a.phase = .asking x)
    (hm : moves[n]? = some (.signal a.call heard)) :
    c.Hears moves a.call n other ↔ heard = other ∧ x.stage = .waiting := by
  constructor
  · intro h
    obtain ⟨_, y, hy, hs⟩ := h.pending ha
    cases hx.symm.trans hy
    cases hm.symm.trans h.1
    exact ⟨rfl, hs⟩
  · rintro ⟨rfl, hs⟩
    exact ⟨hm, a, ha.mem, rfl, x, hx, hs⟩

/-- Nobody hears anything for a call that was not made yet. -/
theorem Hears.after_made (hc : c.Idle) {heard : Signal} (h : c.Hears moves call n heard) : call < n := by
  obtain ⟨_, a, ha, rfl, _⟩ := h
  exact (attempts_made hc n a ha).1

theorem Alike.symm {d : Channel} (e : c.Alike d) : d.Alike c :=
  ⟨e.id.symm, e.state.symm, e.device.symm, e.handle.symm, e.grant.symm, e.request.symm, e.attempts.symm,
    e.binding.symm⟩

/-! ## The conversation of a call -/

/-- What was said for a call in a phase: `written` is all that was written. -/
def Spoken (bus address : UInt8) (written : List UInt8) (withdrawn answered : Prop) : Phase → Prop
  | .asking x => written = x.written ∧ x.Fits bus address ∧ (withdrawn ↔ x.stage.isWithdrawn = true) ∧
      ¬answered
  | .opening granted _ => granted = true ∧ written = requestLine bus address ∧ ¬withdrawn

/-- What was said stays as it is where nothing is heard and the phase stays. -/
theorem Spoken.unheard (hc : c.Idle) {bus address : UInt8} {b : Attempt}
    (h : Spoken bus address (c.writtenTo moves call n) (c.Withdrawn moves call n)
      (c.Answered moves call n) a.phase)
    (hd : (c.stateAt moves (n + 1)).Pending b) (hcall : b.call = call) (hphase : b.phase = a.phase)
    (hn : ∀ heard, ¬c.Hears moves call n heard) :
    Spoken bus address (c.writtenTo moves call (n + 1)) (c.Withdrawn moves call (n + 1))
      (c.Answered moves call (n + 1)) b.phase := by
  subst hcall
  have hwithdrawn : c.Withdrawn moves b.call (n + 1) ↔ c.Withdrawn moves b.call n := by
    rw [withdrawn_succ, or_iff_left (hn _)]
  have hanswered : c.Answered moves b.call (n + 1) ↔ c.Answered moves b.call n := by
    rw [answered_succ, or_iff_left fun ⟨_, h⟩ => hn _ h]
  rw [← hphase] at h
  cases hb : b.phase with
  | asking x =>
    rw [hb] at h
    obtain ⟨_, hfits, hw, ha⟩ := h
    exact ⟨writtenTo_asking hc hd.mem hb, hfits, hwithdrawn.trans hw, fun h => ha (hanswered.mp h)⟩
  | opening granted outcome =>
    rw [hb] at h
    obtain ⟨hgranted, hwritten, hw⟩ := h
    exact ⟨hgranted, (writtenTo_opening hd (by rw [hb]; rfl)).trans hwritten,
      fun h => hw (hwithdrawn.mp h)⟩

/-- While a call goes on, what was said for it is what its phase says. -/
theorem attempt_spoken (hc : c.Idle) (made : moves[call]? = some (.connect device .guarded stopped))
    (n : Nat) :
    ∀ a, (c.stateAt moves n).Pending a → a.call = call →
      Spoken device.info.bus device.info.address (c.writtenTo moves call n) (c.Withdrawn moves call n)
        (c.Answered moves call n) a.phase := by
  induction n with
  | zero =>
    intro a ha
    rw [show c.stateAt moves 0 = c by simp [stateAt, after]] at ha
    cases hc.attempts.symm.trans ha.attempts
  | succ n ih =>
    intro b hb hcall
    cases hm : moves[n]? with
    | none =>
      have hsame := hb
      rw [stateAt_succ_of_none hm] at hsame
      exact (ih b hsame hcall).unheard hc hb hcall rfl fun _ h => by cases hm.symm.trans h.1
    | some move =>
      have t := passage_at hc hm
      have hminds : ¬(c.stateAt moves n).Minds move → ∀ heard, ¬c.Hears moves call n heard :=
        fun hnot _ h => hnot (h.minds hm)
      have hsilent : (∀ other heard, move ≠ .signal other heard) → ∀ heard, ¬c.Hears moves call n heard :=
        fun hnot _ h => hnot _ _ (Option.some.inj (hm.symm.trans h.1))
      generalize hd : c.stateAt moves (n + 1) = d at t hb
      generalize c.effectsAt moves n = effects at t
      have hmem : b ∈ (c.stateAt moves (n + 1)).attempts := hd ▸ hb.mem
      cases t with
      | alike hnot e =>
        exact (ih b (hb.alike e.symm) hcall).unheard hc (hd ▸ hb) hcall rfl (hminds hnot)
      | stray e =>
        exact (ih b (hb.alike e.symm) hcall).unheard hc (hd ▸ hb) hcall rfl (hsilent (by simp))
      | refused =>
        exact (ih b hb hcall).unheard hc (hd ▸ hb) hcall rfl (hsilent (by simp))
      | barred _ h => exact absurd h.attempts hb.busy
      | connects _ _ _ h => exact absurd h.attempts hb.busy
      | denied _ _ _ h | failed _ _ _ _ h | dropped _ h | released _ _ h => exact absurd h.attempts hb.busy
      | waits hnot h h' =>
        cases h'.unique hb
        exact (ih _ h hcall).unheard hc (hd ▸ hb) hcall rfl (hminds hnot)
      | opens _ h =>
        cases h.unique hb
        cases hcall
        cases hm.symm.trans made
      | asks _ h =>
        cases h.unique hb
        cases hcall
        cases hm.symm.trans made
        have never : ∀ {m : Nat} {heard : Signal}, m < n + 1 → ¬c.Hears moves n m heard := by
          intro m heard hm h
          have := h.after_made hc
          omega
        refine ⟨writtenTo_asking hc hmem rfl, Access.Exchange.fits_start _ _, iff_of_false ?_ ?_, ?_⟩
        · rintro ⟨_, hm, h⟩
          exact never hm h
        · intro h
          cases h
        · rintro ⟨_, hm, _, h⟩
          exact never hm h
      | @talks heard _ a x y h hp hx h' =>
        cases h'.unique hb
        cases hcall
        have hbefore := ih a h rfl
        rw [hp] at hbefore
        obtain ⟨_, hfits, hw, hanswered⟩ := hbefore
        refine ⟨writtenTo_asking hc hmem rfl, hfits.step hx, ?_, ?_⟩
        · rw [withdrawn_succ, hw, hears_iff h hp hm, Access.Exchange.isWithdrawn_step hx, and_comm]
        · rw [answered_succ]
          rintro (h'' | ⟨reply, h''⟩)
          · exact hanswered h''
          · -- the first reply ends the talk
            obtain ⟨rfl, hs⟩ := (hears_iff h hp hm).mp h''
            simp [Access.Exchange.step, hs] at hx
      | @granted heard _ a x h hp hx _ h' =>
        cases h'.unique hb
        cases hcall
        obtain ⟨hs, reply, hheard, _⟩ := Access.Exchange.ends_ok hx
        have hbefore := ih a h rfl
        rw [hp] at hbefore
        obtain ⟨hwritten, hfits, hw, _⟩ := hbefore
        rw [Access.Exchange.Fits, hs] at hfits
        refine ⟨rfl, (writtenTo_opening (hd ▸ h') rfl).trans (hwritten.trans hfits), ?_⟩
        rw [withdrawn_succ, hw, hs, hears_iff h hp hm, hheard]
        rintro (h'' | ⟨h'', _⟩)
        · cases h''
        · cases h''
      | @done _ _ a granted h hp h' =>
        cases h'.unique hb
        have hbefore := ih a h hcall
        rw [hp] at hbefore
        refine ⟨hbefore.1, (writtenTo_opening (hd ▸ h') rfl).trans hbefore.2.1, ?_⟩
        rw [withdrawn_succ, or_iff_left (hsilent (by simp) _)]
        exact hbefore.2.2

/-- Nothing but the request is written to the helper, and what takes it back, the latter only after a
cancellation was taken before any reply. -/
theorem writtenTo_lines (hc : c.Idle) (made : moves[call]? = some (.connect device .guarded stopped))
    (n : Nat) :
    c.writtenTo moves call n <+: requestLine device.info.bus device.info.address ∨
      c.Withdrawn moves call n ∧
        requestLine device.info.bus device.info.address <+: c.writtenTo moves call n ∧
        c.writtenTo moves call n <+: requestLine device.info.bus device.info.address ++ cancelLine := by
  induction n with
  | zero => exact .inl (List.nil_prefix)
  | succ n ih =>
    by_cases hasks : ∃ a, (c.stateAt moves (n + 1)).Pending a ∧ a.call = call ∧ a.phase.isAsking = true
    · obtain ⟨a, ha, hcall, hp⟩ := hasks
      have hspoken := attempt_spoken hc made (n + 1) a ha hcall
      cases hphase : a.phase with
      | opening granted outcome =>
        rw [hphase] at hp
        cases hp
      | asking x =>
        rw [hphase] at hspoken
        obtain ⟨hwritten, hfits, hw, _⟩ := hspoken
        rw [hwritten, hw]
        exact hfits.written
    · have hsilent : c.writtenTo moves call (n + 1) = c.writtenTo moves call n := by
        refine writtenTo_silent fun a ha hcall => ?_
        have hpending := (stateAt_sound hc moves (n + 1)).pending_of_mem ha
        exact Bool.eq_false_iff.mpr fun hp => hasks ⟨a, hpending, hcall, hp⟩
      rw [hsilent, withdrawn_succ]
      rcases ih with h | ⟨hw, h⟩
      · exact .inl h
      · exact .inr ⟨.inl hw, h⟩

@[simp] theorem opening_not_mem_abandoned {other : Nat} {key : DeviceKey} {phase : Phase} :
    Effect.opening call key ∉ abandoned other phase := by
  cases phase with
  | asking x => simp [abandoned]
  | opening granted outcome =>
    rcases outcome with _ | fault | handle <;> cases granted <;> simp [abandoned, Except.toOption]

/-- The device is opened under a grant only when the first reply is taken, and that is the word. -/
theorem opening_granted (hc : c.Idle) (made : moves[call]? = some (.connect device .guarded stopped))
    {key : DeviceKey} (ho : Effect.opening call key ∈ c.effectsAt moves n) :
    ∃ line text, c.Hears moves call n (.replied (.line line)) ∧
      Text.Utf8.decode (Access.lineContent line) = .ok text ∧ Text.trim text = "SUCCESS" ∧
      ¬c.Withdrawn moves call n ∧ ¬c.Answered moves call n := by
  cases hm : moves[n]? with
  | none =>
    rw [effectsAt_of_none hm] at ho
    cases ho
  | some move =>
    have t := passage_at hc hm
    generalize c.stateAt moves (n + 1) = d at t
    generalize c.effectsAt moves n = effects at t ho
    cases t with
    | opens =>
      cases List.mem_singleton.mp ho
      cases hm.symm.trans made
    | @granted heard _ a x h hp hx =>
      cases List.mem_singleton.mp ho
      obtain ⟨hs, reply, rfl, hverdict⟩ := Access.Exchange.ends_ok hx
      obtain ⟨line, text, rfl, hdecode, htrim⟩ := Access.Reply.verdict_ok_iff.mp hverdict
      have hspoken := attempt_spoken hc made n a h rfl
      rw [hp] at hspoken
      obtain ⟨_, _, hw, hanswered⟩ := hspoken
      refine ⟨line, text, (hears_iff h hp hm).mpr ⟨rfl, hs⟩, hdecode, htrim, ?_, hanswered⟩
      rw [hw, hs]
      exact Bool.false_ne_true
    | stray => simp [closing] at ho
    | _ => simp at ho

/-- A call that goes on ends before the request was written only if it is dropped, or the helper's input
breaks. -/
theorem Over.asked (hc : c.Idle) (made : moves[call]? = some (.connect device .guarded stopped))
    (h : c.Over moves call n) (ha : (c.stateAt moves n).Pending a) (hcall : a.call = call)
    (hstayed : moves[n]? ≠ some (.abandon call))
    (hwhole : ∀ text, moves[n]? ≠ some (.signal call (.broken text))) :
    requestLine device.info.bus device.info.address <+: c.writtenTo moves call n := by
  subst hcall
  have hspoken := attempt_spoken hc made n a ha rfl
  cases hp : a.phase with
  | opening granted outcome =>
    rw [hp] at hspoken
    exact hspoken.2.1 ▸ List.prefix_refl _
  | asking x =>
    rw [hp] at hspoken
    obtain ⟨hwritten, hfits, _⟩ := hspoken
    rw [hwritten]
    refine hfits.asked fun left hs => ?_
    cases hm : moves[n]? with
    | none =>
      rcases h with ⟨result, h⟩ | ⟨h, _⟩
      · rw [endingsAt_of_none hm] at h
        cases h
      · cases hm.symm.trans h
    | some move =>
      have hgone := h.gone hc
      have t := passage_at hc hm
      generalize c.stateAt moves (n + 1) = d at t hgone
      generalize c.effectsAt moves n = effects at t
      have ended : ∀ {b : Attempt} {p : Prop}, d.Pending b → b.call = a.call → p :=
        fun hb hcall => absurd hcall (hgone _ hb.mem)
      cases t with
      | alike _ e | stray e => exact ended (ha.alike e) rfl
      | refused => exact ended ha rfl
      | barred h | opens h | asks h | released _ h => exact absurd h.attempts ha.busy
      | waits _ h h' | talks h _ _ h' | granted h _ _ _ h' | done h _ h' =>
        cases ha.unique h
        exact ended h' rfl
      | connects h hp' | failed h hp' =>
        cases ha.unique h
        cases hp.symm.trans hp'
      | dropped h =>
        cases ha.unique h
        exact hstayed hm
      | denied h hp' hx =>
        cases ha.unique h
        cases hp.symm.trans hp'
        rcases Access.Exchange.ends_by hx with ⟨_, text, _, rfl, _⟩ | ⟨_, _, ⟨hs', _⟩ | ⟨hs', _⟩⟩
        · exact hwhole text hm
        · cases hs.symm.trans hs'
        · cases hs.symm.trans hs'

end RemoteUsb.Channel
