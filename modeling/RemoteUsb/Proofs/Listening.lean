import Mathlib.Data.List.Count
import RemoteUsb.Listening

/-! # How many threads may run

Threads come one after another, and one that was told to stop may go on with its last poll while the next
ones come and go. `one_pump_may_run` says of all threads that were ever started that exactly one may run
while somebody listens, the one that was started last, and that a thread which was told to stop never
polls again. The count, the flag that is held and the flags of all threads are kept together by `Sound`:
between two calls there are only two shapes. -/

namespace RemoteUsb

namespace Pump

variable {p q r : Pump}

/-- What a thread is later: a cleared flag is not set again, and a thread that has ended does not go on. -/
structure Later (p q : Pump) : Prop where
  cleared : p.mayRun = false → q.mayRun = false
  finished : p.finished = true → q.finished = true

theorem Later.refl (p : Pump) : p.Later p := ⟨id, id⟩

theorem Later.trans (h : p.Later q) (h' : q.Later r) : p.Later r :=
  ⟨fun hp => h'.cleared (h.cleared hp), fun hp => h'.finished (h.finished hp)⟩

theorem look_mayRun (p : Pump) : p.look.mayRun = p.mayRun := by
  unfold look
  split <;> rfl

theorem look_later (p : Pump) : p.Later p.look := by
  refine ⟨fun hp => (look_mayRun p).trans hp, fun hp => ?_⟩
  unfold look
  split
  · exact hp
  · rfl

theorem clear_later (p : Pump) : p.Later p.clear := ⟨fun _ => rfl, id⟩

/-- A thread that finds its flag cleared ends. -/
theorem look_finished (h : p.mayRun = false) : p.look.finished = true := by
  rw [look, h]
  rfl

end Pump

namespace Listening

/-- A call that counts a listener, or counts one off, or a look of a thread at its flag. -/
inductive Step where
  | start
  | stop
  | look (thread : Nat)

def step (l : Listening) : Step → Listening
  | .start => l.start
  | .stop => l.stop
  | .look thread => l.look thread

def after (l : Listening) (steps : List Step) : Listening := steps.foldl step l

/-- What a step makes of a counter that does not go below zero. -/
def tally (count : Nat) : Step → Nat
  | .start => count + 1
  | .stop => count - 1
  | .look _ => count

variable {l : Listening}

/-! ## Threads one by one -/

theorem modify_later {pumps : List Pump} {f : Pump → Pump} (hf : ∀ p : Pump, p.Later (f p)) (place : Nat)
    {i : Nat} {p : Pump} (h : pumps[i]? = some p) :
    ∃ q, (pumps.modify place f)[i]? = some q ∧ p.Later q := by
  rw [List.getElem?_modify, h]
  refine ⟨_, rfl, ?_⟩
  split
  · exact hf p
  · exact .refl p

theorem letGo_later {i : Nat} {p : Pump} (h : l.pumps[i]? = some p) :
    ∃ q, l.letGo.pumps[i]? = some q ∧ p.Later q := by
  unfold letGo
  split
  · exact ⟨p, h, .refl p⟩
  · exact modify_later Pump.clear_later _ h

/-- A thread keeps its place, whatever happens. -/
theorem step_later (s : Step) {i : Nat} {p : Pump} (h : l.pumps[i]? = some p) :
    ∃ q, (l.step s).pumps[i]? = some q ∧ p.Later q := by
  cases s with
  | start =>
    refine ⟨p, ?_, .refl p⟩
    rw [step, start]
    split
    · rw [List.getElem?_append_left (List.getElem?_eq_some_iff.mp h).1]
      exact h
    · exact h
  | stop =>
    rw [step, stop]
    split
    · exact ⟨p, h, .refl p⟩
    · exact letGo_later h
    · exact ⟨p, h, .refl p⟩
  | look thread => exact modify_later Pump.look_later thread h

theorem after_later (steps : List Step) {i : Nat} {p : Pump} (h : l.pumps[i]? = some p) :
    ∃ q, (l.after steps).pumps[i]? = some q ∧ p.Later q := by
  induction steps generalizing l p with
  | nil => exact ⟨p, h, .refl p⟩
  | cons s steps ih =>
    obtain ⟨q, hq, hpq⟩ := step_later s h
    obtain ⟨r, hr, hqr⟩ := ih hq
    exact ⟨r, hr, hpq.trans hqr⟩

/-! ## All threads together -/

/-- Nobody listens, no flag is held and no thread may run; or somebody listens, and only the thread that
was started last may run, has not ended, and has its flag held. -/
inductive Sound : Listening → Prop where
  | idle {earlier : List Pump} (_ : ∀ p ∈ earlier, p.mayRun = false) : Sound ⟨0, earlier, none⟩
  | busy (others : Nat) {earlier : List Pump} (_ : ∀ p ∈ earlier, p.mayRun = false) :
    Sound ⟨others + 1, earlier ++ [⟨true, false⟩], some earlier.length⟩

theorem modify_look_cleared {pumps : List Pump} (h : ∀ p ∈ pumps, p.mayRun = false) (thread : Nat) :
    ∀ p ∈ pumps.modify thread Pump.look, p.mayRun = false := by
  intro q hq
  obtain ⟨i, hi⟩ := List.mem_iff_getElem?.mp hq
  rw [List.getElem?_modify] at hi
  obtain ⟨p, hp, rfl⟩ := Option.map_eq_some_iff.mp hi
  have hcleared := h p (List.mem_of_getElem? hp)
  split
  · exact (Pump.look_mayRun p).trans hcleared
  · exact hcleared

/-- A look of the thread that may run changes nothing, so a look concerns the earlier threads only. -/
theorem modify_look_append (earlier : List Pump) (thread : Nat) :
    (earlier ++ [(⟨true, false⟩ : Pump)]).modify thread Pump.look =
      earlier.modify thread Pump.look ++ [⟨true, false⟩] := by
  induction earlier generalizing thread with
  | nil => cases thread <;> simp [Pump.look]
  | cons p earlier ih =>
    cases thread with
    | zero => rfl
    | succ thread => simp [ih]

theorem letGo_busy (listeners : Nat) (earlier : List Pump) :
    letGo ⟨listeners, earlier ++ [⟨true, false⟩], some earlier.length⟩ =
      ⟨listeners, earlier ++ [⟨false, false⟩], none⟩ := by
  have hlast : (earlier ++ [(⟨true, false⟩ : Pump)]).modify earlier.length Pump.clear =
      earlier ++ [⟨false, false⟩] := List.modifyTailIdx_add _ 0 earlier [⟨true, false⟩]
  exact congrArg (fun pumps => Listening.mk listeners pumps none) hlast

theorem cleared_snoc {earlier : List Pump} (h : ∀ p ∈ earlier, p.mayRun = false) :
    ∀ p ∈ earlier ++ [(⟨false, false⟩ : Pump)], p.mayRun = false := by
  simpa [or_imp, forall_and] using h

theorem Sound.step (h : l.Sound) (s : Step) : (l.step s).Sound := by
  cases h with
  | idle hcleared =>
    cases s with
    | start => exact .busy 0 hcleared
    | stop => exact .idle hcleared
    | look thread => exact .idle (modify_look_cleared hcleared thread)
  | @busy others earlier hcleared =>
    cases s with
    | start => exact .busy (others + 1) hcleared
    | stop =>
      cases others with
      | zero =>
        change Sound
          { letGo ⟨1, earlier ++ [⟨true, false⟩], some earlier.length⟩ with listeners := 0 }
        rw [letGo_busy]
        exact .idle (cleared_snoc hcleared)
      | succ others => exact .busy others hcleared
    | look thread =>
      have hlook := Sound.busy others (modify_look_cleared hcleared thread)
      rw [List.length_modify, ← modify_look_append] at hlook
      exact hlook

theorem Sound.after (h : l.Sound) (steps : List Step) : (l.after steps).Sound := by
  induction steps generalizing l with
  | nil => exact h
  | cons s steps ih => exact ih (h.step s)

theorem step_listeners (l : Listening) (s : Step) : (l.step s).listeners = tally l.listeners s := by
  obtain ⟨listeners, pumps, held⟩ := l
  cases s with
  | start => cases listeners <;> rfl
  | stop => rcases listeners with _ | _ | listeners <;> rfl
  | look thread => rfl

theorem after_listeners (l : Listening) (steps : List Step) :
    (l.after steps).listeners = steps.foldl tally l.listeners := by
  induction steps generalizing l with
  | nil => rfl
  | cons s steps ih =>
    rw [List.foldl_cons, ← step_listeners]
    exact ih (l.step s)

/-- How many threads may run. -/
theorem Sound.count (h : l.Sound) :
    l.pumps.countP (·.mayRun) = if 0 < l.listeners then 1 else 0 := by
  have hnone : ∀ {earlier : List Pump}, (∀ p ∈ earlier, p.mayRun = false) →
      earlier.countP (·.mayRun) = 0 := fun hcleared =>
    List.countP_eq_zero.mpr fun p hp => by simp [hcleared p hp]
  cases h with
  | idle hcleared => exact hnone hcleared
  | busy others hcleared =>
    rw [List.countP_append, hnone hcleared, if_pos (Nat.succ_pos others)]
    rfl

/-- Which thread may run. -/
theorem Sound.last (h : l.Sound) {i : Nat} {p : Pump} (hi : l.pumps[i]? = some p)
    (hp : p.mayRun = true) : i + 1 = l.pumps.length ∧ p.finished = false := by
  have hfalse : ∀ {earlier : List Pump}, (∀ p ∈ earlier, p.mayRun = false) → p ∉ earlier :=
    fun hcleared hin => by simp [hcleared p hin] at hp
  cases h with
  | idle hcleared => exact absurd (List.mem_of_getElem? hi) (hfalse hcleared)
  | @busy others earlier hcleared =>
    have hlt : i < (earlier ++ [(⟨true, false⟩ : Pump)]).length := (List.getElem?_eq_some_iff.mp hi).1
    have hout : ¬i < earlier.length := fun hin =>
      hfalse hcleared (List.mem_of_getElem? ((List.getElem?_append_left hin).symm.trans hi))
    rw [List.length_append, List.length_singleton] at hlt ⊢
    have hi' : i = earlier.length := by omega
    subst hi'
    rw [List.getElem?_concat_length] at hi
    cases hi
    exact ⟨rfl, rfl⟩

theorem Sound.letGo (h : l.Sound) : ∀ p ∈ l.letGo.pumps, p.mayRun = false := by
  cases h with
  | idle hcleared => exact hcleared
  | busy others hcleared =>
    rw [letGo_busy]
    exact cleared_snoc hcleared

/-- Whatever row of calls comes, with threads that look at their flags at any time in between: the
listeners are counted, without going below zero. Of all threads that were ever started one may run while
somebody listens, and none otherwise. It is the one that was started last, and it has not ended. A thread
whose flag is cleared at some time finds it cleared ever after, and ends when it looks at it, and a thread
that has ended stays so. When the owner of the threads goes away, no thread may run. -/
theorem one_pump_may_run (steps : List Step) :
    let l := after {} steps
    l.listeners = steps.foldl tally 0 ∧
    (l.pumps.countP (·.mayRun) = if 0 < l.listeners then 1 else 0) ∧
    (∀ i p, l.pumps[i]? = some p → p.mayRun = true → i + 1 = l.pumps.length ∧ p.finished = false) ∧
    (∀ i p, l.pumps[i]? = some p → p.mayRun = false → ∀ later,
      ∃ q, (l.after later).pumps[i]? = some q ∧
        q.mayRun = false ∧ (p.finished = true → q.finished = true) ∧
        ∃ r, ((l.after later).look i).pumps[i]? = some r ∧ r.finished = true) ∧
    ∀ p ∈ l.letGo.pumps, p.mayRun = false := by
  intro l
  have hsound : l.Sound := (Sound.idle (by simp)).after steps
  refine ⟨after_listeners {} steps, hsound.count, fun i p => hsound.last, ?_, hsound.letGo⟩
  intro i p hi hp later
  obtain ⟨q, hq, hpq⟩ := after_later later hi
  have hcleared := hpq.cleared hp
  refine ⟨q, hq, hcleared, hpq.finished, q.look, ?_, Pump.look_finished hcleared⟩
  rw [look, List.getElem?_modify_eq, hq]
  rfl

/-- A thread that was told to stop is still in its last poll when the next one is started. -/
example : (after {} [.start, .stop, .start]).pumps = [⟨false, false⟩, ⟨true, false⟩] := rfl

end Listening
end RemoteUsb
