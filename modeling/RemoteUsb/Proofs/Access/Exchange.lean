import RemoteUsb.Access.Exchange

/-! # What a helper is told, and what it is believed

In a conversation the line of the request is written first, and the line that takes it back only after
somebody cancelled while the first reply was awaited. Only a first reply that is the one word can grant
anything. -/

namespace RemoteUsb.Access

variable {bus address : UInt8}

/-- A reply grants access exactly if it is a line of text that is the word, up to the blanks around. -/
theorem Reply.verdict_ok_iff {reply : Reply} :
    reply.verdict = .ok () ↔ ∃ line text, reply = .line line ∧
      Text.Utf8.decode (lineContent line) = .ok text ∧ Text.trim text = "SUCCESS" := by
  cases reply with
  | ended => simp [Reply.verdict]
  | failed text => simp [Reply.verdict]
  | line bytes =>
    unfold Reply.verdict
    dsimp only
    cases hd : Text.Utf8.decode (lineContent bytes) with
    | error fault =>
      refine iff_of_false (fun h => by cases h) ?_
      rintro ⟨_, _, hline, hd', _⟩
      cases hline
      cases hd.symm.trans hd'
    | ok text =>
      dsimp only
      constructor
      · intro h
        split at h
        · exact ⟨bytes, text, rfl, hd, ‹_›⟩
        · cases h
        · cases h
      · rintro ⟨_, _, hline, hd', htrim⟩
        cases hline
        cases hd.symm.trans hd'
        simp [htrim]

def Stage.isWithdrawn : Stage → Bool
  | .asking _ | .waiting => false
  | .withdrawing _ | .draining => true

namespace Exchange

variable {x y : Exchange} {heard : Signal}

/-! ## The steps of a conversation -/

/-- What a signal makes of a conversation that goes on. -/
inductive Goes (x : Exchange) : Signal → Exchange → Prop where
  | asks {left : List UInt8} {count : Nat} (_ : x.stage = .asking left) :
      Goes x (.accepted count) (x.progress left count .asking .waiting)
  | cancels (_ : x.stage = .waiting) : Goes x .cancelled { x with stage := .withdrawing cancelLine }
  | withdraws {left : List UInt8} {count : Nat} (_ : x.stage = .withdrawing left) :
      Goes x (.accepted count) (x.progress left count .withdrawing .draining)
  /-- The cancellation could not be written. -/
  | breaks {left : List UInt8} {text : String} (_ : x.stage = .withdrawing left) :
      Goes x (.broken text) { x with stage := .draining }
  | ignores {heard : Signal} (_ : x.stage = .waiting → heard ≠ .cancelled) : Goes x heard x

theorem goes_of_step (hx : x.step heard = .goes y) : x.Goes heard y := by
  rcases x with ⟨written, left | _ | left | _⟩ <;> rcases heard with count | text | reply | _ <;> cases hx
  case asking.accepted => exact .asks rfl
  case waiting.cancelled => exact .cancels rfl
  case withdrawing.accepted => exact .withdraws rfl
  case withdrawing.broken => exact .breaks rfl
  all_goals exact .ignores nofun

/-- A conversation ends by a reply, or because the request could not be written. Only the first reply can
grant access. -/
theorem ends_by {result : Except AccessError Unit} (hx : x.step heard = .ends result) :
    (∃ left text, x.stage = .asking left ∧ heard = .broken text ∧ result = .error (.io text)) ∨
      ∃ reply, heard = .replied reply ∧ (x.stage = .waiting ∧ result = reply.verdict ∨
        x.stage = .draining ∧ result = .error .cancelled) := by
  rcases x with ⟨written, left | _ | left | _⟩ <;> rcases heard with count | text | reply | _ <;> cases hx
  case asking.broken => exact .inl ⟨left, text, rfl, rfl, rfl⟩
  case waiting.replied => exact .inr ⟨reply, rfl, .inl ⟨rfl, rfl⟩⟩
  case draining.replied => exact .inr ⟨reply, rfl, .inr ⟨rfl, rfl⟩⟩

theorem ends_ok (hx : x.step heard = .ends (.ok ())) :
    x.stage = .waiting ∧ ∃ reply, heard = .replied reply ∧ reply.verdict = .ok () := by
  rcases ends_by hx with ⟨_, _, _, _, h⟩ | ⟨reply, hr, ⟨hs, h⟩ | ⟨_, h⟩⟩
  · cases h
  · exact ⟨hs, reply, hr, h.symm⟩
  · cases h

/-! ## What is written -/

/-- What was written so far, at every stage. -/
def Fits (bus address : UInt8) (x : Exchange) : Prop :=
  match x.stage with
  | .asking left => x.written ++ left = requestLine bus address
  | .waiting => x.written = requestLine bus address
  | .withdrawing left => requestLine bus address <+: x.written ∧
      x.written ++ left = requestLine bus address ++ cancelLine
  | .draining => requestLine bus address <+: x.written ∧
      x.written <+: requestLine bus address ++ cancelLine

theorem fits_start (bus address : UInt8) : (start bus address).Fits bus address := List.nil_append _

/-- What was written together with what is left stays the same. -/
theorem progress_written (x : Exchange) (left : List UInt8) (count : Nat) (more : List UInt8 → Stage)
    (done : Stage) : (x.progress left count more done).written ++ left.drop count = x.written ++ left := by
  rw [progress, List.append_assoc, List.take_append_drop]

theorem progress_stage (x : Exchange) (left : List UInt8) (count : Nat) (more : List UInt8 → Stage)
    (done : Stage) : left.drop count = [] ∧ (x.progress left count more done).stage = done ∨
      (x.progress left count more done).stage = more (left.drop count) := by
  unfold progress
  cases h : left.drop count with
  | nil => exact .inl ⟨rfl, rfl⟩
  | cons byte rest => exact .inr rfl

theorem Fits.step (h : x.Fits bus address) (hx : x.step heard = .goes y) : y.Fits bus address := by
  unfold Fits at h
  cases goes_of_step hx with
  | @asks left count hs =>
    rw [hs] at h
    have hwritten := (x.progress_written left count .asking .waiting).trans h
    unfold Fits
    rcases x.progress_stage left count .asking .waiting with ⟨hrest, hs'⟩ | hs' <;> rw [hs']
    · rwa [hrest, List.append_nil] at hwritten
    · exact hwritten
  | cancels hs =>
    rw [hs] at h
    dsimp only at h
    exact ⟨h ▸ List.prefix_refl _, h ▸ rfl⟩
  | @withdraws left count hs =>
    rw [hs] at h
    obtain ⟨hrequest, hboth⟩ := h
    have hwritten := (x.progress_written left count .withdrawing .draining).trans hboth
    have hgrown : requestLine bus address <+: (x.progress left count .withdrawing .draining).written :=
      hrequest.trans (List.prefix_append _ _)
    unfold Fits
    rcases x.progress_stage left count .withdrawing .draining with ⟨hrest, hs'⟩ | hs' <;> rw [hs']
    · rw [hrest, List.append_nil] at hwritten
      exact ⟨hgrown, hwritten ▸ List.prefix_refl _⟩
    · exact ⟨hgrown, hwritten⟩
  | breaks hs =>
    rw [hs] at h
    exact ⟨h.1, h.2 ▸ List.prefix_append _ _⟩
  | ignores => exact h

/-- Nothing but the two lines is written, and nothing of the second one before somebody cancelled. -/
theorem Fits.written (h : x.Fits bus address) :
    x.written <+: requestLine bus address ∨
      x.stage.isWithdrawn = true ∧ requestLine bus address <+: x.written ∧
        x.written <+: requestLine bus address ++ cancelLine := by
  unfold Fits at h
  split at h
  · exact .inl (h ▸ List.prefix_append _ _)
  · exact .inl (h ▸ List.prefix_refl _)
  · rename_i hs
    exact .inr ⟨by rw [hs]; rfl, h.1, h.2 ▸ List.prefix_append _ _⟩
  · rename_i hs
    exact .inr ⟨by rw [hs]; rfl, h⟩

/-- Once a reply is awaited, the whole request was written. -/
theorem Fits.asked (h : x.Fits bus address) (hs : ∀ left, x.stage ≠ .asking left) :
    requestLine bus address <+: x.written := by
  unfold Fits at h
  split at h
  · exact absurd ‹_› (hs _)
  · exact h ▸ List.prefix_refl _
  · exact h.1
  · exact h.1

/-- A cancellation counts only while the first reply is awaited, and is never taken back. -/
theorem isWithdrawn_step (hx : x.step heard = .goes y) :
    y.stage.isWithdrawn = true ↔ x.stage.isWithdrawn = true ∨ x.stage = .waiting ∧ heard = .cancelled := by
  cases goes_of_step hx with
  | @asks left count hs =>
    rcases x.progress_stage left count .asking .waiting with ⟨_, hs'⟩ | hs' <;>
      simp [hs, hs', Stage.isWithdrawn]
  | cancels hs => simp [hs, Stage.isWithdrawn]
  | @withdraws left count hs =>
    rcases x.progress_stage left count .withdrawing .draining with ⟨_, hs'⟩ | hs' <;>
      simp [hs, hs', Stage.isWithdrawn]
  | breaks hs => simp [hs, Stage.isWithdrawn]
  | ignores hne =>
    constructor
    · exact .inl
    · rintro (h | ⟨hs, hc⟩)
      · exact h
      · exact absurd hc (hne hs)

end Exchange
end RemoteUsb.Access
