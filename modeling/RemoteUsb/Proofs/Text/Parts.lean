import RemoteUsb.Text.Parts

/-! Splitting a text takes it apart into the one row of parts that are free of the separator and give the
text when they are joined. -/

namespace RemoteUsb.Text

variable {α : Type} {separator : α}

/-- The parts of a text between its separators. -/
structure Splits (separator : α) (cs : List α) (parts : List (List α)) : Prop where
  nonempty : parts ≠ []
  free : ∀ part ∈ parts, separator ∉ part
  joined : joinWith separator parts = cs

theorem joinWith_cons {part : List α} {parts : List (List α)} (h : parts ≠ []) :
    joinWith separator (part :: parts) = part ++ separator :: joinWith separator parts := by
  cases parts with
  | nil => exact absurd rfl h
  | cons _ _ => rfl

/-- What stands in a text of parts is a separator or stands in one of the parts. -/
theorem mem_joinWith {c : α} {parts : List (List α)}
    (h : c ∈ joinWith separator parts) : c = separator ∨ ∃ part ∈ parts, c ∈ part := by
  induction parts with
  | nil => cases h
  | cons part parts ih =>
    by_cases hnil : parts = []
    · subst hnil
      exact .inr ⟨part, List.mem_cons_self, h⟩
    · rw [joinWith_cons hnil, List.mem_append, List.mem_cons] at h
      rcases h with h | h | h
      · exact .inr ⟨part, List.mem_cons_self, h⟩
      · exact .inl h
      · exact (ih h).imp_right fun ⟨other, ho, hc⟩ => ⟨other, List.mem_cons_of_mem _ ho, hc⟩

variable [DecidableEq α]

theorem splitAt_splits (separator : α) (cs : List α) : Splits separator cs (splitAt separator cs) := by
  induction cs with
  | nil => exact ⟨by simp [splitAt], by simp [splitAt], rfl⟩
  | cons c cs ih =>
    unfold splitAt
    split
    case isTrue hc =>
      refine ⟨List.cons_ne_nil _ _, ?_, ?_⟩
      · simpa using ih.free
      · rw [joinWith_cons ih.nonempty, ih.joined, hc]
        rfl
    case isFalse hc =>
      split
      case h_1 hnil => exact absurd hnil ih.nonempty
      case h_2 part parts hparts =>
        rw [hparts] at ih
        refine ⟨List.cons_ne_nil _ _, ?_, ?_⟩
        · simpa [Ne.symm hc] using ih.free
        · rw [← ih.joined]
          cases parts <;> rfl

/-- A part without a separator stays whole. -/
theorem splitAt_append {part : List α} (h : separator ∉ part) (rest : List α) :
    splitAt separator (part ++ separator :: rest) = part :: splitAt separator rest := by
  induction part with
  | nil => rw [List.nil_append, splitAt, if_pos rfl]
  | cons c part ih =>
    obtain ⟨hc, hpart⟩ := not_or.mp (mt List.mem_cons.mpr h)
    rw [List.cons_append, splitAt, if_neg (Ne.symm hc), ih hpart]

theorem splitAt_of_free {part : List α} (h : separator ∉ part) : splitAt separator part = [part] := by
  induction part with
  | nil => rfl
  | cons c part ih =>
    obtain ⟨hc, hpart⟩ := not_or.mp (mt List.mem_cons.mpr h)
    rw [splitAt, if_neg (Ne.symm hc), ih hpart]

theorem splitAt_joinWith {parts : List (List α)} (hne : parts ≠ [])
    (hfree : ∀ part ∈ parts, separator ∉ part) :
    splitAt separator (joinWith separator parts) = parts := by
  induction parts with
  | nil => exact absurd rfl hne
  | cons part parts ih =>
    have hpart := hfree part List.mem_cons_self
    by_cases hnil : parts = []
    · rw [hnil]
      exact splitAt_of_free hpart
    · rw [joinWith_cons hnil, splitAt_append hpart,
        ih hnil fun other ho => hfree other (List.mem_cons_of_mem _ ho)]

/-- A text has one row of parts. -/
theorem splits_iff {cs : List α} {parts : List (List α)} :
    Splits separator cs parts ↔ splitAt separator cs = parts := by
  constructor
  · intro h
    rw [← h.joined]
    exact splitAt_joinWith h.nonempty h.free
  · rintro rfl
    exact splitAt_splits separator cs

end RemoteUsb.Text
