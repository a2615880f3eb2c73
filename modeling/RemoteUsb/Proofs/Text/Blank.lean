import RemoteUsb.Text.Blank

/-! What is left of a text without the blanks around it is the one part of it that neither begins nor ends
with a blank and has nothing but blanks on both sides. -/

namespace RemoteUsb.Text

/-- A text begins and ends with something that is not blank, unless it is empty. -/
structure Tight (cs : List Char) : Prop where
  first : ∀ c ∈ cs.head?, isBlank c = false
  last : ∀ c ∈ cs.getLast?, isBlank c = false

/-- The inner text is tight, and around it are blanks. -/
structure Trims (cs inner : List Char) : Prop where
  tight : Tight inner
  blanks : ∃ front back, cs = front ++ inner ++ back ∧
    (∀ c ∈ front, isBlank c = true) ∧ ∀ c ∈ back, isBlank c = true

/-- A text without blanks is tight. -/
theorem tight_of_all {cs : List Char} (h : ∀ c ∈ cs, isBlank c = false) : Tight cs :=
  ⟨fun c hc => h c (List.mem_of_mem_head? hc), fun c hc => h c (List.mem_of_mem_getLast? hc)⟩

theorem dropWhile_of_head {p : Char → Bool} {cs : List Char} (h : ∀ c ∈ cs.head?, p c = false) :
    cs.dropWhile p = cs := by
  cases cs with
  | nil => rfl
  | cons c cs => exact List.dropWhile_cons_of_neg (by simp [h c rfl])

theorem head_dropWhile (p : Char → Bool) (cs : List Char) :
    ∀ c ∈ (cs.dropWhile p).head?, p c = false := by
  intro c hc
  have := List.head?_dropWhile_not p cs
  rw [Option.mem_def.mp hc] at this
  simpa using this

/-- A text is a front of which every character is dropped, and what is left. -/
theorem exists_front (p : Char → Bool) (cs : List Char) :
    ∃ front, cs = front ++ cs.dropWhile p ∧ ∀ c ∈ front, p c = true :=
  ⟨cs.takeWhile p, List.takeWhile_append_dropWhile.symm,
    fun c hc => List.all_eq_true.mp List.all_takeWhile c hc⟩

theorem strip_trims (cs : List Char) : Trims cs (strip cs) := by
  obtain ⟨front, hfront, hfrontBlank⟩ := exists_front isBlank cs
  obtain ⟨back, hback, hbackBlank⟩ := exists_front isBlank (cs.dropWhile isBlank).reverse
  have hrest : cs.dropWhile isBlank = strip cs ++ back.reverse := by
    rw [strip, ← List.reverse_append, ← hback, List.reverse_reverse]
  refine ⟨⟨fun c hc => ?_, fun c hc => ?_⟩, front, back.reverse, ?_, hfrontBlank, ?_⟩
  · have hhead := head_dropWhile isBlank cs
    rw [hrest, List.head?_append, Option.mem_def.mp hc] at hhead
    exact hhead c rfl
  · rw [strip, List.getLast?_reverse] at hc
    exact head_dropWhile isBlank _ c hc
  · rw [List.append_assoc, ← hrest, ← hfront]
  · simpa using hbackBlank

/-- A text has one inner text. -/
theorem trims_iff {cs inner : List Char} : Trims cs inner ↔ strip cs = inner := by
  constructor
  · rintro ⟨htight, front, back, rfl, hfront, hback⟩
    have hreverse : ∀ c ∈ back.reverse, isBlank c = true := fun c hc => hback c (List.mem_reverse.mp hc)
    have hinner : inner.reverse.dropWhile isBlank = inner.reverse :=
      dropWhile_of_head (List.head?_reverse ▸ htight.last)
    rw [strip, List.append_assoc, List.dropWhile_append_of_pos hfront]
    cases inner with
    | nil =>
      rw [List.nil_append, ← List.append_nil back, List.dropWhile_append_of_pos hback]
      rfl
    | cons c inner =>
      have hfirst : (c :: inner ++ back).dropWhile isBlank = c :: inner ++ back :=
        dropWhile_of_head htight.first
      rw [hfirst, List.reverse_append, List.dropWhile_append_of_pos hreverse, hinner,
        List.reverse_reverse]
  · rintro rfl
    exact strip_trims cs

/-- A tight text is its own inner text. -/
theorem Tight.trims {cs : List Char} (h : Tight cs) : Trims cs cs :=
  ⟨h, [], [], (List.append_nil _).symm, nofun, nofun⟩

end RemoteUsb.Text
