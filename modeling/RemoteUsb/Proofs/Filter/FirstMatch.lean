import Mathlib.Data.List.Basic
import RemoteUsb.Filter.Text

/-! # The first rule that applies

A filter asks its rules in order, and the first one that applies decides. So a rule behind one that
applies whenever it does is never asked, a rule at the end that denies everything says what no rule says
too, and rules at the end are asked only about devices that were undecided. A device is judged under one
class or under several, and `first_match_decides` says all that for each of them at once. -/

namespace RemoteUsb

namespace FilterRule

/-- Every field of the rule is a wildcard or the same as that of the other one. -/
structure Subsumes (r s : FilterRule) : Prop where
  deviceClass : r.deviceClass = none ∨ r.deviceClass = s.deviceClass
  vendor : r.vendor = none ∨ r.vendor = s.vendor
  product : r.product = none ∨ r.product = s.product
  release : r.release = none ∨ r.release = s.release

def any (allow : Bool) : FilterRule := { allow }

variable {r s : FilterRule} {c : UInt8} {d : Descriptor}

theorem admits_of_subsumes {α : Type} [DecidableEq α] {field other : Option α} {value : α}
    (h : field = none ∨ field = other) (hother : admits other value = true) : admits field value = true := by
  rcases h with rfl | rfl
  · rfl
  · exact hother

theorem Subsumes.applies (h : r.Subsumes s) (hs : s.applies c d = true) : r.applies c d = true := by
  simp only [FilterRule.applies, Bool.and_eq_true] at hs ⊢
  obtain ⟨⟨⟨hclass, hvendor⟩, hproduct⟩, hrelease⟩ := hs
  exact ⟨⟨⟨admits_of_subsumes h.deviceClass hclass, admits_of_subsumes h.vendor hvendor⟩,
    admits_of_subsumes h.product hproduct⟩, admits_of_subsumes h.release hrelease⟩

end FilterRule

/-- A device is judged under the classes of its interfaces, and under its own class unless it is a
composite device with interfaces. -/
def Descriptor.JudgedUnder (d : Descriptor) (c : UInt8) : Prop :=
  c ∈ d.interfaceClasses ∨
    c = d.deviceClass ∧ ¬((d.deviceClass = 0x00 ∨ d.deviceClass = 0xef) ∧ d.interfaceClasses ≠ [])

namespace Filter

/-- The rule applies to the device under the class, and no rule of the filter before it does. -/
def Decides (f : Filter) (c : UInt8) (d : Descriptor) (r : FilterRule) : Prop :=
  ∃ front rest, f = front ++ r :: rest ∧ r.applies c d = true ∧ ∀ s ∈ front, s.applies c d = false

/-- No rule of the filter applies to the device under the class. -/
def Undecided (f : Filter) (c : UInt8) (d : Descriptor) : Prop := ∀ r ∈ f, r.applies c d = false

/-- The filters have the same verdicts on the device. -/
def Agrees (f g : Filter) (d : Descriptor) : Prop :=
  f.matchesDevice d = g.matchesDevice d ∧ f.permits d = g.permits d

/-- The verdict under one class; no rule means no. -/
def allows (f : Filter) (c : UInt8) (d : Descriptor) : Bool := (f.verdict c d).getD false

variable {f g : Filter} {r s : FilterRule} {c : UInt8} {d : Descriptor}

/-! ## Verdicts -/

theorem verdict_eq_some_iff {b : Bool} : f.verdict c d = some b ↔ ∃ r, f.Decides c d r ∧ r.allow = b := by
  rw [verdict, Option.map_eq_some_iff]
  refine exists_congr fun r => and_congr_left fun _ => ?_
  rw [List.find?_eq_some_iff_append]
  constructor
  · rintro ⟨happlies, front, rest, hf, hfront⟩
    exact ⟨front, rest, hf, happlies, fun s hs => by simpa using hfront s hs⟩
  · rintro ⟨front, rest, hf, happlies, hfront⟩
    exact ⟨happlies, front, rest, hf, fun s hs => by simpa using hfront s hs⟩

theorem verdict_eq_none_iff : f.verdict c d = none ↔ f.Undecided c d := by
  rw [verdict, Option.map_eq_none_iff, List.find?_eq_none]
  exact forall₂_congr fun r _ => Bool.not_eq_true _ ▸ Iff.rfl

theorem allows_iff : f.allows c d = true ↔ ∃ r, f.Decides c d r ∧ r.allow = true := by
  rw [← verdict_eq_some_iff, allows]
  cases f.verdict c d <;> simp

theorem verdict_cons_of_applies (h : r.applies c d = true) : verdict (r :: f) c d = some r.allow := by
  simp [verdict, h]

theorem verdict_cons_of_not_applies (h : r.applies c d = false) :
    verdict (r :: f) c d = verdict f c d := by
  simp [verdict, h]

/-- Rules at the end are asked only if no rule before them decides. -/
theorem verdict_append (f more : Filter) :
    (f ++ more).verdict c d = (f.verdict c d).or (more.verdict c d) := by
  rw [verdict, List.find?_append, Option.map_or]
  rfl

theorem verdict_any (allow : Bool) : verdict [FilterRule.any allow] c d = some allow := rfl

/-- The verdict is the same without a rule that is behind one that subsumes it. -/
theorem verdict_shadowed (h : r.Subsumes s) (front middle rest : Filter) :
    verdict (front ++ r :: (middle ++ s :: rest)) c d = verdict (front ++ r :: (middle ++ rest)) c d := by
  rw [verdict_append, verdict_append]
  congr 1
  cases hr : r.applies c d with
  | true => rw [verdict_cons_of_applies hr, verdict_cons_of_applies hr]
  | false =>
    have hs : s.applies c d = false := by
      cases hs : s.applies c d with
      | false => rfl
      | true => exact (h.applies hs).symm.trans hr
    rw [verdict_cons_of_not_applies hr, verdict_cons_of_not_applies hr, verdict_append, verdict_append,
      verdict_cons_of_not_applies hs]

/-- A rule at the end that denies everything says what no rule says too. -/
theorem allows_deny (f : Filter) : (f ++ [FilterRule.any false]).allows c d = f.allows c d := by
  rw [allows, allows, verdict_append, verdict_any]
  cases f.verdict c d <;> rfl

/-! ## The classes of a device -/

theorem mem_judgedClasses : c ∈ judgedClasses d ↔ d.JudgedUnder c := by
  have hcomposite : isComposite d.deviceClass = true ↔ d.deviceClass = 0x00 ∨ d.deviceClass = 0xef := by
    rw [isComposite, Bool.or_eq_true, beq_iff_eq, beq_iff_eq]
  have hsome : (!d.interfaceClasses.isEmpty) = true ↔ d.interfaceClasses ≠ [] := by simp
  rw [judgedClasses, Descriptor.JudgedUnder, ← hcomposite, ← hsome, ← Bool.and_eq_true]
  split
  · rename_i h
    simp [h]
  · rename_i h
    simp [h, or_comm]

theorem permits_iff : f.permits d = true ↔ ∀ c, d.JudgedUnder c → f.allows c d = true := by
  rw [permits, List.all_eq_true]
  exact forall_congr' fun c => imp_congr_left mem_judgedClasses

/-- It is enough that the verdicts under each class are the same. -/
theorem agrees_of_allows (h : ∀ c, f.allows c d = g.allows c d) : f.Agrees g d := by
  refine ⟨h d.deviceClass, ?_⟩
  rw [Bool.eq_iff_iff, permits_iff, permits_iff]
  simp only [h]

/-- Neither the order of the interfaces nor their number matters. -/
theorem judgedUnder_same {classes : List UInt8} (h : ∀ c, c ∈ classes ↔ c ∈ d.interfaceClasses) :
    ({ d with interfaceClasses := classes } : Descriptor).JudgedUnder c ↔ d.JudgedUnder c := by
  have hempty : classes = [] ↔ d.interfaceClasses = [] := by
    simp only [List.eq_nil_iff_forall_not_mem, h]
  simp only [Descriptor.JudgedUnder, h, ne_eq, hempty]

/-! ## More rules -/

/-- More rules can change the verdict under a class exactly if there was none. -/
theorem allows_append (more : Filter) (h : ¬f.Undecided c d) : (f ++ more).allows c d = f.allows c d := by
  rw [allows, allows, verdict_append]
  cases hv : f.verdict c d with
  | none => exact absurd (verdict_eq_none_iff.mp hv) h
  | some b => rfl

theorem allows_of_undecided (h : f.Undecided c d) : f.allows c d = false := by
  rw [allows, verdict_eq_none_iff.mpr h]
  rfl

theorem allows_append_any (h : f.Undecided c d) : (f ++ [FilterRule.any true]).allows c d = true := by
  rw [allows, verdict_append, verdict_eq_none_iff.mpr h]
  rfl

theorem matchesDevice_append_iff :
    (∃ more : Filter, (f ++ more).matchesDevice d ≠ f.matchesDevice d) ↔ f.Undecided d.deviceClass d := by
  constructor
  · rintro ⟨more, hmore⟩
    exact Classical.byContradiction fun h => hmore (allows_append more h)
  · intro h
    refine ⟨[FilterRule.any true], fun hsame => ?_⟩
    have : f.matchesDevice d = true := hsame.symm.trans (allows_append_any h)
    exact Bool.false_ne_true ((allows_of_undecided h).symm.trans this)

/-- A device that is denied under no class for which there is a rule is permitted once more rules allow
the others. -/
theorem permits_append_iff :
    (∃ more : Filter, (f ++ more).permits d ≠ f.permits d) ↔
      (∃ c, d.JudgedUnder c ∧ f.Undecided c d) ∧
        ∀ c, d.JudgedUnder c → f.Undecided c d ∨ f.allows c d = true := by
  constructor
  · rintro ⟨more, hmore⟩
    have hopen : ∀ c, ¬f.Undecided c d → (f ++ more).allows c d = f.allows c d :=
      fun c h => allows_append more h
    refine ⟨Classical.byContradiction fun hnone => hmore ?_, fun c hc => ?_⟩
    · rw [Bool.eq_iff_iff, permits_iff, permits_iff]
      refine forall₂_congr fun c hc => ?_
      rw [hopen c fun h => hnone ⟨c, hc, h⟩]
    · refine Classical.byContradiction fun h => hmore ?_
      obtain ⟨hdecided, hdenied⟩ := not_or.mp h
      -- Both filters deny the device under this class.
      have hfirst : f.permits d ≠ true := fun hp => hdenied (permits_iff.mp hp c hc)
      have hlater : (f ++ more).permits d ≠ true := fun hp => by
        have := permits_iff.mp hp c hc
        rw [hopen c hdecided] at this
        exact hdenied this
      rw [eq_false_of_ne_true hfirst, eq_false_of_ne_true hlater]
  · rintro ⟨⟨c, hc, hopen⟩, hall⟩
    refine ⟨[FilterRule.any true], fun hsame => ?_⟩
    have hpermits : (f ++ [FilterRule.any true]).permits d = true := permits_iff.mpr fun c hc => by
      rcases hall c hc with h | h
      · exact allows_append_any h
      · by_cases hu : f.Undecided c d
        · exact allows_append_any hu
        · rw [allows_append _ hu, h]
    have := permits_iff.mp (hsame.symm.trans hpermits) c hc
    rw [allows_of_undecided hopen] at this
    cases this

/-! ## Filters and devices -/

/-- A device passes a filter if the first rule that applies to it allows it, and it is permitted if that
is so under every class that it is judged under. Nothing changes if a rule is taken out behind one that
subsumes it, if a rule that denies everything is put to the end or taken away there, or if the interfaces
are named in another order or more than once. More rules at the end can change whether a device passes
exactly if no rule applies to it, and whether it is permitted exactly if no rule applies under some class
and the filter allows it under the others. -/
theorem first_match_decides (f : Filter) (d : Descriptor) :
    (f.matchesDevice d = true ↔ ∃ r, f.Decides d.deviceClass d r ∧ r.allow = true) ∧
    (f.permits d = true ↔ ∀ c, d.JudgedUnder c → ∃ r, f.Decides c d r ∧ r.allow = true) ∧
    (∀ front r middle s rest, f = front ++ r :: (middle ++ s :: rest) → r.Subsumes s →
      f.Agrees (front ++ r :: (middle ++ rest)) d) ∧
    f.Agrees (f ++ [FilterRule.any false]) d ∧
    (∀ classes, (∀ c, c ∈ classes ↔ c ∈ d.interfaceClasses) →
      f.matchesDevice { d with interfaceClasses := classes } = f.matchesDevice d ∧
        f.permits { d with interfaceClasses := classes } = f.permits d) ∧
    ((∃ more : Filter, (f ++ more).matchesDevice d ≠ f.matchesDevice d) ↔ f.Undecided d.deviceClass d) ∧
    ((∃ more : Filter, (f ++ more).permits d ≠ f.permits d) ↔
      (∃ c, d.JudgedUnder c ∧ f.Undecided c d) ∧
        ∀ c, d.JudgedUnder c → f.Undecided c d ∨ ∃ r, f.Decides c d r ∧ r.allow = true) := by
  refine ⟨allows_iff, ?_, ?_, ?_, fun classes h => ⟨rfl, ?_⟩, matchesDevice_append_iff, ?_⟩
  · simp only [permits_iff, allows_iff]
  · rintro front r middle s rest rfl hsubsumes
    exact agrees_of_allows fun c => by rw [allows, allows, verdict_shadowed hsubsumes]
  · exact agrees_of_allows fun c => (allows_deny f).symm
  · -- The classes of the interfaces count only for the question under which classes to judge.
    rw [Bool.eq_iff_iff, permits_iff, permits_iff]
    exact forall_congr' fun c => imp_congr_left (judgedUnder_same h)
  · simp only [permits_append_iff, allows_iff]

/-- Behind the rule against human-interface devices, one that allows those of a maker is never asked. -/
theorem allowed_maker_is_not_asked :
    let maker : FilterRule := { deviceClass := some 0x03, vendor := some 0x046d, allow := true }
    let composite : Descriptor :=
      { deviceClass := 0, vendor := 0x046d, product := 0xc52b, release := 0x1201,
        interfaceClasses := [0x03, 0x08] }
    (Filter.standard ++ [maker]).Agrees Filter.standard composite ∧
      Filter.standard.permits { composite with interfaceClasses := [0x08, 0x03, 0x08] } =
        Filter.standard.permits composite := by
  intro maker composite
  refine ⟨?_, ?_⟩
  · exact (first_match_decides (Filter.standard ++ [maker]) composite).2.2.1 []
      { deviceClass := some 0x03, allow := false } [{ allow := true }] maker [] rfl
      ⟨.inr rfl, .inl rfl, .inl rfl, .inl rfl⟩
  · exact ((first_match_decides Filter.standard composite).2.2.2.2.1 [0x08, 0x03, 0x08]
      (by simp [composite, or_comm])).2

end Filter
end RemoteUsb
