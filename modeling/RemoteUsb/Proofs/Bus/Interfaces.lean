import Mathlib.Data.List.Count
import RemoteUsb.Bus.Session

/-! # What calls do to the interfaces of the bus

An interface is claimed by somebody or by nobody, and its kernel driver is attached or not. The calls of a
handle are split by the interfaces that they touch, and each interface has a course of its own: it is taken
first, and given back then. What comes of the course can be read off its two halves. -/

namespace RemoteUsb.Bus

/-- An interface of a device on the bus. -/
structure Place where
  bus : UInt8
  address : UInt8
  number : UInt8
  deriving DecidableEq

inductive Deed where
  | detach
  | claim
  | release
  | attach
  deriving DecidableEq

/-- What was tried with an interface, and whether it was done. -/
structure Touch where
  deed : Deed
  done : Bool
  deriving DecidableEq

/-- The interface that an operation is about, and what it is to do there. -/
def Operation.deed? : Operation → Option (UInt8 × Deed)
  | .detachKernel number => some (number, .detach)
  | .claim number => some (number, .claim)
  | .release number => some (number, .release)
  | .attachKernel number => some (number, .attach)
  | _ => none

/-- What a call does to an interface. -/
def Call.touch? (p : Place) : Call → Option Touch
  | .device bus address operation code =>
    match operation.deed? with
    | some (number, deed) =>
      if Place.mk bus address number = p then some ⟨deed, decide (0 ≤ code)⟩ else none
    | none => none
  | _ => none

/-- What calls do to an interface, one after another. -/
def touches (p : Place) (calls : List Call) : List Touch := calls.filterMap (Call.touch? p)

/-- The interface is freed and claimed, and no more. -/
def Taking (ts : List Touch) : Prop := ∀ t ∈ ts, t.deed = .detach ∨ t.deed = .claim

/-- The interface is given back, and no more. -/
def Giving (ts : List Touch) : Prop := ∀ t ∈ ts, t.deed = .release ∨ t.deed = .attach

theorem Giving.mem_append_iff {taking giving : List Touch} (h : Giving giving) {t : Touch}
    (ht : t.deed = .detach ∨ t.deed = .claim) : t ∈ taking ++ giving ↔ t ∈ taking := by
  rw [List.mem_append]
  refine or_iff_left fun hin => ?_
  rcases h t hin with hg | hg <;> rcases ht with ht | ht <;> cases hg.symm.trans ht

/-- Who has claimed an interface: nobody, the handle that makes the calls, or somebody else. -/
inductive Holder where
  | nobody
  | caller
  | another
  deriving DecidableEq

namespace Holder

/-- Only the one who has claimed an interface can release it. -/
def after : Holder → Touch → Holder
  | _, ⟨.claim, true⟩ => .caller
  | .caller, ⟨.release, true⟩ => .nobody
  | holder, _ => holder

def run (holder : Holder) (ts : List Touch) : Holder := ts.foldl after holder

/-- Nothing is claimed while somebody else has it, and the one who has claimed it can release it. -/
def Allows (holder : Holder) (t : Touch) : Prop :=
  (t = ⟨.claim, true⟩ → holder ≠ .another) ∧ (t.deed = .release → holder = .caller → t.done = true)

def AllowsAll : Holder → List Touch → Prop
  | _, [] => True
  | holder, t :: ts => holder.Allows t ∧ (holder.after t).AllowsAll ts

variable {holder : Holder} {ts : List Touch}

theorem run_append (holder : Holder) (first others : List Touch) :
    holder.run (first ++ others) = (holder.run first).run others := List.foldl_append

theorem allowsAll_append (holder : Holder) (first others : List Touch) :
    holder.AllowsAll (first ++ others) ↔ holder.AllowsAll first ∧ (holder.run first).AllowsAll others := by
  induction first generalizing holder with
  | nil => exact (true_and _).symm.to_iff
  | cons t first ih =>
    rw [List.cons_append, AllowsAll, AllowsAll, ih, and_assoc]
    rfl

theorem allowsAll_of_done (hnot : holder ≠ .another) (h : ∀ t ∈ ts, t.deed = .release → t.done = true) :
    holder.AllowsAll ts := by
  induction ts generalizing holder with
  | nil => trivial
  | cons t ts ih =>
    refine ⟨⟨fun _ => hnot, fun hr _ => h t List.mem_cons_self hr⟩,
      ih ?_ fun u hu => h u (List.mem_cons_of_mem _ hu)⟩
    obtain ⟨deed, done⟩ := t
    cases deed <;> cases done <;> cases holder <;> simp [after] at hnot ⊢

/-- What was claimed stays so until it is released. -/
theorem run_taking (h : Taking ts) :
    holder.run ts = if ⟨.claim, true⟩ ∈ ts then .caller else holder := by
  induction ts generalizing holder with
  | nil => rfl
  | cons t ts ih =>
    have hfirst := h t List.mem_cons_self
    show (holder.after t).run ts = _
    rw [ih fun u hu => h u (List.mem_cons_of_mem _ hu)]
    obtain ⟨deed, done⟩ := t
    cases deed <;> cases done <;> cases holder <;> simp [after] at hfirst ⊢

theorem ne_another_of_claim (h : Taking ts) (hallows : holder.AllowsAll ts) (hclaim : ⟨.claim, true⟩ ∈ ts) :
    holder ≠ .another := by
  induction ts generalizing holder with
  | nil => cases hclaim
  | cons t ts ih =>
    rcases List.mem_cons.mp hclaim with rfl | hclaim
    · exact hallows.1.1 rfl
    · have hlater := ih (fun u hu => h u (List.mem_cons_of_mem _ hu)) hallows.2 hclaim
      have hfirst := hallows.1.1
      rintro rfl
      obtain ⟨deed, done⟩ := t
      cases deed <;> cases done <;> simp [after] at hlater hfirst

theorem run_giving (h : Giving ts) (hallows : holder.AllowsAll ts) :
    holder.run ts = if holder = .caller ∧ ∃ t ∈ ts, t.deed = .release then .nobody else holder := by
  induction ts generalizing holder with
  | nil => simp [run]
  | cons t ts ih =>
    have hfirst := h t List.mem_cons_self
    have hdone := hallows.1.2
    show (holder.after t).run ts = _
    rw [ih (fun u hu => h u (List.mem_cons_of_mem _ hu)) hallows.2]
    obtain ⟨deed, done⟩ := t
    cases deed <;> cases done <;> cases holder <;> simp [after] at hfirst hdone ⊢

end Holder

/-- The kernel driver of an interface. A driver that was detached can be attached again. -/
inductive Driver where
  | missing
  | attached
  | detached
  deriving DecidableEq

namespace Driver

def after : Driver → Touch → Driver
  | .attached, ⟨.detach, true⟩ => .detached
  | .detached, ⟨.attach, true⟩ => .attached
  | driver, _ => driver

def run (driver : Driver) (ts : List Touch) : Driver := ts.foldl after driver

/-- A driver that was detached can be attached. -/
def Allows (driver : Driver) (t : Touch) : Prop :=
  t.deed = .attach → driver = .detached → t.done = true

def AllowsAll : Driver → List Touch → Prop
  | _, [] => True
  | driver, t :: ts => driver.Allows t ∧ (driver.after t).AllowsAll ts

variable {driver : Driver} {ts : List Touch}

theorem run_append (driver : Driver) (first others : List Touch) :
    driver.run (first ++ others) = (driver.run first).run others := List.foldl_append

theorem allowsAll_append (driver : Driver) (first others : List Touch) :
    driver.AllowsAll (first ++ others) ↔ driver.AllowsAll first ∧ (driver.run first).AllowsAll others := by
  induction first generalizing driver with
  | nil => exact (true_and _).symm.to_iff
  | cons t first ih =>
    rw [List.cons_append, AllowsAll, AllowsAll, ih, and_assoc]
    rfl

theorem allowsAll_of_done (h : ∀ t ∈ ts, t.deed = .attach → t.done = true) : driver.AllowsAll ts := by
  induction ts generalizing driver with
  | nil => trivial
  | cons t ts ih =>
    exact ⟨fun ha _ => h t List.mem_cons_self ha, ih fun u hu => h u (List.mem_cons_of_mem _ hu)⟩

theorem run_taking (h : Taking ts) :
    driver.run ts = if driver = .attached ∧ ⟨.detach, true⟩ ∈ ts then .detached else driver := by
  induction ts generalizing driver with
  | nil => simp [run]
  | cons t ts ih =>
    have hfirst := h t List.mem_cons_self
    show (driver.after t).run ts = _
    rw [ih fun u hu => h u (List.mem_cons_of_mem _ hu)]
    obtain ⟨deed, done⟩ := t
    cases deed <;> cases done <;> cases driver <;> simp [after] at hfirst ⊢

theorem run_giving (h : Giving ts) (hallows : driver.AllowsAll ts) :
    driver.run ts = if driver = .detached ∧ ∃ t ∈ ts, t.deed = .attach then .attached else driver := by
  induction ts generalizing driver with
  | nil => simp [run]
  | cons t ts ih =>
    have hfirst := h t List.mem_cons_self
    have hdone := hallows.1
    show (driver.after t).run ts = _
    rw [ih (fun u hu => h u (List.mem_cons_of_mem _ hu)) hallows.2]
    obtain ⟨deed, done⟩ := t
    cases deed <;> cases done <;> cases driver <;> simp [after, Allows] at hfirst hdone ⊢

end Driver

structure Port where
  holder : Holder := .nobody
  driver : Driver := .missing
  deriving DecidableEq

namespace Port

def run (port : Port) (ts : List Touch) : Port := ⟨port.holder.run ts, port.driver.run ts⟩

/-- What is taken for granted: an interface cannot be claimed while somebody else has it, the one who has
claimed it can release it, and a driver that was detached can be attached. -/
structure AllowsAll (port : Port) (ts : List Touch) : Prop where
  holder : port.holder.AllowsAll ts
  driver : port.driver.AllowsAll ts

/-- The attached driver was detached for a claim that did not come about. -/
def Stranded (port : Port) (ts : List Touch) : Prop :=
  port.driver = .attached ∧ ⟨.detach, true⟩ ∈ ts ∧ ⟨.claim, true⟩ ∉ ts

/-- An interface was claimed whose driver somebody had detached before. -/
def Revived (port : Port) (ts : List Touch) : Prop :=
  port.driver = .detached ∧ ⟨.claim, true⟩ ∈ ts

end Port

/-- Whether the call is done, if it gives something back. -/
def Call.givesBack : Call → Bool
  | .device _ _ (.release _) code | .device _ _ (.attachKernel _) code => decide (0 ≤ code)
  | _ => true

theorem done_of_givesBack {p : Place} {calls : List Call} (h : calls.all Call.givesBack = true) :
    ∀ t ∈ touches p calls, t.deed = .release ∨ t.deed = .attach → t.done = true := by
  intro t ht hdeed
  obtain ⟨call, hin, htouch⟩ := List.mem_filterMap.mp ht
  have hcall := List.all_eq_true.mp h call hin
  cases call with
  | register | deregister => cases htouch
  | device bus address operation code =>
    cases operation with
    | openDevice | closeDevice | queryKernel | readText => cases htouch
    | detachKernel number | claim number =>
      obtain ⟨_, htouch⟩ := Option.ite_none_right_eq_some.mp htouch
      cases htouch
      rcases hdeed with hdeed | hdeed <;> cases hdeed
    | release number | attachKernel number =>
      obtain ⟨_, htouch⟩ := Option.ite_none_right_eq_some.mp htouch
      cases htouch
      exact hcall

/-- Nothing that is assumed is missing if what is given back is taken, and nobody else has a claim. -/
theorem Port.allowsAll_of_givesBack {p : Place} {port : Port} {calls : List Call}
    (hport : port.holder ≠ .another) (h : calls.all Call.givesBack = true) :
    port.AllowsAll (touches p calls) where
  holder := Holder.allowsAll_of_done hport fun t ht hd => done_of_givesBack h t ht (.inl hd)
  driver := Driver.allowsAll_of_done fun t ht hd => done_of_givesBack h t ht (.inr hd)

/-! ## Taken first, and given back then -/

/-- An interface is given back as often as it was claimed. -/
structure GivenBack (taking giving : List Touch) : Prop where
  takes : Taking taking
  gives : Giving giving
  releases : giving.countP (·.deed == .release) = taking.count ⟨.claim, true⟩
  attaches : giving.countP (·.deed == .attach) = taking.count ⟨.claim, true⟩

namespace GivenBack

variable {taking giving : List Touch} {port : Port}

theorem exists_iff (h : GivenBack taking giving) {deed : Deed} (hdeed : deed = .release ∨ deed = .attach) :
    (∃ t ∈ giving, t.deed = deed) ↔ ⟨.claim, true⟩ ∈ taking := by
  have hcount : giving.countP (·.deed == deed) = taking.count ⟨.claim, true⟩ := by
    rcases hdeed with rfl | rfl
    · exact h.releases
    · exact h.attaches
  rw [← List.count_pos_iff, ← hcount, List.countP_pos_iff]
  simp only [beq_iff_eq]

theorem releases_eq (h : GivenBack taking giving) :
    (taking ++ giving).countP (·.deed == .release) = (taking ++ giving).count ⟨.claim, true⟩ := by
  have hnone : taking.countP (·.deed == .release) = 0 := by
    refine List.countP_eq_zero.mpr fun t ht hr => ?_
    rcases h.takes t ht with hd | hd <;> cases hd.symm.trans (beq_iff_eq.mp hr)
  have hzero : giving.count ⟨.claim, true⟩ = 0 := by
    refine List.count_eq_zero.mpr fun hin => ?_
    rcases h.gives _ hin with hd | hd <;> cases hd
  rw [List.countP_append, List.count_append, hnone, hzero, h.releases, Nat.zero_add, Nat.add_zero]

/-- Nobody keeps a claim. -/
theorem holder_run (h : GivenBack taking giving) (hnew : port.holder ≠ .caller)
    (hallows : port.AllowsAll (taking ++ giving)) : port.holder.run (taking ++ giving) = port.holder := by
  obtain ⟨hfirst, hthen⟩ := (Holder.allowsAll_append ..).mp hallows.holder
  rw [Holder.run_append, Holder.run_giving h.gives hthen, Holder.run_taking h.takes]
  simp only [h.exists_iff (.inl rfl)]
  by_cases hclaim : ⟨.claim, true⟩ ∈ taking
  · have hfree : port.holder ≠ .another := Holder.ne_another_of_claim h.takes hfirst hclaim
    rw [if_pos hclaim, if_pos ⟨rfl, hclaim⟩]
    cases hholder : port.holder with
    | nobody => rfl
    | caller => exact absurd hholder hnew
    | another => exact absurd hholder hfree
  · rw [if_neg hclaim, if_neg fun hn => hclaim hn.2]

/-- The driver is as it was, unless it was detached in vain or had been detached before. -/
theorem driver_run_iff (h : GivenBack taking giving) (hallows : port.AllowsAll (taking ++ giving)) :
    port.driver.run (taking ++ giving) = port.driver ↔
      ¬port.Stranded (taking ++ giving) ∧ ¬port.Revived (taking ++ giving) := by
  obtain ⟨_, hthen⟩ := (Driver.allowsAll_append ..).mp hallows.driver
  rw [Port.Stranded, Port.Revived, h.gives.mem_append_iff (.inl rfl), h.gives.mem_append_iff (.inr rfl),
    Driver.run_append, Driver.run_giving h.gives hthen, Driver.run_taking h.takes]
  simp only [h.exists_iff (.inr rfl)]
  by_cases hclaim : ⟨.claim, true⟩ ∈ taking <;> by_cases hdetach : ⟨.detach, true⟩ ∈ taking <;>
    cases port.driver <;> simp [hclaim, hdetach]

theorem run_eq_iff (h : GivenBack taking giving) (hnew : port.holder ≠ .caller)
    (hallows : port.AllowsAll (taking ++ giving)) :
    port.run (taking ++ giving) = port ↔
      ¬port.Stranded (taking ++ giving) ∧ ¬port.Revived (taking ++ giving) := by
  rw [← h.driver_run_iff hallows, Port.run, h.holder_run hnew hallows, Port.mk.injEq]
  exact and_iff_right rfl

end GivenBack

end RemoteUsb.Bus
