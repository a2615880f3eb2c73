import RemoteUsb.Proofs.Bus.Interfaces

/-! # Opening a device, and what is left of it

An opening claims the interfaces of a device one after another. It gets all of them, or it stops at the
first one that is refused and gives back the ones before it. -/

namespace RemoteUsb.Bus

/-- What is done to an interface when it is to be claimed. -/
def Interface.takes (i : Interface) : List Touch :=
  (if i.kernel = 1 then [⟨.detach, decide (0 ≤ i.detach)⟩] else []) ++ [⟨.claim, decide (0 ≤ i.claim)⟩]

/-- What is done to an interface when it is given back. -/
def Interface.returns (i : Interface) : List Touch :=
  [⟨.release, decide (0 ≤ i.release)⟩, ⟨.attach, decide (0 ≤ i.attach)⟩]

def Node.place (node : Node) (i : Interface) : Place := ⟨node.bus, node.address, i.number⟩

def Node.at (node : Node) (p : Place) (interfaces : List Interface) : List Interface :=
  interfaces.filter (node.place · == p)

variable {p : Place} {node : Node}

theorem Node.forall_mem_at {interfaces : List Interface} {holds : Interface → Prop}
    (h : ∀ i ∈ interfaces, holds i) (p : Place) (node : Node) : ∀ i ∈ node.at p interfaces, holds i :=
  fun i hi => h i (List.mem_filter.mp hi).1

/-! ## The calls, split by interfaces -/

theorem touches_append (p : Place) (first others : List Call) :
    touches p (first ++ others) = touches p first ++ touches p others := List.filterMap_append

theorem touches_call {operation : Operation} {i : Interface} {deed : Deed}
    (h : operation.deed? = some (i.number, deed)) (p : Place) (node : Node) (code : Code) :
    touches p [node.call operation code] =
      if node.place i = p then [⟨deed, decide (0 ≤ code)⟩] else [] := by
  rw [touches, List.filterMap_cons, List.filterMap_nil, Node.call, Call.touch?, h]
  by_cases hp : node.place i = p
  · rw [if_pos hp]
    dsimp only
    rw [show Place.mk node.bus node.address i.number = p from hp, if_pos rfl]
  · rw [if_neg hp]
    dsimp only
    rw [if_neg (show ¬Place.mk node.bus node.address i.number = p from hp)]

theorem touches_call_none {operation : Operation} (h : operation.deed? = none) (p : Place) (node : Node)
    (code : Code) : touches p [node.call operation code] = [] := by
  rw [touches, List.filterMap_cons, List.filterMap_nil, Node.call, Call.touch?, h]

theorem touches_taking (p : Place) (node : Node) (i : Interface) :
    touches p (node.taking i) = if node.place i = p then i.takes else [] := by
  have hfreeing : touches p (node.freeing i) =
      if node.place i = p ∧ i.kernel = 1 then [⟨.detach, decide (0 ≤ i.detach)⟩] else [] := by
    rw [Node.freeing, ← List.singleton_append, touches_append, touches_call_none rfl, List.nil_append]
    by_cases hk : i.kernel = 1
    · have htouch : touches p [node.call (.detachKernel i.number) i.detach] =
          if node.place i = p then [⟨.detach, decide (0 ≤ i.detach)⟩] else [] := touches_call rfl ..
      simp only [hk, if_true, and_true, htouch]
    · simp only [hk, if_false, and_false]
      rfl
  rw [Node.taking, touches_append, hfreeing, touches_call rfl, Interface.takes]
  by_cases hp : node.place i = p
  · simp only [hp, true_and, if_true]
  · simp only [hp, false_and, if_false, List.append_nil]

theorem touches_returning (p : Place) (node : Node) (i : Interface) :
    touches p (node.returning i) = if node.place i = p then i.returns else [] := by
  rw [Node.returning, ← List.singleton_append, touches_append, touches_call rfl, Node.releasing,
    touches_call rfl, Interface.returns]
  by_cases hp : node.place i = p
  · simp only [hp, if_true, List.singleton_append]
  · simp only [hp, if_false, List.append_nil]

theorem touches_flatMap {calls : Interface → List Call} {ts : Interface → List Touch}
    (h : ∀ i, touches p (calls i) = if node.place i = p then ts i else []) (interfaces : List Interface) :
    touches p (interfaces.flatMap calls) = (node.at p interfaces).flatMap ts := by
  induction interfaces with
  | nil => rfl
  | cons i rest ih =>
    rw [List.flatMap_cons, touches_append, ih, h, Node.at, Node.at, List.filter_cons]
    by_cases hp : node.place i = p
    · rw [if_pos hp, if_pos (beq_iff_eq.mpr hp), List.flatMap_cons]
    · rw [if_neg hp, if_neg (hp ∘ beq_iff_eq.mp), List.nil_append]

/-! ## The end of a handle -/

/-- What is given back is not given back once more when the handle goes away. -/
theorem Handle.close_eq_drop (handle : Handle) : handle.close = handle.drop := by
  unfold Handle.close Handle.drop Handle.release
  simp only [List.flatMap_nil, List.foldl_nil, List.nil_append, List.append_assoc]

theorem mem_of_foldl_withoutReleased {claimed held : List Interface} {i : Interface}
    (h : i ∈ claimed.foldl withoutReleased held) :
    i ∈ held ∧ ∀ j ∈ claimed, j.number = i.number → j.release < 0 := by
  induction claimed generalizing held with
  | nil => exact ⟨h, nofun⟩
  | cons j claimed ih =>
    obtain ⟨hheld, hlater⟩ := ih h
    rw [withoutReleased] at hheld
    split at hheld
    case isTrue hfailed => exact ⟨hheld, List.forall_mem_cons.mpr ⟨fun _ => hfailed, hlater⟩⟩
    case isFalse =>
      obtain ⟨hin, hne⟩ := List.mem_filter.mp hheld
      refine ⟨hin, List.forall_mem_cons.mpr ⟨fun he => ?_, hlater⟩⟩
      exact absurd he.symm (bne_iff_ne.mp hne)

theorem mem_insertByNumber {i j : Interface} {held : List Interface} (h : j ∈ insertByNumber i held) :
    j = i ∨ j ∈ held := by
  induction held with
  | nil => exact .inl (List.mem_singleton.mp h)
  | cons k held ih =>
    rw [insertByNumber] at h
    split at h
    · exact List.mem_cons.mp h
    · split at h
      · exact .inr h
      · rcases List.mem_cons.mp h with rfl | h
        · exact .inr List.mem_cons_self
        · exact (ih h).imp_right (List.mem_cons_of_mem _)

/-- The handle of a device with its first interfaces claimed. -/
def Handle.holding (key : DeviceKey) (node : Node) (taken : List Interface) : Handle :=
  taken.foldl hold { key, node }

namespace Handle

theorem foldl_hold (taken : List Interface) (handle : Handle) :
    (taken.foldl hold handle).node = handle.node ∧
      (taken.foldl hold handle).claimed = handle.claimed ++ taken ∧
        ∀ i ∈ (taken.foldl hold handle).held, i ∈ handle.held ∨ i ∈ taken := by
  induction taken generalizing handle with
  | nil => exact ⟨rfl, (List.append_nil _).symm, fun _ h => .inl h⟩
  | cons j taken ih =>
    obtain ⟨hnode, hclaimed, hheld⟩ := ih (handle.hold j)
    refine ⟨hnode, hclaimed.trans (List.append_cons ..).symm, fun i hi => ?_⟩
    rcases hheld i hi with hi | hi
    · exact (mem_insertByNumber hi).elim (fun he => .inr (he ▸ List.mem_cons_self)) .inl
    · exact .inr (List.mem_cons_of_mem _ hi)

/-- What is done to an interface when the handle goes away: it is given back, and released once more
if no release of it was done. -/
theorem touches_drop (p : Place) (key : DeviceKey) (node : Node) (taken : List Interface) :
    ∃ left : List Interface, touches p (holding key node taken).drop =
        (node.at p taken).flatMap Interface.returns ++
          left.flatMap (fun i => [⟨.release, decide (0 ≤ i.release)⟩]) ∧
      ∀ i ∈ left, i ∈ node.at p taken ∧ ∀ j ∈ node.at p taken, j.release < 0 := by
  obtain ⟨hnode, hclaimed, hheld⟩ := foldl_hold taken { key, node }
  have hreleasing : ∀ i, touches p [node.releasing i] =
      if node.place i = p then [⟨.release, decide (0 ≤ i.release)⟩] else [] := fun i => touches_call rfl ..
  refine ⟨node.at p (taken.foldl withoutReleased (holding key node taken).held), ?_, fun i hi => ?_⟩
  · rw [drop, release, holding, hnode, hclaimed]
    dsimp only
    rw [List.nil_append, touches_append, touches_append, touches_flatMap (touches_returning p node),
      List.map_eq_flatMap, touches_flatMap hreleasing, touches_call_none rfl, List.append_nil]
  · obtain ⟨hi, hplace⟩ := List.mem_filter.mp hi
    obtain ⟨hin, hfailed⟩ := mem_of_foldl_withoutReleased hi
    refine ⟨List.mem_filter.mpr ⟨(hheld i hin).resolve_left List.not_mem_nil, hplace⟩, fun j hj => ?_⟩
    obtain ⟨hj, hsame⟩ := List.mem_filter.mp hj
    have hplaces : node.place j = node.place i := (beq_iff_eq.mp hsame).trans (beq_iff_eq.mp hplace).symm
    exact hfailed j hj (congrArg Place.number hplaces)

end Handle

/-! ## The course of an opening -/

theorem Code.check_eq_ok_iff {code : Code} : code.check = .ok () ↔ 0 ≤ code := by
  rw [Code.check]
  split
  case isTrue h => exact iff_of_false nofun (Int.not_le.mpr h)
  case isFalse h => exact iff_of_true rfl (Int.not_lt.mp h)

theorem Code.lt_of_check {code : Code} {fault : Fault} (h : code.check = .error fault) : code < 0 := by
  rw [Code.check] at h
  split at h
  case isTrue hlt => exact hlt
  case isFalse => cases h

/-- How an opening goes, by its calls and its result. -/
inductive Course : List Call → Except BackendError Handle → Prop where
  /-- No interface was touched. -/
  | early {calls : List Call} (error : BackendError) (_ : ∀ p, touches p calls = []) :
    Course calls (.error error)
  /-- An interface was refused, and the ones before it were given back. -/
  | refused {calls : List Call} (error : BackendError) (key : DeviceKey) (node : Node)
      (taken : List Interface) (i : Interface) (_ : ∀ j ∈ taken, 0 ≤ j.claim) (_ : i.claim < 0)
      (_ : ∀ p, touches p calls = touches p (taken.flatMap node.taking) ++
        (touches p (node.taking i) ++ touches p (Handle.holding key node taken).drop)) :
    Course calls (.error error)
  /-- All interfaces were claimed. -/
  | opened {calls : List Call} (key : DeviceKey) (node : Node) (_ : ∀ j ∈ node.interfaces, 0 ≤ j.claim)
      (_ : ∀ p, touches p calls = touches p (node.interfaces.flatMap node.taking)) :
    Course calls (.ok (Handle.holding key node node.interfaces))

namespace Handle

/-- The claiming gets on to the end, or to the first interface that is refused. -/
theorem claimAll_cases (handle : Handle) (interfaces : List Interface) :
    ((∀ i ∈ interfaces, 0 ≤ i.claim) ∧ handle.claimAll interfaces =
        (interfaces.flatMap handle.node.taking, .ok (interfaces.foldl hold handle))) ∨
      ∃ (taken : List Interface) (i : Interface) (fault : Fault), (∀ j ∈ taken, 0 ≤ j.claim) ∧ i.claim < 0 ∧
        handle.claimAll interfaces = (taken.flatMap handle.node.taking ++
          (handle.node.taking i ++ (taken.foldl hold handle).close), .error fault) := by
  induction interfaces generalizing handle with
  | nil => exact .inl ⟨nofun, rfl⟩
  | cons i rest ih =>
    rw [claimAll]
    cases hcheck : i.claim.check with
    | error fault => exact .inr ⟨[], i, fault, nofun, Code.lt_of_check hcheck, rfl⟩
    | ok _ =>
      have hclaimed : 0 ≤ i.claim := Code.check_eq_ok_iff.mp hcheck
      dsimp only
      rcases ih (handle.hold i) with ⟨hall, hrest⟩ | ⟨taken, j, fault, hall, hrefused, hrest⟩
      · refine .inl ⟨List.forall_mem_cons.mpr ⟨hclaimed, hall⟩, ?_⟩
        rw [hrest]
        rfl
      · refine .inr ⟨i :: taken, j, fault, List.forall_mem_cons.mpr ⟨hclaimed, hall⟩, hrefused, ?_⟩
        rw [hrest, List.flatMap_cons, List.append_assoc]
        rfl

end Handle

theorem Node.takeOver_course (node : Node) (key : DeviceKey) :
    Course (node.takeOver key).1 ((node.takeOver key).2.mapError Fault.toBackend) := by
  have hopening : ∀ p (calls : List Call),
      touches p (node.call .openDevice node.openCode :: calls) = touches p calls := by
    intro p calls
    rw [← List.singleton_append, touches_append, touches_call_none rfl, List.nil_append]
  rw [takeOver]
  split
  case h_1 fault _ => exact .early _ fun p => touches_call_none rfl ..
  case h_2 =>
    split
    case h_1 fault _ =>
      exact .early _ fun p => (hopening p _).trans (touches_call_none rfl ..)
    case h_2 =>
      rcases Handle.claimAll_cases { key, node } node.interfaces with
        ⟨hall, hclaims⟩ | ⟨taken, i, fault, hall, hrefused, hclaims⟩
      · rw [hclaims]
        exact .opened key node hall (hopening · _)
      · rw [hclaims]
        refine .refused _ key node taken i hall hrefused fun p => ?_
        rw [hopening, touches_append, touches_append, Handle.close_eq_drop]
        rfl

/-- Every opening takes one of the three courses. -/
theorem openDevice_course (bus : Bus) (addressing : Addressing) (key : DeviceKey) :
    Course (bus.openDevice addressing key).1 (bus.openDevice addressing key).2 := by
  rw [openDevice]
  split
  case h_1 error _ => exact .early error fun _ => rfl
  case h_2 nodes _ =>
    split
    case h_1 => exact .early _ fun _ => rfl
    case h_2 node _ => exact node.takeOver_course key

end RemoteUsb.Bus
