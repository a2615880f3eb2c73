import RemoteUsb.Proofs.Bus.Opening

/-! # What an opening leaves behind

An opening that fails gives back what it claimed, and so does the end of a handle. Every interface is then
as it was, but for two exceptions: the driver of the interface at which an opening stops has been detached
already and is not attached again; and a driver that was found detached is attached. -/

namespace RemoteUsb.Bus

variable {p : Place} {taken refused left : List Interface} {taking : List Touch}

/-! ## One interface -/

theorem Interface.taking_takes (interfaces : List Interface) : Taking (interfaces.flatMap takes) := by
  intro t ht
  obtain ⟨i, _, ht⟩ := List.mem_flatMap.mp ht
  rcases List.mem_append.mp ht with ht | ht
  · split at ht
    · exact .inl (List.mem_singleton.mp ht ▸ rfl)
    · cases ht
  · exact .inr (List.mem_singleton.mp ht ▸ rfl)

theorem Interface.giving_returns (interfaces : List Interface) : Giving (interfaces.flatMap returns) := by
  intro t ht
  obtain ⟨i, _, ht⟩ := List.mem_flatMap.mp ht
  rcases List.mem_cons.mp ht with rfl | ht
  · exact .inl rfl
  · exact .inr (List.mem_singleton.mp ht ▸ rfl)

theorem Interface.count_takes (i : Interface) :
    i.takes.count ⟨.claim, true⟩ = if 0 ≤ i.claim then 1 else 0 := by
  unfold takes
  split <;> split <;> simp [*]

theorem Interface.count_claims (htaken : ∀ i ∈ taken, 0 ≤ i.claim) (hrefused : ∀ i ∈ refused, i.claim < 0) :
    ((taken ++ refused).flatMap takes).count ⟨.claim, true⟩ = taken.length := by
  have hsome : (taken.flatMap takes).count ⟨.claim, true⟩ = taken.length := by
    induction taken with
    | nil => rfl
    | cons i taken ih =>
      obtain ⟨hi, htaken⟩ := List.forall_mem_cons.mp htaken
      rw [List.flatMap_cons, List.count_append, ih htaken, count_takes, if_pos hi, List.length_cons, Nat.add_comm]
  have hnone : (refused.flatMap takes).count ⟨.claim, true⟩ = 0 := by
    induction refused with
    | nil => rfl
    | cons i refused ih =>
      obtain ⟨hi, hrefused⟩ := List.forall_mem_cons.mp hrefused
      rw [List.flatMap_cons, List.count_append, ih hrefused, count_takes, if_neg (Int.not_le.mpr hi)]
  rw [List.flatMap_append, List.count_append, hsome, hnone, Nat.add_zero]

theorem Interface.countP_returns (interfaces : List Interface) {deed : Deed}
    (h : deed = .release ∨ deed = .attach) :
    (interfaces.flatMap returns).countP (·.deed == deed) = interfaces.length := by
  induction interfaces with
  | nil => rfl
  | cons i rest ih =>
    have hone : i.returns.countP (·.deed == deed) = 1 := by
      rcases h with rfl | rfl <;> rfl
    rw [List.flatMap_cons, List.countP_append, ih, hone, List.length_cons, Nat.add_comm]

theorem givenBack_of_taken (htaken : ∀ i ∈ taken, 0 ≤ i.claim) (hrefused : ∀ i ∈ refused, i.claim < 0) :
    GivenBack ((taken ++ refused).flatMap Interface.takes) (taken.flatMap Interface.returns) where
  takes := Interface.taking_takes _
  gives := Interface.giving_returns _
  releases := by rw [Interface.countP_returns _ (.inl rfl), Interface.count_claims htaken hrefused]
  attaches := by rw [Interface.countP_returns _ (.inr rfl), Interface.count_claims htaken hrefused]

/-- What was claimed can be released, so that nothing is left to be released when the handle goes. -/
theorem nothing_left {holder : Holder} {others : List Touch} (htaking : Taking taking)
    (hclaimed : taken ≠ [] → ⟨.claim, true⟩ ∈ taking)
    (hallows : holder.AllowsAll (taking ++ (taken.flatMap Interface.returns ++ others)))
    (hleft : ∀ i ∈ left, i ∈ taken ∧ ∀ j ∈ taken, j.release < 0) : left = [] := by
  refine List.eq_nil_iff_forall_not_mem.mpr fun i hi => ?_
  obtain ⟨hin, hfailed⟩ := hleft i hi
  obtain ⟨_, hthen⟩ := (Holder.allowsAll_append ..).mp hallows
  rw [Holder.run_taking htaking, if_pos (hclaimed (List.ne_nil_of_mem hin))] at hthen
  cases taken with
  | nil => cases hin
  | cons j taken =>
    have hdone : decide (0 ≤ j.release) = true := hthen.1.2 rfl rfl
    exact Int.not_le.mpr (hfailed j List.mem_cons_self) (of_decide_eq_true hdone)

/-! ## The whole visit -/

/-- How a handle goes away: it is closed before it is dropped, or only dropped. -/
inductive Leaving where
  | closed
  | dropped

/-- The calls when a handle goes away, if there is one. -/
def leave (leaving : Leaving) : Except BackendError Handle → List Call
  | .ok handle =>
    match leaving with
    | .closed => handle.close
    | .dropped => handle.drop
  | .error _ => []

/-- The calls of an opening, and of the end of its handle. -/
def visit (bus : Bus) (addressing : Addressing) (key : DeviceKey) (leaving : Leaving) : List Call :=
  (bus.openDevice addressing key).1 ++ leave leaving (bus.openDevice addressing key).2

theorem leave_ok (leaving : Leaving) (handle : Handle) : leave leaving (.ok handle) = handle.drop := by
  cases leaving with
  | closed => exact handle.close_eq_drop
  | dropped => rfl

/-- An interface that was taken, or was refused, is given back if it was taken. -/
theorem given_back {port : Port} {calls : List Call} (key : DeviceKey) (node : Node)
    (taken refused : List Interface) (htaken : ∀ i ∈ taken, 0 ≤ i.claim) (hrefused : ∀ i ∈ refused, i.claim < 0)
    (hcalls : touches p calls = (node.at p taken ++ node.at p refused).flatMap Interface.takes ++
      touches p (Handle.holding key node taken).drop) (hallows : port.AllowsAll (touches p calls)) :
    ∃ (tried : List Interface) (giving : List Touch),
      touches p calls = tried.flatMap Interface.takes ++ giving ∧
        GivenBack (tried.flatMap Interface.takes) giving := by
  have hgiven : GivenBack ((node.at p taken ++ node.at p refused).flatMap Interface.takes)
      ((node.at p taken).flatMap Interface.returns) :=
    givenBack_of_taken (Node.forall_mem_at htaken p node) (Node.forall_mem_at hrefused p node)
  obtain ⟨left, hdrop, hleft⟩ := Handle.touches_drop p key node taken
  rw [hdrop] at hcalls
  rw [hcalls] at hallows
  have hclaimed : node.at p taken ≠ [] →
      ⟨.claim, true⟩ ∈ (node.at p taken ++ node.at p refused).flatMap Interface.takes := by
    intro hne
    rw [← List.count_pos_iff, ← hgiven.releases, Interface.countP_returns _ (.inl rfl)]
    exact List.length_pos_iff.mpr hne
  obtain rfl := nothing_left hgiven.takes hclaimed hallows.holder hleft
  rw [List.flatMap_nil, List.append_nil] at hcalls
  exact ⟨_, _, hcalls, hgiven⟩

theorem Course.given_back {calls : List Call} {result : Except BackendError Handle} (h : Course calls result)
    (leaving : Leaving) {port : Port} (hallows : port.AllowsAll (touches p (calls ++ leave leaving result))) :
    ∃ (tried : List Interface) (giving : List Touch),
      touches p (calls ++ leave leaving result) = tried.flatMap Interface.takes ++ giving ∧
        GivenBack (tried.flatMap Interface.takes) giving := by
  cases h with
  | early error hnone =>
    refine ⟨[], [], ?_, nofun, nofun, rfl, rfl⟩
    rw [leave, List.append_nil]
    exact hnone p
  | refused error key node taken i htaken hrefused hcalls =>
    refine Bus.given_back key node taken [i] htaken (List.forall_mem_singleton.mpr hrefused) ?_ hallows
    rw [leave, List.append_nil, hcalls, List.flatMap_append, touches_flatMap (touches_taking p node),
      ← touches_flatMap (touches_taking p node) [i], List.flatMap_singleton, List.append_assoc]
  | opened key node htaken hcalls =>
    refine Bus.given_back key node node.interfaces [] htaken nofun ?_ hallows
    rw [leave_ok, touches_append, hcalls, touches_flatMap (touches_taking p node)]
    simp only [Node.at, List.filter_nil, List.append_nil]

/-! ## Where a driver is lost -/

theorem giving_drop (p : Place) (key : DeviceKey) (node : Node) (taken : List Interface) :
    Giving (touches p (Handle.holding key node taken).drop) := by
  obtain ⟨left, hdrop, _⟩ := Handle.touches_drop p key node taken
  rw [hdrop]
  intro t ht
  rcases List.mem_append.mp ht with ht | ht
  · exact Interface.giving_returns _ t ht
  · obtain ⟨i, _, ht⟩ := List.mem_flatMap.mp ht
    exact .inl (List.mem_singleton.mp ht ▸ rfl)

theorem claim_mem_takes (i : Interface) : ⟨.claim, decide (0 ≤ i.claim)⟩ ∈ i.takes :=
  List.mem_append_right _ (List.mem_singleton.mpr rfl)

theorem not_refused {giving : List Touch} (htaken : ∀ i ∈ taken, 0 ≤ i.claim) (hgiving : Giving giving) :
    ⟨.claim, false⟩ ∉ taken.flatMap Interface.takes ++ giving := by
  rw [hgiving.mem_append_iff (.inr rfl)]
  intro hrefused
  obtain ⟨i, hi, hin⟩ := List.mem_flatMap.mp hrefused
  rw [Interface.takes, decide_eq_true (htaken i hi)] at hin
  rcases List.mem_append.mp hin with hin | hin
  · split at hin
    · cases List.mem_singleton.mp hin
    · cases hin
  · cases List.mem_singleton.mp hin

/-- One claim at most is refused, and if one is, the opening fails. -/
theorem Course.refused_at {calls : List Call} {result : Except BackendError Handle} (h : Course calls result)
    (leaving : Leaving) :
    ∃ place, ∀ p, ⟨.claim, false⟩ ∈ touches p (calls ++ leave leaving result) →
      p = place ∧ ∃ error, result = .error error := by
  cases h with
  | early error hnone =>
    refine ⟨⟨0, 0, 0⟩, fun p hr => ?_⟩
    rw [leave, List.append_nil, hnone] at hr
    cases hr
  | refused error key node taken i htaken _ hcalls =>
    refine ⟨node.place i, fun p hr => ⟨?_, error, rfl⟩⟩
    by_contra hne
    rw [leave, List.append_nil, hcalls, touches_flatMap (touches_taking p node), touches_taking,
      if_neg (Ne.symm hne), List.nil_append] at hr
    exact not_refused (Node.forall_mem_at htaken p node) (giving_drop p key node taken) hr
  | opened key node htaken hcalls =>
    refine ⟨⟨0, 0, 0⟩, fun p hr => ?_⟩
    rw [leave_ok, touches_append, hcalls, touches_flatMap (touches_taking p node)] at hr
    exact absurd hr (not_refused (Node.forall_mem_at htaken p node) (giving_drop p key node node.interfaces))

/-- An opening that succeeds has claimed every interface. -/
theorem Course.claims_all {calls : List Call} {handle : Handle} (h : Course calls (.ok handle)) {i : Interface}
    (hi : i ∈ handle.node.interfaces) : ⟨.claim, true⟩ ∈ touches (handle.node.place i) calls := by
  cases h with
  | opened key node htaken hcalls =>
    rw [Handle.holding, (Handle.foldl_hold node.interfaces { key, node }).1] at hi ⊢
    rw [hcalls, touches_flatMap (touches_taking _ node)]
    have hat : i ∈ node.at (node.place i) node.interfaces := List.mem_filter.mpr ⟨hi, beq_self_eq_true _⟩
    have hclaim := claim_mem_takes i
    rw [decide_eq_true (htaken i hi)] at hclaim
    exact List.mem_flatMap.mpr ⟨i, hat, hclaim⟩

/-- A driver is lost only where a claim is refused. -/
theorem refused_of_stranded {port : Port} {tried : List Interface} {giving : List Touch}
    (h : GivenBack (tried.flatMap Interface.takes) giving)
    (hs : port.Stranded (tried.flatMap Interface.takes ++ giving)) :
    ⟨.claim, false⟩ ∈ tried.flatMap Interface.takes ++ giving := by
  obtain ⟨_, hdetach, hclaim⟩ := hs
  rw [h.gives.mem_append_iff (.inl rfl)] at hdetach
  rw [h.gives.mem_append_iff (.inr rfl)] at hclaim ⊢
  obtain ⟨i, hi, _⟩ := List.mem_flatMap.mp hdetach
  have htried := List.mem_flatMap.mpr ⟨i, hi, claim_mem_takes i⟩
  cases hdone : decide (0 ≤ i.claim) with
  | true => exact absurd (hdone ▸ htried) hclaim
  | false => exact hdone ▸ htried

/-- Whether the opening of a device fails, or succeeds and its handle goes away later: an interface is as it
was before exactly unless its driver was detached in vain, or was attached although somebody had detached it
before. A driver is detached in vain only if the opening fails, at the one interface that is refused. An
opening that succeeds has claimed every interface, and every claim is released, and released once. -/
theorem undone_iff (bus : Bus) (addressing : Addressing) (key : DeviceKey) (leaving : Leaving)
    (before : Place → Port) (hnew : ∀ p, (before p).holder ≠ .caller)
    (hallows : ∀ p, (before p).AllowsAll (touches p (visit bus addressing key leaving))) :
    let course (p : Place) : List Touch := touches p (visit bus addressing key leaving)
    (∀ p, (before p).run (course p) = before p ↔
      ¬(before p).Stranded (course p) ∧ ¬(before p).Revived (course p)) ∧
    (∀ p, (before p).Stranded (course p) → (∃ error, (bus.openDevice addressing key).2 = .error error) ∧
      ⟨.claim, false⟩ ∈ course p ∧ ∀ q, ⟨.claim, false⟩ ∈ course q → q = p) ∧
    (∀ handle, (bus.openDevice addressing key).2 = .ok handle →
      ∀ i ∈ handle.node.interfaces, ⟨.claim, true⟩ ∈ course (handle.node.place i)) ∧
    ∀ p, (course p).countP (·.deed == .release) = (course p).count ⟨.claim, true⟩ := by
  intro course
  have hcourse := openDevice_course bus addressing key
  have hgiven : ∀ p, ∃ (tried : List Interface) (giving : List Touch),
      course p = tried.flatMap Interface.takes ++ giving ∧
        GivenBack (tried.flatMap Interface.takes) giving :=
    fun p => hcourse.given_back leaving (hallows p)
  obtain ⟨place, hplace⟩ := hcourse.refused_at leaving
  refine ⟨fun p => ?_, fun p hs => ?_, fun handle hopened i hi => ?_, fun p => ?_⟩
  · obtain ⟨tried, giving, hsplit, h⟩ := hgiven p
    have hp : (before p).AllowsAll (course p) := hallows p
    rw [hsplit] at hp ⊢
    exact h.run_eq_iff (hnew p) hp
  · obtain ⟨tried, giving, hsplit, h⟩ := hgiven p
    have hrefused : ⟨.claim, false⟩ ∈ course p := by
      rw [hsplit] at hs ⊢
      exact refused_of_stranded h hs
    obtain ⟨hp, herror⟩ := hplace p hrefused
    exact ⟨herror, hrefused, fun q hq => (hplace q hq).1.trans hp.symm⟩
  · rw [hopened] at hcourse
    show _ ∈ touches _ (_ ++ _)
    rw [touches_append]
    exact List.mem_append_left _ (hcourse.claims_all hi)
  · obtain ⟨tried, giving, hsplit, h⟩ := hgiven p
    rw [hsplit]
    exact h.releases_eq

/-! ## Two interfaces -/

def storageSetting : Setting := { number := 0, interfaceClass := 0x08, endpoints := [] }

/-- A device with two interfaces, both with their drivers; a code tells what comes of claiming the second
one. -/
def twoInterfaces (claim : Code) : Bus :=
  { devices := [{
      bus := 1, address := 2
      interfaces := [
        { number := 0, kernel := 1, settings := [storageSetting] },
        { number := 1, kernel := 1, claim, settings := [storageSetting] }] }] }

def visitTwo (claim : Code) : List Call :=
  visit (twoInterfaces claim) .busAddress (.busAddress 1 2) .closed

/-- An interface with its driver, which nobody has claimed. -/
def untaken : Port := { driver := .attached }

theorem visitTwo_allowed {claim : Code} (h : (visitTwo claim).all Call.givesBack = true) (p : Place) :
    untaken.AllowsAll (touches p (visitTwo claim)) := Port.allowsAll_of_givesBack (by decide) h

/-- Both interfaces are claimed, and at the end they have their drivers again. -/
theorem both_given_back :
    (∀ p, untaken.AllowsAll (touches p (visitTwo 0))) ∧
      (touches ⟨1, 2, 1⟩ (visitTwo 0)).count ⟨.claim, true⟩ = 1 ∧
        ∀ p, untaken.run (touches p (visitTwo 0)) = untaken := by
  have hallows : ∀ p, untaken.AllowsAll (touches p (visitTwo 0)) := visitTwo_allowed (by decide)
  obtain ⟨hundone, hstranded, _⟩ :=
    undone_iff (twoInterfaces 0) .busAddress (.busAddress 1 2) .closed (fun _ => untaken)
      (fun _ => by decide) hallows
  have hopened : ((twoInterfaces 0).openDevice .busAddress (.busAddress 1 2)).2.isOk = true := by decide
  refine ⟨hallows, by decide, fun p => (hundone p).mpr ⟨fun hs => ?_, fun hr => Driver.noConfusion hr.1⟩⟩
  obtain ⟨error, herror⟩ := (hstranded p hs).1
  rw [herror] at hopened
  cases hopened

/-- The second interface is refused: the opening fails, and its driver stays detached. -/
theorem refused_interface_loses_driver :
    (∀ p, untaken.AllowsAll (touches p (visitTwo (-6)))) ∧
      ((twoInterfaces (-6)).openDevice .busAddress (.busAddress 1 2)).2 = .error .busy ∧
        untaken.run (touches ⟨1, 2, 1⟩ (visitTwo (-6))) = { driver := .detached } :=
  ⟨visitTwo_allowed (by decide), by decide, by decide⟩

end RemoteUsb.Bus
