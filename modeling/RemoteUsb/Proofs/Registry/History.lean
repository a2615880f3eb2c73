import RemoteUsb.Proofs.Registry

/-! # What a registry holds after a row of calls

`registry_holds_history` says that a registry is what its history leaves: the devices that were added and
not removed since, in the order of their additions, each under its own key. What was done by the calls is
read off their answers, and what it leaves is told without a registry, by `standing`. -/

namespace RemoteUsb.Registry

inductive Request where
  | add (info : DeviceInfo) (arrival : Arrival)
  | remove (key : DeviceKey)

/-- What was done by a call that changed something. -/
inductive Record where
  | added (device : RegisteredDevice)
  | removed (key : DeviceKey)
  deriving DecidableEq

/-- The registry after a call, and what was done according to its answer. -/
def serve (r : Registry) : Request → Registry × Option Record
  | .add info arrival =>
    let (next, outcome) := r.add info arrival
    (next, match outcome with
      | .added key => some (.added ⟨key, info, arrival⟩)
      | _ => none)
  | .remove key =>
    let (next, taken) := r.remove key
    (next, taken.map fun _ => .removed key)

/-- The registry after a row of calls, and what was done by them. -/
def serveAll (r : Registry) : List Request → Registry × List Record
  | [] => (r, [])
  | request :: requests =>
    let (next, record) := r.serve request
    let (last, records) := next.serveAll requests
    (last, record.toList ++ records)

/-- The devices that were added and not removed since, in the order in which they were added. -/
def standing : List Record → List RegisteredDevice
  | [] => []
  | .added device :: later =>
    if .removed device.key ∈ later then standing later else device :: standing later
  | .removed _ :: later => standing later

theorem standing_added (history : List Record) (device : RegisteredDevice) :
    standing (history ++ [.added device]) = standing history ++ [device] := by
  induction history with
  | nil => rfl
  | cons record history ih =>
    cases record with
    | added other =>
      rw [List.cons_append, standing, standing, ih]
      simp only [List.mem_append, List.mem_singleton, reduceCtorEq, or_false]
      split <;> rfl
    | removed key => exact ih

theorem standing_removed (history : List Record) (key : DeviceKey) :
    standing (history ++ [.removed key]) = (standing history).filter (·.key != key) := by
  induction history with
  | nil => rfl
  | cons record history ih =>
    cases record with
    | added other =>
      rw [List.cons_append, standing, standing, ih]
      by_cases hkey : other.key = key
      · have hlater : Record.removed other.key ∈ history ++ [.removed key] := by simp [hkey]
        rw [if_pos hlater]
        split
        · rfl
        · rw [List.filter_cons_of_neg (by simp [hkey])]
      · have hlater : Record.removed other.key ∈ history ++ [.removed key] ↔
            .removed other.key ∈ history := by simp [hkey]
        simp only [hlater]
        split
        · rfl
        · rw [List.filter_cons_of_pos (by simpa using hkey)]
    | removed other => exact ih

/-- The registry is what a history leaves. -/
structure Holds (r : Registry) (addressing : Addressing) (history : List Record) : Prop where
  mode : r.addressing = addressing
  distinct : r.Distinct
  keyed : ∀ d ∈ r.devices, d.key = d.info.key addressing
  plain : ∀ d ∈ r.devices, d.info.isHub = false
  devices : r.devices = standing history

variable {r : Registry} {addressing : Addressing} {history : List Record}

theorem Holds.added (h : r.Holds addressing history) {info : DeviceInfo} {arrival : Arrival} {key : DeviceKey}
    (ha : (r.add info arrival).2 = .added key) (hhub : info.isHub = false) :
    (r.add info arrival).1.Holds addressing (history ++ [.added ⟨key, info, arrival⟩]) := by
  have hdistinct := h.distinct.add ha
  have hkey := h.mode ▸ add_key ha
  obtain ⟨_, hadd⟩ := add_added ha
  rw [hadd] at hdistinct ⊢
  have heither : ∀ {P : RegisteredDevice → Prop}, (∀ d ∈ r.devices, P d) → P ⟨key, info, arrival⟩ →
      ∀ d ∈ r.devices ++ [⟨key, info, arrival⟩], P d := by
    intro P hold hnew d hd
    rcases List.mem_append.mp hd with hd | hd
    · exact hold d hd
    · exact List.mem_singleton.mp hd ▸ hnew
  exact ⟨h.mode, hdistinct, heither h.keyed hkey, heither h.plain hhub,
    by rw [standing_added, ← h.devices]⟩

/-- The first device under the key is the only one, so taking it out leaves all those under other keys. -/
theorem Distinct.remove_filter (h : r.Distinct) (key : DeviceKey) :
    (r.remove key).1.devices = r.devices.filter (·.key != key) := by
  have hnone : ∀ d ∈ (r.remove key).1.devices, d.key ≠ key := find?_eq_none.mp (h.find?_remove key)
  rw [remove_devices] at hnone ⊢
  have hrest : (r.devices.eraseP (·.key == key)).filter (·.key != key) = r.devices.eraseP (·.key == key) :=
    List.filter_eq_self.mpr fun d hd => bne_iff_ne.mpr (hnone d hd)
  rw [← hrest]
  clear hrest hnone h
  induction r.devices with
  | nil => rfl
  | cons d devices ih =>
    by_cases hd : d.key = key
    · rw [List.eraseP_cons_of_pos (by simpa using hd), List.filter_cons_of_neg (by simpa using hd)]
    · rw [List.eraseP_cons_of_neg (by simpa using hd), List.filter_cons_of_pos (by simpa using hd),
        List.filter_cons_of_pos (by simpa using hd), ih]

theorem Holds.removed (h : r.Holds addressing history) (key : DeviceKey) :
    (r.remove key).1.Holds addressing (history ++ [.removed key]) := by
  have hfilter := h.distinct.remove_filter key
  have hold : ∀ d ∈ (r.remove key).1.devices, d ∈ r.devices := fun d hd =>
    List.mem_of_mem_filter (hfilter ▸ hd)
  exact ⟨(remove_addressing r key).trans h.mode, h.distinct.remove key, fun d hd => h.keyed d (hold d hd),
    fun d hd => h.plain d (hold d hd), by rw [hfilter, standing_removed, h.devices]⟩

/-- What is removed is what was found. -/
theorem remove_cases (r : Registry) (key : DeviceKey) :
    (r.remove key).2 = r.find? key ∧ (r.find? key = none → (r.remove key).1 = r) := by
  unfold remove
  cases hfind : r.find? key with
  | none => exact ⟨rfl, fun _ => rfl⟩
  | some device => exact ⟨rfl, nofun⟩

theorem Holds.serve (h : r.Holds addressing history) (request : Request) :
    (r.serve request).1.Holds addressing (history ++ (r.serve request).2.toList) := by
  cases request with
  | add info arrival =>
    rcases r.add_cases info arrival with ⟨_, hadd⟩ | ⟨_, _, hadd⟩ | ⟨hhub, _, hadd⟩
    · simpa [Registry.serve, hadd] using h
    · simpa [Registry.serve, hadd] using h
    · have hadded := h.added (congrArg Prod.snd hadd) hhub
      rw [hadd] at hadded
      simpa [Registry.serve, hadd] using hadded
  | remove key =>
    obtain ⟨hanswer, hsame⟩ := remove_cases r key
    have hremoved := h.removed key
    cases hfind : r.find? key with
    | none => simpa [Registry.serve, hanswer, hfind, hsame hfind] using h
    | some device => simpa [Registry.serve, hanswer, hfind] using hremoved

theorem Holds.serveAll (h : r.Holds addressing history) (requests : List Request) :
    (r.serveAll requests).1.Holds addressing (history ++ (r.serveAll requests).2) := by
  induction requests generalizing r history with
  | nil => simpa [Registry.serveAll] using h
  | cons request requests ih =>
    have hrest := ih (h.serve request)
    rw [List.append_assoc] at hrest
    exact hrest

/-- A registry that was empty once, after whatever row of calls: it keeps its addressing, has the devices
that were added and not removed since, in the order in which they were added, under distinct keys, each
under its own and with what was said of it at this addition, and no hubs. An addition skips hubs, and adds
what is no hub and not there; otherwise it changes nothing, and else it does. A removal answers what was
found, and changes nothing if that is nothing; afterwards nothing is found under the key, and under any
other one what was found before. -/
theorem registry_holds_history (addressing : Addressing) (requests : List Request) :
    let r := (serveAll { addressing } requests).1
    r.Holds addressing (serveAll { addressing } requests).2 ∧
    (∀ info arrival,
      ((r.add info arrival).2 = .skipped ↔ info.isHub = true) ∧
      ((r.add info arrival).2 = .added (info.key addressing) ↔
        info.isHub = false ∧ r.find? (info.key addressing) = none) ∧
      (((r.add info arrival).2 = .skipped ∨ ∃ key, (r.add info arrival).2 = .duplicate key) ↔
        (r.add info arrival).1 = r)) ∧
    ∀ key,
      (r.remove key).2 = r.find? key ∧
      (r.find? key = none → (r.remove key).1 = r) ∧
      (r.remove key).1.find? key = none ∧
      ∀ other, other ≠ key → (r.remove key).1.find? other = r.find? other := by
  intro r
  have hempty : Holds { addressing } addressing [] :=
    ⟨rfl, List.nodup_nil, List.forall_mem_nil _, List.forall_mem_nil _, rfl⟩
  have hholds : r.Holds addressing (serveAll { addressing } requests).2 := hempty.serveAll requests
  refine ⟨hholds, fun info arrival => ?_, fun key => ?_⟩
  · have hgrown : ∀ d, ({ addressing, devices := r.devices ++ [d] } : Registry) ≠ r := by
      intro d he
      have := congrArg (·.devices.length) he
      simp at this
    rcases r.add_cases info arrival with ⟨hhub, hadd⟩ | ⟨hhub, hfind, hadd⟩ | ⟨hhub, hfind, hadd⟩
    · simp [hadd, hhub]
    · rw [hholds.mode] at hfind
      simp [hadd, hhub, hfind]
    · rw [hholds.mode] at hfind hadd
      simp [hadd, hhub, hfind, hgrown]
  · obtain ⟨hanswer, hsame⟩ := remove_cases r key
    exact ⟨hanswer, hsame, hholds.distinct.find?_remove key, fun other hne => find?_remove_other r hne⟩

end RemoteUsb.Registry
