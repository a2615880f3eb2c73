import RemoteUsb.Registry
import Mathlib.Data.List.Nodup

/-! The registry holds one device under a key: what a device is found under, and what an arrival and a
departure make of it. -/

namespace RemoteUsb.Registry

variable {r : Registry} {key other : DeviceKey} {device : RegisteredDevice}

/-- No two devices are registered under the same key. -/
def Distinct (r : Registry) : Prop := (r.devices.map (·.key)).Nodup

theorem key_of_find? (h : r.find? key = some device) : device.key = key := by
  simpa using List.find?_some h

theorem find?_eq_none : r.find? key = none ↔ ∀ d ∈ r.devices, d.key ≠ key := by
  simp [find?]

/-- An addition skips a hub, finds the key taken, or puts the device behind the others. -/
theorem add_cases (r : Registry) (info : DeviceInfo) (arrival : Arrival) :
    info.isHub = true ∧ r.add info arrival = (r, .skipped) ∨
    info.isHub = false ∧ r.find? (info.key r.addressing) ≠ none ∧
      r.add info arrival = (r, .duplicate (info.key r.addressing)) ∨
    info.isHub = false ∧ r.find? (info.key r.addressing) = none ∧
      r.add info arrival =
        ({ r with devices := r.devices ++ [⟨info.key r.addressing, info, arrival⟩] },
          .added (info.key r.addressing)) := by
  cases hhub : info.isHub with
  | true => simp [add, hhub]
  | false => cases hfind : r.find? (info.key r.addressing) <;> simp [add, hhub, hfind]

/-- What an addition makes of the registry, if it adds anything. -/
theorem add_added {info : DeviceInfo} {arrival : Arrival} (h : (r.add info arrival).2 = .added key) :
    r.find? key = none ∧
      (r.add info arrival).1 = { r with devices := r.devices ++ [⟨key, info, arrival⟩] } := by
  rcases r.add_cases info arrival with ⟨_, hadd⟩ | ⟨_, _, hadd⟩ | ⟨_, hnone, hadd⟩ <;> rw [hadd] at h ⊢ <;>
    cases h
  exact ⟨hnone, rfl⟩

/-- A device is registered under the key that it has under the addressing. -/
theorem add_key {info : DeviceInfo} {arrival : Arrival} (h : (r.add info arrival).2 = .added key) :
    key = info.key r.addressing := by
  rcases r.add_cases info arrival with ⟨_, hadd⟩ | ⟨_, _, hadd⟩ | ⟨_, _, hadd⟩ <;> rw [hadd] at h <;> cases h
  rfl

theorem add_addressing (r : Registry) (info : DeviceInfo) (arrival : Arrival) :
    (r.add info arrival).1.addressing = r.addressing := by
  rcases r.add_cases info arrival with ⟨_, hadd⟩ | ⟨_, _, hadd⟩ | ⟨_, _, hadd⟩ <;> rw [hadd]

/-- Under a key stays what was there. Otherwise the device is found there if it has that key and is no
hub. -/
theorem find?_add_eq (r : Registry) (info : DeviceInfo) (arrival : Arrival) (key : DeviceKey) :
    (r.add info arrival).1.find? key = (r.find? key).or
      (if !info.isHub && info.key r.addressing == key then some ⟨key, info, arrival⟩ else none) := by
  rcases r.add_cases info arrival with ⟨hhub, hadd⟩ | ⟨hhub, hsome, hadd⟩ | ⟨hhub, hnone, hadd⟩
  · simp [hadd, hhub]
  · obtain ⟨device, hfind⟩ := Option.ne_none_iff_exists'.mp hsome
    by_cases hkey : info.key r.addressing = key
    · simp [hadd, ← hkey, hfind]
    · simp [hadd, hkey]
  · by_cases hkey : info.key r.addressing = key
    · subst hkey
      simp [hadd, find?, hhub, List.find?_append]
    · simp [hadd, find?, hkey, List.find?_append]

theorem find?_add {info : DeviceInfo} {arrival : Arrival} (h : (r.add info arrival).2 = .added key) :
    (r.add info arrival).1.find? key = some ⟨key, info, arrival⟩ := by
  obtain ⟨hnone, hadd⟩ := add_added h
  rw [hadd]
  unfold find? at hnone ⊢
  simp [hnone]

theorem Distinct.add (h : r.Distinct) {info : DeviceInfo} {arrival : Arrival}
    (ha : (r.add info arrival).2 = .added key) : (r.add info arrival).1.Distinct := by
  obtain ⟨hnone, hadd⟩ := add_added ha
  rw [hadd, Distinct, List.map_append]
  refine List.nodup_append.mpr ⟨h, List.nodup_singleton key, fun a hm b hb e => ?_⟩
  obtain ⟨d, hd, rfl⟩ := List.mem_map.mp hm
  exact find?_eq_none.mp hnone d hd (e.trans (List.mem_singleton.mp hb))

theorem find?_add_of_none {info : DeviceInfo} {arrival : Arrival}
    (h : (r.add info arrival).1.find? other = none) : r.find? other = none := by
  rw [find?_add_eq, Option.or_eq_none_iff] at h
  exact h.1

theorem find?_add_of_some {info : DeviceInfo} {arrival : Arrival} (h : r.find? other = some device) :
    (r.add info arrival).1.find? other = some device := by
  rw [find?_add_eq, h, Option.some_or]

/-- An addition changes nothing under any other key. -/
theorem find?_add_other {info : DeviceInfo} {arrival : Arrival}
    (ha : (r.add info arrival).2 = .added key) (h : other ≠ key) :
    (r.add info arrival).1.find? other = r.find? other := by
  have hne : ¬info.key r.addressing = other := fun he => h ((add_key ha).trans he).symm
  simp [find?_add_eq, hne]

/-! ## Devices that are offered one after another -/

/-- The registry after each of the devices was offered to it, the first one first. -/
def addAll (r : Registry) (arrival : Arrival) : List DeviceInfo → Registry
  | [] => r
  | info :: infos => (r.add info arrival).1.addAll arrival infos

/-- Under a key stays what was there. Otherwise the first of the devices is found there that has the key
and is no hub. -/
theorem find?_addAll (r : Registry) (arrival : Arrival) (infos : List DeviceInfo) (key : DeviceKey) :
    (r.addAll arrival infos).find? key = (r.find? key).or
      ((infos.find? fun info => !info.isHub && info.key r.addressing == key).map (⟨key, ·, arrival⟩)) := by
  induction infos generalizing r with
  | nil => simp [addAll]
  | cons info infos ih =>
    rw [addAll, ih, find?_add_eq, add_addressing, List.find?_cons, Option.or_assoc]
    cases !info.isHub && info.key r.addressing == key <;> rfl

theorem find?_addAll_of_mem {arrival : Arrival} {infos : List DeviceInfo} {info : DeviceInfo}
    (hin : info ∈ infos) (hhub : info.isHub = false) :
    ∃ device, (r.addAll arrival infos).find? (info.key r.addressing) = some device := by
  refine Option.ne_none_iff_exists'.mp ?_
  rw [find?_addAll, Ne, Option.or_eq_none_iff, Option.map_eq_none_iff, List.find?_eq_none]
  exact fun h => h.2 info hin (by simp [hhub])

/-! ## Devices that are taken out -/

/-- What a removal takes out, and what it leaves. -/
theorem remove_devices (r : Registry) (key : DeviceKey) :
    (r.remove key).1.devices = r.devices.eraseP (·.key == key) := by
  unfold remove
  split
  · rfl
  · rename_i hnone
    refine (List.eraseP_of_forall_not fun d hd => ?_).symm
    simpa using find?_eq_none.mp hnone d hd

theorem remove_addressing (r : Registry) (key : DeviceKey) :
    (r.remove key).1.addressing = r.addressing := by
  unfold remove
  split <;> rfl

/-- A removal changes nothing under any other key. -/
theorem find?_remove_other (r : Registry) (h : other ≠ key) :
    (r.remove key).1.find? other = r.find? other := by
  unfold find?
  rw [remove_devices]
  induction r.devices with
  | nil => rfl
  | cons d devices ih =>
    by_cases hd : d.key = key
    · have hne : ¬d.key = other := fun he => h (he.symm.trans hd)
      rw [List.eraseP_cons_of_pos (by simpa using hd), List.find?_cons_of_neg (by simpa using hne)]
    · rw [List.eraseP_cons_of_neg (by simpa using hd), List.find?_cons, List.find?_cons, ih]

theorem find?_remove_of_none (h : r.find? other = none) (key : DeviceKey) :
    (r.remove key).1.find? other = none := by
  rw [find?_eq_none, remove_devices]
  exact fun d hd => find?_eq_none.mp h d (List.mem_of_mem_eraseP hd)

theorem Distinct.remove (h : r.Distinct) (key : DeviceKey) : (r.remove key).1.Distinct := by
  rw [Distinct, remove_devices]
  exact h.sublist (List.eraseP_sublist.map _)

theorem Distinct.find?_of_mem (h : r.Distinct) (hd : device ∈ r.devices) :
    r.find? device.key = some device := by
  cases hf : r.find? device.key with
  | none => exact absurd rfl (find?_eq_none.mp hf device hd)
  | some found =>
    rw [List.inj_on_of_nodup_map h (List.mem_of_find?_eq_some hf) hd (key_of_find? hf)]

/-- What is found after a removal was found before it. -/
theorem Distinct.find?_of_remove (h : r.Distinct) (hf : (r.remove key).1.find? other = some device) :
    r.find? other = some device := by
  have hmem : device ∈ (r.remove key).1.devices := List.mem_of_find?_eq_some hf
  rw [remove_devices] at hmem
  rw [← key_of_find? hf]
  exact h.find?_of_mem (List.mem_of_mem_eraseP hmem)

theorem Distinct.find?_remove (h : r.Distinct) (key : DeviceKey) :
    (r.remove key).1.find? key = none := by
  rw [find?_eq_none, remove_devices]
  intro d hd hkey
  rcases List.exists_or_eq_self_of_eraseP (·.key == key) r.devices with heq | ⟨e, l, l', _, he, hl, hl'⟩
  · rw [heq] at hd
    have := List.length_eraseP_of_mem hd (p := (·.key == key)) (by simpa using hkey)
    rw [heq] at this
    have := List.length_pos_of_mem hd
    omega
  · have he : e.key = key := by simpa using he
    rw [hl'] at hd
    rw [Distinct, hl, List.map_append, List.map_cons, List.nodup_append, List.nodup_cons] at h
    rcases List.mem_append.mp hd with hd | hd
    · exact h.2.2 d.key (List.mem_map_of_mem hd) e.key List.mem_cons_self (hkey.trans he.symm)
    · exact h.2.1.1 (he.trans hkey.symm ▸ List.mem_map_of_mem hd)

end RemoteUsb.Registry
