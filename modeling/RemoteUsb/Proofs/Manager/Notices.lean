import Mathlib.Data.List.Induction
import RemoteUsb.Proofs.Manager.Bindings

/-! # What observers are told of the registry

Devices come by an enumeration or by events, and a departure takes a device out only after it was
disconnected and its driver was removed, so that other departures and arrivals under the same key may
come in between. `notices_mirror_registry` says that the notices of a key are still those of a registry
that holds one device under it at a time: they alternate, and the last one says whether a device is
registered, and which. -/

namespace RemoteUsb

/-- Whether observers are told that the device under a key was registered, or was taken out. -/
def Notification.isNoticeOf (key : DeviceKey) : Notification → Bool
  | .added device | .removed device => device.key == key
  | _ => false

/-- What observers are told of the registration of the device under a key, in order. -/
def notices (key : DeviceKey) (outputs : List Output) : List Notification :=
  outputs.filterMap fun
    | .notified notification => if notification.isNoticeOf key then some notification else none
    | _ => none

section

variable {key : DeviceKey} {outputs : List Output} {device : RegisteredDevice}

@[simp] theorem notices_append (key : DeviceKey) (first others : List Output) :
    notices key (first ++ others) = notices key first ++ notices key others := List.filterMap_append

theorem notices_of_silent (h : ∀ output ∈ outputs, output.isNotice = false) : notices key outputs = [] := by
  rw [notices, List.filterMap_eq_nil_iff]
  intro output ho
  have hsilent := h output ho
  cases output with
  | notified notification =>
    cases notification with
    | added | removed => cases hsilent
    | autoConnectFailed | deviceFailed => rfl
  | _ => rfl

theorem notices_added (key : DeviceKey) (device : RegisteredDevice) :
    notices key [.notified (.added device)] = if device.key = key then [.added device] else [] := by
  by_cases h : device.key = key <;> simp [notices, Notification.isNoticeOf, h]

theorem notices_removed (key : DeviceKey) (device : RegisteredDevice) :
    notices key [.notified (.removed device)] = if device.key = key then [.removed device] else [] := by
  by_cases h : device.key = key <;> simp [notices, Notification.isNoticeOf, h]

end

/-! ## Rows that alternate -/

/-- Notices by which a device is added while none is there, and taken out while it is there. The device
is the one that is there in the end. -/
inductive Alternates : List Notification → Option RegisteredDevice → Prop where
  | nil : Alternates [] none
  | added {row : List Notification} (device : RegisteredDevice) (_ : Alternates row none) :
    Alternates (row ++ [.added device]) (some device)
  | removed {row : List Notification} {device : RegisteredDevice} (_ : Alternates row (some device)) :
    Alternates (row ++ [.removed device]) none

namespace Alternates

variable {row : List Notification} {there : Option RegisteredDevice}

/-- An even number of notices was given if nothing is there, and else an odd one. -/
theorem length (h : Alternates row there) : row.length % 2 = there.isSome.toNat := by
  induction h with
  | nil => rfl
  | added device _ ih | removed _ ih =>
    simp only [List.length_append, List.length_singleton, Option.isSome_none, Option.isSome_some,
      Bool.toNat_false, Bool.toNat_true] at ih ⊢
    omega

theorem last (h : Alternates row there) (device : RegisteredDevice) :
    row.getLast? = some (.added device) ↔ there = some device := by
  cases h with
  | nil => simp
  | added other _ => simp
  | removed _ => simp

/-- A place in a row to which a notice was added is one of the row before, or is the place of the notice. -/
theorem place {notice other : Notification} {i : Nat} (hi : (row ++ [notice])[i]? = some other) :
    i < row.length ∧ row[i]? = some other ∨ i = row.length ∧ other = notice := by
  rcases Nat.lt_or_ge i row.length with hlt | hge
  · rw [List.getElem?_append_left hlt] at hi
    exact .inl ⟨hlt, hi⟩
  · obtain ⟨hbound, hget⟩ := List.getElem?_eq_some_iff.mp hi
    obtain rfl : i = row.length := by
      rw [List.length_append, List.length_singleton] at hbound
      omega
    simp at hget
    exact .inr ⟨rfl, hget.symm⟩

/-- Every other notice says that a device was added, beginning with the first, and the one that follows
takes the same device out. -/
theorem at_index (h : Alternates row there) {i : Nat} {notice : Notification}
    (hi : row[i]? = some notice) :
    if i % 2 = 0 then ∃ device, notice = .added device
    else ∃ device, row[i - 1]? = some (.added device) ∧ notice = .removed device := by
  induction h with
  | nil => cases hi
  | @added row device hrow ih =>
    obtain ⟨hlt, hi⟩ | ⟨rfl, rfl⟩ := place hi
    · have hbefore := ih hi
      split
      · rwa [if_pos ‹_›] at hbefore
      · rw [if_neg ‹_›] at hbefore
        rwa [List.getElem?_append_left (by omega)]
    · have heven : row.length % 2 = 0 := hrow.length
      rw [if_pos heven]
      exact ⟨device, rfl⟩
  | @removed row device hrow ih =>
    obtain ⟨hlt, hi⟩ | ⟨rfl, rfl⟩ := place hi
    · have hbefore := ih hi
      split
      · rwa [if_pos ‹_›] at hbefore
      · rw [if_neg ‹_›] at hbefore
        rwa [List.getElem?_append_left (by omega)]
    · have hodd : row.length % 2 = 1 := hrow.length
      have hlast := (hrow.last device).mpr rfl
      rw [List.getLast?_eq_getElem?] at hlast
      rw [if_neg (by omega), List.getElem?_append_left (by omega)]
      exact ⟨device, hlast, rfl⟩

end Alternates

namespace Manager

variable {b : Bool} {m n p : Manager} {outputs more : List Output} {key : DeviceKey}
  {row : List Notification}

/-- A change leaves the registry as it is and tells nothing of it, or registers a device. -/
theorem Change.registers (h : Change b m outputs n) :
    (n.registry = m.registry ∧ ∀ output ∈ outputs, output.isNotice = false) ∨
      ∃ info arrival key, (m.registry.add info arrival).2 = .added key ∧
        outputs = [.notified (.added ⟨key, info, arrival⟩)] ∧
        n.registry = (m.registry.add info arrival).1 := by
  have hnone : ∀ output ∈ ([] : List Output), output.isNotice = false := by simp
  cases h with
  | @registered _ info arrival other ha => exact .inr ⟨info, arrival, other, ha, rfl, rfl⟩
  | aside e => exact .inl ⟨e.registry, hnone⟩
  | told output hf => exact .inl ⟨rfl, by simpa using hf⟩
  | worked | begun | installed => exact .inl ⟨setTask_registry .., hnone⟩
  | bound => exact .inl ⟨setTask_registry .., hnone⟩
  | numbered | dropped | moved | added | skipped | removed => exact .inl ⟨rfl, hnone⟩

/-- The notices of a key alternate, and say what is registered under it. -/
def Mirrors (m : Manager) (key : DeviceKey) (row : List Notification) : Prop :=
  Alternates row (m.registry.find? key)

theorem Change.mirrors (h : Change b m outputs n) (hm : m.Mirrors key row) :
    n.Mirrors key (row ++ notices key outputs) := by
  unfold Mirrors at hm ⊢
  rcases h.registers with ⟨hsame, hsilent⟩ | ⟨info, arrival, other, hadd, rfl, hregistry⟩
  · rw [notices_of_silent hsilent, List.append_nil, hsame]
    exact hm
  · rw [notices_added, hregistry]
    by_cases hkey : other = key
    · subst hkey
      obtain ⟨hnone, _⟩ := Registry.add_added hadd
      rw [if_pos rfl, Registry.find?_add hadd]
      rw [hnone] at hm
      exact hm.added _
    · rw [if_neg hkey, List.append_nil, Registry.find?_add_other hadd (Ne.symm hkey)]
      exact hm

theorem Changes.mirrors (h : Changes b m outputs n) (hm : m.Mirrors key row) :
    n.Mirrors key (row ++ notices key outputs) := by
  induction h generalizing row with
  | refl => simpa [notices] using hm
  | head c _ ih =>
    rw [notices_append, ← List.append_assoc]
    exact ih (c.mirrors hm)

/-- A departure takes out what was found under the key at this moment, and tells so. -/
theorem departs_mirrors (hs : m.Sound) {device : RegisteredDevice}
    (hf : m.registry.find? device.key = some device) (hm : m.Mirrors key row) :
    ({ m with registry := (m.registry.remove device.key).1 } : Manager).Mirrors key
      (row ++ notices key [.notified (.removed device)]) := by
  unfold Mirrors at hm ⊢
  rw [notices_removed]
  by_cases hkey : device.key = key
  · subst hkey
    rw [hf] at hm
    rw [if_pos rfl, hs.registry.find?_remove]
    exact hm.removed
  · rw [if_neg hkey, List.append_nil]
    rwa [Registry.find?_remove_other _ (Ne.symm hkey)]

theorem Turned.mirrors (h : Turned m outputs n) (hs : m.Sound) (hm : m.Mirrors key row) :
    n.Mirrors key (row ++ notices key outputs) := by
  cases h with
  | goes c => exact c.mirrors hm
  | departs c hf c' =>
    have hgone := departs_mirrors (c.sound hs) hf (c.mirrors hm)
    have hrest := c'.mirrors hgone
    rw [List.append_cons, notices_append, notices_append]
    simpa only [List.append_assoc] using hrest

theorem run_mirrors (hs : m.Sound) (hm : m.Mirrors key row) (drivers : Bool) (turns : List Turn) :
    (m.run drivers turns).Mirrors key (row ++ notices key (m.told drivers turns)) := by
  induction turns generalizing m row with
  | nil =>
    rw [told, show notices key [] = [] from rfl, List.append_nil]
    exact hm
  | cons t turns ih =>
    have ht := turn_turned m drivers t
    rw [told, notices_append, ← List.append_assoc]
    exact ih (ht.sound hs) (ht.mirrors hs hm)

/-- Whatever a manager goes through from its beginning, the notices of a key begin with a device that was
added, are by turns of a device that was added and of the same device that was taken out, and a device is
registered under the key exactly if the last notice says that it was added. -/
theorem notices_mirror_registry (addressing : Addressing) (settings : Settings) (drivers : Bool)
    (turns : List Turn) (key : DeviceKey) :
    let m := new addressing settings
    let row := notices key (m.told drivers turns)
    (∀ i notice, row[i]? = some notice →
      if i % 2 = 0 then ∃ device, notice = .added device
      else ∃ device, row[i - 1]? = some (.added device) ∧ notice = .removed device) ∧
    ∀ device, (m.run drivers turns).registry.find? key = some device ↔
      row.getLast? = some (.added device) := by
  intro m row
  have hrun : (m.run drivers turns).Mirrors key ([] ++ row) :=
    run_mirrors (new_sound addressing settings) .nil drivers turns
  exact ⟨fun i notice hi => hrun.at_index hi, fun device => (hrun.last device).symm⟩

end Manager
end RemoteUsb
