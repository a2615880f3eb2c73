import Mathlib.Data.List.Find
import RemoteUsb.Proofs.Manager.Deeds

/-! # What the question before a connect is worth

`canRedirect` says whether a device could be connected, and `bindFree` is what a connect then does. Both
look for a free channel, but the question is content with any of them, while the device is bound to the
first one, and only if that one has a host. A channel without a host stands in the way of the ones behind
it. -/

namespace RemoteUsb.Manager

variable {m : Manager} {key : DeviceKey} {device : RegisteredDevice} {c : Channel}

/-! ## Looking for a free channel -/

theorem find?_isFree_eq_none :
    m.channels.find? Channel.isFree = none ↔
      ∀ c ∈ m.channels, c.device ≠ none ∨ c.state ≠ .disconnected := by
  rw [List.find?_eq_none]
  refine forall₂_congr fun c _ => ?_
  rw [Channel.isFree, Bool.and_eq_true, beq_iff_eq, Option.isNone_iff_eq_none, Classical.not_and_iff_not_or_not]
  exact or_comm

/-- The answer to the question is yes if nothing forbids redirection, the peer permits the device, and any
channel is free. -/
theorem canRedirect_ok_iff (hfind : m.registry.find? key = some device) (hc : m.isConnected key = false) :
    m.canRedirect key = .ok () ↔ m.settings.redirectionEnabled = true ∧
      (∀ guest, m.channels.findSome? Channel.guestFilter = some guest →
        guest.permits device.info.descriptor = true) ∧ ∃ c ∈ m.channels, c.isFree = true := by
  have hguest : (∀ guest, m.channels.findSome? Channel.guestFilter = some guest →
      guest.permits device.info.descriptor = true) ↔ ((m.channels.findSome? Channel.guestFilter).any
        fun f => !f.permits device.info.descriptor) = false := by
    cases m.channels.findSome? Channel.guestFilter <;> simp
  have hempty : m.channels.any Channel.isFree = true → m.channels.isEmpty = false := by
    cases m.channels with
    | nil => exact nofun
    | cons => exact fun _ => rfl
  rw [hguest, ← List.any_eq_true, canRedirect, hc, hfind]
  dsimp only
  generalize (m.channels.findSome? Channel.guestFilter).any _ = refused
  cases hfree : m.channels.any Channel.isFree with
  | true =>
    rw [hempty hfree]
    cases m.settings.redirectionEnabled <;> cases refused <;> simp
  | false =>
    refine iff_of_false ?_ fun h => Bool.false_ne_true h.2.2
    simp only [Bool.false_eq_true, if_false]
    repeat' split
    all_goals exact nofun

theorem bindFree_of_none (hc : m.isConnected device.key = false)
    (hfind : m.channels.find? Channel.isFree = none) : m.bindFree device = .error .noFreeChannel := by
  rw [bindFree, hc, hfind]
  rfl

/-- What the first free channel says to the device is the answer. -/
theorem bindFree_of_some (hc : m.isConnected device.key = false)
    (hfind : m.channels.find? Channel.isFree = some c) : m.bindFree device = c.bind device := by
  rw [bindFree, hc, hfind]
  rfl

theorem bindFree_noFreeChannel_iff (hc : m.isConnected device.key = false) :
    m.bindFree device = .error .noFreeChannel ↔
      ∀ c ∈ m.channels, c.device ≠ none ∨ c.state ≠ .disconnected := by
  rw [← find?_isFree_eq_none]
  refine ⟨fun h => ?_, bindFree_of_none hc⟩
  cases hfind : m.channels.find? Channel.isFree with
  | none => rfl
  | some c =>
    rw [bindFree_of_some hc hfind, Channel.bind] at h
    repeat' split at h
    all_goals cases h

/-- The first free channel takes the device if it has a host, and otherwise nothing does. -/
theorem bindFree_first (hc : m.isConnected device.key = false)
    (hfind : m.channels.find? Channel.isFree = some c) :
    (c.host ≠ none → m.bindFree device = .ok { c with device := some device, binding := c.binding + 1 }) ∧
      (c.host = none → m.bindFree device = .error .contextNotSet) := by
  have hfree : c.isFree = true := List.find?_some hfind
  rw [bindFree_of_some hc hfind, Channel.bind, hfree]
  cases c.host with
  | none => exact ⟨fun h => absurd rfl h, fun _ => rfl⟩
  | some host => exact ⟨fun _ => rfl, fun h => absurd h (Option.some_ne_none host)⟩

/-! ## The channel that takes the device -/

/-- A device that was not bound is found on the channel that takes it. -/
theorem Sound.channelFor?_setChannel (hm : m.Sound) (hc : m.isConnected key = false)
    (hin : c ∈ m.channels) {d : Channel} (hid : d.id = c.id) (hkey : d.key? = some key) :
    (m.setChannel d).channelFor? key = some d := by
  have hput : d ∈ (m.setChannel d).channels := List.mem_map.mpr ⟨c, hin, if_pos hid.symm⟩
  obtain ⟨e, he⟩ : ∃ e, (m.setChannel d).channelFor? key = some e :=
    Option.isSome_iff_exists.mp (List.find?_isSome.mpr ⟨d, hput, beq_iff_eq.mpr hkey⟩)
  have hmem := List.mem_of_find?_eq_some he
  rcases hm.mem_setChannel (List.mem_append_left _ hin) hid hmem with ⟨rfl, _⟩ | hold
  · exact he
  · exact absurd (key_of_channelFor? he) (isConnected_eq_false_iff.mp hc e hold)

/-- Where the other devices are does not change when a channel takes one. -/
theorem Sound.channelFor?_setChannel_other (hm : m.Sound) (hin : c ∈ m.channels) (hbare : c.key? = none)
    {d : Channel} (hid : d.id = c.id) (hkey : d.key? = some key) {other : DeviceKey} (hne : other ≠ key) :
    (m.setChannel d).channelFor? other = m.channelFor? other := by
  have hput : ∀ e ∈ m.channels, put d e = e ∨ (e = c ∧ put d e = d) := by
    intro e he
    unfold put
    split
    · rename_i hsame
      exact .inr ⟨hm.channels.eq (List.mem_append_left _ he) (List.mem_append_left _ hin)
        (hsame.trans hid), rfl⟩
    · exact .inl rfl
  have hpasses : ∀ e ∈ m.channels, ((·.key? == some other) ∘ put d) e = (e.key? == some other) := by
    intro e he
    rw [Function.comp_apply]
    rcases hput e he with hsame | ⟨rfl, hd⟩
    · rw [hsame]
    · rw [hd, hkey, hbare]
      simpa using fun h => hne h.symm
  show (m.channels.map (put d)).find? _ = m.channels.find? _
  rw [List.find?_map, List.find?_congr hpasses]
  cases h : m.channels.find? (·.key? == some other) with
  | none => rfl
  | some e =>
    rcases hput e (List.mem_of_find?_eq_some h) with hsame | ⟨rfl, _⟩
    · rw [Option.map_some, hsame]
    · have hsome := List.find?_some h
      rw [hbare] at hsome
      cases hsome

/-- The device is taken by a free channel, which has a host. The other devices stay where they are. -/
structure Receives (m : Manager) (device : RegisteredDevice) (c : Channel) : Prop where
  free : c ∈ m.channels ∧ c.isFree = true
  host : c.host ≠ none
  bound : ∃ d, m.bindFree device = .ok d ∧ d = { c with device := some device, binding := c.binding + 1 } ∧
    (m.setChannel d).channelFor? device.key = some d ∧
    ∀ other ≠ device.key, (m.setChannel d).channelFor? other = m.channelFor? other

theorem Sound.receives (hm : m.Sound) (hc : m.isConnected device.key = false)
    (hfind : m.channels.find? Channel.isFree = some c) (hhost : c.host ≠ none) : m.Receives device c := by
  have hin : c ∈ m.channels := List.mem_of_find?_eq_some hfind
  have hfree : c.isFree = true := List.find?_some hfind
  have hidle : c.Idle := (hm.channels.sound c (List.mem_append_left _ hin)).idle_of_isFree hfree
  have hbare : c.key? = none := by
    rw [Channel.key?, hidle.device]
    rfl
  let d : Channel := { c with device := some device, binding := c.binding + 1 }
  have hid : d.id = c.id := rfl
  have hkey : d.key? = some device.key := rfl
  exact ⟨⟨hin, hfree⟩, hhost, d, (bindFree_first hc hfind).1 hhost, rfl,
    hm.channelFor?_setChannel hc hin hid hkey,
    fun _ hne => hm.channelFor?_setChannel_other hin hbare hid hkey hne⟩

/-- When the question about a registered device that is not bound is answered with a yes, a connect binds
it to the first free channel if that has a host, and fails for want of a host if it has none. A connect
finds no free channel exactly if every channel has a device or is not disconnected, and then the answer to
the question is no. -/
theorem canRedirect_binds_first (addressing : Addressing) (settings : Settings) (drivers : Bool)
    (turns : List Turn) :
    let m := (new addressing settings).run drivers turns
    ∀ key device, m.registry.find? key = some device → (∀ c ∈ m.channels, c.key? ≠ some key) →
      (m.canRedirect key = .ok () → ∃ c, m.channels.find? Channel.isFree = some c ∧
        (c.host ≠ none → m.Receives device c) ∧
        (c.host = none → m.bindFree device = .error .contextNotSet)) ∧
      (m.bindFree device = .error .noFreeChannel ↔
        ∀ c ∈ m.channels, c.device ≠ none ∨ c.state ≠ .disconnected) ∧
      ((∀ c ∈ m.channels, c.device ≠ none ∨ c.state ≠ .disconnected) → m.canRedirect key ≠ .ok ()) := by
  intro m key device hfind hunbound
  have hm : m.Sound := (run_matched (new_matched addressing settings) drivers turns).sound
  obtain rfl : device.key = key := Registry.key_of_find? hfind
  have hc : m.isConnected device.key = false := isConnected_eq_false_iff.mpr hunbound
  refine ⟨fun h => ?_, bindFree_noFreeChannel_iff hc, fun htaken h => ?_⟩
  · obtain ⟨_, _, c, hin, hfree⟩ := (canRedirect_ok_iff hfind hc).mp h
    obtain ⟨first, hfirst⟩ := Option.isSome_iff_exists.mp (List.find?_isSome.mpr ⟨c, hin, hfree⟩)
    exact ⟨first, hfirst, hm.receives hc hfirst, (bindFree_first hc hfirst).2⟩
  · obtain ⟨_, _, c, hin, hfree⟩ := (canRedirect_ok_iff hfind hc).mp h
    exact List.find?_eq_none.mp (find?_isFree_eq_none.mpr htaken) c hin hfree

/-! ## A device and its channels -/

def pluggedIn : RegisteredDevice := ⟨.busAddress 1 2, { bus := 1, address := 2 }, .coldplug⟩

/-- The manager that has found a device, after channels have come, each with a host or without. -/
def withChannels (hosts : List Bool) : Manager :=
  (new .busAddress {}).run false
    ([{ move := .start }, { move := .enumerationDone 0 (.ok [pluggedIn.info]) }, { move := .resume 0 }] ++
      hosts.map fun withHost => { move := .addChannel (.recording true false) withHost })

/-- The only channel has a host and takes the device. -/
theorem hosted_channel_takes :
    (withChannels [true]).registry.find? pluggedIn.key = some pluggedIn ∧
      (∀ c ∈ (withChannels [true]).channels, c.key? ≠ some pluggedIn.key) ∧
        ∃ c, (withChannels [true]).Receives pluggedIn c := by
  have hfind : (withChannels [true]).registry.find? pluggedIn.key = some pluggedIn := by decide +kernel
  have hunbound : ∀ c ∈ (withChannels [true]).channels, c.key? ≠ some pluggedIn.key := by decide +kernel
  have hyes : (withChannels [true]).canRedirect pluggedIn.key = .ok () := rfl
  have hhosts : ∀ c ∈ (withChannels [true]).channels, c.host.isSome = true := by decide +kernel
  obtain ⟨c, hfirst, hreceives, _⟩ :=
    (canRedirect_binds_first .busAddress {} false _ pluggedIn.key pluggedIn hfind hunbound).1 hyes
  have hhost := hhosts c (List.mem_of_find?_eq_some hfirst)
  exact ⟨hfind, hunbound, c, hreceives (Option.isSome_iff_ne_none.mp hhost)⟩

/-- The answer to the question is yes, but the first of two free channels has no host, and the device is
not connected, although the second one has a host. -/
theorem bare_channel_in_the_way :
    (withChannels [false, true]).registry.find? pluggedIn.key = some pluggedIn ∧
      (∀ c ∈ (withChannels [false, true]).channels, c.key? ≠ some pluggedIn.key) ∧
      (withChannels [false, true]).canRedirect pluggedIn.key = .ok () ∧
      (withChannels [false, true]).bindFree pluggedIn = .error .contextNotSet ∧
        ∃ c ∈ (withChannels [false, true]).channels, c.isFree = true ∧ c.host.isSome = true :=
  ⟨by decide +kernel, by decide +kernel, rfl, rfl, by decide +kernel⟩

end RemoteUsb.Manager
