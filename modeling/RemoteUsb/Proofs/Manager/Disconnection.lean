import RemoteUsb.Proofs.Manager.Listeners

/-! # Disconnecting a device again

A call that disconnects a device does one of three things: nothing, or it calls a request for access off,
or it takes a connected device off. After any of them the device is at rest as far as such calls are
concerned, and `disconnect_idempotent` says that the same call does nothing then, whatever the manager has
gone through before. A request that is called off is still counted, and its driver is still there; that is
up to the call that made it. -/

namespace RemoteUsb.Manager

variable {m n : Manager} {w : Surroundings} {key : DeviceKey} {c d : Channel} {tidies : Bool}
  {released : Option RegisteredDevice} {outputs : List Output}

/-- What a call makes of a manager that disconnects the device under a key: the answer, the manager
afterwards, and what happened outside. Where it `tidies`, the driver of a device that is taken off is
removed in a task of its own. -/
inductive Disconnection (tidies : Bool) (key : DeviceKey) (m : Manager) :
    Option RegisteredDevice → Manager → List Output → Prop where
  | unbound (_ : ∀ c ∈ m.channels, c.key? ≠ some key) : Disconnection tidies key m none m []
  /-- The device is being opened, or the attempt was called off before. -/
  | left {c : Channel} (_ : c ∈ m.channels) (_ : c.key? = some key)
      (_ : c.state = .disconnected ∨ c.state = .disconnecting) : Disconnection tidies key m none m []
  | calledOff {c : Channel} (_ : c ∈ m.channels) (_ : c.key? = some key)
      (_ : c.state = .waitingForAccess) :
    Disconnection tidies key m none (m.setChannel c.cancelRequest) []
  | takenOff {c : Channel} {device : RegisteredDevice} (_ : c ∈ m.channels) (_ : c.key? = some key)
      (_ : c.state = .connected) (_ : c.device = some device) :
    Disconnection tidies key m (some device)
      ((m.setChannel c.release.1).stopListening.tidied tidies device.info)
      (c.release.2.map (.effect c.id))

/-- No device under the key is connected, and access is not asked for it. -/
def Rests (m : Manager) (key : DeviceKey) : Prop :=
  ∀ c ∈ m.channels, c.key? = some key → c.state = .disconnected ∨ c.state = .disconnecting

/-! ## One call -/

theorem Sound.setChannel_self (hm : m.Sound) (hc : c ∈ m.channels ++ m.retired) : m.setChannel c = m := by
  have hput : ∀ l : List Channel, l ⊆ m.channels ++ m.retired → l.map (put c) = l := by
    intro l hl
    refine (List.map_congr_left fun x hx => ?_).trans (List.map_id l)
    unfold put
    split
    · rename_i he
      exact hm.channels.eq hc (hl hx) he.symm
    · rfl
  show { m with channels := m.channels.map (put c), retired := m.retired.map (put c) } = m
  rw [hput _ (List.subset_append_left ..), hput _ (List.subset_append_right ..)]

theorem perform_disconnect_none (hfind : m.channelFor? key = none) :
    (disconnect w key).perform m = (none, m, []) := by
  rw [disconnect, perform_bind, releaseDevice, perform_manager, hfind]
  rfl

theorem perform_disconnect_kept (hfind : m.channelFor? key = some c) (h : c.disconnect = (d, [], none)) :
    (disconnect w key).perform m = (none, m.setChannel d, []) := by
  rw [disconnect, perform_bind, releaseDevice, perform_manager, hfind]
  dsimp only
  rw [h]
  rfl

theorem perform_disconnect_released (hfind : m.channelFor? key = some c) {effects : List Effect}
    {device : RegisteredDevice} (h : c.disconnect = (d, effects, some device))
    (hended : Channel.endings effects = []) :
    (disconnect w key).perform m =
      (some device, (m.setChannel d).stopListening.tidied w.tidies device.info,
        effects.map (.effect d.id)) := by
  have hrelease : (releaseDevice w key).perform m =
      (some device, (m.setChannel d).stopListening, effects.map (.effect d.id)) := by
    rw [releaseDevice, perform_manager, hfind]
    dsimp only
    rw [h]
    dsimp only
    rw [perform_bind, settleChannel_told hended]
    exact congrArg (some device, (m.setChannel d).stopListening, ·) (List.append_nil _)
  rw [disconnect, perform_bind, hrelease]
  dsimp only
  rw [perform_bind, perform_tidy]
  exact congrArg (some device, _, ·) (List.append_nil _)

/-- A call that disconnects a device does one of these things. -/
theorem Sound.disconnection (hm : m.Sound) (w : Surroundings) (key : DeviceKey) :
    let outcome := (disconnect w key).perform m
    Disconnection w.tidies key m outcome.1 outcome.2.1 outcome.2.2 := by
  intro outcome
  cases hfind : m.channelFor? key with
  | none =>
    have houtcome : outcome = (none, m, []) := perform_disconnect_none hfind
    have hnone : m.isConnected key = false := by rw [isConnected, hfind]; rfl
    rw [houtcome]
    exact .unbound (isConnected_eq_false_iff.mp hnone)
  | some c =>
    have hin : c ∈ m.channels := List.mem_of_find?_eq_some hfind
    have hkey : c.key? = some key := key_of_channelFor? hfind
    cases hstate : c.state with
    | disconnected | disconnecting =>
      have hkept : c.disconnect = (c, [], none) := by rw [Channel.disconnect, hstate]
      have houtcome : outcome = (none, m.setChannel c, []) := perform_disconnect_kept hfind hkept
      rw [houtcome, hm.setChannel_self (List.mem_append_left _ hin)]
      exact .left hin hkey (by simp [hstate])
    | waitingForAccess =>
      have hoff : c.disconnect = (c.cancelRequest, [], none) := by rw [Channel.disconnect, hstate]
      have houtcome : outcome = (none, m.setChannel c.cancelRequest, []) :=
        perform_disconnect_kept hfind hoff
      rw [houtcome]
      exact .calledOff hin hkey hstate
    | connected =>
      obtain ⟨device, hdevice, rfl⟩ := Option.map_eq_some_iff.mp hkey
      have hrelease : c.disconnect = (c.release.1, c.release.2, some device) := by
        rw [Channel.disconnect, hstate, ← hdevice]
      have houtcome : outcome = _ :=
        perform_disconnect_released hfind hrelease (Channel.endings_release c)
      rw [houtcome]
      exact .takenOff hin hkey hstate hdevice

/-! ## Two calls -/

/-- The channel with the device is put back, and whatever else is in the set is bound to other devices. -/
theorem Sound.mem_put_bound (hm : m.Sound) (hc : c ∈ m.channels) (hkey : c.key? = some key)
    (hid : d.id = c.id) {x : Channel} (hx : x ∈ (m.setChannel d).channels) (hkey' : x.key? = some key) :
    x = d := by
  rcases mem_map_put hx with ⟨he, _⟩ | ⟨hold, hne⟩
  · exact he
  · have hsame : x.id = c.id := hm.channels.apart x hold c hc key hkey' hkey
    exact absurd (hsame.trans hid.symm) hne

/-- After a device was taken off, it is bound to no channel. -/
theorem Sound.taken_unbound (hm : m.Sound) (hc : c ∈ m.channels) (hkey : c.key? = some key) (info : DeviceInfo) :
    ∀ x ∈ ((m.setChannel c.release.1).stopListening.tidied tidies info).channels, x.key? ≠ some key := by
  intro x hx hkey'
  rw [(tidied_beside ..).channels] at hx
  have hid : c.release.1.id = c.id := rfl
  have hreleased : x = c.release.1 := hm.mem_put_bound hc hkey hid hx hkey'
  rw [hreleased] at hkey'
  cases hkey'

/-- A call leaves the device at rest. -/
theorem Disconnection.rests (h : Disconnection tidies key m released n outputs) (hm : m.Sound) :
    n.Rests key := by
  intro x hx hkey'
  cases h with
  | unbound hnone => exact absurd hkey' (hnone x hx)
  | @left c hc hkey hstate =>
    have hid : x.id = c.id := hm.channels.apart x hx c hc key hkey' hkey
    obtain rfl : x = c := hm.channels.eq (List.mem_append_left _ hx) (List.mem_append_left _ hc) hid
    exact hstate
  | @calledOff c hc hkey =>
    have hid : c.cancelRequest.id = c.id := (Channel.stopRequest_keeps c).1
    obtain rfl : x = c.cancelRequest := hm.mem_put_bound hc hkey hid hx hkey'
    exact .inr rfl
  | @takenOff c device hc hkey => exact absurd hkey' (hm.taken_unbound hc hkey device.info x hx)

/-- At rest, a call does nothing. -/
theorem Disconnection.of_rests (h : Disconnection tidies key m released n outputs) (hm : m.Rests key) :
    released = none ∧ n = m ∧ outputs = [] := by
  cases h with
  | unbound | left => exact ⟨rfl, rfl, rfl⟩
  | calledOff hc hkey hstate | takenOff hc hkey hstate =>
    have hrest := hm _ hc hkey
    simp [hstate] at hrest

/-- A call that answers no device counts nobody off, gives no task anything to do, and does nothing to the
world outside. -/
theorem Disconnection.unanswered (h : Disconnection tidies key m none n outputs) :
    n.listening = m.listening ∧ n.tasks = m.tasks ∧ outputs = [] := by
  cases h with
  | unbound | left | calledOff => exact ⟨rfl, rfl, rfl⟩

/-- A call that answers a device counts one listener off, and the device is bound to no channel any more. -/
theorem Disconnection.answered {device : RegisteredDevice}
    (h : Disconnection tidies key m (some device) n outputs) (hm : m.Sound) (hcount : m.Counted) :
    device.key = key ∧ n.listening.listeners + 1 = m.listening.listeners ∧
      ∀ c ∈ n.channels, c.key? ≠ some key := by
  cases h with
  | @takenOff c _ hc hkey hstate hdevice =>
    refine ⟨?_, ?_, hm.taken_unbound hc hkey device.info⟩
    · rw [Channel.key?, hdevice] at hkey
      exact Option.some.inj hkey
    · have hpos : 0 < m.listening.listeners := hcount.pos (List.mem_append_left _ hc) hstate
      rw [tidied_listening]
      change m.listening.stop.listeners + 1 = _
      rw [listeners_stop]
      omega

/-- Whatever a manager goes through, a call that disconnects the device under a key does nothing directly
after such a call: it answers no device, it leaves the whole manager as it is, and it does nothing to the
world outside. The first call does what `Disconnection` says. If it answers no device, it counts nobody off
and gives no task anything to do. -/
theorem disconnect_idempotent (addressing : Addressing) (settings : Settings) (drivers : Bool)
    (turns : List Turn) (w w' : Surroundings) (key : DeviceKey) :
    let m := (new addressing settings).run drivers turns
    let first := (disconnect w key).perform m
    let n := first.2.1
    (disconnect w' key).perform n = (none, n, []) ∧
      Disconnection w.tidies key m first.1 n first.2.2 ∧
      (first.1 = none → n.listening = m.listening ∧ n.tasks = m.tasks ∧ first.2.2 = []) ∧
      ∀ device, first.1 = some device → device.key = key ∧
        n.listening.listeners + 1 = m.listening.listeners ∧ ∀ c ∈ n.channels, c.key? ≠ some key := by
  have hrun := run_matched (new_matched addressing settings) drivers turns
  have hcount := run_counted (new_matched addressing settings) (new_registers addressing settings)
    (m := new addressing settings) rfl drivers turns
  intro m first n
  have hm : m.Sound := hrun.sound
  have hn : n.Sound := (disconnect_goes (b := false) (w := w) key).sound hm
  have hfirst : Disconnection w.tidies key m first.1 n first.2.2 :=
    hm.disconnection w key
  obtain ⟨hnone, hsame, hquiet⟩ := (hn.disconnection w' key).of_rests (hfirst.rests hm)
  refine ⟨Prod.ext hnone (Prod.ext hsame hquiet), hfirst, fun h => ?_, fun device h => ?_⟩
  · rw [h] at hfirst
    exact hfirst.unanswered
  · rw [h] at hfirst
    exact hfirst.answered hm hcount

/-- A connected device is answered once. -/
theorem stick_answered_once :
    let m := (new .busAddress { autoConnect := false }).run false (stickOpening ++ stickOpened)
    let first := (disconnect {} stick.key).perform m
    first.1 = some stick ∧ first.2.1.listening.listeners + 1 = m.listening.listeners ∧
      (disconnect {} stick.key).perform first.2.1 = (none, first.2.1, []) := by
  have hanswer : ((disconnect {} stick.key).perform ((new .busAddress { autoConnect := false }).run
      false (stickOpening ++ stickOpened))).1 = some stick := by decide +kernel
  have h := disconnect_idempotent .busAddress { autoConnect := false } false
    (stickOpening ++ stickOpened) {} {} stick.key
  exact ⟨hanswer, (h.2.2.2 stick hanswer).2.1, h.1⟩

end RemoteUsb.Manager
