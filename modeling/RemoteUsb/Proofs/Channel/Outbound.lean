import RemoteUsb.Proofs.Channel.Delivery
import RemoteUsb.Proofs.Channel.Sections

/-! The way of data out of a host and onto the wire. A flush takes the data off the host under the lock of
the channel and sends them without it, so between the two others may have the channel: `flushBy_eq` puts
the two together. How data are compressed is left open. Few sections have to do with what is on the way.
`locked_spares` says of all the others that they leave alone both what the host has queued and where
messages go. -/

namespace RemoteUsb

def Wire.Payload.announces : Payload → Bool
  | .capabilities _ => true
  | _ => false

open Wire (Payload Message frameLimit)

/-- A pipe takes a message in one more frame, or it stays as it was: then nobody holds the other end, or the
message is too large for a frame. -/
theorem Transport.send_cases {t : Transport} {frames : List Bytes} {closed : Bool}
    (hout : t.outlet = .pipe frames closed) (payload : Payload) :
    (closed = false ∧ ∃ frame, Message.frame ⟨.current, payload⟩ = .ok frame ∧
      t.send payload = ({ t with outlet := .pipe (frames ++ [frame]) false }, .ok ())) ∨
    ((closed = true ∨ frameLimit < (Message.write ⟨.current, payload⟩).length) ∧
      ∃ error, t.send payload = (t, .error error)) := by
  cases hframe : Message.frame ⟨.current, payload⟩ with
  | error error =>
    refine .inr ⟨.inr (Nat.lt_of_not_le fun hfits => ?_), .encode error, by simp only [send, hout, hframe]⟩
    cases hframe.symm.trans (Message.frame_eq_ok.mpr ⟨hfits, rfl⟩)
  | ok frame =>
    cases closed with
    | true => exact .inr ⟨.inl rfl, .closed, by simp only [send, hout, hframe, if_true]⟩
    | false => exact .inl ⟨rfl, frame, rfl, by simp only [send, hout, hframe]; rfl⟩

namespace Channel

/-! ## A flush in two parts -/

/-- What a flush takes off the host: all data, and whether the device transferred isochronously then. -/
structure Parcel where
  bytes : Bytes
  isochronous : Bool
  deriving DecidableEq, Repr

def drain (c : Channel) : Channel × Option Parcel :=
  match c.host.map Host.drain with
  | some (host, some bytes) => ({ c with host := some host }, some ⟨bytes, c.isIsochronous⟩)
  | _ => (c, none)

theorem drain_cases (c : Channel) :
    (c.drain = (c, none) ∧ ∀ host, c.host = some host → host.queued = []) ∨
      ∃ host, c.host = some host ∧ host.queued ≠ [] ∧
        c.drain = ({ c with host := some { host with queued := [] } },
          some ⟨host.queued.flatten, c.isIsochronous⟩) := by
  unfold drain Host.drain
  cases hhost : c.host with
  | none => exact .inl ⟨rfl, nofun⟩
  | some host =>
    cases hqueued : host.queued with
    | nil =>
      refine .inl ⟨by simp only [Option.map_some, hqueued], fun other he => ?_⟩
      rw [← Option.some.inj he]
      exact hqueued
    | cons chunk chunks =>
      exact .inr ⟨host, rfl, by rw [hqueued]; exact List.cons_ne_nil _ _,
        by simp only [Option.map_some, hqueued]⟩

def message (pack : Bytes → Bytes) (c : Channel) (p : Parcel) : Payload :=
  .outboundBy pack p.bytes c.threshold (c.transport.mayCompress p.isochronous)

theorem wireLength_message_le (pack : Bytes → Bytes) (c : Channel) (p : Parcel) :
    (c.message pack p).wireLength ≤ p.bytes.length :=
  Payload.wireLength_outboundBy_le pack p.bytes c.threshold (c.transport.mayCompress p.isochronous)

def dispatch (pack : Bytes → Bytes) (c : Channel) (p : Parcel) : Channel × Except TransportError Unit :=
  let (transport, result) := c.transport.send (c.message pack p)
  ({ c with transport }, result)

theorem flushBy_eq (pack : Bytes → Bytes) (c : Channel) : c.flushBy pack = match c.drain with
    | (c, none) => (c, .ok false)
    | (c, some p) => ((c.dispatch pack p).1, (c.dispatch pack p).2.map fun _ => true) := by
  unfold flushBy drain
  rcases c.host.map Host.drain with _ | ⟨host, _ | bytes⟩ <;> rfl

/-! ## Sections that have nothing to do with it -/

/-- What is on its way out is left alone, and so is the way. -/
structure Spares (c d : Channel) : Prop where
  transport : d.transport = c.transport
  threshold : d.threshold = c.threshold
  queued : d.host.map (·.queued) = c.host.map (·.queued)

/-- Whether a section neither replaces the host nor lets it act, and neither hears nor sends anything. -/
def Section.isAside : Section → Bool
  | .renew _ | .setContext _ | .stir _ | .hear _ | .flush => false
  | _ => true

def Section.isTraffic : Section → Bool
  | .hear _ | .flush => true
  | _ => false

variable {c d e : Channel}

theorem Spares.refl (c : Channel) : c.Spares c := ⟨rfl, rfl, rfl⟩

theorem Spares.trans (h : c.Spares d) (h' : d.Spares e) : c.Spares e :=
  ⟨h'.transport.trans h.transport, h'.threshold.trans h.threshold, h'.queued.trans h.queued⟩

theorem spares_release (c : Channel) : c.Spares c.release.1 :=
  ⟨rfl, rfl, Option.map_map ..⟩

theorem spares_stopRequest (c : Channel) : c.Spares c.stopRequest := by
  unfold stopRequest
  split <;> exact ⟨rfl, rfl, rfl⟩

theorem spares_cancelRequest (c : Channel) : c.Spares c.cancelRequest :=
  (spares_stopRequest c).trans ⟨rfl, rfl, rfl⟩

theorem spares_accessDecided (c : Channel) (a : Attempt) (result : Except AccessError Unit) :
    c.Spares (c.accessDecided a result).1 := by
  have hforget : c.Spares (c.forget a.call).release.1 :=
    Spares.trans (d := c.forget a.call) ⟨rfl, rfl, rfl⟩ (spares_release _)
  unfold accessDecided
  dsimp only
  split
  · exact hforget
  · split
    · exact ⟨rfl, rfl, rfl⟩
    · exact hforget

theorem spares_signal (c : Channel) (call : Nat) (heard : Access.Signal) :
    c.Spares (c.signal call heard).1 := by
  unfold Channel.signal
  split
  · exact .refl c
  · split
    · exact .refl c
    · split
      · exact ⟨rfl, rfl, rfl⟩
      · exact spares_accessDecided c _ _

theorem spares_failAttempt (c : Channel) (call : Nat) (granted : Bool) (error : RedirectError) :
    c.Spares (c.failAttempt call granted error).1 :=
  Spares.trans (d := c.forget call) ⟨rfl, rfl, rfl⟩ (spares_release _)

theorem attach_queued (h : Host) (handle : Handle) : (h.attach handle).1.queued = h.queued := by
  unfold Host.attach
  split <;> rfl

theorem spares_attach (c : Channel) (call : Nat) (granted : Bool) (handle : Handle) :
    c.Spares (c.attach call granted handle).1 := by
  unfold attach
  split
  · exact spares_failAttempt c call granted .cancelled
  · split
    · exact spares_failAttempt c call granted .contextNotSet
    · rename_i host hhost
      have hqueued := attach_queued host handle
      have hput : c.Spares { c with host := some (host.attach handle).1 } :=
        ⟨rfl, rfl, by rw [hhost]; exact congrArg some hqueued⟩
      split
      · rename_i error heq
        rw [heq] at hput
        exact hput.trans (spares_failAttempt _ call granted (.host error))
      · rename_i heq
        rw [heq] at hput
        exact ⟨rfl, rfl, hput.queued⟩

theorem spares_resume (c : Channel) (call : Nat) : c.Spares (c.resume call).1 := by
  unfold Channel.resume
  split
  · exact spares_attach c call _ _
  · exact spares_failAttempt c call _ _
  · exact .refl c

theorem spares_opened (c : Channel) (call : Nat) (outcome : Except JobFault Handle) :
    c.Spares (c.opened call outcome).1 := by
  unfold Channel.opened
  split <;> exact ⟨rfl, rfl, rfl⟩

theorem spares_abandon (c : Channel) (call : Nat) : c.Spares (c.abandon call).1 := by
  have hleft : ∀ strays, c.Spares { c.forget call with strays } := fun _ => ⟨rfl, rfl, rfl⟩
  unfold Channel.abandon
  split
  · exact .refl c
  · dsimp only
    split
    · exact (hleft _).trans ((spares_stopRequest _).trans (spares_release _))
    · exact hleft _

theorem spares_leave (c : Channel) (binding : Nat) : c.Spares (c.leave binding) := by
  unfold leave
  split
  · exact (spares_stopRequest c).trans (spares_release _)
  · exact .refl c

theorem spares_bind (c : Channel) (device : RegisteredDevice) :
    c.Spares ((c.bind device).toOption.getD c) := by
  unfold bind
  split
  · exact .refl c
  · split <;> exact ⟨rfl, rfl, rfl⟩

theorem spares_beginConnect (c : Channel) (call : Nat) (stopped : Bool) :
    c.Spares (c.beginConnect call .unguarded stopped).1 := by
  unfold beginConnect
  split <;> exact ⟨rfl, rfl, rfl⟩

theorem spares_disconnect (c : Channel) : c.Spares c.disconnect.1 := by
  unfold disconnect
  split
  · exact .refl c
  · exact .refl c
  · exact spares_cancelRequest c
  · exact spares_release c

theorem spares_failDevice (c : Channel) (fault : DeviceFault) : c.Spares (c.failDevice fault).1 := by
  unfold failDevice
  split
  · exact spares_release c
  · exact spares_cancelRequest c
  · exact .refl c
  · exact .refl c

theorem locked_spares {w : Section} (h : w.isAside = true) (c : Channel) : c.Spares (c.locked w) := by
  cases w with
  | bind device => exact spares_bind c device
  | begin call stopped => exact spares_beginConnect c call stopped
  | ask noted => exact ⟨rfl, rfl, rfl⟩
  | answered noted result => exact spares_accessDecided c noted result
  | stop call => exact ⟨rfl, rfl, rfl⟩
  | signal call heard => exact spares_signal c call heard
  | opened call outcome => exact spares_opened c call outcome
  | resume call => exact spares_resume c call
  | abandon call => exact spares_abandon c call
  | leave binding => exact spares_leave c binding
  | disconnect => exact spares_disconnect c
  | failDevice fault => exact spares_failDevice c fault
  | renew | setContext | stir | hear | flush => cases h

theorem spares_give (c : Channel) (bytes : Bytes) : c.Spares (c.give bytes).1 := by
  have hread : ∀ host : Host, (host.read bytes).1.queued = host.queued := by
    intro host
    unfold Host.read
    split <;> rfl
  unfold give
  split
  · exact .refl c
  · rename_i host hhost
    have hqueued := hread host
    dsimp only
    split <;> exact ⟨rfl, rfl, hhost ▸ congrArg some hqueued⟩

/-- Data from the peer are read, and nothing that is queued for it is touched. -/
theorem spares_hear {payload : Payload} (h : payload.announces = false) (c : Channel) :
    c.Spares (c.hear payload).1 := by
  cases payload with
  | capabilities => cases h
  | data bytes => exact spares_give c bytes
  | compressed algorithm size block =>
    rw [hear]
    split
    · exact spares_give c _
    · exact .refl c

theorem renew_transport (c : Channel) (made : Option Host) :
    (c.renew made).1.transport = c.transport ∧ (c.renew made).1.threshold = c.threshold := by
  unfold renew
  split <;> exact ⟨rfl, rfl⟩

theorem setContext_transport (c : Channel) (host : Host) :
    ((c.setContext host).toOption.getD c).transport = c.transport ∧
      ((c.setContext host).toOption.getD c).threshold = c.threshold := by
  unfold setContext
  split <;> exact ⟨rfl, rfl⟩

/-- Another host makes no other transport. -/
theorem locked_transport {w : Section} (h : w.isTraffic = false) (c : Channel) :
    (c.locked w).transport = c.transport ∧ (c.locked w).threshold = c.threshold := by
  by_cases haside : w.isAside = true
  · have hspares := locked_spares haside c
    exact ⟨hspares.transport, hspares.threshold⟩
  · cases w with
    | renew made => exact renew_transport c made
    | setContext host => exact setContext_transport c host
    | stir act => exact ⟨rfl, rfl⟩
    | hear | flush => cases h
    | _ => exact absurd rfl haside

end Channel
end RemoteUsb
