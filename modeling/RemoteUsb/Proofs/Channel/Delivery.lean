import RemoteUsb.Channel.Traffic
import RemoteUsb.Proofs.Lz4.RoundTrip
import RemoteUsb.Proofs.Lz4.Uniform
import RemoteUsb.Proofs.Wire.Stream

/-! What becomes of the data that a host queues: the message that is built of it, the frame that
carries it, and what the host on the other side reads. The two sides have limits of different things.
A frame bounds the data as it travels, and unpacking bounds the data themselves, so a message may be
sent that no peer accepts. -/

namespace RemoteUsb

namespace Wire

/-! ## Messages for data -/

/-- A way to pack bytes that the unpacking of blocks undoes. -/
def Restores (pack : Bytes → Bytes) : Prop :=
  ∀ bytes : Bytes, Lz4.decompress (pack bytes) bytes.length = .ok bytes

theorem restores_lz4 : Restores Compression.lz4.pack := Lz4.decompress_compress

theorem Payload.outboundBy_cases (pack : Bytes → Bytes) (bytes : Bytes) (threshold : Nat)
    (mayCompress : Bool) :
    Payload.outboundBy pack bytes threshold mayCompress = .data bytes ∨
      (threshold < bytes.length ∧ bytes.length < UInt32.size ∧
        Payload.outboundBy pack bytes threshold mayCompress =
          .compressed .lz4 bytes.length.toUInt32 (pack bytes)) := by
  simp only [Payload.outboundBy]
  split
  case isFalse => exact .inl rfl
  case isTrue h =>
    simp only [Bool.and_eq_true, decide_eq_true_eq] at h
    split
    case isFalse => exact .inl rfl
    case isTrue => exact .inr ⟨h.1.2, h.2, rfl⟩

/-- Data are compressed only if that makes them shorter. -/
theorem Payload.wireLength_outboundBy_le (pack : Bytes → Bytes) (bytes : Bytes) (threshold : Nat)
    (mayCompress : Bool) :
    (Payload.outboundBy pack bytes threshold mayCompress).wireLength ≤ bytes.length := by
  simp only [Payload.outboundBy]
  split
  case isFalse => exact Nat.le_refl _
  case isTrue =>
    split
    case isFalse => exact Nat.le_refl _
    case isTrue hshrinks => exact Nat.le_of_lt hshrinks

theorem Payload.wireLength_outboundBy_packed {pack : Bytes → Bytes} {bytes : Bytes} {threshold : Nat}
    (hlong : threshold < bytes.length) (hsize : bytes.length < UInt32.size)
    (hshrinks : (pack bytes).length < bytes.length) :
    (Payload.outboundBy pack bytes threshold true).wireLength = (pack bytes).length := by
  simp only [Payload.outboundBy, decide_eq_true hlong, decide_eq_true hsize, Bool.and_self,
    if_true, if_pos hshrinks, Payload.wireLength]

theorem Compression.unpack_pack {pack : Bytes → Bytes} (hpack : Restores pack) {bytes : Bytes}
    (hpos : 0 < bytes.length) (hsize : bytes.length < UInt32.size)
    (hfits : bytes.length ≤ frameLimit) :
    Compression.unpack .lz4 (pack bytes) bytes.length.toUInt32 = .ok bytes := by
  have hlen : bytes.length.toUInt32.toNat = bytes.length := Nat.mod_eq_of_lt hsize
  simp only [Compression.unpack, hlen, hpack bytes]
  rw [if_neg (by omega), if_neg (by omega), if_true]

theorem Compression.unpack_large (algorithm : Compression) (block : Bytes) {size : Nat}
    (hsize : size < UInt32.size) (hlarge : frameLimit < size) :
    algorithm.unpack block size.toUInt32 = .error (.payloadTooLarge size frameLimit) := by
  have hlen : size.toUInt32.toNat = size := Nat.mod_eq_of_lt hsize
  simp only [Compression.unpack, hlen]
  rw [if_neg (by omega), if_pos hlarge]

/-- Data in a frame as they are fit any frame. -/
theorem Message.frame_data_length {version : Version} {bytes frame : Bytes}
    (h : Message.frame ⟨version, .data bytes⟩ = .ok frame) : bytes.length ≤ frameLimit := by
  have hfits := (Message.frame_eq_ok.mp h).1
  have hwire := Payload.wireLength_le_write (.data bytes)
  simp only [Message.write, List.length_cons] at hfits
  simp only [Payload.wireLength] at hwire
  omega

end Wire

namespace Host

/-- How often the host was given data, up to a number that does not change: it keeps what it is given,
and a reading that fails uses up the failure. -/
def readings (h : Host) : Nat := h.received.length + if h.readFault.isNone then 1 else 0

theorem readings_read (h : Host) (bytes : Bytes) : (h.read bytes).1.readings = h.readings + 1 := by
  unfold read readings
  split
  case h_1 fault hfault => simp [hfault]
  case h_2 hfault => simp [hfault]

end Host

namespace Channel

open Wire

/-! ## What the other side reads -/

def failing (c : Channel) (fault : DeviceFault) : Channel × List Effect × Option Failure :=
  let (c, effects, failure) := c.failDevice fault
  (c, effects, some failure)

/-- The host of a channel reads the bytes, once; if it fails, so does the device. -/
def reading (c : Channel) (host : Host) (bytes : Bytes) :
    Channel × List Effect × Option Failure :=
  match host.read bytes with
  | (host, .ok ()) => ({ c with host := some host }, [], none)
  | (host, .error fault) => failing { c with host := some host } fault

theorem failing_readings (c : Channel) (fault : DeviceFault) :
    (c.failing fault).1.host.map Host.readings = c.host.map Host.readings := by
  have hstop : c.stopRequest.host = c.host := by
    unfold stopRequest
    split <;> rfl
  unfold failing failDevice
  cases c.state with
  | connected => simp only [release, Option.map_map]; rfl
  | waitingForAccess => simp only [cancelRequest, hstop]
  | disconnected | disconnecting => rfl

theorem reading_readings (c : Channel) (host : Host) (bytes : Bytes) :
    (c.reading host bytes).1.host.map Host.readings = some (host.readings + 1) := by
  have hread := host.readings_read bytes
  unfold reading
  split
  case h_1 host' heq =>
    rw [heq] at hread
    exact congrArg some hread
  case h_2 host' fault heq =>
    rw [heq] at hread
    rw [failing_readings]
    exact congrArg some hread

theorem receive_data {c : Channel} {host : Host} (hhost : c.host = some host) (bytes : Bytes) :
    c.receive (.data bytes) = c.reading host bytes := by
  simp only [receive, hear, give, hhost, reading]
  rcases host.read bytes with ⟨host', _ | _⟩ <;> rfl

theorem receive_packed {c : Channel} {host : Host} (hhost : c.host = some host)
    {algorithm : Compression} {size : UInt32} {block bytes : Bytes}
    (hunpack : algorithm.unpack block size = .ok bytes) :
    c.receive (.compressed algorithm size block) = c.reading host bytes := by
  rw [← receive_data hhost, receive, receive, hear, hear, hunpack]

theorem receive_broken {c : Channel} {algorithm : Compression} {size : UInt32} {block : Bytes}
    {error : WireError} (hunpack : algorithm.unpack block size = .error error) :
    c.receive (.compressed algorithm size block) = c.failing .parse := by
  rw [receive, hear, hunpack, failing]

theorem failing_ne_reading {c : Channel} {host : Host} (hhost : c.host = some host)
    (fault : DeviceFault) (bytes : Bytes) : c.failing fault ≠ c.reading host bytes := by
  intro h
  have hreadings := c.reading_readings host bytes
  rw [← h, failing_readings, hhost, Option.map_some, Option.some.injEq] at hreadings
  exact Nat.succ_ne_self _ hreadings.symm

/-- The message for data that fits a frame is read as those data, unless they are larger than what may
be unpacked. -/
theorem receive_outbound {pack : Bytes → Bytes} (hpack : Restores pack) {bytes frame : Bytes}
    {threshold : Nat} {mayCompress : Bool}
    (hframe : Message.frame ⟨.current, .outboundBy pack bytes threshold mayCompress⟩ = .ok frame)
    {peer : Channel} {host : Host} (hhost : peer.host = some host) :
    peer.receive (.outboundBy pack bytes threshold mayCompress) =
      if bytes.length ≤ frameLimit then peer.reading host bytes else peer.failing .parse := by
  rcases Payload.outboundBy_cases pack bytes threshold mayCompress with h | ⟨hlong, hsize, h⟩
  · rw [h] at hframe ⊢
    rw [if_pos (Message.frame_data_length hframe), receive_data hhost]
  · rw [h]
    split
    case isTrue hfits =>
      exact receive_packed hhost (Compression.unpack_pack hpack (by omega) hsize hfits)
    case isFalse hlarge =>
      exact receive_broken (Compression.unpack_large _ _ hsize (Nat.lt_of_not_le hlarge))

end Channel

/-! ## From one end to the other -/

namespace Transport

open Wire

theorem send_eq_ok {t t' : Transport} {frames : List Bytes} {closed : Bool} {payload : Payload}
    (hout : t.outlet = .pipe frames closed) (hsend : t.send payload = (t', .ok ())) :
    ∃ frame, Message.frame ⟨.current, payload⟩ = .ok frame ∧
      t' = { t with outlet := .pipe (frames ++ [frame]) false } := by
  simp only [send, hout] at hsend
  split at hsend
  case h_1 => cases hsend
  case h_2 frame hframe =>
    split at hsend
    · cases hsend
    · obtain ⟨rfl, -⟩ := Prod.mk.inj hsend
      exact ⟨frame, hframe, rfl⟩

/-- A message whose data leave twenty bytes of a frame is sent as long as somebody may receive it. -/
theorem send_short {t : Transport} {frames : List Bytes} {payload : Payload}
    (hout : t.outlet = .pipe frames false) (hshort : payload.wireLength + 20 ≤ frameLimit) :
    ∃ t', t.send payload = (t', .ok ()) := by
  obtain ⟨frame, hframe⟩ := @Message.exists_frame ⟨.current, payload⟩ hshort
  exact ⟨_, by simp only [send, hout, hframe]; rfl⟩

/-- Data that a framed transport takes, compressed or not, come out of the frame as one message, which
the host of any channel reads exactly once and as they were queued. That holds just of data no larger
than a frame: larger data are taken too if they shrink enough, and then no peer accepts them. -/
theorem delivered_iff {pack : Bytes → Bytes} (hpack : Restores pack) {t t' : Transport}
    {frames : List Bytes} {closed : Bool} (hout : t.outlet = .pipe frames closed) {bytes : Bytes}
    {threshold : Nat} {isochronous : Bool}
    (hsend : t.send (.outboundBy pack bytes threshold (t.mayCompress isochronous)) = (t', .ok ())) :
    ∃ frame, t'.outlet = .pipe (frames ++ [frame]) false ∧
      ∀ (s : Stream) (rest : Bytes), s.flatten = frame ++ rest →
        ∃ s' payload, Payload.receive s = (.ok (some payload), s') ∧ s'.flatten = rest ∧
          ∀ (peer : Channel) (host : Host), peer.host = some host →
            (peer.receive payload = peer.reading host bytes ↔ bytes.length ≤ frameLimit) ∧
              (frameLimit < bytes.length → peer.receive payload = peer.failing .parse) := by
  obtain ⟨frame, hframe, rfl⟩ := send_eq_ok hout hsend
  refine ⟨frame, rfl, fun s rest hs => ?_⟩
  obtain ⟨s', hreceive, hrest⟩ := Payload.receive_frame hframe hs
  refine ⟨s', _, hreceive, hrest, fun peer host hhost => ?_⟩
  rw [Channel.receive_outbound hpack hframe hhost]
  constructor
  · constructor
    · intro hread
      split at hread
      case isTrue hfits => exact hfits
      case isFalse => exact absurd hread (Channel.failing_ne_reading hhost _ _)
    · intro hfits
      rw [if_pos hfits]
  · intro hlarge
    rw [if_neg (Nat.not_le.mpr hlarge)]

/-- A transport to a peer elsewhere that reads compressed data. -/
def toPeer : Transport := { outlet := .pipe [] false, peerUnpacks := true, isLocal := false }

def listener : Channel := { id := 1, transport := framed false, threshold := 1000, host := some {} }

theorem repeated_byte_delivered :
    ∃ t' frame, toPeer.send (.outbound (List.replicate 100 7) 10 (toPeer.mayCompress false)) =
        (t', .ok ()) ∧
      t'.outlet = .pipe [frame] false ∧
      ∃ s' payload, Payload.receive [frame] = (.ok (some payload), s') ∧ s'.flatten = [] ∧
        listener.receive payload = listener.reading {} (List.replicate 100 7) := by
  have hsize : (List.replicate 100 (7 : UInt8)).length = 100 := List.length_replicate
  have hwire := Payload.wireLength_outboundBy_le Compression.lz4.pack (List.replicate 100 7) 10 true
  obtain ⟨t', hsend⟩ : ∃ t', toPeer.send (.outbound (List.replicate 100 7) 10
      (toPeer.mayCompress false)) = (t', .ok ()) :=
    send_short rfl (Nat.le_trans (Nat.add_le_add_right hwire 20) (by rw [hsize]; decide))
  obtain ⟨frame, hout, hreads⟩ := delivered_iff restores_lz4 rfl hsend
  obtain ⟨s', payload, hreceive, hrest, hpeer⟩ := hreads [frame] [] rfl
  exact ⟨t', frame, hsend, hout, s', payload, hreceive, hrest,
    (hpeer listener {} rfl).1.mpr (by rw [hsize]; decide)⟩

/-- Data larger than a frame are taken if they shrink to less than one, and no peer accepts them. -/
theorem large_refused {t : Transport} {frames : List Bytes} (hout : t.outlet = .pipe frames false)
    {isochronous : Bool} (hmay : t.mayCompress isochronous = true) {bytes : Bytes} {threshold : Nat}
    (hlong : threshold < bytes.length) (hsize : bytes.length < UInt32.size)
    (hlarge : frameLimit < bytes.length) (hshort : (Lz4.compress bytes).length + 20 ≤ frameLimit)
    (peer : Channel) {host : Host} (hhost : peer.host = some host) :
    ∃ t' frame, t.send (.outbound bytes threshold (t.mayCompress isochronous)) = (t', .ok ()) ∧
      t'.outlet = .pipe (frames ++ [frame]) false ∧
      ∃ s' payload, Payload.receive [frame] = (.ok (some payload), s') ∧
        peer.receive payload = peer.failing .parse ∧
        peer.receive payload ≠ peer.reading host bytes := by
  have hwire : (Payload.outbound bytes threshold true).wireLength = (Lz4.compress bytes).length :=
    Payload.wireLength_outboundBy_packed hlong hsize
      (show (Lz4.compress bytes).length < bytes.length by omega)
  rw [hmay]
  obtain ⟨t', hsend⟩ : ∃ t', t.send (.outbound bytes threshold true) = (t', .ok ()) :=
    send_short hout (by rwa [hwire])
  obtain ⟨frame, hframe, rfl⟩ := send_eq_ok hout hsend
  obtain ⟨s', hreceive, -⟩ : ∃ s', Payload.receive [frame] = (.ok (some _), s') ∧ s'.flatten = [] :=
    Payload.receive_frame hframe rfl
  have hrefused : peer.receive _ = _ := Channel.receive_outbound restores_lz4 hframe hhost
  rw [if_neg (Nat.not_le.mpr hlarge)] at hrefused
  exact ⟨_, frame, hsend, rfl, s', _, hreceive, hrefused,
    fun h => Channel.failing_ne_reading hhost _ _ (hrefused.symm.trans h)⟩

theorem zeros_refused :
    ∃ t' frame, toPeer.send (.outbound (List.replicate (frameLimit + 1) 0) 1000
          (toPeer.mayCompress false)) = (t', .ok ()) ∧
      t'.outlet = .pipe [frame] false ∧
      ∃ s' payload, Payload.receive [frame] = (.ok (some payload), s') ∧
        listener.receive payload = listener.failing .parse ∧
        listener.receive payload ≠ listener.reading {} (List.replicate (frameLimit + 1) 0) := by
  have hsize : (List.replicate (frameLimit + 1) (0 : UInt8)).length = frameLimit + 1 :=
    List.length_replicate
  have hpacked := Lz4.length_compress_uniform (Lz4.isUniform_replicate (frameLimit + 1) 0)
    (by rw [hsize]; decide)
  rw [hsize] at hpacked
  have hfits : (frameLimit + 1) / 255 + 13 + 20 ≤ frameLimit := by decide
  have hshort := Nat.le_trans (Nat.add_le_add_right hpacked 20) hfits
  refine large_refused (t := toPeer) rfl rfl ?_ ?_ ?_ hshort listener rfl
  · rw [hsize]
    decide
  · rw [hsize]
    decide
  · rw [hsize]
    exact Nat.lt_succ_self frameLimit

end Transport
end RemoteUsb
