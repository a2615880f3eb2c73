import RemoteUsb.Proofs.Channel.Outbound
import RemoteUsb.Proofs.Wire.Reading

/-! What becomes of the bytes that a host queues for the peer. A flush takes everything off the host before
it is known whether the one message that is made of it fits a frame. What does not fit is not sent, and it
is not queued again. `conserved_iff` says for every row of chunks and flushes, and for every encoder whose
blocks restore to their input, that exactly as long as each flush fits a frame, what is on the wire and what
is still queued are together what was queued, in order. -/

namespace RemoteUsb

namespace Wire

def Payload.unpacked : Payload → Option Bytes
  | .capabilities _ => some []
  | .data bytes => some bytes
  | .compressed .lz4 size block => (Lz4.decompress block size.toNat).toOption

def carried (frame : Bytes) : Option Bytes :=
  (Message.unframe frame).toOption.bind fun m => m.payload.unpacked

theorem carried_frame {m : Message} {frame : Bytes} (h : m.frame = .ok frame) :
    carried frame = m.payload.unpacked := by
  have hunframe := Message.unframe_frame h []
  rw [List.append_nil] at hunframe
  rw [carried, hunframe]
  rfl

/-- The message for data stands for those data, compressed or not. -/
theorem Payload.unpacked_outboundBy {pack : Bytes → Bytes} (hpack : Restores pack) (bytes : Bytes)
    (threshold : Nat) (mayCompress : Bool) :
    (Payload.outboundBy pack bytes threshold mayCompress).unpacked = some bytes := by
  rcases Payload.outboundBy_cases pack bytes threshold mayCompress with h | ⟨_, hsize, h⟩
  · rw [h]
    rfl
  · have hlen : bytes.length.toUInt32.toNat = bytes.length := Nat.mod_eq_of_lt hsize
    rw [h, Payload.unpacked, hlen, hpack bytes]
    rfl

end Wire

open Wire (Message Payload carried frameLimit)

/-- The data that were sent, one after another. -/
def Transport.carried (t : Transport) : Option Bytes :=
  match t.outlet with
  | .memory sent => (sent.mapM Payload.unpacked).map List.flatten
  | .pipe frames _ => (frames.mapM Wire.carried).map List.flatten

/-- What is sent in one more frame comes last. -/
theorem Transport.carried_snoc {t t' : Transport} {frames : List Bytes} {frame sent data : Bytes}
    (hout : t.outlet = .pipe frames false) (hsent : t.carried = some sent)
    (hframe : Wire.carried frame = some data) (hout' : t'.outlet = .pipe (frames ++ [frame]) false) :
    t'.carried = some (sent ++ data) := by
  simp only [carried, hout, Option.map_eq_some_iff] at hsent
  obtain ⟨batches, hbatches, rfl⟩ := hsent
  simp [carried, hout', List.mapM_append, hbatches, hframe]

namespace Channel

/-! ## Chunks and flushes -/

/-- What may happen to the data for the peer, and what has nothing to do with them. -/
inductive Deal where
  /-- The host queues a chunk. -/
  | queue (bytes : Bytes)
  | flush
  | announce
  | hear (payload : Payload)
  | aside (w : Section) (_ : w.isAside = true)

/-- The channel after a deal, given how data are compressed. -/
def deal (pack : Bytes → Bytes) (c : Channel) : Deal → Channel
  | .queue bytes => { c with host := c.host.map (·.queue bytes) }
  | .flush => (c.flushBy pack).1
  | .announce => { c with transport := c.transport.announce.1 }
  | .hear payload => (c.hear payload).1
  | .aside w _ => c.locked w

def deals (pack : Bytes → Bytes) (c : Channel) (row : List Deal) : Channel := row.foldl (deal pack) c

/-- What is queued. -/
def Deal.chunk : Deal → Bytes
  | .queue bytes => bytes
  | _ => []

/-- All chunks of a row, in order. -/
def given (row : List Deal) : Bytes := row.flatMap Deal.chunk

/-- What a flush would take off the host now fits a frame. -/
def Fits (pack : Bytes → Bytes) (c : Channel) : Prop :=
  ∀ p, c.drain.2 = some p → (Message.write ⟨.current, c.message pack p⟩).length ≤ frameLimit

/-- Whatever is flushed in the row fits a frame. -/
def Fitting (pack : Bytes → Bytes) (c : Channel) : List Deal → Prop
  | [] => True
  | d :: row => (d = .flush → c.Fits pack) ∧ Fitting pack (c.deal pack d) row

/-- The channel has sent some data over an open pipe, and others wait at its host. -/
structure Holds (c : Channel) (sent waiting : Bytes) : Prop where
  isOpen : ∃ frames, c.transport.outlet = .pipe frames false
  sent : c.transport.carried = some sent
  waiting : c.host.map (·.queued.flatten) = some waiting

/-- Under a condition, and only then, all bytes are still there. Else some are missing. -/
structure Keeps (fits : Prop) (before after : Bytes) : Prop where
  all : fits → after = before
  fewer : ¬fits → after.length < before.length

theorem Keeps.of_eq {fits : Prop} {before after : Bytes} (hfits : fits) (h : after = before) :
    Keeps fits before after := ⟨fun _ => h, absurd hfits⟩

theorem Keeps.length_le {fits : Prop} {before after : Bytes} (h : Keeps fits before after) :
    after.length ≤ before.length := by
  by_cases hfits : fits
  · exact Nat.le_of_eq (congrArg List.length (h.all hfits))
  · exact Nat.le_of_lt (h.fewer hfits)

theorem Keeps.eq_iff {fits : Prop} {before after : Bytes} (h : Keeps fits before after) :
    after = before ↔ fits := by
  refine ⟨fun heq => Classical.byContradiction fun hnot => ?_, h.all⟩
  exact Nat.lt_irrefl _ (heq ▸ h.fewer hnot)

theorem Keeps.trans {fits fits' : Prop} {before between more after : Bytes}
    (h : Keeps fits before between) (h' : Keeps fits' (between ++ more) after) :
    Keeps (fits ∧ fits') (before ++ more) after where
  all hboth := by rw [h'.all hboth.2, h.all hboth.1]
  fewer hnot := by
    have hle := h.length_le
    have hle' := h'.length_le
    rw [List.length_append] at hle' ⊢
    by_cases hfits : fits
    · have hlt := h'.fewer fun hfits' => hnot ⟨hfits, hfits'⟩
      rw [List.length_append] at hlt
      omega
    · have hlt := h.fewer hfits
      omega

variable {pack : Bytes → Bytes} {c : Channel} {sent waiting : Bytes}

/-- A flush takes off the host what waits there. -/
theorem drain_waiting (h : c.host.map (·.queued.flatten) = some waiting) :
    (c.drain = (c, none) ∧ waiting = []) ∨
      ∃ host, c.drain = ({ c with host := some host }, some ⟨waiting, c.isIsochronous⟩) ∧
        host.queued = [] := by
  obtain ⟨host, hhost, rfl⟩ := Option.map_eq_some_iff.mp h
  rcases drain_cases c with ⟨hdrain, hnil⟩ | ⟨other, hother, -, hdrain⟩
  · exact .inl ⟨hdrain, by rw [hnil host hhost]; rfl⟩
  · cases hhost.symm.trans hother
    exact .inr ⟨_, hdrain, rfl⟩

/-- Data that leave twenty bytes of a frame fit it. -/
theorem fits_of_short (h : c.host.map (·.queued.flatten) = some waiting)
    (hshort : waiting.length + 20 ≤ frameLimit) : c.Fits pack := by
  intro p hp
  rcases drain_waiting h with ⟨hdrain, _⟩ | ⟨host, hdrain, _⟩
  · rw [hdrain] at hp
    cases hp
  · rw [hdrain] at hp
    cases hp
    have hwire := wireLength_message_le pack c ⟨waiting, c.isIsochronous⟩
    obtain ⟨frame, hframe⟩ := Message.exists_frame
      (m := ⟨.current, c.message pack ⟨waiting, c.isIsochronous⟩⟩)
      (Nat.le_trans (Nat.add_le_add_right hwire 20) hshort)
    exact (Message.frame_eq_ok.mp hframe).1

/-- A flush sends all that waits, or it fails and all that waits is gone. -/
theorem Holds.flush (h : c.Holds sent waiting) (hpack : Wire.Restores pack) :
    (c.Fits pack ∧ (c.flushBy pack).1.Holds (sent ++ waiting) [] ∧ ∃ any, (c.flushBy pack).2 = .ok any) ∨
      (¬c.Fits pack ∧ (c.flushBy pack).1.Holds sent [] ∧ waiting ≠ [] ∧
        ∃ error, (c.flushBy pack).2 = .error error) := by
  obtain ⟨frames, hout⟩ := h.isOpen
  rcases drain_waiting h.waiting with ⟨hdrain, rfl⟩ | ⟨host, hdrain, hqueued⟩
  · refine .inl ⟨fun p hp => ?_, ?_, ?_⟩
    · rw [hdrain] at hp
      cases hp
    · rw [flushBy_eq, hdrain, List.append_nil]
      exact h
    · rw [flushBy_eq, hdrain]
      exact ⟨false, rfl⟩
  · let p : Parcel := ⟨waiting, c.isIsochronous⟩
    have hempty : (some host).map (·.queued.flatten) = some [] := by rw [Option.map_some, hqueued]; rfl
    have hflush : c.flushBy pack =
        ({ c with host := some host, transport := (c.transport.send (c.message pack p)).1 },
          (c.transport.send (c.message pack p)).2.map fun _ => true) := by
      rw [flushBy_eq, hdrain]
      rfl
    rw [hflush]
    rcases Transport.send_cases hout (c.message pack p) with
      ⟨-, frame, hframe, hsend⟩ | ⟨hclosed | hlarge, error, hsend⟩
    · rw [hsend]
      refine .inl ⟨fun q hq => ?_, ⟨⟨_, rfl⟩, ?_, hempty⟩, ⟨true, rfl⟩⟩
      · rw [hdrain] at hq
        cases hq
        exact (Message.frame_eq_ok.mp hframe).1
      · refine Transport.carried_snoc hout h.sent ?_ rfl
        rw [Wire.carried_frame hframe]
        exact Payload.unpacked_outboundBy hpack _ _ _
    · cases hclosed
    · rw [hsend]
      have hnot : ¬c.Fits pack := fun hfits => Nat.not_le.mpr hlarge (hfits p (by rw [hdrain]))
      refine .inr ⟨hnot, ⟨⟨_, hout⟩, h.sent, hempty⟩, ?_, ⟨error, rfl⟩⟩
      rintro rfl
      exact hnot (fits_of_short h.waiting (by decide))

/-- A flush fails exactly if what it takes off the host does not fit a frame. -/
theorem Holds.flush_fails_iff (h : c.Holds sent waiting) (hpack : Wire.Restores pack) :
    (∃ error, (c.flushBy pack).2 = .error error) ↔ ¬c.Fits pack := by
  rcases h.flush hpack with ⟨hfits, _, any, hok⟩ | ⟨hnot, _, _, herror⟩
  · refine iff_of_false ?_ (not_not.mpr hfits)
    rintro ⟨error, herror⟩
    rw [hok] at herror
    cases herror
  · exact iff_of_true herror hnot

theorem Holds.spared {d : Channel} (h : c.Holds sent waiting)
    (hout : d.transport.outlet = c.transport.outlet)
    (hqueued : d.host.map (·.queued) = c.host.map (·.queued)) : d.Holds sent waiting where
  isOpen := hout ▸ h.isOpen
  sent := by
    rw [Transport.carried, hout]
    exact h.sent
  waiting := by
    have hflatten := congrArg (Option.map List.flatten) hqueued
    rw [Option.map_map, Option.map_map] at hflatten
    exact hflatten.trans h.waiting

/-- To announce something is to send no data. -/
theorem Holds.announce (h : c.Holds sent waiting) : (c.deal pack .announce).Holds sent waiting := by
  obtain ⟨frames, hout⟩ := h.isOpen
  rw [Channel.deal, Transport.announce]
  rcases Transport.send_cases hout (.capabilities true) with ⟨-, frame, hframe, hsend⟩ | ⟨-, error, hsend⟩
  · rw [hsend]
    refine ⟨⟨_, rfl⟩, ?_, h.waiting⟩
    rw [← List.append_nil sent]
    exact Transport.carried_snoc hout h.sent (Wire.carried_frame hframe) rfl
  · rw [hsend]
    exact h

/-- One deal keeps all bytes, unless it is a flush that does not fit. -/
theorem Holds.deal (h : c.Holds sent waiting) (hpack : Wire.Restores pack) (d : Deal) :
    ∃ sent' waiting', (c.deal pack d).Holds sent' waiting' ∧
      Keeps (d = .flush → c.Fits pack) (sent ++ waiting ++ d.chunk) (sent' ++ waiting') := by
  -- Every other deal than a flush keeps what was sent and adds its chunk to what waits.
  have hkeeps : d ≠ .flush → (c.deal pack d).Holds sent (waiting ++ d.chunk) →
      ∃ sent' waiting', (c.deal pack d).Holds sent' waiting' ∧
        Keeps (d = .flush → c.Fits pack) (sent ++ waiting ++ d.chunk) (sent' ++ waiting') :=
    fun hne h' => ⟨_, _, h', .of_eq (absurd · hne) (List.append_assoc ..).symm⟩
  have hsame : ∀ {d' : Channel}, d'.Holds sent waiting → d'.Holds sent (waiting ++ []) :=
    fun h' => (List.append_nil waiting).symm ▸ h'
  cases d with
  | flush =>
    have hchunk : Deal.flush.chunk = [] := rfl
    rw [hchunk, List.append_nil]
    rcases h.flush hpack with ⟨hfits, h', _⟩ | ⟨hnot, h', hne, _⟩
    · exact ⟨_, _, h', .of_eq (fun _ => hfits) (List.append_nil _)⟩
    · refine ⟨_, _, h', fun hfits => absurd (hfits rfl) hnot, fun _ => ?_⟩
      have hpos := List.length_pos_iff.mpr hne
      rw [List.append_nil, List.length_append]
      omega
  | queue bytes =>
    refine hkeeps nofun ⟨h.isOpen, h.sent, ?_⟩
    obtain ⟨host, hhost, rfl⟩ := Option.map_eq_some_iff.mp h.waiting
    simp [Channel.deal, hhost, Host.queue, Deal.chunk]
  | announce => exact hkeeps nofun (hsame h.announce)
  | hear payload =>
    refine hkeeps nofun (hsame ?_)
    by_cases hdata : payload.announces = false
    · have hspares := spares_hear hdata c
      exact h.spared (congrArg (·.outlet) hspares.transport) hspares.queued
    · cases payload with
      | capabilities => exact h.spared rfl rfl
      | data | compressed => exact absurd rfl hdata
  | aside w hw =>
    have hspares := locked_spares hw c
    exact hkeeps nofun (hsame (h.spared (congrArg (·.outlet) hspares.transport) hspares.queued))

/-- A row of deals keeps all bytes exactly if every flush fits. -/
theorem Holds.deals (h : c.Holds sent waiting) (hpack : Wire.Restores pack) (row : List Deal) :
    ∃ sent' waiting', (c.deals pack row).Holds sent' waiting' ∧
      Keeps (c.Fitting pack row) (sent ++ waiting ++ given row) (sent' ++ waiting') := by
  induction row generalizing c sent waiting with
  | nil => exact ⟨sent, waiting, h, .of_eq trivial (List.append_nil _).symm⟩
  | cons d row ih =>
    obtain ⟨_, _, h₁, hkeeps₁⟩ := h.deal hpack d
    obtain ⟨sent₂, waiting₂, h₂, hkeeps₂⟩ := ih h₁
    have hgiven : given (d :: row) = d.chunk ++ given row := List.flatMap_cons
    refine ⟨sent₂, waiting₂, h₂, ?_⟩
    rw [hgiven, ← List.append_assoc]
    exact hkeeps₁.trans hkeeps₂

/-- Of a channel that has not sent anything, and whose host has nothing queued, what is on the wire and what
is still queued are together the chunks that were queued, in order, exactly as long as every flush fits a
frame. Those that do not fit are the flushes that fail. -/
theorem conserved_iff (hpack : Wire.Restores pack) (hhost : c.host.map (·.queued) = some [])
    (hout : c.transport.outlet = .pipe [] false) (row : List Deal) :
    ∃ sent waiting, (c.deals pack row).transport.carried = some sent ∧
      (c.deals pack row).host.map (·.queued.flatten) = some waiting ∧
      (sent ++ waiting = given row ↔ c.Fitting pack row) ∧
      ((∃ error, ((c.deals pack row).flushBy pack).2 = .error error) ↔
        ¬(c.deals pack row).Fits pack) := by
  have hstart : c.Holds [] [] :=
    ⟨⟨[], hout⟩, by rw [Transport.carried, hout]; rfl, by
      have := congrArg (Option.map List.flatten) hhost
      rwa [Option.map_map] at this⟩
  obtain ⟨sent, waiting, h, hkeeps⟩ := hstart.deals hpack row
  exact ⟨sent, waiting, h.sent, h.waiting, hkeeps.eq_iff, h.flush_fails_iff hpack⟩

def unheard : Channel := { id := 1, transport := .framed false, threshold := 10, host := some {} }

/-- The second flush sends compressed data, and one chunk still waits. -/
theorem conserved_compressed :
    let row : List Deal := [.queue [1, 2], .flush, .hear (.capabilities true),
      .queue (List.replicate 100 7), .queue [3], .flush, .queue [4]]
    let pack := Wire.Compression.lz4.pack
    Wire.Restores pack ∧ unheard.Fitting pack row ∧
      ∃ sent waiting, (unheard.deals pack row).transport.carried = some sent ∧
        (unheard.deals pack row).host.map (·.queued.flatten) = some waiting ∧
        sent ++ waiting = given row := by
  intro row pack
  have hfirst : (unheard.deals pack (row.take 1)).host.map (·.queued.flatten) = some [1, 2] := rfl
  have hsecond : (unheard.deals pack (row.take 5)).host.map (·.queued.flatten) =
      some (List.replicate 100 7 ++ [3]) := by decide +kernel
  have hfitting : unheard.Fitting pack row :=
    ⟨nofun, fun _ => fits_of_short hfirst (by decide), nofun, nofun, nofun,
      fun _ => fits_of_short hsecond (by decide +kernel), nofun, trivial⟩
  obtain ⟨sent, waiting, hsent, hwaiting, hiff, -⟩ :=
    conserved_iff (c := unheard) Wire.restores_lz4 rfl rfl row
  exact ⟨Wire.restores_lz4, hfitting, sent, waiting, hsent, hwaiting, hiff.mpr hfitting⟩

/-- Two chunks that together are larger than a frame are lost if the peer does not unpack. -/
theorem lost_of_large (hpack : Wire.Restores pack) {a b : Bytes}
    (hlarge : frameLimit < a.length + b.length) :
    let row : List Deal := [.queue a, .queue b, .flush]
    ¬∃ sent waiting, (unheard.deals pack row).transport.carried = some sent ∧
      (unheard.deals pack row).host.map (·.queued.flatten) = some waiting ∧
      sent ++ waiting = given row := by
  intro row
  have hnot : ¬unheard.Fitting pack row := by
    rintro ⟨-, -, hfits, -⟩
    have hdrain : (unheard.deals pack [.queue a, .queue b]).drain.2 = some ⟨a ++ b, false⟩ := by
      simp [unheard, deals, deal, drain, Host.queue, Host.drain]
      rfl
    have hshort := hfits rfl _ hdrain
    have hwire := Payload.wireLength_le_write (.data (a ++ b))
    change (Message.write ⟨.current, .data (a ++ b)⟩).length ≤ frameLimit at hshort
    simp only [Message.write, List.length_cons, Payload.wireLength, List.length_append] at hshort hwire
    omega
  have hstart : unheard.Holds [] [] := ⟨⟨[], rfl⟩, rfl, rfl⟩
  obtain ⟨sent, waiting, h, hkeeps⟩ := hstart.deals hpack row
  rintro ⟨sent', waiting', hsent, hwaiting, heq⟩
  obtain rfl := Option.some.inj (hsent.symm.trans h.sent)
  obtain rfl := Option.some.inj (hwaiting.symm.trans h.waiting)
  exact hnot (hkeeps.eq_iff.mp heq)

/-- Each of the chunks would fit a frame, but they are flushed as one message. -/
theorem large_chunks_lost :
    let row : List Deal := [.queue (List.replicate 3145728 0), .queue (List.replicate 3145728 1), .flush]
    let c := unheard.deals Wire.Compression.lz4.pack row
    ¬∃ sent waiting, c.transport.carried = some sent ∧ c.host.map (·.queued.flatten) = some waiting ∧
      sent ++ waiting = given row :=
  lost_of_large Wire.restores_lz4 (by rw [List.length_replicate, List.length_replicate]; decide)

end Channel
end RemoteUsb
