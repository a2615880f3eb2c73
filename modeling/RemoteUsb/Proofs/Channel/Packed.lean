import RemoteUsb.Proofs.Channel.Outbound

/-! When data travel compressed. Whether a message may be compressed is seen from what the transport knows of
the peer, which is up to what was read off the wire, and from the device that was bound when the data were
taken off the host. All these change while flushes are under way, so a channel is followed together with
what its flushes have taken off the host and not sent yet. `compressed_iff` says of every message that a
flush sends when it is compressed. Whether that pays is up to the encoder, which may be any. -/

namespace RemoteUsb

open Wire (Payload Message)

/-- Whether the message announces that compressed data can be read, in a version that has them. -/
def Wire.Message.unpacks (m : Message) : Bool :=
  m.payload == .capabilities true && m.version.supportsCompression

namespace Channel

/-- A channel, and what flushes take off its host. -/
structure Line where
  channel : Channel
  /-- One entry for each flush that began; it is empty if there was nothing to send, or all was sent. -/
  parcels : List (Option Parcel) := []

namespace Line

/-- What may happen next. -/
inductive Happening where
  /-- Somebody has the lock of the channel who neither hears nor flushes anything. -/
  | work (w : Section) (_ : w.isTraffic = false)
  /-- The pump reads what is next on a stream, and has it heard if it is understood. -/
  | pump (s : Wire.Stream)
  | announce
  /-- The other end of the pipe goes away. -/
  | close
  /-- A flush takes everything off the host. -/
  | drain
  /-- The flush with a number sends what it took. -/
  | send (n : Nat)

/-- The line after something happened, given how data are compressed. -/
def step (pack : Bytes → Bytes) (l : Line) : Happening → Line
  | .work w _ => { l with channel := l.channel.locked w }
  | .pump s =>
    match (Payload.receive s).1 with
    | .ok (some payload) => { l with channel := (l.channel.hear payload).1 }
    | _ => l
  | .announce => { l with channel := { l.channel with transport := l.channel.transport.announce.1 } }
  | .close => { l with channel := { l.channel with transport := l.channel.transport.close } }
  | .drain => { channel := l.channel.drain.1, parcels := l.parcels ++ [l.channel.drain.2] }
  | .send n =>
    match l.parcels[n]?.join with
    | some p => { channel := (l.channel.dispatch pack p).1, parcels := l.parcels.set n none }
    | none => l

def moment (pack : Bytes → Bytes) (l : Line) (row : List Happening) (n : Nat) : Line :=
  (row.take n).foldl (step pack) l

/-- The announcement of capabilities that is delivered. -/
def Happening.announcement? : Happening → Option Message
  | .pump s =>
    match (Message.next s).1 with
    | .ok (some m) =>
      if m.version.isCompatible && m.payload.announces then some m else none
    | _ => none
  | _ => none

/-- The last announcement of capabilities that was delivered. -/
def announced (row : List Happening) : Option Message := (row.filterMap Happening.announcement?).getLast?

variable {pack : Bytes → Bytes} {l : Line} {row : List Happening} {n : Nat}

theorem moment_succ {h : Happening} (hrow : row[n]? = some h) :
    l.moment pack row (n + 1) = (l.moment pack row n).step pack h :=
  foldl_take_succ hrow

theorem moment_end (hrow : row[n]? = none) : l.moment pack row (n + 1) = l.moment pack row n :=
  foldl_take_end hrow

/-! ## What the transport knows -/

/-- The transport knows of the last announcement, and the rest is as it was at the beginning. -/
structure Knows (isLocal : Bool) (threshold : Nat) (last : Option Message) (c : Channel) : Prop where
  isFramed : c.transport.isFramed = true
  peerUnpacks : c.transport.peerUnpacks = last.any Message.unpacks
  isLocal : c.transport.isLocal = isLocal
  threshold : c.threshold = threshold

variable {isLocal : Bool} {threshold : Nat} {last : Option Message} {c d : Channel}

theorem Knows.kept (h : Knows isLocal threshold last c) (htransport : d.transport = c.transport)
    (hthreshold : d.threshold = c.threshold) : Knows isLocal threshold last d :=
  ⟨htransport ▸ h.isFramed, htransport ▸ h.peerUnpacks, htransport ▸ h.isLocal,
    hthreshold.trans h.threshold⟩

theorem outlet_of_isFramed {t : Transport} (h : t.isFramed = true) :
    ∃ frames closed, t.outlet = .pipe frames closed := by
  unfold Transport.isFramed at h
  split at h
  · cases h
  · exact ⟨_, _, ‹_›⟩

theorem Knows.sent (h : Knows isLocal threshold last c) (payload : Payload) :
    Knows isLocal threshold last { c with transport := (c.transport.send payload).1 } := by
  obtain ⟨frames, closed, hout⟩ := outlet_of_isFramed h.isFramed
  rcases Transport.send_cases hout payload with ⟨-, frame, -, hsend⟩ | ⟨-, error, hsend⟩
  · rw [hsend]
    exact ⟨rfl, h.peerUnpacks, h.isLocal, h.threshold⟩
  · rw [hsend]
    exact h

theorem Knows.closed (h : Knows isLocal threshold last c) :
    Knows isLocal threshold last { c with transport := c.transport.close } := by
  unfold Transport.close
  split
  · exact h
  · exact ⟨rfl, h.peerUnpacks, h.isLocal, h.threshold⟩

/-- Capabilities that are heard are all that is known of the peer from then on. -/
theorem Knows.heard (h : Knows isLocal threshold last c) (m : Message) :
    Knows isLocal threshold (if m.payload.announces then some m else last) (c.hear m.accepted).1 := by
  obtain ⟨version, payload⟩ := m
  have hdata : ∀ payload : Payload, payload.announces = false →
      Knows isLocal threshold last (c.hear payload).1 := fun payload hp =>
    h.kept (spares_hear hp c).transport (spares_hear hp c).threshold
  cases payload with
  | capabilities compression =>
    refine ⟨h.isFramed, ?_, h.isLocal, h.threshold⟩
    cases compression <;> rfl
  | data bytes => exact hdata (.data bytes) rfl
  | compressed algorithm size block => exact hdata (.compressed algorithm size block) rfl

theorem drain_transport (c : Channel) :
    c.drain.1.transport = c.transport ∧ c.drain.1.threshold = c.threshold := by
  rcases drain_cases c with ⟨hdrain, -⟩ | ⟨host, -, -, hdrain⟩
  · rw [hdrain]
    exact ⟨rfl, rfl⟩
  · rw [hdrain]
    exact ⟨rfl, rfl⟩

theorem Knows.step (h : Knows isLocal threshold last l.channel) (happening : Happening) :
    Knows isLocal threshold (happening.announcement?.or last) (l.step pack happening).channel := by
  cases happening with
  | work w hw => exact h.kept (locked_transport hw l.channel).1 (locked_transport hw l.channel).2
  | pump s =>
    rw [Line.step, Happening.announcement?, Payload.receive]
    rcases Message.next s with ⟨_ | _ | m, others⟩
    · exact h
    · exact h
    · have hheard := h.heard m
      cases hv : m.version.isCompatible with
      | false =>
        simp only [Wire.Version.validate, hv]
        exact h
      | true =>
        simp only [Wire.Version.validate, hv, Bool.true_and]
        cases hp : m.payload.announces with
        | false =>
          rw [hp] at hheard
          exact hheard
        | true =>
          rw [hp] at hheard
          exact hheard
  | announce => exact h.sent _
  | close => exact h.closed
  | drain => exact h.kept (drain_transport l.channel).1 (drain_transport l.channel).2
  | send n =>
    rw [Line.step]
    split
    · exact h.sent _
    · exact h

theorem announced_succ {h : Happening} (hrow : row[n]? = some h) :
    announced (row.take (n + 1)) = h.announcement?.or (announced (row.take n)) := by
  rw [announced, List.take_add_one, hrow, List.filterMap_append, List.getLast?_append]
  cases hlast : h.announcement? <;> simp [announced, hlast]

/-- At every moment the transport knows what was announced last. -/
theorem moment_knows (h : Knows isLocal threshold none l.channel) (row : List Happening) (n : Nat) :
    Knows isLocal threshold (announced (row.take n)) (l.moment pack row n).channel := by
  induction n with
  | zero => exact h
  | succ n ih =>
    cases hrow : row[n]? with
    | none =>
      rw [moment_end hrow, List.take_add_one, hrow, Option.toList_none, List.append_nil]
      exact ih
    | some happening =>
      rw [moment_succ hrow, announced_succ hrow]
      exact ih.step happening

/-! ## What flushes take off the host -/

theorem drain_eq_some {p : Parcel} (h : c.drain.2 = some p) :
    ∃ host, c.host = some host ∧ host.queued ≠ [] ∧ p = ⟨host.queued.flatten, c.isIsochronous⟩ := by
  rcases drain_cases c with ⟨hdrain, -⟩ | ⟨host, hhost, hne, hdrain⟩
  · rw [hdrain] at h
    cases h
  · rw [hdrain] at h
    exact ⟨host, hhost, hne, (Option.some.inj h).symm⟩

/-- At a moment, the flush with a number took all that was queued off the host. -/
structure Took (pack : Bytes → Bytes) (l : Line) (row : List Happening) (k j : Nat) (p : Parcel) :
    Prop where
  drains : row[j]? = some .drain
  number : (l.moment pack row j).parcels.length = k
  took : ∃ host, (l.moment pack row j).channel.host = some host ∧ host.queued ≠ [] ∧
    p = ⟨host.queued.flatten, (l.moment pack row j).channel.isIsochronous⟩

/-- Every parcel was taken at some moment. -/
theorem took_of_parcel (hl : l.parcels = []) {k : Nat} {p : Parcel}
    (h : (l.moment pack row n).parcels[k]? = some (some p)) : ∃ j < n, Took pack l row k j p := by
  induction n with
  | zero =>
    change l.parcels[k]? = _ at h
    rw [hl] at h
    cases h
  | succ n ih =>
    -- Only a flush that begins adds a parcel; every other one was there before.
    have hbefore : (l.moment pack row n).parcels[k]? = some (some p) → ∃ j < n + 1, Took pack l row k j p := by
      intro h
      obtain ⟨j, hj, htook⟩ := ih h
      exact ⟨j, Nat.lt_succ_of_lt hj, htook⟩
    cases hrow : row[n]? with
    | none => exact hbefore (moment_end hrow ▸ h)
    | some happening =>
      rw [moment_succ hrow] at h
      cases happening with
      | work | announce | close => exact hbefore h
      | pump s =>
        rw [step] at h
        split at h <;> exact hbefore h
      | drain =>
        rw [step, List.getElem?_append] at h
        split at h
        · exact hbefore h
        · rename_i hlast
          rw [List.getElem?_singleton] at h
          split at h
          · exact ⟨n, Nat.lt_succ_self n, hrow, by omega, drain_eq_some (Option.some.inj h)⟩
          · cases h
      | send i =>
        rw [step] at h
        split at h
        · rw [List.getElem?_set] at h
          split at h
          · split at h <;> cases h
          · exact hbefore h
        · exact hbefore h

/-! ## What flushes send -/

/-- It is allowed to compress what was taken off a host, and it pays. -/
structure Pays (pack : Bytes → Bytes) (last : Option Message) (isLocal : Bool) (threshold : Nat)
    (p : Parcel) : Prop where
  announced : ∃ m, last = some m ∧ m.payload = .capabilities true ∧ m.version.supportsCompression = true
  notLocal : isLocal = false
  notIsochronous : p.isochronous = false
  long : threshold < p.bytes.length
  size : p.bytes.length < UInt32.size
  shorter : (pack p.bytes).length < p.bytes.length

theorem Knows.mayCompress_iff (h : Knows isLocal threshold last c) (isochronous : Bool) :
    c.transport.mayCompress isochronous = true ↔
      (∃ m, last = some m ∧ m.payload = .capabilities true ∧ m.version.supportsCompression = true) ∧
        isLocal = false ∧ isochronous = false := by
  rw [Transport.mayCompress, h.peerUnpacks, h.isLocal]
  simp [Option.any_eq_true, Message.unpacks, and_assoc]

/-- The message for what was taken off the host is compressed exactly if that is allowed and pays. -/
theorem Knows.message (h : Knows isLocal threshold last c) (pack : Bytes → Bytes) (p : Parcel) :
    (Pays pack last isLocal threshold p ∧ ∃ size : UInt32, size.toNat = p.bytes.length ∧
      c.message pack p = .compressed .lz4 size (pack p.bytes)) ∨
    (¬Pays pack last isLocal threshold p ∧ c.message pack p = .data p.bytes) := by
  have hmay := h.mayCompress_iff p.isochronous
  rw [Channel.message, h.threshold, Payload.outboundBy]
  by_cases hpays : Pays pack last isLocal threshold p
  · have hallowed := hmay.mpr ⟨hpays.announced, hpays.notLocal, hpays.notIsochronous⟩
    have hsize : p.bytes.length.toUInt32.toNat = p.bytes.length := Nat.mod_eq_of_lt hpays.size
    refine .inl ⟨hpays, _, hsize, ?_⟩
    simp only [hallowed, decide_eq_true hpays.long, decide_eq_true hpays.size, Bool.and_self, if_true]
    exact if_pos hpays.shorter
  · refine .inr ⟨hpays, ?_⟩
    dsimp only
    split
    · rename_i hcond
      simp only [Bool.and_eq_true, decide_eq_true_eq] at hcond
      obtain ⟨hpeer, hlocal, hisochronous⟩ := hmay.mp hcond.1.1
      exact if_neg fun hshorter => hpays ⟨hpeer, hlocal, hisochronous, hcond.1.2, hcond.2, hshorter⟩
    · rfl

theorem send_changed {t : Transport} (hframed : t.isFramed = true) {payload : Payload}
    (h : (t.send payload).1.outlet ≠ t.outlet) :
    ∃ frames frame, t.outlet = .pipe frames false ∧ Message.frame ⟨.current, payload⟩ = .ok frame ∧
      (t.send payload).1.outlet = .pipe (frames ++ [frame]) false := by
  obtain ⟨frames, closed, hout⟩ := outlet_of_isFramed hframed
  rcases Transport.send_cases hout payload with ⟨rfl, frame, hframe, hsend⟩ | ⟨-, error, hsend⟩
  · exact ⟨frames, frame, hout, hframe, by rw [hsend]⟩
  · rw [hsend] at h
    exact absurd rfl h

/-- What the flush with a number took is sent over the transport as it is then. -/
theorem moment_sent {k : Nat} {p : Parcel} (hsend : row[n]? = some (.send k))
    (hp : (l.moment pack row n).parcels[k]?.join = some p) :
    (l.moment pack row (n + 1)).channel.transport.outlet = ((l.moment pack row n).channel.transport.send
      ((l.moment pack row n).channel.message pack p)).1.outlet := by
  rw [moment_succ hsend, Line.step, hp]
  rfl

end Line

open Line in
/-- Whatever flushes are under way on a channel, and whatever comes off the wire: a flush that sends something
sends what it took off the host in one message. The message is compressed exactly if the last announcement
of the peer was that it reads compressed data, in a version that has them, the peer is not on this machine,
no isochronous device was bound when the data were taken off the host, they are longer than the threshold,
and the block that the encoder makes of them is shorter than they are. Else it carries the data as they
are. -/
theorem compressed_iff (pack : Bytes → Bytes) (id threshold : Nat) (isLocal : Bool)
    (row : List Line.Happening) {i n : Nat} (hsend : row[i]? = some (.send n)) :
    let start : Line := { channel := .new id (.framed isLocal) threshold }
    let before := (start.moment pack row i).channel.transport.outlet
    let after := (start.moment pack row (i + 1)).channel.transport.outlet
    after ≠ before →
      ∃ j < i, ∃ p payload frames frame, Took pack start row n j p ∧ before = .pipe frames false ∧
        after = .pipe (frames ++ [frame]) false ∧ Message.frame ⟨.current, payload⟩ = .ok frame ∧
        ((Pays pack (announced (row.take i)) isLocal threshold p ∧ ∃ size : UInt32,
            size.toNat = p.bytes.length ∧ payload = .compressed .lz4 size (pack p.bytes)) ∨
          (¬Pays pack (announced (row.take i)) isLocal threshold p ∧ payload = .data p.bytes)) := by
  intro start before after hchanged
  have hstart : Knows isLocal threshold none start.channel := ⟨rfl, rfl, rfl, rfl⟩
  have hknows : Knows _ _ _ (start.moment pack row i).channel := moment_knows hstart row i
  obtain ⟨p, hp⟩ : ∃ p, (start.moment pack row i).parcels[n]?.join = some p := by
    refine Option.ne_none_iff_exists'.mp fun hnone => hchanged ?_
    change (start.moment pack row (i + 1)).channel.transport.outlet = _
    rw [moment_succ hsend, Line.step, hnone]
  have hafter : after = _ := moment_sent hsend hp
  rw [hafter] at hchanged ⊢
  obtain ⟨frames, frame, hbefore, hframe, hsent⟩ := send_changed hknows.isFramed hchanged
  obtain ⟨j, hj, htook⟩ := took_of_parcel rfl (Option.join_eq_some_iff.mp hp)
  exact ⟨j, hj, p, _, frames, frame, htook, hbefore, hsent, hframe, hknows.message pack p⟩

/-- The peer announces that it reads compressed data, and the host queues a hundred bytes that are alike. -/
def plenty : List Line.Happening :=
  [.work (.setContext {}) rfl, .pump [[0, 0, 0, 5, 1, 1], [0, 0, 1]],
    .work (.stir (·.queue (List.replicate 100 7))) rfl, .drain, .send 0]

open Line in
theorem compressed_plenty :
    let pack := Wire.Compression.lz4.pack
    let start : Line := { channel := .new 1 (.framed false) 10 }
    let before := (start.moment pack plenty 4).channel.transport.outlet
    let after := (start.moment pack plenty 5).channel.transport.outlet
    plenty[4]? = some (.send 0) ∧ after ≠ before ∧ ∃ (size : UInt32) (frame : Bytes), size.toNat = 100 ∧
      Message.frame ⟨.current, .compressed .lz4 size (pack (List.replicate 100 7))⟩ = .ok frame ∧
      after = .pipe [frame] false := by
  intro pack start before after
  let p : Parcel := ⟨List.replicate 100 7, false⟩
  have hsize : p.bytes.length = 100 := List.length_replicate
  have hbefore : before = .pipe [] false := by decide +kernel
  have hparcels : (start.moment pack plenty 4).parcels = [some p] := by decide +kernel
  have hchanged : after ≠ before := by
    have hwire := wireLength_message_le pack (start.moment pack plenty 4).channel p
    obtain ⟨t, hsend⟩ := Transport.send_short hbefore
      (Nat.le_trans (Nat.add_le_add_right hwire 20) (by rw [hsize]; decide))
    obtain ⟨frame, -, rfl⟩ := Transport.send_eq_ok hbefore hsend
    have hafter : after = _ := moment_sent rfl (by rw [hparcels]; rfl)
    rw [hafter, hsend, hbefore]
    nofun
  obtain ⟨j, hj, q, payload, frames, frame, htook, hempty, hafter, hframe, hmessage⟩ :=
    compressed_iff pack 1 10 false plenty (i := 4) rfl hchanged
  obtain rfl : j = 3 := by
    have hdrains := htook.drains
    rcases (by omega : j = 0 ∨ j = 1 ∨ j = 2 ∨ j = 3) with rfl | rfl | rfl | rfl
    · cases hdrains
    · cases hdrains
    · cases hdrains
    · rfl
  obtain rfl : q = p := by
    have hchannel : (start.moment pack plenty 3).channel.host = some { queued := [p.bytes] } ∧
        (start.moment pack plenty 3).channel.isIsochronous = false := by decide +kernel
    obtain ⟨host, hhost, _, rfl⟩ := htook.took
    cases hchannel.1.symm.trans hhost
    rw [hchannel.2]
    rfl
  have hpays : Pays pack (announced (plenty.take 4)) false 10 p := by
    have hblock := Lz4.length_compress_uniform (Lz4.isUniform_replicate 100 7) (by rw [hsize]; decide)
    have hlast : announced (plenty.take 4) = some ⟨.current, .capabilities true⟩ := by decide +kernel
    refine ⟨⟨_, hlast, rfl, rfl⟩, rfl, rfl, ?_, ?_, ?_⟩
    · rw [hsize]
      decide
    · rw [hsize]
      decide
    · rw [hsize] at hblock ⊢
      exact Nat.lt_of_le_of_lt hblock (by decide)
  rcases hmessage with ⟨-, size, hq, rfl⟩ | ⟨hnot, -⟩
  · cases hbefore.symm.trans hempty
    exact ⟨rfl, hchanged, size, frame, hq.trans hsize, hframe, hafter⟩
  · exact absurd hpays hnot

end Channel
end RemoteUsb
