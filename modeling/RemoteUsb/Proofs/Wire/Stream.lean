import RemoteUsb.Proofs.Wire.Codec
import RemoteUsb.Wire.Stream

/-! A frame at the front of a stream is read as its message, and the stream behind it stays, whatever
the pieces in which the bytes arrive. -/

namespace RemoteUsb.Wire

/-! ## Frames -/

theorem readWord_writeWord {n : Nat} (h : n < 2 ^ 32) : readWord (writeWord n) = n := by
  simp only [readWord, writeWord, List.foldl_cons, List.foldl_nil]
  rw [Varint.toNat_toUInt8 (by omega), Varint.toNat_toUInt8 (by omega),
    Varint.toNat_toUInt8 (by omega), Varint.toNat_toUInt8 (by omega)]
  omega

theorem checkLength_ok {n : Nat} (h : n ≤ frameLimit) : checkLength n = .ok () :=
  if_neg (Nat.not_lt.mpr h)

/-- Exactly the messages that are not too long have a frame. -/
theorem Message.frame_eq_ok {m : Message} {frame : Bytes} :
    m.frame = .ok frame ↔
      m.write.length ≤ frameLimit ∧ frame = writeWord m.write.length ++ m.write := by
  unfold Message.frame checkLength
  by_cases h : m.write.length ≤ frameLimit
  · simp only [if_neg (Nat.not_lt.mpr h), bind, Except.bind, pure, Except.pure, h, true_and,
      Except.ok.injEq]
    exact eq_comm
  · simp only [if_pos (Nat.lt_of_not_le h), bind, Except.bind, h, false_and, reduceCtorEq]

/-- Twenty bytes of a frame are enough for what is not data. -/
theorem Message.exists_frame {m : Message} (h : m.payload.wireLength + 20 ≤ frameLimit) :
    ∃ frame, m.frame = .ok frame := by
  have hlimit : frameLimit < 2 ^ 64 := by decide
  have hlen := Payload.length_write_le (p := m.payload) (by omega)
  refine ⟨_, Message.frame_eq_ok.mpr ⟨?_, rfl⟩⟩
  simp only [Message.write, List.length_cons]
  omega

/-- What stands before a body in a frame: its length. -/
structure Heads (start body : Bytes) : Prop where
  four : start.length = 4
  length : readWord start = body.length
  fits : body.length ≤ frameLimit

/-- The frame of a message is its length and its bytes, which are read as the message. -/
theorem Message.heads_of_frame {m : Message} {frame : Bytes} (h : m.frame = .ok frame) :
    ∃ start, frame = start ++ m.write ∧ Heads start m.write ∧ Message.decode m.write = .ok m := by
  obtain ⟨hfits, rfl⟩ := Message.frame_eq_ok.mp h
  have hlimit : frameLimit < 2 ^ 32 := by decide
  have hwire : m.payload.wireLength < 2 ^ 64 := by
    have := m.payload.wireLength_le_write
    simp only [Message.write, List.length_cons] at hfits
    omega
  exact ⟨_, rfl, ⟨rfl, readWord_writeWord (Nat.lt_of_le_of_lt hfits hlimit), hfits⟩,
    Message.decode_write hwire⟩

/-! ## Pieces -/

namespace Stream

theorem next?_flatten (s : Stream) (b : UInt8) (rest : Bytes) (h : s.flatten = b :: rest) :
    ∃ s', s.next? = (some b, s') ∧ s'.flatten = rest := by
  induction s with
  | nil => cases h
  | cons piece s ih =>
    cases piece with
    | nil => exact ih h
    | cons c piece =>
      rw [List.flatten_cons, List.cons_append, List.cons.injEq] at h
      exact ⟨piece :: s, by rw [next?, h.1], h.2⟩

theorem take?_flatten (s : Stream) :
    ∀ n ≤ s.flatten.length,
      ∃ s', s.take? n = (some (s.flatten.take n), s') ∧ s'.flatten = s.flatten.drop n := by
  induction s with
  | nil =>
    intro n h
    obtain rfl := Nat.le_zero.mp h
    exact ⟨[], rfl, rfl⟩
  | cons piece s ih =>
    intro n h
    cases n with
    | zero => exact ⟨piece :: s, rfl, rfl⟩
    | succ n =>
      simp only [take?, List.flatten_cons, List.take_append, List.drop_append, List.length_take]
      rcases Nat.le_total (n + 1) piece.length with hle | hle
      · have hmissing : n + 1 - piece.length = 0 := Nat.sub_eq_zero_of_le hle
        rw [Nat.min_eq_left hle, Nat.sub_self, if_pos rfl, hmissing]
        exact ⟨_, by rw [List.take_zero, List.append_nil], rfl⟩
      · rw [Nat.min_eq_right hle, List.take_of_length_le hle, List.drop_of_length_le hle,
          List.nil_append]
        split
        case isTrue hmissing =>
          rw [hmissing, List.take_zero, List.append_nil]
          exact ⟨_, rfl, List.nil_append _⟩
        case isFalse hmissing =>
          rw [List.flatten_cons, List.length_append] at h
          obtain ⟨s', htake, hrest⟩ := ih (n + 1 - piece.length) (by omega)
          rw [htake]
          exact ⟨s', rfl, hrest⟩

/-- Bytes at the front of a stream are taken as they are. -/
theorem take?_append {s : Stream} {front rest : Bytes} (h : s.flatten = front ++ rest) :
    ∃ s', s.take? front.length = (some front, s') ∧ s'.flatten = rest := by
  have := take?_flatten s front.length (by rw [h, List.length_append]; exact Nat.le_add_right ..)
  rwa [h, List.take_left, List.drop_left] at this

/-- The length of a frame is read in two parts, and the body is still to come. -/
theorem take_start {s : Stream} {start rest : Bytes} (hstart : start.length = 4)
    (hs : s.flatten = start ++ rest) :
    ∃ first others s₁ s₂, start = first :: others ∧ s.next? = (some first, s₁) ∧
      s₁.take? 3 = (some others, s₂) ∧ s₂.flatten = rest := by
  match start, hstart with
  | first :: others, hstart =>
    obtain ⟨s₁, hfirst, hs₁⟩ := next?_flatten s _ _ hs
    obtain ⟨s₂, hothers, hs₂⟩ := take?_append hs₁
    rw [show others.length = 3 from Nat.succ.inj hstart] at hothers
    exact ⟨first, others, s₁, s₂, rfl, hfirst, hothers, hs₂⟩

end Stream

/-! ## Messages -/

/-- A body that is there is decoded, and what follows it is left alone. -/
theorem Heads.next {start body rest : Bytes} (h : Heads start body) {s : Stream}
    (hs : s.flatten = start ++ body ++ rest) :
    ∃ s', Message.next s = ((Message.decode body).map some, s') ∧ s'.flatten = rest := by
  rw [List.append_assoc] at hs
  obtain ⟨first, others, s₁, s₂, rfl, hfirst, hothers, hs₂⟩ := Stream.take_start h.four hs
  obtain ⟨s₃, hbody, hs₃⟩ := Stream.take?_append hs₂
  exact ⟨s₃, by simp only [Message.next, hfirst, hothers, h.length, checkLength_ok h.fits, hbody], hs₃⟩

theorem Message.next_frame {m : Message} {frame rest : Bytes} {s : Stream}
    (hframe : m.frame = .ok frame) (hs : s.flatten = frame ++ rest) :
    ∃ s', Message.next s = (.ok (some m), s') ∧ s'.flatten = rest := by
  obtain ⟨start, rfl, hheads, hdecode⟩ := Message.heads_of_frame hframe
  obtain ⟨s', hnext, hrest⟩ := hheads.next hs
  exact ⟨s', by rw [hnext, hdecode]; rfl, hrest⟩

/-- Every payload means to the receiver what it meant to a sender of the current version. -/
theorem Message.accepted_current (payload : Payload) :
    (Message.mk .current payload).accepted = payload := by
  cases payload with
  | capabilities compression => exact congrArg Payload.capabilities (Bool.and_true compression)
  | data | compressed => rfl

theorem Payload.receive_frame {payload : Payload} {frame rest : Bytes} {s : Stream}
    (hframe : Message.frame ⟨.current, payload⟩ = .ok frame) (hs : s.flatten = frame ++ rest) :
    ∃ s', Payload.receive s = (.ok (some payload), s') ∧ s'.flatten = rest := by
  obtain ⟨s', hnext, hrest⟩ := Message.next_frame hframe hs
  refine ⟨s', ?_, hrest⟩
  rw [Payload.receive, hnext]
  simp only [Message.accepted_current]
  rfl

end RemoteUsb.Wire
