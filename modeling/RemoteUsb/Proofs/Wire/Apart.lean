import RemoteUsb.Proofs.Wire.Reading

/-! What is written tells where it ends: if the bytes of two messages, with anything behind them, are the
same, then the messages are the same, and so is what stands behind them. `written_read_back` says what that
means to a reader, of bare messages and of frames. -/

namespace RemoteUsb.Wire

namespace Varint

theorem toUInt8_inj {n k : Nat} (hn : n < 256) (hk : k < 256) (h : n.toUInt8 = k.toUInt8) : n = k := by
  rw [← toNat_toUInt8 hn, ← toNat_toUInt8 hk, h]

/-- The last byte of a number is the first one without the top bit. -/
theorem write_append_inj {n : Nat} :
    ∀ {k : Nat} {rest others : Bytes}, write n ++ rest = write k ++ others → n = k ∧ rest = others := by
  induction n using Nat.strongRecOn with
  | ind n ih =>
    intro k rest others h
    rw [write.eq_def n, write.eq_def k] at h
    split at h <;> split at h
    case isTrue.isTrue hn hk =>
      obtain ⟨hfirst, hrest⟩ := List.cons.inj h
      exact ⟨toUInt8_inj (by omega) (by omega) hfirst, hrest⟩
    case isTrue.isFalse hn hk =>
      have := toUInt8_inj (by omega) (by omega) (List.cons.inj h).1
      omega
    case isFalse.isTrue hn hk =>
      have := toUInt8_inj (by omega) (by omega) (List.cons.inj h).1
      omega
    case isFalse.isFalse hn hk =>
      obtain ⟨hfirst, hothers⟩ := List.cons.inj h
      have hlow := toUInt8_inj (by omega) (by omega) hfirst
      obtain ⟨hhigh, hrest⟩ := ih (n / 128) (by omega) hothers
      exact ⟨by omega, hrest⟩

end Varint

theorem writeBytes_append_inj {bytes other rest others : Bytes}
    (h : writeBytes bytes ++ rest = writeBytes other ++ others) : bytes = other ∧ rest = others := by
  rw [writeBytes, writeBytes, List.append_assoc, List.append_assoc] at h
  obtain ⟨hlength, h⟩ := Varint.write_append_inj h
  exact List.append_inj h hlength

theorem Compression.write_append_inj {a b : Compression} {rest others : Bytes}
    (h : a.write ++ rest = b.write ++ others) : a = b ∧ rest = others := by
  cases a
  cases b
  exact ⟨rfl, (Varint.write_append_inj h).2⟩

/-- The number of the alternative comes first, and tells which fields follow. -/
theorem Payload.write_append_inj {p q : Payload} {rest others : Bytes}
    (h : p.write ++ rest = q.write ++ others) : p = q ∧ rest = others := by
  cases p <;> cases q <;> simp only [Payload.write, List.append_assoc] at h <;>
    obtain ⟨halternative, hfields⟩ := Varint.write_append_inj h
  case capabilities.capabilities a b =>
    obtain ⟨hcompression, hrest⟩ := List.cons.inj hfields
    refine ⟨congrArg Payload.capabilities ?_, hrest⟩
    cases a <;> cases b <;> first | rfl | cases hcompression
  case data.data =>
    obtain ⟨hbytes, hrest⟩ := writeBytes_append_inj hfields
    exact ⟨congrArg Payload.data hbytes, hrest⟩
  case compressed.compressed =>
    obtain ⟨halgorithm, hsized⟩ := Compression.write_append_inj hfields
    obtain ⟨hsize, hblock⟩ := Varint.write_append_inj hsized
    obtain ⟨hbytes, hrest⟩ := writeBytes_append_inj hblock
    exact ⟨by rw [halgorithm, UInt32.toNat_inj.mp hsize, hbytes], hrest⟩
  all_goals cases halternative

theorem Message.write_append_inj {m other : Message} {rest others : Bytes}
    (h : m.write ++ rest = other.write ++ others) : m = other ∧ rest = others := by
  simp only [Message.write, List.cons_append, List.cons.injEq] at h
  obtain ⟨hmajor, hminor, hpatch, h⟩ := h
  obtain ⟨hpayload, hrest⟩ := Payload.write_append_inj h
  refine ⟨?_, hrest⟩
  obtain ⟨⟨major, minor, patch⟩, payload⟩ := m
  obtain ⟨⟨major', minor', patch'⟩, payload'⟩ := other
  simp_all

theorem Message.frame_eq_error {m : Message} {e : WireError} :
    m.frame = .error e ↔
      frameLimit < m.write.length ∧ e = .frameTooLarge m.write.length frameLimit := by
  by_cases h : frameLimit < m.write.length
  · have hcheck : checkLength m.write.length = .error (.frameTooLarge m.write.length frameLimit) := if_pos h
    simp only [Message.frame, hcheck, bind, Except.bind, Except.error.injEq, h, true_and]
    exact eq_comm
  · have hframe := Message.frame_eq_ok.mpr ⟨Nat.le_of_not_lt h, rfl⟩
    rw [hframe]
    exact ⟨nofun, fun hlong => absurd hlong.1 h⟩

/-- What is written for a message is read as that message, whatever stands behind it, so it is never the
beginning of what is written for another one. A message has a frame exactly if it is not too long for one,
and then the frame is taken apart into the message, whatever stands behind it. (The readers take lengths of
64 bits, and no string of bytes is longer than that.) -/
theorem written_read_back (m : Message) (hm : m.payload.wireLength < 2 ^ 64) :
    (∀ rest, Message.decode (m.write ++ rest) = .ok m) ∧
      (∀ other : Message, m.write <+: other.write → other = m) ∧
      (∀ e, m.frame = .error e ↔
        frameLimit < m.write.length ∧ e = .frameTooLarge m.write.length frameLimit) ∧
      (m.write.length ≤ frameLimit → ∃ frame, m.frame = .ok frame ∧
        ∀ rest, Message.unframe (frame ++ rest) = .ok m) := by
  refine ⟨fun rest => ?_, fun other ⟨rest, hother⟩ => ?_, fun e => Message.frame_eq_error, fun hfits => ?_⟩
  · rw [Message.decode, Message.read_write hm]
    rfl
  · rw [← List.append_nil other.write] at hother
    exact (Message.write_append_inj hother).1.symm
  · have hframe := Message.frame_eq_ok.mpr ⟨hfits, rfl⟩
    exact ⟨_, hframe, Message.unframe_frame hframe⟩

/-- A compressed message whose numbers take two bytes each. -/
def wide : Message := ⟨⟨1, 200, 255⟩, .compressed .lz4 300 (List.replicate 130 0xff)⟩

theorem wide_message_read_back :
    wide.payload.wireLength < 2 ^ 64 ∧ wide.write.length = 139 ∧
      (∀ rest, Message.decode (wide.write ++ rest) = .ok wide) ∧
      ∃ frame, wide.frame = .ok frame ∧ ∀ rest, Message.unframe (frame ++ rest) = .ok wide := by
  have hlength : wide.payload.wireLength < 2 ^ 64 := by decide +kernel
  have hwritten : wide.write.length = 139 := by
    simp [wide, Message.write, Payload.write, Compression.write, writeBytes, Varint.write]
  obtain ⟨hdecode, _, _, hframe⟩ := written_read_back wide hlength
  exact ⟨hlength, hwritten, hdecode, hframe (by rw [hwritten]; decide)⟩

end RemoteUsb.Wire
