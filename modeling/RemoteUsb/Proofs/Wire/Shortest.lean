import RemoteUsb.Proofs.Wire.Slice

/-! # Nothing is shorter than what is written

Readers take more than what is written: numbers may be padded with zero groups, and what stands behind a
message is left alone. But what is read is never written longer than the bytes that were taken for it. This
is so of numbers, since the writer leaves no group out that a reader could do without, and from there of
everything that is made of them. So a message that was read can be written again, and if it came in a frame
then it has one, since that is not too large. -/

namespace RemoteUsb.Wire

/-! ## Numbers -/

namespace Varint

/-- What is read of groups is a number of the width that they may take. -/
theorem readGroups_lt {last : UInt8} {left : Nat} : ∀ {input rest : Bytes} {n : Nat},
    readGroups last (left + 1) input = .ok (n, rest) → n < 128 ^ left * (last.toNat + 1) := by
  induction left with
  | zero =>
    intro input rest n h
    cases input with
    | nil => cases h
    | cons b others =>
      rw [readGroups] at h
      split at h
      case isTrue hb =>
        split at h
        · cases h
        case isFalse hlast =>
          cases h
          rw [UInt8.lt_iff_toNat_lt] at hlast
          omega
      case isFalse hb => cases h
  | succ left ih =>
    intro input rest n h
    have hpos : 0 < 128 ^ left * (last.toNat + 1) :=
      Nat.mul_pos (Nat.pow_pos (by decide)) (Nat.succ_pos _)
    have hpow : 128 ^ (left + 1) * (last.toNat + 1) = 128 * (128 ^ left * (last.toNat + 1)) := by
      rw [Nat.pow_succ, Nat.mul_comm (128 ^ left) 128, Nat.mul_assoc]
    cases input with
    | nil => cases h
    | cons b others =>
      rw [readGroups] at h
      split at h
      case isTrue hb =>
        rw [if_neg (fun hfirst => absurd hfirst.1 (Nat.succ_ne_zero left))] at h
        cases h
        have : b.toNat < 128 := UInt8.lt_iff_toNat_lt.mp hb
        omega
      case isFalse hb =>
        simp only [bind_eq_ok, Prod.exists] at h
        obtain ⟨high, behind, hhigh, h⟩ := h
        cases h
        have := ih hhigh
        have := b.toNat_lt
        omega

/-- The groups that a number is read of are no fewer than those in which it is written. -/
theorem readGroups_written {last : UInt8} {left : Nat} : ∀ {input rest : Bytes} {n : Nat},
    readGroups last left input = .ok (n, rest) → (write n).length + rest.length ≤ input.length := by
  induction left with
  | zero => nofun
  | succ left ih =>
    intro input rest n h
    cases input with
    | nil => cases h
    | cons b others =>
      rw [readGroups] at h
      split at h
      case isTrue hb =>
        split at h
        · cases h
        · cases h
          have hsmall : b.toNat < 128 := UInt8.lt_iff_toNat_lt.mp hb
          rw [write, if_pos hsmall, List.length_singleton, List.length_cons]
          exact Nat.le_of_eq (Nat.add_comm ..)
      case isFalse hb =>
        simp only [bind_eq_ok, Prod.exists] at h
        obtain ⟨high, behind, hhigh, h⟩ := h
        cases h
        have hwritten := ih hhigh
        have := b.toNat_lt
        -- Padding is not written: of zero groups above the last one nothing remains.
        rw [write]
        split
        case isTrue =>
          rw [List.length_singleton, List.length_cons]
          omega
        case isFalse =>
          rw [show (b.toNat - 128 + 128 * high) / 128 = high by omega, List.length_cons, List.length_cons]
          omega

variable {input rest : Bytes} {n : Nat}

theorem read_written {w : Width} (h : read w input = .ok (n, rest)) :
    (write n).length + rest.length ≤ input.length := readGroups_written h

theorem read_word32_lt (h : read word32 input = .ok (n, rest)) : n < 2 ^ 32 :=
  @readGroups_lt word32.last 4 _ _ _ h

theorem read_word64_lt (h : read word64 input = .ok (n, rest)) : n < 2 ^ 64 :=
  @readGroups_lt word64.last 9 _ _ _ h

end Varint

/-! ## Messages -/

variable {input rest : Bytes}

theorem readByte_taken {b : UInt8} (h : readByte input = .ok (b, rest)) : input = b :: rest := by
  cases input with
  | nil => cases h
  | cons => cases h; rfl

theorem readBool_taken {b : Bool} (h : readBool input = .ok (b, rest)) :
    input.length = rest.length + 1 := by
  simp only [readBool, bind_eq_ok, Prod.exists] at h
  obtain ⟨byte, behind, hbyte, h⟩ := h
  rw [readByte_taken hbyte]
  split at h
  · cases h
    rfl
  · split at h
    · cases h
      rfl
    · cases h

theorem readBytes_written {bytes : Bytes} (h : readBytes input = .ok (bytes, rest)) :
    (writeBytes bytes).length + rest.length ≤ input.length ∧ bytes.length < 2 ^ 64 := by
  simp only [readBytes, bind_eq_ok, Prod.exists] at h
  obtain ⟨length, behind, hlength, h⟩ := h
  have hwritten := Varint.read_written hlength
  split at h
  · cases h
  · rename_i hwhole
    cases h
    rw [writeBytes, List.length_append, List.length_drop]
    rw [List.length_take] at hwhole ⊢
    have := Varint.read_word64_lt hlength
    rw [Nat.min_eq_left (by omega)]
    exact ⟨by omega, this⟩

theorem Compression.read_written {algorithm : Compression}
    (h : Compression.read input = .ok (algorithm, rest)) :
    algorithm.write.length + rest.length ≤ input.length := by
  simp only [Compression.read, bind_eq_ok, Prod.exists] at h
  obtain ⟨index, behind, hindex, h⟩ := h
  split at h
  · cases h
    exact Varint.read_written hindex
  · cases h

/-- The data that are read have a length that a reader takes. -/
theorem Payload.read_written {p : Payload} (h : Payload.read input = .ok (p, rest)) :
    p.write.length + rest.length ≤ input.length ∧ p.wireLength < 2 ^ 64 := by
  simp only [Payload.read, bind_eq_ok, Prod.exists] at h
  obtain ⟨index, behind, hindex, h⟩ := h
  have halternative := Varint.read_written hindex
  split at h
  · simp only [bind_eq_ok, Prod.exists] at h
    obtain ⟨compression, others, hcompression, h⟩ := h
    cases h
    have := readBool_taken hcompression
    simp only [Payload.write, Payload.wireLength, List.length_append, List.length_singleton]
    exact ⟨by omega, by decide⟩
  · simp only [bind_eq_ok, Prod.exists] at h
    obtain ⟨bytes, others, hbytes, h⟩ := h
    cases h
    obtain ⟨hwritten, hlength⟩ := readBytes_written hbytes
    simp only [Payload.write, Payload.wireLength, List.length_append]
    exact ⟨by omega, hlength⟩
  · simp only [bind_eq_ok, Prod.exists] at h
    obtain ⟨algorithm, sized, halgorithm, size, blocked, hsize, block, others, hblock, h⟩ := h
    cases h
    have := Compression.read_written halgorithm
    have := Varint.read_written hsize
    obtain ⟨hwritten, hlength⟩ := readBytes_written hblock
    have hnumber : size.toUInt32.toNat = size := by simpa using Varint.read_word32_lt hsize
    simp only [Payload.write, Payload.wireLength, List.length_append, hnumber]
    exact ⟨by omega, hlength⟩
  · cases h

theorem Message.read_written {m : Message} (h : Message.read input = .ok (m, rest)) :
    m.write.length + rest.length ≤ input.length ∧ m.payload.wireLength < 2 ^ 64 := by
  simp only [Message.read, Version.read, bind_eq_ok, Prod.exists] at h
  obtain ⟨version, behind, ⟨major, first, hmajor, minor, second, hminor, patch, third, hpatch, hversion⟩, payload,
    others, hpayload, h⟩ := h
  cases hversion
  cases h
  obtain ⟨hwritten, hlength⟩ := Payload.read_written hpayload
  rw [readByte_taken hmajor, readByte_taken hminor, readByte_taken hpatch]
  simp only [Message.write, List.length_cons]
  exact ⟨by omega, hlength⟩

theorem Message.decode_written {m : Message} (h : Message.decode input = .ok m) :
    m.write.length ≤ input.length ∧ Message.decode m.write = .ok m := by
  rw [Message.decode] at h
  cases hread : Message.read input with
  | error fault =>
    rw [hread] at h
    cases h
  | ok read =>
    obtain ⟨m', rest⟩ := read
    rw [hread] at h
    cases h
    obtain ⟨hwritten, hlength⟩ := Message.read_written hread
    exact ⟨Nat.le_of_add_right_le hwritten, Message.decode_write hlength⟩

/-- What is read as a message, in whatever spelling and with whatever behind it, is written again no longer
than it was, and read as the same message. What is taken out of a frame has a frame, no longer than what was
announced and read for it, and the same message is taken out of that. -/
theorem rewritten_no_longer :
    (∀ bytes m, Message.decode bytes = .ok m →
      m.write.length ≤ bytes.length ∧ Message.decode m.write = .ok m) ∧
    ∀ bytes m, Message.unframe bytes = .ok m →
      ∃ frame, m.frame = .ok frame ∧ frame.length ≤ 4 + readWord (bytes.take 4) ∧
        4 + readWord (bytes.take 4) ≤ bytes.length ∧ Message.unframe frame = .ok m := by
  refine ⟨fun bytes m h => Message.decode_written h, fun bytes m h => ?_⟩
  obtain ⟨answer, rest, hreads⟩ := exists_reads bytes
  obtain rfl := (hreads.agree.1 m).mpr h
  have hlong := hreads.taken.1
  cases hreads with
  | @message start body _ hheads hm rest =>
    have hshort := (Message.decode_written hm).1
    have hframe := Message.frame_eq_ok.mpr ⟨Nat.le_trans hshort hheads.fits, rfl⟩
    have hstart : (start ++ body ++ rest).take 4 = start := by
      rw [List.append_assoc, ← hheads.four, List.take_left]
    have hunframe := Message.unframe_frame hframe []
    rw [List.append_nil] at hunframe
    refine ⟨_, hframe, ?_, hlong, hunframe⟩
    rw [hstart, hheads.length, List.length_append]
    exact Nat.add_le_add_left hshort 4

/-- A message whose numbers are all padded, with a byte behind it. -/
example : Message.decode [1, 1, 0, 0x81, 0, 0x82, 0x80, 0, 7, 8, 9] = .ok ⟨⟨1, 1, 0⟩, .data [7, 8]⟩ ∧
    (Message.write ⟨⟨1, 1, 0⟩, .data [7, 8]⟩) = [1, 1, 0, 1, 2, 7, 8] := by decide +kernel

end RemoteUsb.Wire
