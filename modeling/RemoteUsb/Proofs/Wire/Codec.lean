import RemoteUsb.Proofs.Wire.Varint
import RemoteUsb.Wire.Codec

/-! What is written as a message is read back as that message, and what follows it is left alone. -/

namespace RemoteUsb.Wire

theorem readBytes_write {bytes : Bytes} (hlen : bytes.length < 2 ^ 64) (rest : Bytes) :
    readBytes (writeBytes bytes ++ rest) = .ok (bytes, rest) := by
  simp only [readBytes, writeBytes, List.append_assoc, bind, Except.bind,
    Varint.read_write_word64 hlen]
  rw [List.take_left, List.drop_left, if_neg (Nat.lt_irrefl _)]
  rfl

theorem Compression.read_write (algorithm : Compression) (rest : Bytes) :
    Compression.read (algorithm.write ++ rest) = .ok (algorithm, rest) := by
  cases algorithm
  simp only [Compression.read, Compression.write, bind, Except.bind,
    Varint.read_write_word32 (n := 0) (by decide)]
  rfl

theorem readBool_cons (b : Bool) (rest : Bytes) :
    readBool ((if b then 1 else 0) :: rest) = .ok (b, rest) := by
  cases b <;> rfl

/-- The reader takes lengths of 64 bits. -/
theorem Payload.read_write {p : Payload} (hlen : p.wireLength < 2 ^ 64) (rest : Bytes) :
    Payload.read (p.write ++ rest) = .ok (p, rest) := by
  cases p with
  | capabilities compression =>
    simp only [Payload.read, Payload.write, List.append_assoc, bind, Except.bind,
      Varint.read_write_word32 (n := 0) (by decide), List.singleton_append, readBool_cons]
    rfl
  | data bytes =>
    simp only [Payload.read, Payload.write, List.append_assoc, bind, Except.bind,
      Varint.read_write_word32 (n := 1) (by decide), readBytes_write hlen]
    rfl
  | compressed algorithm size block =>
    simp only [Payload.read, Payload.write, List.append_assoc, bind, Except.bind,
      Varint.read_write_word32 (n := 2) (by decide), Compression.read_write,
      Varint.read_write_word32 size.toNat_lt, readBytes_write hlen]
    simp [pure, Except.pure]

theorem Payload.wireLength_le_write (p : Payload) : p.wireLength ≤ p.write.length := by
  cases p <;> simp only [Payload.wireLength, Payload.write, writeBytes, List.length_append] <;> omega

/-- The numbers before the data take at most seventeen bytes. -/
theorem Payload.length_write_le {p : Payload} (hlen : p.wireLength < 2 ^ 64) :
    p.write.length ≤ p.wireLength + 17 := by
  have htag := Varint.length_write_le 0
  have hlength := Varint.length_write_le 9
  cases p with
  | capabilities compression =>
    have := htag 0 (by decide)
    simp only [Payload.write, Payload.wireLength, List.length_append, List.length_singleton]
    omega
  | data bytes =>
    have := htag 1 (by decide)
    have := hlength bytes.length (Nat.lt_trans hlen (by decide))
    simp only [Payload.write, Payload.wireLength, writeBytes, List.length_append]
    omega
  | compressed algorithm size block =>
    have := htag 2 (by decide)
    have : algorithm.write.length ≤ 1 := by
      cases algorithm
      exact htag 0 (by decide)
    have := Varint.length_write_le 4 size.toNat (Nat.lt_trans size.toNat_lt (by decide))
    have := hlength block.length (Nat.lt_trans hlen (by decide))
    simp only [Payload.write, Payload.wireLength, writeBytes, List.length_append]
    omega

theorem Message.read_write {m : Message} (hlen : m.payload.wireLength < 2 ^ 64) (rest : Bytes) :
    Message.read (m.write ++ rest) = .ok (m, rest) := by
  simp only [Message.read, Message.write, Version.read, List.cons_append, readByte, bind, Except.bind,
    pure, Except.pure, Payload.read_write hlen]

theorem Message.decode_write {m : Message} (hlen : m.payload.wireLength < 2 ^ 64) :
    Message.decode m.write = .ok m := by
  have := Message.read_write hlen []
  rw [List.append_nil] at this
  rw [Message.decode, this]
  rfl

end RemoteUsb.Wire
