import RemoteUsb.Lz4.Encoder

/-! Lengths, literals and matches are read back as they were written, and the sequences of a block
rebuild the data that they were taken from, each continuing the part that stands already. -/

namespace RemoteUsb.Lz4

/-! ## Lengths -/

theorem readExtension_replicate (k : Nat) {b : UInt8} (hb : b ≠ 255) (rest : Bytes) :
    ∀ n, readExtension n (List.replicate k 255 ++ b :: rest) =
      .ok (n + 255 * k + b.toNat, rest) := by
  induction k with
  | zero => exact fun n => if_neg hb
  | succ k ih =>
    intro n
    rw [List.replicate_succ, List.cons_append, readExtension, if_pos rfl, ih]
    congr 2
    omega

theorem readExtension_write (n m : Nat) (rest : Bytes) :
    readExtension n (writeExtension m ++ rest) = .ok (n + m, rest) := by
  have hlast : (m % 255).toUInt8.toNat = m % 255 := by simp; omega
  have hshort : (m % 255).toUInt8 ≠ 255 := by
    intro h
    rw [h] at hlast
    have : (255 : UInt8).toNat = 255 := rfl
    omega
  rw [writeExtension, List.append_assoc, List.singleton_append, readExtension_replicate _ hshort,
    hlast]
  congr 2
  omega

theorem readLength_write (n : Nat) (rest : Bytes) :
    readLength (writeLength n).1 ((writeLength n).2 ++ rest) = .ok (n, rest) := by
  unfold writeLength readLength
  split
  case isTrue h => rw [if_neg (by simp only; omega), List.nil_append]
  case isFalse h =>
    rw [if_pos rfl, readExtension_write]
    congr 2
    omega

theorem writeLength_half (n : Nat) : (writeLength n).1 ≤ 15 := by
  unfold writeLength
  split <;> simp only <;> omega

/-- Both halves of a token are read back. -/
theorem token_halves {high low : Nat} (hhigh : high ≤ 15) (hlow : low ≤ 15) :
    (high * 16 + low).toUInt8.toNat / 16 = high ∧ (high * 16 + low).toUInt8.toNat % 16 = low := by
  have : (high * 16 + low).toUInt8.toNat = high * 16 + low := by simp; omega
  omega

/-! ## Literals and matches -/

theorem readLiterals_append {size : Nat} {literals : Bytes} {out : Array UInt8}
    (hroom : out.size + literals.length ≤ size) (rest : Bytes) :
    readLiterals size literals.length (literals ++ rest) out = .ok (out ++ literals, rest) := by
  simp only [readLiterals, List.take_left, List.drop_left]
  rw [if_neg (Nat.lt_irrefl _), if_neg (by omega)]

/-- The `length` bytes of the data from `i` on are those that start `offset` places before, and a
block can say so. -/
structure IsMatch (data : Array UInt8) (offset i length : Nat) : Prop where
  offset_pos : 0 < offset
  offset_le : offset ≤ i
  offset_short : offset < 65536
  length_le : 4 ≤ length
  within : i + length ≤ data.size
  same : ∀ k < length, data.getD (i + k - offset) 0 = data.getD (i + k) 0

theorem extract_push {data : Array UInt8} {i : Nat} (h : i < data.size) :
    (data.extract 0 i).push (data.getD i 0) = data.extract 0 (i + 1) := by
  rw [Array.extract_succ_right (Nat.succ_pos i) h]
  simp [h]

theorem getD_extract {data : Array UInt8} {i j : Nat} (h : j < i) (hi : i ≤ data.size) :
    (data.extract 0 i).getD j 0 = data.getD j 0 := by
  have hlt : j < min i data.size - 0 := by omega
  rw [Array.getD_eq_getD_getElem?, Array.getElem?_extract, if_pos hlt, Nat.zero_add,
    Array.getD_eq_getD_getElem?]

theorem copyBack_extract {data : Array UInt8} {offset : Nat} (hpos : 0 < offset) (length : Nat) :
    ∀ i, offset ≤ i → i + length ≤ data.size →
      (∀ k < length, data.getD (i + k - offset) 0 = data.getD (i + k) 0) →
      copyBack offset length (data.extract 0 i) = data.extract 0 (i + length) := by
  induction length with
  | zero => exact fun i _ _ _ => rfl
  | succ length ih =>
    intro i hle hwithin hsame
    -- The byte that is copied is the next one of the data, so a match may run into its own output.
    have hsize : (data.extract 0 i).size = i := by simp; omega
    have hfirst : (data.extract 0 i).getD (i - offset) 0 = data.getD i 0 := by
      rw [getD_extract (by omega) (by omega)]
      exact hsame 0 (Nat.succ_pos length)
    rw [copyBack, hsize, hfirst, extract_push (by omega), ih (i + 1) (by omega) (by omega)]
    · rw [Nat.add_right_comm, Nat.add_assoc]
    · intro k hk
      have := hsame (k + 1) (by omega)
      rwa [show i + (k + 1) = i + 1 + k by omega] at this

theorem extract_append {data : Array UInt8} {start i : Nat} (h : start ≤ i) :
    data.extract 0 start ++ (data.extract start i).toList = data.extract 0 i := by
  calc data.extract 0 start ++ (data.extract start i).toList
      = data.extract 0 start ++ data.extract start i :=
        Array.ext' (by rw [Array.toList_appendList, Array.toList_append])
    _ = data.extract 0 i := by
        rw [Array.extract_append_extract, Nat.min_eq_left (Nat.zero_le _), Nat.max_eq_right h]

/-- The two bytes of an offset, the lower first. -/
theorem offset_bytes {offset : Nat} (h : offset < 65536) :
    (offset % 256).toUInt8.toNat + 256 * (offset / 256).toUInt8.toNat = offset := by
  have hlow : (offset % 256).toUInt8.toNat = offset % 256 := by simp
  have hhigh : (offset / 256).toUInt8.toNat = offset / 256 := by simp; omega
  omega

theorem readMatch_write {data : Array UInt8} {offset i length : Nat}
    (hm : IsMatch data offset i length) (rest : Bytes) :
    readMatch data.size (writeLength (length - 4)).1
        ((offset % 256).toUInt8 :: (offset / 256).toUInt8 :: ((writeLength (length - 4)).2 ++ rest))
        (data.extract 0 i) =
      .ok (data.extract 0 (i + length), rest) := by
  obtain ⟨hpos, hle, hshort, hlength, hwithin, hsame⟩ := hm
  have hsize : (data.extract 0 i).size = i := by simp; omega
  simp only [readMatch, offset_bytes hshort, readLength_write, bind, Except.bind, pure, Except.pure,
    throw, throwThe, MonadExceptOf.throw, hsize, Nat.sub_add_cancel hlength]
  rw [if_neg (by omega), if_neg (by omega), if_neg (by omega),
    copyBack_extract hpos length i hle hwithin hsame]

/-! ## Sequences -/

/-- The sequence continues the data from `start` up to `stop`. -/
structure Continues (data : Array UInt8) (start stop : Nat) (s : Sequence) : Prop where
  start_le : start + s.length ≤ stop
  literals_eq : s.literals = (data.extract start (stop - s.length)).toList
  isMatch : IsMatch data s.offset (stop - s.length) s.length

theorem readSequence_write {data : Array UInt8} {start stop : Nat} {s : Sequence}
    (hs : Continues data start stop s) (rest : Bytes) :
    readSequence data.size (s.write ++ rest) (data.extract 0 start) =
      .ok (data.extract 0 stop, some rest) := by
  obtain ⟨hstart, hliterals, hm⟩ := hs
  have hwithin := hm.within
  have hlen : s.literals.length = stop - s.length - start := by
    rw [hliterals]; simp; omega
  have hsize : (data.extract 0 start).size = start := by simp; omega
  obtain ⟨hhigh, hlow⟩ := token_halves (writeLength_half s.literals.length)
    (writeLength_half (s.length - 4))
  simp only [Sequence.write, List.cons_append, List.append_assoc, readSequence, hhigh, hlow,
    readLength_write]
  rw [readLiterals_append (by omega), hliterals, extract_append (by omega)]
  simp only [readMatch_write hm]
  rw [Nat.sub_add_cancel (by omega)]

theorem readSequence_last {data : Array UInt8} {start : Nat} (h : start ≤ data.size) :
    readSequence data.size (writeLast (data.extract start data.size).toList)
      (data.extract 0 start) = .ok (data, none) := by
  have hwhole : data.extract 0 start ++ (data.extract start data.size).toList = _ :=
    extract_append h
  have hroom : (data.extract 0 start).size + (data.extract start data.size).toList.length ≤
      data.size := by
    simp; omega
  generalize (data.extract start data.size).toList = literals at hwhole hroom ⊢
  have hhigh := (token_halves (writeLength_half literals.length) (Nat.zero_le 15)).1
  have hread := readLiterals_append hroom []
  rw [Nat.add_zero] at hhigh
  rw [List.append_nil] at hread
  simp only [writeLast, readSequence, hhigh, readLength_write]
  rw [hread, hwhole, Array.extract_size]

end RemoteUsb.Lz4
