import RemoteUsb.Proofs.Lz4.Sequences

/-! Unpacking what was packed gives the bytes back. The finder of matches is never trusted: a place
is used only after its bytes were compared, and that alone makes the sequences continue the data. -/

namespace RemoteUsb.Lz4

variable {data : Array UInt8}

/-! ## Matches that were measured -/

theorem commonLength_within {j i limit k : Nat} (h : i + k ≤ limit) :
    i + commonLength data j i limit k ≤ limit := by
  fun_induction commonLength data j i limit k with
  | case1 k hstep ih => exact ih (by omega)
  | case2 k hstep => exact h

theorem commonLength_same {j i limit k : Nat}
    (hknown : ∀ m < k, data.getD (j + m) 0 = data.getD (i + m) 0) :
    ∀ m < commonLength data j i limit k, data.getD (j + m) 0 = data.getD (i + m) 0 := by
  fun_induction commonLength data j i limit k with
  | case1 k hstep ih =>
    refine ih fun m hm => ?_
    rcases Nat.lt_succ_iff_lt_or_eq.mp hm with hlt | rfl
    · exact hknown m hlt
    · exact hstep.2
  | case2 k hstep => exact hknown

theorem isMatch_of_measured {j i beyond : Nat} (hi : i + 12 ≤ data.size)
    (h : measureMatch? data j i = some beyond) :
    IsMatch data (i - j) i (beyond + 4) := by
  simp only [measureMatch?] at h
  split at h
  case isFalse => cases h
  case isTrue hback =>
    split at h
    case isFalse => cases h
    case isTrue hlong =>
      cases h
      rw [Nat.sub_add_cancel hlong]
      have hwithin : i + commonLength data j i (data.size - 5) 0 ≤ data.size - 5 :=
        commonLength_within (by omega)
      have hsame : ∀ m < commonLength data j i (data.size - 5) 0,
          data.getD (j + m) 0 = data.getD (i + m) 0 :=
        commonLength_same fun m hm => absurd hm (Nat.not_lt_zero m)
      exact {
        offset_pos := by omega
        offset_le := by omega
        offset_short := by omega
        length_le := hlong
        within := by omega
        same := fun k hk => by
          rw [show i + k - (i - j) = j + k by omega]
          exact hsame k hk }

/-! ## Sequences that were found -/

/-- The sequences rebuild the data up to a place. They grow at the end, as the finder finds them, and
what is read goes the same way. -/
inductive Rebuilds (data : Array UInt8) : List Sequence → Nat → Prop
  | nil : Rebuilds data [] 0
  | snoc {found start stop s} (hfound : Rebuilds data found start)
      (hs : Continues data start stop s) : Rebuilds data (found ++ [s]) stop

theorem readBlock_more {size : Nat} {input rest : Bytes} {out out' : Array UInt8}
    (h : readSequence size input out = .ok (out', some rest)) :
    readBlock size input out = readBlock size rest out' := by
  rw [readBlock]
  split <;> simp_all

theorem readBlock_last {size : Nat} {input : Bytes} {out out' : Array UInt8}
    (h : readSequence size input out = .ok (out', none)) : readBlock size input out = .ok out' := by
  rw [readBlock]
  split <;> simp_all

theorem Rebuilds.readBlock {found : List Sequence} {start : Nat} (h : Rebuilds data found start) :
    ∀ rest, readBlock data.size (found.flatMap Sequence.write ++ rest) #[] =
      Lz4.readBlock data.size rest (data.extract 0 start) := by
  induction h with
  | nil => exact fun rest => by simp
  | snoc _ hs ih =>
    intro rest
    rw [List.flatMap_append, List.append_assoc, ih, List.flatMap_singleton,
      readBlock_more (readSequence_write hs rest)]

theorem findSequences_rebuilds (places : Places) {start i : Nat} {found : Array Sequence}
    (hstart : start ≤ i) (hsize : start ≤ data.size) (hfound : Rebuilds data found.toList start) :
    Rebuilds data (findSequences data places start i found).1.toList
        (findSequences data places start i found).2 ∧
      (findSequences data places start i found).2 ≤ data.size := by
  fun_induction findSequences data places start i found with
  | case1 places start i found hi word earlier later hnew ih => exact ih (by omega) hsize hfound
  | case2 places start i found hi word earlier later j hj hno ih =>
    exact ih (by omega) hsize hfound
  | case3 places start i found hi word earlier later j hj beyond hlong length literals ih =>
    have hm := isMatch_of_measured hi hlong
    refine ih (Nat.le_refl _) hm.within ?_
    rw [Array.toList_push]
    exact hfound.snoc {
      start_le := Nat.add_le_add_right hstart _
      literals_eq := by simp only [Nat.add_sub_cancel]; rfl
      isMatch := by simp only [Nat.add_sub_cancel]; exact hm }
  | case4 places start i found hi => exact ⟨hfound, hsize⟩

/-- Packed bytes are unpacked to themselves. -/
theorem decompress_compress (bytes : Bytes) :
    decompress (compress bytes) bytes.length = .ok bytes := by
  obtain ⟨hfound, hstop⟩ :=
    findSequences_rebuilds {} (Nat.le_refl 0) (Nat.zero_le _) (@Rebuilds.nil bytes.toArray)
  have hread := hfound.readBlock (writeLast (bytes.toArray.extract
    (findSequences bytes.toArray {} 0 0 #[]).2 bytes.toArray.size).toList)
  rw [readBlock_last (readSequence_last hstop)] at hread
  exact congrArg (Except.map Array.toList) hread

end RemoteUsb.Lz4
