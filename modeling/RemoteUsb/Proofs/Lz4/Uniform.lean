import RemoteUsb.Lz4.Encoder
import Std.Data.HashMap.Lemmas

/-! How far uniform data shrink: a block for them is one match and has a byte for every 255 of the
data. -/

namespace RemoteUsb.Lz4

variable {data : Array UInt8} {b : UInt8}

def IsUniform (data : Array UInt8) (b : UInt8) : Prop := ∀ i < data.size, data.getD i 0 = b

theorem commonLength_uniform (hdata : IsUniform data b) {j i limit k : Nat} (hji : j ≤ i)
    (hk : i + k ≤ limit) (hlimit : limit ≤ data.size) :
    commonLength data j i limit k = limit - i := by
  fun_induction commonLength data j i limit k with
  | case1 k hstep ih => exact ih (by omega)
  | case2 k hstep =>
    have hend : ¬i + k < limit := fun hlt =>
      hstep ⟨hlt, (hdata (j + k) (by omega)).trans (hdata (i + k) (by omega)).symm⟩
    omega

theorem measureMatch?_uniform (hdata : IsUniform data b) (hsize : 13 ≤ data.size) :
    measureMatch? data 0 1 = some (data.size - 10) := by
  have hcommon : commonLength data 0 1 (data.size - 5) 0 = data.size - 6 :=
    commonLength_uniform hdata (Nat.zero_le 1) (by omega) (by omega)
  simp only [measureMatch?, hcommon]
  rw [if_pos (by decide), if_pos (by omega), Nat.sub_sub]

theorem wordAt_uniform (hdata : IsUniform data b) {i : Nat} (hi : i + 4 ≤ data.size) :
    wordAt data i = b.toUInt32 ||| (b.toUInt32 <<< 8) ||| (b.toUInt32 <<< 16) |||
      (b.toUInt32 <<< 24) := by
  rw [wordAt, hdata i (by omega), hdata (i + 1) (by omega), hdata (i + 2) (by omega),
    hdata (i + 3) (by omega)]

/-! ## The one match -/

theorem findSequences_new {places : Places} {start i : Nat} {found : Array Sequence}
    (hi : i + 12 ≤ data.size) (hnew : places[wordAt data i]? = none) :
    findSequences data places start i found =
      findSequences data (places.insert (wordAt data i) i) start (i + 1) found := by
  rw [findSequences, if_pos hi]
  simp only [Std.HashMap.get?_eq_getElem?, hnew]

theorem findSequences_match {places : Places} {start i j beyond : Nat} {found : Array Sequence}
    (hi : i + 12 ≤ data.size) (hseen : places[wordAt data i]? = some j)
    (hlong : measureMatch? data j i = some beyond) :
    findSequences data places start i found =
      findSequences data (places.insert (wordAt data i) i) (i + (beyond + 4)) (i + (beyond + 4))
        (found.push ⟨(data.extract start i).toList, i - j, beyond + 4⟩) := by
  rw [findSequences, if_pos hi]
  simp only [Std.HashMap.get?_eq_getElem?, hseen, hlong]

theorem findSequences_end {places : Places} {start i : Nat} {found : Array Sequence}
    (hi : data.size < i + 12) : findSequences data places start i found = (found, start) := by
  rw [findSequences, if_neg (Nat.not_le.mpr hi)]

/-- The first byte is a literal, and all but the last five bytes repeat it. -/
theorem findSequences_uniform (hdata : IsUniform data b) (hsize : 13 ≤ data.size) :
    findSequences data {} 0 0 #[] =
      (#[⟨(data.extract 0 1).toList, 1, data.size - 6⟩], data.size - 5) := by
  have hword : wordAt data 1 = wordAt data 0 :=
    (wordAt_uniform hdata (by omega)).trans (wordAt_uniform hdata (by omega)).symm
  rw [findSequences_new (by omega) Std.HashMap.getElem?_empty,
    findSequences_match (by omega) (by rw [hword, Std.HashMap.getElem?_insert_self])
      (measureMatch?_uniform hdata hsize),
    findSequences_end (by omega), show data.size - 10 + 4 = data.size - 6 by omega,
    show 0 + 1 + (data.size - 6) = data.size - 5 by omega]
  rfl

/-! ## Its size -/

theorem length_writeLength (n : Nat) : (writeLength n).2.length ≤ n / 255 + 1 := by
  unfold writeLength writeExtension
  split
  · exact Nat.zero_le _
  · simp only [List.length_append, List.length_replicate, List.length_singleton]
    omega

theorem length_write_le (s : Sequence) :
    s.write.length ≤ s.literals.length + s.literals.length / 255 + s.length / 255 + 5 := by
  have hliterals := length_writeLength s.literals.length
  have hmatch := length_writeLength (s.length - 4)
  simp only [Sequence.write, List.length_cons, List.length_append]
  omega

theorem length_writeLast_le (literals : Bytes) :
    (writeLast literals).length ≤ literals.length + literals.length / 255 + 2 := by
  have hliterals := length_writeLength literals.length
  simp only [writeLast, List.length_cons, List.length_append]
  omega

theorem length_compress_uniform {bytes : Bytes} (hdata : IsUniform bytes.toArray b)
    (hsize : 13 ≤ bytes.length) : (compress bytes).length ≤ bytes.length / 255 + 13 := by
  have hfirst : (bytes.toArray.extract 0 1).toList.length = 1 := by simp; omega
  have hrest : (bytes.toArray.extract (bytes.length - 5) bytes.length).toList.length = 5 := by
    simp; omega
  have hmatch := length_write_le ⟨(bytes.toArray.extract 0 1).toList, 1, bytes.length - 6⟩
  have hlast := length_writeLast_le (bytes.toArray.extract (bytes.length - 5) bytes.length).toList
  simp only [hfirst, hrest] at hmatch hlast
  simp only [compress, findSequences_uniform hdata hsize, List.size_toArray, List.flatMap_singleton,
    List.length_append]
  omega

theorem isUniform_replicate (n : Nat) (b : UInt8) : IsUniform (List.replicate n b).toArray b := by
  intro i hi
  simp only [List.size_toArray, List.length_replicate] at hi
  simp [hi]

end RemoteUsb.Lz4
