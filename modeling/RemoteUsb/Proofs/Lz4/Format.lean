import RemoteUsb.Proofs.Lz4.RoundTrip

/-! What the format says that a block stands for, and that this is what is read. A length is half a token
with extension bytes behind it. A sequence has literals, and a match that repeats bytes from a distance,
perhaps its own; the last one ends with its literals. A block that has this form stands for one row of
bytes, and the reader gives that row if it fits the output, and a fault in all other cases. -/

namespace RemoteUsb.Lz4

/-- Half a token and the bytes behind it say that a length is `n`. A full half goes on with bytes of which
each counts, and the first one below 255 is the last. -/
inductive Says : Nat → Bytes → Nat → Prop
  | short {half : Nat} (_ : half < 15) : Says half [] half
  | full (k : Nat) {last : UInt8} (_ : last ≠ 255) :
    Says 15 (List.replicate k 255 ++ [last]) (15 + 255 * k + last.toNat)

/-- Each of the bytes that were `copied` is the one at a distance before it, which may be a copy itself. -/
def Repeats (distance : Nat) (before copied : Bytes) : Prop :=
  ∀ i < copied.length,
    (before ++ copied)[before.length + i]? = (before ++ copied)[before.length + i - distance]?

/-- The rest of a block, behind what stands already, stands for `bytes`. -/
inductive Stands : Bytes → Bytes → Bytes → Prop
  | last {before extra literals : Bytes} {token : UInt8}
      (_ : Says (token.toNat / 16) extra literals.length) :
    Stands before (token :: (extra ++ literals)) literals
  | more {before extra literals extra' copied rest bytes : Bytes} {token low high : UInt8} {n : Nat}
      (_ : Says (token.toNat / 16) extra literals.length)
      (_ : 0 < low.toNat + 256 * high.toNat)
      (_ : low.toNat + 256 * high.toNat ≤ (before ++ literals).length)
      (_ : Says (token.toNat % 16) extra' n) (_ : copied.length = n + 4)
      (_ : Repeats (low.toNat + 256 * high.toNat) (before ++ literals) copied)
      (_ : Stands (before ++ literals ++ copied) rest bytes) :
    Stands before (token :: (extra ++ (literals ++ low :: high :: (extra' ++ rest))))
      (literals ++ (copied ++ bytes))

variable {size half n : Nat} {input rest : Bytes} {out out' : Array UInt8}

/-! ## Lengths -/

theorem readExtension_eq_ok {m : Nat} : readExtension n input = .ok (m, rest) ↔
    ∃ k last, last ≠ 255 ∧ input = List.replicate k 255 ++ last :: rest ∧ m = n + 255 * k + last.toNat := by
  constructor
  · intro h
    induction input generalizing n with
    | nil => cases h
    | cons b input ih =>
      rw [readExtension] at h
      split at h
      case isTrue hb =>
        obtain ⟨k, last, hlast, rfl, rfl⟩ := ih h
        exact ⟨k + 1, last, hlast, by rw [hb]; rfl, by omega⟩
      case isFalse hb =>
        cases h
        exact ⟨0, b, hb, rfl, rfl⟩
  · rintro ⟨k, last, hlast, rfl, rfl⟩
    exact readExtension_replicate k hlast rest n

theorem readLength_eq_ok (hhalf : half ≤ 15) :
    readLength half input = .ok (n, rest) ↔ ∃ extra, Says half extra n ∧ input = extra ++ rest := by
  unfold readLength
  constructor
  · intro h
    split at h
    case isTrue hfull =>
      obtain ⟨k, last, hlast, rfl, rfl⟩ := readExtension_eq_ok.mp h
      subst hfull
      exact ⟨List.replicate k 255 ++ [last], .full k hlast, by simp⟩
    case isFalse hshort =>
      cases h
      exact ⟨[], .short (by omega), rfl⟩
  · rintro ⟨extra, hsays, rfl⟩
    cases hsays with
    | short h => rw [if_neg (by omega)]; rfl
    | full k hlast =>
      rw [if_pos rfl, List.append_assoc]
      exact readExtension_replicate k hlast rest 15

/-! ## Literals and matches -/

theorem size_appendList (out : Array UInt8) (bytes : Bytes) :
    (out ++ bytes).size = out.size + bytes.length := by
  rw [← Array.length_toList, Array.toList_appendList, List.length_append, Array.length_toList]

theorem readLiterals_eq_ok :
    readLiterals size n input out = .ok (out', rest) ↔
      ∃ literals, literals.length = n ∧ input = literals ++ rest ∧ out.size + n ≤ size ∧
        out' = out ++ literals := by
  constructor
  · intro h
    simp only [readLiterals] at h
    split at h
    · cases h
    · rename_i hlong
      split at h
      · cases h
      · cases h
        refine ⟨input.take n, ?_, (List.take_append_drop n input).symm, by omega, rfl⟩
        exact Nat.le_antisymm (List.length_take_le n input) (Nat.le_of_not_lt hlong)
  · rintro ⟨literals, rfl, rfl, hroom, rfl⟩
    exact readLiterals_append hroom rest

/-- Copies are bytes behind the output, each of which is the one at the distance before it. -/
theorem copyBack_repeats {distance : Nat} (hpos : 0 < distance) (n : Nat) :
    ∀ out : Array UInt8, distance ≤ out.size →
      ∃ copied, (copyBack distance n out).toList = out.toList ++ copied ∧ copied.length = n ∧
        Repeats distance out.toList copied := by
  induction n with
  | zero => exact fun out _ => ⟨[], by simp [copyBack], rfl, fun i hi => absurd hi (Nat.not_lt_zero i)⟩
  | succ n ih =>
    intro out hle
    let b := out.getD (out.size - distance) 0
    obtain ⟨copied, hout, hlength, hrepeats⟩ := ih (out.push b) (by rw [Array.size_push]; omega)
    rw [Array.toList_push] at hout hrepeats
    refine ⟨b :: copied, ?_, by rw [List.length_cons, hlength], fun i hi => ?_⟩
    · rw [copyBack, hout, List.append_assoc, List.singleton_append]
    · cases i with
      | zero =>
        -- The first copy is of a byte that stood already.
        have hlt : out.size - distance < out.size := by omega
        rw [List.getElem?_append_right (by simp), List.getElem?_append_left (by simpa using hlt)]
        simp [b, hlt]
      | succ i =>
        have h := hrepeats i (by simpa using hi)
        rw [List.append_assoc, List.singleton_append, List.length_append, List.length_singleton] at h
        rw [show out.toList.length + (i + 1) = out.toList.length + 1 + i by omega]
        exact h

/-- Bytes that repeat others from a distance are what the copying gives. -/
theorem copyBack_eq {distance : Nat} {copied : Bytes} (hpos : 0 < distance) (hle : distance ≤ out.size)
    (h : Repeats distance out.toList copied) :
    (copyBack distance copied.length out).toList = out.toList ++ copied := by
  let data : Array UInt8 := (out.toList ++ copied).toArray
  have hsize : data.size = out.size + copied.length := by simp [data]
  have hstart : data.extract 0 out.size = out := by
    apply Array.ext'
    simp [data]
  have hagree : ∀ k < copied.length,
      data.getD (out.size + k - distance) 0 = data.getD (out.size + k) 0 := fun k hk => by
    have := h k hk
    rw [Array.length_toList] at this
    simp only [data, Array.getD_eq_getD_getElem?, List.getElem?_toArray, this]
  have hcopy := copyBack_extract hpos copied.length out.size hle (Nat.le_of_eq hsize.symm) hagree
  rw [hstart, ← hsize, Array.extract_size] at hcopy
  rw [hcopy]

theorem readMatch_eq_ok (hhalf : half ≤ 15) :
    readMatch size half input out = .ok (out', rest) ↔
      ∃ low high extra n copied, input = low :: high :: (extra ++ rest) ∧
        0 < low.toNat + 256 * high.toNat ∧ low.toNat + 256 * high.toNat ≤ out.size ∧ Says half extra n ∧
        copied.length = n + 4 ∧ Repeats (low.toNat + 256 * high.toNat) out.toList copied ∧
        out.size + copied.length ≤ size ∧ out'.toList = out.toList ++ copied := by
  constructor
  · intro h
    unfold readMatch at h
    split at h
    case h_2 => cases h
    case h_1 low high tail =>
      simp only [bind, Except.bind, pure, Except.pure, throw, throwThe, MonadExceptOf.throw] at h
      split at h
      · cases h
      · rename_i hpos
        cases hlength : readLength half tail with
        | error e => simp [hlength] at h
        | ok p =>
          obtain ⟨n, tail'⟩ := p
          simp only [hlength] at h
          obtain ⟨extra, hsays, rfl⟩ := (readLength_eq_ok hhalf).mp hlength
          split at h
          · cases h
          · split at h
            · cases h
            · cases h
              have hpos' : 0 < low.toNat + 256 * high.toNat := by omega
              obtain ⟨copied, hout, hcount, hrepeats⟩ := copyBack_repeats hpos' (n + 4) out (by omega)
              exact ⟨low, high, extra, n, copied, rfl, hpos', by omega, hsays, hcount, hrepeats, by omega,
                hout⟩
  · rintro ⟨low, high, extra, n, copied, rfl, hpos, hle, hsays, hcount, hrepeats, hroom, hout⟩
    have hlength : readLength half (extra ++ rest) = .ok (n, rest) :=
      (readLength_eq_ok hhalf).mpr ⟨extra, hsays, rfl⟩
    have hcopy := copyBack_eq hpos hle hrepeats
    rw [hcount, ← hout] at hcopy
    simp only [readMatch, hlength, bind, Except.bind, pure, Except.pure, throw, throwThe,
      MonadExceptOf.throw]
    rw [if_neg (by omega), if_neg (by omega), if_neg (by omega), Array.ext' hcopy]

/-! ## Blocks -/

theorem halves_le (token : UInt8) : token.toNat / 16 ≤ 15 ∧ token.toNat % 16 ≤ 15 := by
  have := token.toNat_lt
  omega

/-- A sequence is read by its token, its literals and, unless the block ends there, its match. -/
theorem readSequence_eq_ok {next : Option Bytes} :
    readSequence size input out = .ok (out', next) ↔
      ∃ token extra literals tail, input = token :: (extra ++ (literals ++ tail)) ∧
        Says (token.toNat / 16) extra literals.length ∧ out.size + literals.length ≤ size ∧
        ((tail = [] ∧ next = none ∧ out' = out ++ literals) ∨
          ∃ rest, next = some rest ∧
            readMatch size (token.toNat % 16) tail (out ++ literals) = .ok (out', rest)) := by
  constructor
  · intro h
    unfold readSequence at h
    split at h
    · cases h
    · rename_i token input
      split at h
      · cases h
      · rename_i hlength
        obtain ⟨extra, hsays, rfl⟩ := (readLength_eq_ok (halves_le token).1).mp hlength
        split at h
        · cases h
        · rename_i hliterals
          obtain ⟨literals, rfl, rfl, hroom, rfl⟩ := readLiterals_eq_ok.mp hliterals
          cases h
          exact ⟨token, extra, literals, [], rfl, hsays, hroom, .inl ⟨rfl, rfl, rfl⟩⟩
        · rename_i tail _ hliterals
          obtain ⟨literals, rfl, rfl, hroom, rfl⟩ := readLiterals_eq_ok.mp hliterals
          refine ⟨token, extra, literals, tail, rfl, hsays, hroom, .inr ?_⟩
          split at h
          · cases h
          · rename_i hmatch
            cases h
            exact ⟨_, rfl, hmatch⟩
  · rintro ⟨token, extra, literals, tail, rfl, hsays, hroom, hnext⟩
    have hlength : readLength (token.toNat / 16) (extra ++ (literals ++ tail)) = .ok _ :=
      (readLength_eq_ok (halves_le token).1).mpr ⟨extra, hsays, rfl⟩
    simp only [readSequence, hlength, readLiterals_append hroom tail]
    rcases hnext with ⟨rfl, rfl, rfl⟩ | ⟨rest, rfl, hmatch⟩
    · rfl
    · cases tail with
      | nil => cases hmatch
      | cons b tail => simp only [hmatch]

/-- What is read stands for what is written behind the output. -/
theorem stands_of_readBlock (h : readBlock size input out = .ok out') :
    ∃ bytes, Stands out.toList input bytes ∧ out'.toList = out.toList ++ bytes ∧ out'.size ≤ size := by
  fun_induction readBlock size input out with
  | case1 input out e _ => cases h
  | case2 input out last hlast =>
    cases h
    obtain ⟨token, extra, literals, tail, rfl, hsays, hroom, hnext⟩ := readSequence_eq_ok.mp hlast
    rcases hnext with ⟨rfl, -, rfl⟩ | ⟨rest, hrest, -⟩
    · refine ⟨literals, ?_, Array.toList_appendList, ?_⟩
      · rw [List.append_nil]
        exact .last hsays
      · rw [size_appendList]
        exact hroom
    · cases hrest
  | case3 input out next rest hnext ih =>
    obtain ⟨bytes, hstands, hout, hsize⟩ := ih h
    obtain ⟨token, extra, literals, tail, rfl, hsays, hroom, hmore⟩ := readSequence_eq_ok.mp hnext
    rcases hmore with ⟨-, hrest, -⟩ | ⟨rest', hrest, hmatch⟩
    · cases hrest
    · cases hrest
      obtain ⟨low, high, extra', n, copied, rfl, hpos, hle, hsays', hcount, hrepeats, -, hcopied⟩ :=
        (readMatch_eq_ok (halves_le token).2).mp hmatch
      rw [Array.toList_appendList] at hrepeats hcopied
      rw [hcopied] at hstands hout
      refine ⟨literals ++ (copied ++ bytes), .more hsays hpos ?_ hsays' hcount hrepeats hstands, ?_, hsize⟩
      · rw [← Array.toList_appendList, Array.length_toList]
        exact hle
      · rw [hout, List.append_assoc, List.append_assoc]

/-- A block that stands for bytes is read if they fit the output. -/
theorem Stands.readBlock {before bytes : Bytes} (h : Stands before input bytes) :
    ∀ out : Array UInt8, out.toList = before → out.size + bytes.length ≤ size →
      ∃ out', Lz4.readBlock size input out = .ok out' ∧ out'.toList = before ++ bytes := by
  induction h with
  | @last before extra literals token hsays =>
    rintro out rfl hroom
    refine ⟨out ++ literals, readBlock_last (readSequence_eq_ok.mpr ?_), Array.toList_appendList⟩
    exact ⟨token, extra, literals, [], by rw [List.append_nil], hsays, hroom, .inl ⟨rfl, rfl, rfl⟩⟩
  | @more before extra literals extra' copied rest bytes token low high n hsays hpos hle hsays' hcount
      hrepeats _ ih =>
    rintro out rfl hroom
    simp only [List.length_append] at hroom
    let next : Array UInt8 := out ++ literals ++ copied
    have hnext : next.toList = out.toList ++ literals ++ copied := by simp [next]
    have hsize : next.size = out.size + literals.length + copied.length := by
      rw [size_appendList, size_appendList]
    have hmatch : readMatch size (token.toNat % 16) (low :: high :: (extra' ++ rest)) (out ++ literals) =
        .ok (next, rest) := by
      refine (readMatch_eq_ok (halves_le token).2).mpr
        ⟨low, high, extra', n, copied, rfl, hpos, ?_, hsays', hcount, ?_, ?_, ?_⟩
      · rw [← Array.length_toList, Array.toList_appendList]
        exact hle
      · rw [Array.toList_appendList]
        exact hrepeats
      · rw [size_appendList]
        omega
      · rw [hnext, Array.toList_appendList]
    have hsequence : readSequence size _ out = .ok (next, some rest) := readSequence_eq_ok.mpr
      ⟨token, extra, literals, _, rfl, hsays, by omega, .inr ⟨rest, rfl, hmatch⟩⟩
    obtain ⟨out', hread, hout⟩ := ih next hnext (by omega)
    refine ⟨out', (readBlock_more hsequence).trans hread, ?_⟩
    rw [hout, List.append_assoc, List.append_assoc]

/-- Reading a block gives the bytes that it stands for if they fit, and otherwise nothing. -/
theorem decompress_eq_ok {block bytes : Bytes} :
    decompress block size = .ok bytes ↔ Stands [] block bytes ∧ bytes.length ≤ size := by
  constructor
  · intro h
    rw [decompress] at h
    cases hread : readBlock size block #[] with
    | error e => rw [hread] at h; cases h
    | ok out =>
      rw [hread] at h
      cases h
      obtain ⟨bytes, hstands, hout, hsize⟩ := stands_of_readBlock hread
      rw [List.nil_append] at hout
      exact ⟨hout ▸ hstands, hsize⟩
  · rintro ⟨hstands, hfits⟩
    obtain ⟨out, hread, hout⟩ := hstands.readBlock #[] rfl (by simpa using hfits)
    rw [decompress, hread, Except.map, hout, List.nil_append]

/-- A block stands for one row of bytes at most. -/
theorem Stands.unique {block bytes others : Bytes} (h : Stands [] block bytes) (h' : Stands [] block others) :
    bytes = others := by
  have hread := decompress_eq_ok.mpr ⟨h, Nat.le_max_left bytes.length others.length⟩
  have hread' := decompress_eq_ok.mpr ⟨h', Nat.le_max_right bytes.length others.length⟩
  exact Except.ok.inj (hread.symm.trans hread')

end RemoteUsb.Lz4
