import RemoteUsb.Proofs.Lz4.RoundTrip

/-! Unpacking a block in steps, in each of which at most one byte is written. Whatever the block is, the
steps come to the same end as `readBlock`, there are no more of them than bytes to read and to write, and
at none of them does the output hold more than its size. The room is checked before the bytes are written,
and what was checked is what is left to be written: this is the invariant, `Unpacking.Fits`. -/

namespace RemoteUsb.Lz4

/-- What is next in an unpacking. -/
inductive Stage where
  | token
  /-- Literals are left. The lower half of the token says how long the match behind them is. -/
  | literals (left half : Nat)
  /-- Bytes are left to be copied from a distance. -/
  | copying (distance left : Nat)

structure Unpacking where
  stage : Stage
  input : Bytes
  out : Array UInt8

/-- What comes of a step. -/
inductive Next where
  | goes (u : Unpacking)
  | ends (result : Except Fault (Array UInt8))

/-- Reads the distance and the length of a match, behind as many bytes of output as are held. -/
def readDistance (size half held : Nat) (input : Bytes) : Except Fault (Nat × Nat × Bytes) :=
  match input with
  | low :: high :: rest => do
    let distance := low.toNat + 256 * high.toNat
    if distance = 0 then throw .zeroOffset
    let (length, rest) ← readLength half rest
    let length := length + 4
    if size < held + length then throw (.outputTooSmall (held + length) size)
    if held < distance then throw .offsetTooLarge
    return (distance, length, rest)
  | _ => .error .blockCut

namespace Unpacking

/-- The beginning of a block, with nothing written yet. -/
def start (block : Bytes) : Unpacking := ⟨.token, block, #[]⟩

def step (size : Nat) : Unpacking → Next
  | ⟨.token, [], _⟩ => .ends (.error .blockCut)
  | ⟨.token, token :: rest, out⟩ =>
    match readLength (token.toNat / 16) rest with
    | .error e => .ends (.error e)
    | .ok (length, rest) =>
      if rest.length < length then .ends (.error .literalCut)
      else if size < out.size + length then .ends (.error (.outputTooSmall (out.size + length) size))
      else .goes ⟨.literals length (token.toNat % 16), rest, out⟩
  | ⟨.literals 0 _, [], out⟩ => .ends (.ok out)
  | ⟨.literals 0 half, input, out⟩ =>
    match readDistance size half out.size input with
    | .error e => .ends (.error e)
    | .ok (distance, length, rest) => .goes ⟨.copying distance length, rest, out⟩
  | ⟨.literals (_ + 1) _, [], _⟩ => .ends (.error .literalCut)
  | ⟨.literals (left + 1) half, b :: rest, out⟩ => .goes ⟨.literals left half, rest, out.push b⟩
  | ⟨.copying _ 0, input, out⟩ => .goes ⟨.token, input, out⟩
  | ⟨.copying distance (left + 1), input, out⟩ =>
    .goes ⟨.copying distance left, input, out.push (out.getD (out.size - distance) 0)⟩

/-- An unpacking goes on for some steps and comes to its end in the last one. -/
inductive Ends (size : Nat) : Unpacking → Nat → Except Fault (Array UInt8) → Prop
  | now {u : Unpacking} {result : Except Fault (Array UInt8)} (_ : u.step size = .ends result) :
    Ends size u 1 result
  | later {u v : Unpacking} {n : Nat} {result : Except Fault (Array UInt8)} (_ : u.step size = .goes v)
      (_ : Ends size v n result) : Ends size u (n + 1) result

/-- An unpacking comes to a place in some steps. -/
inductive Reaches (size : Nat) : Unpacking → Unpacking → Prop
  | here (u : Unpacking) : Reaches size u u
  | later {u v w : Unpacking} (_ : u.step size = .goes v) (_ : Reaches size v w) : Reaches size u w

/-- What is held and what is left to be written fit the output. -/
def Fits (size : Nat) (u : Unpacking) : Prop :=
  match u.stage with
  | .token => u.out.size ≤ size
  | .literals left _ => u.out.size + left ≤ size
  | .copying _ left => u.out.size + left ≤ size

/-- How many steps there may be before the end: each one reads, or writes, or is behind a copy. -/
def ahead (size : Nat) (u : Unpacking) : Nat :=
  u.input.length + (size - u.out.size) + match u.stage with
    | .copying .. => 1
    | _ => 0

end Unpacking

variable {size half n : Nat} {input rest : Bytes} {out : Array UInt8} {u v : Unpacking}
  {result : Except Fault (Array UInt8)}

/-! ## One step -/

theorem readMatch_eq (size half : Nat) (input : Bytes) (out : Array UInt8) :
    readMatch size half input out = (readDistance size half out.size input).map
      fun (distance, length, rest) => (copyBack distance length out, rest) := by
  match input with
  | [] | [_] => rfl
  | low :: high :: rest =>
    simp only [readMatch, readDistance, bind, Except.bind, pure, Except.pure, throw, throwThe,
      MonadExceptOf.throw]
    split
    · rfl
    · cases readLength half rest with
      | error e => rfl
      | ok p =>
        dsimp only
        split
        · rfl
        · split <;> rfl

theorem readDistance_ok {held distance length : Nat}
    (h : readDistance size half held input = .ok (distance, length, rest)) :
    rest.length + 2 ≤ input.length ∧ held + length ≤ size := by
  unfold readDistance at h
  split at h
  · rename_i low high tail
    simp only [bind, Except.bind, pure, Except.pure, throw, throwThe, MonadExceptOf.throw] at h
    split at h
    · cases h
    · cases hlength : readLength half tail with
      | error e => simp [hlength] at h
      | ok p =>
        obtain ⟨n, tail'⟩ := p
        have hshort := readLength_shortens hlength
        simp only [hlength] at h
        split at h
        · cases h
        · split at h <;> cases h
          simp only [List.length_cons]
          omega
  · cases h

namespace Unpacking

/-- A step keeps to the room that was checked, and leaves fewer steps ahead. -/
theorem step_fits (hu : u.Fits size) (h : u.step size = .goes v) :
    v.Fits size ∧ v.ahead size < u.ahead size := by
  obtain ⟨stage, input, out⟩ := u
  cases stage with
  | token =>
    cases input with
    | nil => cases h
    | cons token tail =>
      rw [step] at h
      split at h
      · cases h
      · rename_i length rest hlength
        have hshort := readLength_shortens hlength
        split at h
        · cases h
        · split at h <;> cases h
          simp only [Fits, ahead, List.length_cons] at hu ⊢
          omega
  | literals left half =>
    cases left with
    | zero =>
      cases input with
      | nil => cases h
      | cons b tail =>
        rw [step] at h
        · split at h
          · cases h
          · rename_i distance length rest hdistance
            obtain ⟨hshort, hroom⟩ := readDistance_ok hdistance
            cases h
            simp only [Fits, ahead] at hu ⊢
            omega
        · exact List.cons_ne_nil b tail
    | succ left =>
      cases input with
      | nil => cases h
      | cons b tail =>
        cases h
        simp only [Fits, ahead, List.length_cons, Array.size_push] at hu ⊢
        omega
  | copying distance left =>
    cases left with
    | zero =>
      cases h
      simp only [Fits, ahead] at hu ⊢
      omega
    | succ left =>
      cases h
      simp only [Fits, ahead, Array.size_push] at hu ⊢
      omega

theorem Fits.held (h : u.Fits size) : u.out.size ≤ size := by
  unfold Fits at h
  split at h <;> omega

/-! ## All steps -/

theorem Reaches.fits (h : Reaches size u v) (hu : u.Fits size) : v.Fits size := by
  induction h with
  | here => exact hu
  | later hstep _ ih => exact ih (step_fits hu hstep).1

theorem Ends.le (h : Ends size u n result) (hu : u.Fits size) : n ≤ u.ahead size + 1 := by
  induction h with
  | now => omega
  | later hstep _ ih =>
    obtain ⟨hv, hless⟩ := step_fits hu hstep
    have := ih hv
    omega

theorem Ends.literals {literals : Bytes} :
    ∀ {out : Array UInt8}, Ends size ⟨.literals 0 half, rest, out ++ literals⟩ n result →
      Ends size ⟨.literals literals.length half, literals ++ rest, out⟩ (n + literals.length) result := by
  induction literals with
  | nil =>
    intro out h
    rwa [Array.appendList_nil] at h
  | cons b literals ih =>
    intro out h
    rw [Array.appendList_cons] at h
    exact .later rfl (ih h)

theorem Ends.copying {distance left : Nat} :
    ∀ {out : Array UInt8}, Ends size ⟨.token, input, copyBack distance left out⟩ n result →
      Ends size ⟨.copying distance left, input, out⟩ (n + left + 1) result := by
  induction left with
  | zero => exact fun h => .later rfl h
  | succ left ih => exact fun h => .later rfl (ih h)

/-- The match of a sequence is unpacked as it is read. -/
theorem ends_match {b : UInt8} {tail : Bytes}
    (h : match readMatch size half (b :: tail) out with
      | .error e => result = .error e
      | .ok (out', rest) => ∃ n, Ends size ⟨.token, rest, out'⟩ n result) :
    ∃ n, Ends size ⟨.literals 0 half, b :: tail, out⟩ n result := by
  rw [readMatch_eq] at h
  cases hdistance : readDistance size half out.size (b :: tail) with
  | error e =>
    rw [hdistance] at h
    obtain rfl : result = .error e := h
    exact ⟨1, .now (by simp only [step, hdistance])⟩
  | ok p =>
    obtain ⟨distance, length, rest⟩ := p
    rw [hdistance] at h
    obtain ⟨n, hn⟩ : ∃ n, Ends size ⟨.token, rest, copyBack distance length out⟩ n result := h
    exact ⟨_, .later (by simp only [step, hdistance]) hn.copying⟩

/-- A sequence is unpacked as it is read. -/
theorem ends_sequence (h : match readSequence size input out with
      | .error e => result = .error e
      | .ok (out', none) => result = .ok out'
      | .ok (out', some rest) => ∃ n, Ends size ⟨.token, rest, out'⟩ n result) :
    ∃ n, Ends size ⟨.token, input, out⟩ n result := by
  cases input with
  | nil =>
    obtain rfl : result = .error .blockCut := h
    exact ⟨1, .now rfl⟩
  | cons token tail =>
    rw [readSequence] at h
    cases hlength : readLength (token.toNat / 16) tail with
    | error e =>
      simp only [hlength] at h
      exact ⟨1, .now (by rw [step, hlength, h])⟩
    | ok p =>
      obtain ⟨length, input⟩ := p
      simp only [hlength] at h
      by_cases hcut : input.length < length
      · have hread : readLiterals size length input out = .error .literalCut := by
          rw [readLiterals, if_pos (by rw [List.length_take]; omega)]
        rw [hread] at h
        exact ⟨1, .now (by simp only [step, hlength, if_pos hcut, h])⟩
      by_cases hroom : size < out.size + length
      · have hread : readLiterals size length input out =
            .error (.outputTooSmall (out.size + length) size) := by
          rw [readLiterals, if_neg (by rw [List.length_take]; omega), if_pos hroom]
        rw [hread] at h
        exact ⟨1, .now (by simp only [step, hlength, if_neg hcut, if_pos hroom, h])⟩
      have hstep : step size ⟨.token, token :: tail, out⟩ =
          .goes ⟨.literals length (token.toNat % 16), input, out⟩ := by
        simp only [step, hlength, if_neg hcut, if_neg hroom]
      obtain ⟨literals, rest, rfl, rfl⟩ : ∃ literals rest, input = literals ++ rest ∧
          length = literals.length :=
        ⟨input.take length, input.drop length, (List.take_append_drop length input).symm,
          by rw [List.length_take]; omega⟩
      rw [readLiterals_append (by omega)] at h
      obtain ⟨n, hn⟩ : ∃ n, Ends size ⟨.literals 0 (token.toNat % 16), rest, out ++ literals⟩ n result := by
        cases rest with
        | nil =>
          obtain rfl : result = .ok (out ++ literals) := h
          exact ⟨1, .now rfl⟩
        | cons b rest =>
          refine ends_match ?_
          cases hmatch : readMatch size (token.toNat % 16) (b :: rest) (out ++ literals) <;>
            simpa only [hmatch] using h
      exact ⟨_, .later hstep hn.literals⟩

/-- The steps come to the end that reading the block comes to. -/
theorem ends_readBlock (size : Nat) (input : Bytes) (out : Array UInt8) :
    ∃ n, Ends size ⟨.token, input, out⟩ n (readBlock size input out) := by
  fun_induction readBlock size input out with
  | case1 input out e h => exact ends_sequence (by rw [h])
  | case2 input out last h => exact ends_sequence (by rw [h])
  | case3 input out next rest h ih => exact ends_sequence (by rw [h]; exact ih)

theorem start_fits (size : Nat) (block : Bytes) : (start block).Fits size := Nat.zero_le size

/-- Whatever the block, the unpacking comes to its end, after no more steps than there are bytes to read
and to write. -/
theorem start_ends (size : Nat) (block : Bytes) :
    ∃ n ≤ block.length + size + 1, Ends size (start block) n (readBlock size block #[]) := by
  obtain ⟨n, hn⟩ := ends_readBlock size block #[]
  exact ⟨n, hn.le (start_fits size block), hn⟩

/-- At no step is more held than the output has room for. -/
theorem start_held {block : Bytes} (h : Reaches size (start block) u) : u.out.size ≤ size :=
  (h.fits (start_fits size block)).held

end Unpacking
end RemoteUsb.Lz4
