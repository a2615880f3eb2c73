import Mathlib.Data.List.Forall2
import RemoteUsb.Proofs.Wire.Stream

/-! What a reader makes of any bytes whatever, be they frames or not. `Reads` says it of the bytes that
are still to come, with no word about the pieces in which they arrive, and by `Reads.next` this is what the
reader does. A row of frames that is cut off somewhere is the first case of it: the frames that are whole
are read, and then the reader finds the end, or a frame that is cut. -/

namespace RemoteUsb.Wire

/-- What is read off the front of bytes, and what is left of them. -/
inductive Reads : Bytes → Except WireError (Option Message) → Bytes → Prop where
  | ended : Reads [] (.ok none) []
  | message {start body : Bytes} {m : Message} (_ : Heads start body) (_ : Message.decode body = .ok m)
      (rest : Bytes) : Reads (start ++ body ++ rest) (.ok (some m)) rest
  | unreadable {start body : Bytes} {error : WireError} (_ : Heads start body)
      (_ : Message.decode body = .error error) (rest : Bytes) :
    Reads (start ++ body ++ rest) (.error error) rest
  | large {start : Bytes} (_ : start.length = 4) (_ : frameLimit < readWord start) (rest : Bytes) :
    Reads (start ++ rest) (.error (.frameTooLarge (readWord start) frameLimit)) rest
  /-- The bytes end inside the length. -/
  | cutStart {bytes : Bytes} (_ : bytes ≠ []) (_ : bytes.length < 4) :
    Reads bytes (.error .streamCut) []
  /-- The bytes end inside the body. -/
  | cutBody {start part : Bytes} (_ : start.length = 4) (_ : readWord start ≤ frameLimit)
      (_ : part.length < readWord start) : Reads (start ++ part) (.error .streamCut) []

/-! ## The reader -/

namespace Stream

theorem next?_of_flatten_nil {s : Stream} (h : s.flatten = []) : s.next? = (none, []) := by
  induction s with
  | nil => rfl
  | cons piece s ih =>
    rw [List.flatten_cons, List.append_eq_nil_iff] at h
    obtain ⟨rfl, hs⟩ := h
    exact ih hs

/-- Bytes that are too few are used up. -/
theorem take?_short (s : Stream) : ∀ n, s.flatten.length < n → s.take? n = (none, []) := by
  induction s with
  | nil =>
    intro n h
    obtain ⟨k, rfl⟩ := Nat.exists_eq_succ_of_ne_zero (Nat.ne_of_gt h)
    rfl
  | cons piece s ih =>
    intro n h
    obtain ⟨k, rfl⟩ := Nat.exists_eq_succ_of_ne_zero (Nat.ne_of_gt (Nat.zero_lt_of_lt h))
    rw [List.flatten_cons, List.length_append] at h
    have hpart : (piece.take (k + 1)).length = piece.length := by
      rw [List.length_take, Nat.min_eq_right (by omega)]
    simp only [take?, hpart]
    rw [if_neg (by omega), ih _ (by omega)]

end Stream

/-- What the bytes say is what the reader answers, whatever the pieces. -/
theorem Reads.next {bytes rest : Bytes} {answer : Except WireError (Option Message)}
    (h : Reads bytes answer rest) {s : Stream} (hs : s.flatten = bytes) :
    ∃ s', Message.next s = (answer, s') ∧ s'.flatten = rest := by
  cases h with
  | ended => exact ⟨[], by rw [Message.next, Stream.next?_of_flatten_nil hs], rfl⟩
  | message hheads hm rest =>
    obtain ⟨s', hnext, hrest⟩ := hheads.next hs
    exact ⟨s', by rw [hnext, hm]; rfl, hrest⟩
  | unreadable hheads hm rest =>
    obtain ⟨s', hnext, hrest⟩ := hheads.next hs
    exact ⟨s', by rw [hnext, hm]; rfl, hrest⟩
  | large hstart hlarge rest =>
    obtain ⟨first, others, s₁, s₂, rfl, hfirst, hothers, hs₂⟩ := Stream.take_start hstart hs
    exact ⟨s₂, by simp only [Message.next, hfirst, hothers, checkLength, if_pos hlarge], hs₂⟩
  | cutStart hne hshort =>
    obtain ⟨first, others, rfl⟩ := List.exists_cons_of_ne_nil hne
    obtain ⟨s₁, hfirst, hs₁⟩ := Stream.next?_flatten s _ _ hs
    have hothers := Stream.take?_short s₁ 3 (by rw [hs₁]; exact Nat.lt_of_succ_lt_succ hshort)
    exact ⟨[], by simp only [Message.next, hfirst, hothers], rfl⟩
  | cutBody hstart hfits hshort =>
    obtain ⟨first, others, s₁, s₂, rfl, hfirst, hothers, hs₂⟩ := Stream.take_start hstart hs
    have hbody := Stream.take?_short s₂ _ (by rwa [hs₂])
    exact ⟨[], by simp only [Message.next, hfirst, hothers, checkLength_ok hfits, hbody], rfl⟩

/-- There is something to be read off any bytes. -/
theorem exists_reads (bytes : Bytes) : ∃ answer rest, Reads bytes answer rest := by
  by_cases hne : bytes = []
  · exact hne ▸ ⟨_, _, .ended⟩
  rcases Nat.lt_or_ge bytes.length 4 with hshort | hlong
  · exact ⟨_, _, .cutStart hne hshort⟩
  have hstart : (bytes.take 4).length = 4 := by rw [List.length_take, Nat.min_eq_left hlong]
  rw [← List.take_append_drop 4 bytes]
  generalize bytes.take 4 = start, bytes.drop 4 = others at hstart
  rcases Nat.lt_or_ge frameLimit (readWord start) with hlarge | hfits
  · exact ⟨_, _, .large hstart hlarge others⟩
  rcases Nat.lt_or_ge others.length (readWord start) with hcut | hwhole
  · exact ⟨_, _, .cutBody hstart hfits hcut⟩
  rw [← List.take_append_drop (readWord start) others, ← List.append_assoc]
  have hheads : Heads start (others.take (readWord start)) :=
    ⟨hstart, by rw [List.length_take, Nat.min_eq_left hwhole],
      by rwa [List.length_take, Nat.min_eq_left hwhole]⟩
  cases hm : Message.decode (others.take (readWord start)) with
  | ok m => exact ⟨_, _, .message hheads hm _⟩
  | error error => exact ⟨_, _, .unreadable hheads hm _⟩

/-- Bytes say one thing only. -/
theorem Reads.unique {bytes rest rest' : Bytes} {answer answer' : Except WireError (Option Message)}
    (h : Reads bytes answer rest) (h' : Reads bytes answer' rest') : answer' = answer ∧ rest' = rest := by
  obtain ⟨s, hnext, hs⟩ := h.next (s := [bytes]) (List.append_nil bytes)
  obtain ⟨s', hnext', hs'⟩ := h'.next (s := [bytes]) (List.append_nil bytes)
  obtain ⟨rfl, rfl⟩ := Prod.mk.inj (hnext.symm.trans hnext')
  exact ⟨rfl, hs'.symm.trans hs⟩

/-! ## Frames of messages -/

/-- A frame is taken apart into its message, whatever follows it. -/
theorem Message.unframe_frame {m : Message} {frame : Bytes} (h : m.frame = .ok frame) (rest : Bytes) :
    Message.unframe (frame ++ rest) = .ok m := by
  obtain ⟨start, rfl, hheads, hdecode⟩ := Message.heads_of_frame h
  have htake : (start ++ (m.write ++ rest)).take 4 = start := hheads.four ▸ List.take_left
  have hdrop : (start ++ (m.write ++ rest)).drop 4 = m.write ++ rest := hheads.four ▸ List.drop_left
  rw [List.append_assoc]
  simp only [Message.unframe, htake, hdrop, hheads.four, hheads.length, checkLength_ok hheads.fits,
    List.take_left, Nat.lt_irrefl, if_false]
  exact hdecode

/-- A frame is cut inside its length, or inside its body. -/
theorem Reads.of_cut {m : Message} {part others : Bytes} (h : m.frame = .ok (part ++ others))
    (hpart : part ≠ []) (hothers : others ≠ []) : Reads part (.error .streamCut) [] := by
  obtain ⟨start, heq, hheads, -⟩ := Message.heads_of_frame h
  rcases Nat.lt_or_ge part.length 4 with hshort | hlong
  · exact .cutStart hpart hshort
  obtain ⟨body, rfl⟩ : start <+: part :=
    List.prefix_of_prefix_length_le (List.prefix_append start m.write) ⟨others, heq⟩
      (hheads.four ▸ hlong)
  rw [List.append_assoc] at heq
  have hbody : body ++ others = m.write := List.append_cancel_left heq
  have hlength : body.length + others.length = readWord start := by
    rw [hheads.length, ← hbody, List.length_append]
  have hpos := List.length_pos_iff.mpr hothers
  exact .cutBody hheads.four (hheads.length ▸ hheads.fits) (by omega)

/-! ## Reading again and again -/

namespace Stream

variable {α : Type} {read : Stream → Except WireError (Option α) × Stream}

/-- What the call with a number answers if calls are made one after the other. -/
def call (read : Stream → Except WireError (Option α) × Stream) :
    Nat → Stream → Except WireError (Option α)
  | 0, s => (read s).1
  | n + 1, s => call read n (read s).2

/-- The loop reads what the calls answer, up to the first of them that answers nothing. -/
theorem readFor_of_calls (as : List α) : ∀ (s : Stream) (fuel : Nat), as.length < fuel →
    (∀ i, i < as.length → call read i s = .ok as[i]?) →
      (∀ a, call read as.length s ≠ .ok (some a)) →
        (s.readFor read fuel).1 = as ∧
          (s.readFor read fuel).2.1 = (call read as.length s).map fun _ => () := by
  induction as with
  | nil =>
    intro s fuel hfuel _ hend
    obtain ⟨k, rfl⟩ := Nat.exists_eq_succ_of_ne_zero (Nat.ne_of_gt hfuel)
    change ∀ a, (read s).1 ≠ .ok (some a) at hend
    rw [List.length_nil, call, readFor]
    split
    · rename_i hread
      rw [hread]
      exact ⟨rfl, rfl⟩
    · rename_i hread
      rw [hread]
      exact ⟨rfl, rfl⟩
    · rename_i a _ hread
      exact absurd (congrArg Prod.fst hread) (hend a)
  | cons a as ih =>
    intro s fuel hfuel hcalls hend
    obtain ⟨k, rfl⟩ := Nat.exists_eq_succ_of_ne_zero (Nat.ne_of_gt (Nat.zero_lt_of_lt hfuel))
    have hfirst : (read s).1 = .ok (some a) := hcalls 0 (Nat.zero_lt_succ _)
    obtain ⟨hread, hending⟩ := ih (read s).2 k (Nat.lt_of_succ_lt_succ hfuel)
      (fun i hi => hcalls (i + 1) (Nat.succ_lt_succ hi)) hend
    rw [readFor, ← Prod.eta (read s), hfirst]
    exact ⟨congrArg (a :: ·) hread, hending⟩

theorem size_eq (s : Stream) : s.size = s.flatten.length := by
  have hsum : ∀ n, s.foldl (fun n piece => n + piece.length) n = n + s.flatten.length := by
    induction s with
    | nil => exact fun n => rfl
    | cons piece s ih =>
      intro n
      rw [List.foldl_cons, ih, List.flatten_cons, List.length_append, Nat.add_assoc]
  exact (hsum 0).trans (Nat.zero_add _)

theorem call_of_flatten_nil {s : Stream} (hs : s.flatten = []) (n : Nat) :
    s.call Message.next n = .ok none := by
  induction n generalizing s with
  | zero =>
    obtain ⟨s', hnext, -⟩ := Reads.ended.next hs
    rw [call, hnext]
  | succ n ih =>
    obtain ⟨s', hnext, hs'⟩ := Reads.ended.next hs
    rw [call, hnext]
    exact ih hs'

/-- The frame with a number lies within the first bytes of a row of frames. -/
def Whole (frames : List Bytes) (length n : Nat) : Prop :=
  n < frames.length ∧ (frames.take (n + 1)).flatten.length ≤ length

theorem whole_cons_succ {frame : Bytes} {frames : List Bytes} {length n : Nat} :
    Whole (frame :: frames) (frame.length + length) (n + 1) ↔ Whole frames length n := by
  simp only [Whole, List.length_cons, List.take_succ_cons, List.flatten_cons, List.length_append]
  omega

/-- A row of frames is longer than what is less than its first frame. -/
theorem lt_length_take {frame : Bytes} {length : Nat} (h : length < frame.length) (frames : List Bytes)
    (n : Nat) : length < ((frame :: frames).take (n + 1)).flatten.length := by
  rw [List.take_succ_cons, List.flatten_cons, List.length_append]
  exact Nat.lt_of_lt_of_le h (Nat.le_add_right _ _)

theorem not_whole {frame : Bytes} {length : Nat} (h : length < frame.length) (frames : List Bytes)
    (n : Nat) : ¬Whole (frame :: frames) length n :=
  fun hwhole => Nat.not_le.mpr (lt_length_take h frames n) hwhole.2

/-- How reading ends, at a boundary between frames or inside one. -/
inductive Ends (frames : List Bytes) (bytes : Bytes) : Except WireError (Option Message) → Prop where
  | between {n : Nat} (_ : bytes = (frames.take n).flatten) : Ends frames bytes (.ok none)
  | inside (_ : ∀ n, bytes ≠ (frames.take n).flatten) : Ends frames bytes (.error .streamCut)

theorem Ends.cons {frames : List Bytes} {rest : Bytes} {answer : Except WireError (Option Message)}
    (h : Ends frames rest answer) {frame : Bytes} (hpos : 0 < frame.length) :
    Ends (frame :: frames) (frame ++ rest) answer := by
  cases h with
  | @between n hrest => exact .between (n := n + 1) (hrest ▸ rfl)
  | inside hne =>
    refine .inside fun n hn => ?_
    cases n with
    | zero => exact absurd hpos (by simp [List.append_eq_nil_iff.mp hn])
    | succ n => exact hne n (List.append_cancel_left hn)

/-- What is read, call by call, of a row of frames that is cut off after so many that are whole. -/
structure Read (messages : List Message) (frames : List Bytes) (s : Stream) (n : Nat) : Prop where
  /-- Every frame takes a byte. -/
  short : n ≤ s.flatten.length
  whole : ∀ i, Whole frames s.flatten.length i ↔ i < n
  messages : ∀ i, i < n → s.call Message.next i = .ok messages[i]?
  ending : Ends frames s.flatten (s.call Message.next n)
  later : ∀ i, n < i → s.call Message.next i = .ok none

theorem Read.ended {s : Stream} (hs : s.flatten = []) (messages : List Message)
    {frames : List Bytes} (hwhole : ∀ i, ¬Whole frames s.flatten.length i) :
    Read messages frames s 0 where
  short := Nat.zero_le _
  whole i := iff_of_false (hwhole i) (Nat.not_lt_zero i)
  messages := nofun
  ending := call_of_flatten_nil hs 0 ▸ .between (n := 0) hs
  later i _ := call_of_flatten_nil hs i

/-- Some of the first frame is there, but not all of it. -/
theorem Read.cut {m : Message} {frame : Bytes} {s : Stream} (hframe : m.frame = .ok frame)
    (hs : s.flatten <+: frame) (hne : s.flatten ≠ []) (hshort : s.flatten.length < frame.length)
    (messages : List Message) (frames : List Bytes) : Read messages (frame :: frames) s 0 := by
  obtain ⟨others, rfl⟩ := hs
  have hothers : others ≠ [] := by
    rintro rfl
    rw [List.append_nil] at hshort
    exact Nat.lt_irrefl _ hshort
  obtain ⟨s', hnext, hs'⟩ := (Reads.of_cut hframe hne hothers).next rfl
  refine ⟨Nat.zero_le _, fun i => ?_, nofun, ?_, fun i hi => ?_⟩
  · exact iff_of_false (not_whole hshort frames i) (Nat.not_lt_zero i)
  · rw [call, hnext]
    refine .inside fun n hn => ?_
    cases n with
    | zero => exact hne hn
    | succ n => exact Nat.ne_of_lt (lt_length_take hshort frames n) (congrArg List.length hn)
  · obtain ⟨k, rfl⟩ := Nat.exists_eq_succ_of_ne_zero (Nat.ne_of_gt hi)
    rw [call, hnext]
    exact call_of_flatten_nil hs' k

/-- The first frame is there, and reading goes on behind it. -/
theorem Read.cons {m : Message} {frame rest : Bytes} {s s' : Stream} {messages : List Message}
    {frames : List Bytes} {n : Nat} (hnext : Message.next s = (.ok (some m), s'))
    (hs : s.flatten = frame ++ rest) (hs' : s'.flatten = rest) (hpos : 0 < frame.length)
    (h : Read messages frames s' n) : Read (m :: messages) (frame :: frames) s (n + 1) := by
  subst hs'
  refine ⟨?_, fun i => ?_, fun i hi => ?_, ?_, fun i hi => ?_⟩
  · have := h.short
    rw [hs, List.length_append]
    omega
  · rw [hs, List.length_append]
    cases i with
    | zero => simp [Whole]
    | succ i => rw [whole_cons_succ, h.whole i, Nat.add_lt_add_iff_right]
  · cases i with
    | zero => rw [call, hnext]; rfl
    | succ i =>
      rw [call, hnext]
      exact h.messages i (Nat.lt_of_succ_lt_succ hi)
  · have hcall : s.call Message.next (n + 1) = s'.call Message.next n := by rw [call, hnext]
    rw [hcall, hs]
    exact h.ending.cons hpos
  · obtain ⟨k, rfl⟩ := Nat.exists_eq_succ_of_ne_zero (Nat.ne_of_gt (Nat.zero_lt_of_lt hi))
    rw [call, hnext]
    exact h.later k (Nat.lt_of_succ_lt_succ hi)

theorem exists_read {messages : List Message} {frames : List Bytes}
    (hframes : List.Forall₂ (fun m frame => m.frame = .ok frame) messages frames) :
    ∀ s : Stream, s.flatten <+: frames.flatten → ∃ n, Read messages frames s n := by
  induction hframes with
  | nil =>
    intro s hs
    exact ⟨0, .ended (List.prefix_nil.mp hs) _ fun i h => Nat.not_lt_zero i h.1⟩
  | @cons m frame messages frames hframe _ ih =>
    intro s hs
    rw [List.flatten_cons] at hs
    have hfront : frame <+: frame ++ frames.flatten := List.prefix_append _ _
    obtain ⟨start, heq, hheads, hdecode⟩ := Message.heads_of_frame hframe
    have hpos : 0 < frame.length := by
      rw [heq, List.length_append, hheads.four]
      omega
    -- The first frame is not whole, and nothing is read, or reading goes on behind it.
    rcases Nat.lt_or_ge s.flatten.length frame.length with hshort | hlong
    · have hpart := List.prefix_of_prefix_length_le hs hfront (Nat.le_of_lt hshort)
      by_cases hnil : s.flatten = []
      · exact ⟨0, .ended hnil _ (not_whole hshort frames)⟩
      · exact ⟨0, .cut hframe hpart hnil hshort _ _⟩
    · obtain ⟨rest, hrest⟩ := List.prefix_of_prefix_length_le hfront hs hlong
      rw [← hrest, List.prefix_append_right_inj] at hs
      obtain ⟨s', hnext, hs'⟩ := (Reads.message hheads hdecode rest).next (heq ▸ hrest.symm)
      obtain ⟨n, hn⟩ := ih s' (hs'.symm ▸ hs)
      exact ⟨n + 1, hn.cons hnext hrest.symm hs' hpos⟩

/-- Of a row of frames that is cut off somewhere, and comes in any pieces, exactly those messages are read
whose frames are whole, in order and as they were sent. Then the reader finds the end if the cut is between
two frames, and an error if it is inside one, and there is nothing to be read ever after. -/
theorem cut_frames_read {messages : List Message} {frames : List Bytes}
    (hframes : List.Forall₂ (fun m frame => m.frame = .ok frame) messages frames) {s : Stream}
    (hs : s.flatten <+: frames.flatten) :
    ∃ n ≤ messages.length, Read messages frames s n ∧
      (s.readAll Message.next).1 = messages.take n ∧
      (s.readAll Message.next).2.1 = (s.call Message.next n).map fun _ => () := by
  obtain ⟨n, h⟩ := exists_read hframes s hs
  have hle : n ≤ messages.length := by
    rcases n with _ | n
    · exact Nat.zero_le _
    · rw [hframes.length_eq]
      exact ((h.whole n).mpr (Nat.lt_succ_self n)).1
  have hlength : (messages.take n).length = n := by rw [List.length_take, Nat.min_eq_left hle]
  have hall := readFor_of_calls (messages.take n) s (s.size + 1)
    (by rw [hlength, size_eq]; exact Nat.lt_succ_of_le h.short)
    (fun i hi => by
      rw [hlength] at hi
      rw [h.messages i hi, List.getElem?_take_of_lt hi])
    (fun a ha => by
      have hends := h.ending
      rw [hlength] at ha
      rw [ha] at hends
      cases hends)
  rw [hlength] at hall
  exact ⟨n, hle, h, hall⟩

/-- Two frames of which the second is cut inside its length, in pieces that do not heed the frames. -/
theorem cut_frames_read_length :
    let messages := [⟨.current, .capabilities true⟩, ⟨⟨1, 0, 0⟩, .data [7, 8]⟩]
    let frames : List Bytes := [[0, 0, 0, 5, 1, 1, 0, 0, 1], [0, 0, 0, 7, 1, 0, 0, 1, 2, 7, 8]]
    let s : Stream := [[0, 0], [], [0, 5, 1, 1, 0, 0], [1, 0], [0]]
    List.Forall₂ (fun m frame => m.frame = .ok frame) messages frames ∧
      s.flatten <+: frames.flatten ∧ Read messages frames s 1 := by
  intro messages frames s
  have hframes : List.Forall₂ (fun (m : Message) frame => m.frame = .ok frame) messages frames :=
    .cons (by decide +kernel) (.cons (by decide +kernel) .nil)
  have hs : s.flatten <+: frames.flatten := by decide
  obtain ⟨n, -, h, -⟩ := cut_frames_read hframes hs
  have hfirst : 0 < n := (h.whole 0).mp (by simp [Whole, frames, s])
  have hsecond : ¬1 < n := fun hn => absurd ((h.whole 1).mpr hn) (by simp [Whole, frames, s])
  obtain rfl : n = 1 := by omega
  exact ⟨hframes, hs, h⟩

end Stream

end RemoteUsb.Wire
