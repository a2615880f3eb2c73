import RemoteUsb.Proofs.Fallible
import RemoteUsb.Proofs.Wire.Reading

/-! # Frames out of bytes and frames off a stream

A frame can be taken out of bytes that are all there, and it can be read off a stream whose bytes are still
to come. `slice_and_stream_agree` compares the two on the same bytes, be they frames or not: both give the
same message or the same fault, and where the bytes are too few the one says how many there are and the
other that the stream is cut. Only the end of a stream means nothing to the one that has no stream. -/

namespace RemoteUsb.Wire

/-! ## What can be wrong with bytes that are to be a message -/

section

variable {α β : Type}

/-- If it fails, then because the bytes are no message. -/
def Coded (x : Except WireError α) : Prop := ∀ error, x = .error error → ∃ fault, error = .codec fault

theorem Coded.ok (a : α) : Coded (.ok a) := nofun

theorem Coded.fault (fault : CodecFault) : Coded (α := α) (.error (.codec fault)) := by
  rintro _ ⟨⟩
  exact ⟨fault, rfl⟩

theorem Coded.bind {x : Except WireError α} {next : α → Except WireError β} (hx : Coded x)
    (hnext : ∀ a, Coded (next a)) : Coded (x >>= next) := by
  intro error h
  rcases bind_eq_error.mp h with h | ⟨a, -, h⟩
  · exact hx error h
  · exact hnext a error h

end

theorem Varint.readGroups_coded (last : UInt8) (left : Nat) :
    ∀ input, Coded (readGroups last left input) := by
  induction left with
  | zero => exact fun input => .fault .varint
  | succ left ih =>
    intro input
    match input with
    | [] => exact .fault .cut
    | b :: rest =>
      rw [readGroups]
      split
      · split
        · exact .fault .varint
        · exact .ok _
      · exact (ih rest).bind fun _ => .ok _

theorem Varint.read_coded (w : Width) (input : Bytes) : Coded (read w input) :=
  readGroups_coded w.last w.count input

theorem readByte_coded (input : Bytes) : Coded (readByte input) := by
  cases input with
  | nil => exact .fault .cut
  | cons b rest => exact .ok _

theorem readBool_coded (input : Bytes) : Coded (readBool input) := by
  refine (readByte_coded input).bind fun (b, rest) => ?_
  dsimp only
  split
  · exact .ok _
  · split
    · exact .ok _
    · exact .fault .bool

theorem readBytes_coded (input : Bytes) : Coded (readBytes input) := by
  refine (Varint.read_coded _ input).bind fun (length, rest) => ?_
  dsimp only
  split
  · exact .fault .cut
  · exact .ok _

theorem Compression.read_coded (input : Bytes) : Coded (Compression.read input) := by
  refine (Varint.read_coded _ input).bind fun (index, rest) => ?_
  match index with
  | 0 => exact .ok _
  | _ + 1 => exact .fault .alternative

theorem Payload.read_coded (input : Bytes) : Coded (Payload.read input) := by
  refine (Varint.read_coded _ input).bind fun (index, rest) => ?_
  match index with
  | 0 => exact (readBool_coded rest).bind fun _ => .ok _
  | 1 => exact (readBytes_coded rest).bind fun _ => .ok _
  | 2 =>
    exact (Compression.read_coded rest).bind fun (_, rest) =>
      (Varint.read_coded _ rest).bind fun (_, rest) => (readBytes_coded rest).bind fun _ => .ok _
  | _ + 3 => exact .fault .alternative

theorem Version.read_coded (input : Bytes) : Coded (Version.read input) :=
  (readByte_coded input).bind fun (_, rest) =>
    (readByte_coded rest).bind fun (_, rest) => (readByte_coded rest).bind fun _ => .ok _

theorem Message.read_coded (input : Bytes) : Coded (Message.read input) :=
  (Version.read_coded input).bind fun (_, rest) => (Payload.read_coded rest).bind fun _ => .ok _

theorem Message.decode_coded (input : Bytes) : Coded (Message.decode input) := by
  intro error h
  rw [Message.decode] at h
  cases hread : Message.read input with
  | ok read =>
    rw [hread] at h
    cases h
  | error fault =>
    rw [hread] at h
    cases h
    exact Message.read_coded input error hread

/-! ## One frame, taken out in either way -/

/-- Bytes that are too few for a length. -/
theorem Message.unframe_short {bytes : Bytes} (h : bytes.length < 4) :
    Message.unframe bytes = .error (.incompleteFrame 4 bytes.length) := by
  have htake : (bytes.take 4).length < 4 := Nat.lt_of_le_of_lt (List.length_take_le' 4 bytes) h
  simp only [Message.unframe, bind, Except.bind, if_pos htake]
  rfl

/-- What is made of bytes that begin with a length. -/
theorem Message.unframe_start {start others : Bytes} (hstart : start.length = 4) :
    Message.unframe (start ++ others) =
      if frameLimit < readWord start then .error (.frameTooLarge (readWord start) frameLimit)
      else if others.length < readWord start then
        .error (.incompleteFrame (4 + readWord start) (4 + others.length))
      else Message.decode (others.take (readWord start)) := by
  have htake : (start ++ others).take 4 = start := hstart ▸ List.take_left
  have hdrop : (start ++ others).drop 4 = others := hstart ▸ List.drop_left
  have hbody : (others.take (readWord start)).length < readWord start ↔ others.length < readWord start := by
    rw [List.length_take]
    omega
  simp only [Message.unframe, htake, hdrop, hstart, Nat.lt_irrefl, if_false, List.length_append,
    checkLength, hbody, bind, Except.bind]
  by_cases hlarge : frameLimit < readWord start
  · simp only [if_pos hlarge]
  · simp only [if_neg hlarge]
    split <;> rfl

/-- What the one that has all the bytes answers where the reader of a stream answers this. -/
def unframed (bytes : Bytes) : Except WireError (Option Message) → Except WireError Message
  | .ok (some m) => .ok m
  | .ok none => .error (.incompleteFrame 4 0)
  | .error .streamCut =>
    .error (.incompleteFrame (if bytes.length < 4 then 4 else 4 + readWord (bytes.take 4)) bytes.length)
  | .error error => .error error

/-- What the bytes say to a reader of streams, they say to the one that has them all. -/
theorem Reads.unframe {bytes rest : Bytes} {answer : Except WireError (Option Message)}
    (h : Reads bytes answer rest) : Message.unframe bytes = unframed bytes answer := by
  cases h with
  | ended => rfl
  | message hheads hm rest =>
    rw [List.append_assoc, Message.unframe_start hheads.four, hheads.length, if_neg (Nat.not_lt.mpr hheads.fits),
      if_neg (by rw [List.length_append]; omega), List.take_left]
    exact hm
  | unreadable hheads hm rest =>
    obtain ⟨fault, rfl⟩ := Message.decode_coded _ _ hm
    rw [List.append_assoc, Message.unframe_start hheads.four, hheads.length, if_neg (Nat.not_lt.mpr hheads.fits),
      if_neg (by rw [List.length_append]; omega), List.take_left]
    exact hm
  | large hstart hlarge rest => rw [Message.unframe_start hstart, if_pos hlarge]; rfl
  | cutStart hne hshort => rw [Message.unframe_short hshort, unframed, if_pos hshort]
  | cutBody hstart hfits hshort =>
    rename_i start part
    rw [Message.unframe_start hstart, if_neg (Nat.not_lt.mpr hfits), if_pos hshort, unframed, if_neg, ← hstart,
      List.take_left, List.length_append]
    rw [List.length_append]
    omega

/-- Nothing else goes wrong with a stream. -/
theorem Reads.error_cases {bytes rest : Bytes} {error : WireError} (h : Reads bytes (.error error) rest) :
    error = .streamCut ∨ (∃ fault, error = .codec fault) ∨
      ∃ size limit, error = .frameTooLarge size limit := by
  cases h with
  | unreadable _ hm => exact .inr (.inl (Message.decode_coded _ _ hm))
  | large => exact .inr (.inr ⟨_, _, rfl⟩)
  | cutStart | cutBody => exact .inl rfl

/-- A reader finds nothing only where nothing is. -/
theorem Reads.none_iff {bytes rest : Bytes} {answer : Except WireError (Option Message)}
    (h : Reads bytes answer rest) : answer = .ok none ↔ bytes = [] := by
  constructor
  · rintro rfl
    cases h
    rfl
  · rintro rfl
    exact (Reads.ended.unique h).1

/-- A message takes its length and as many bytes as that says. -/
theorem Reads.taken {bytes rest : Bytes} {m : Message} (h : Reads bytes (.ok (some m)) rest) :
    4 + readWord (bytes.take 4) ≤ bytes.length ∧ rest = bytes.drop (4 + readWord (bytes.take 4)) := by
  cases h with
  | @message start body _ hheads _ rest =>
    have hstart : (start ++ body ++ rest).take 4 = start := by
      rw [List.append_assoc, ← hheads.four, List.take_left]
    have hlength : (start ++ body).length = 4 + readWord start := by
      rw [List.length_append, hheads.four, hheads.length]
    rw [hstart, ← hlength, List.drop_left, @List.length_append _ (start ++ body)]
    exact ⟨Nat.le_add_right .., rfl⟩

/-- Of a frame that is too large only the length is looked at. -/
theorem Reads.large_taken {bytes rest : Bytes} {answer : Except WireError (Option Message)}
    (h : Reads bytes answer rest) (hfour : 4 ≤ bytes.length) (hlarge : frameLimit < readWord (bytes.take 4)) :
    answer = .error (.frameTooLarge (readWord (bytes.take 4)) frameLimit) ∧ rest = bytes.drop 4 := by
  have hstart : (bytes.take 4).length = 4 := by rw [List.length_take, Nat.min_eq_left hfour]
  have hreads := Reads.large hstart hlarge (bytes.drop 4)
  rw [List.take_append_drop] at hreads
  exact hreads.unique h

/-- Either way says the same of the bytes, up to how it tells that they are too few. -/
theorem Reads.agree {bytes rest : Bytes} {answer : Except WireError (Option Message)}
    (h : Reads bytes answer rest) :
    (∀ m, answer = .ok (some m) ↔ Message.unframe bytes = .ok m) ∧
      (∀ fault, answer = .error (.codec fault) ↔ Message.unframe bytes = .error (.codec fault)) ∧
      (∀ size limit, answer = .error (.frameTooLarge size limit) ↔
        Message.unframe bytes = .error (.frameTooLarge size limit)) ∧
      (answer = .error .streamCut ↔ bytes ≠ [] ∧
        ∃ expected actual, Message.unframe bytes = .error (.incompleteFrame expected actual)) := by
  have hnone := h.none_iff
  rw [h.unframe]
  match answer with
  | .ok none => simp [unframed, hnone.mp rfl]
  | .ok (some m) => simp [unframed]
  | .error error =>
    rcases h.error_cases with rfl | ⟨fault, rfl⟩ | ⟨size, limit, rfl⟩
    · have hne : bytes ≠ [] := fun hnil => nomatch hnone.mpr hnil
      simp [unframed, hne]
    · simp [unframed]
    · simp [unframed]

/-- Whatever the bytes, and whatever the pieces in which they come, the reader of a stream and the one that
has all the bytes agree: on nothing, on the message and on what it takes, on the fault of a body that is no
message, on a length that is too large, for which neither looks at the body, and on bytes that are too few.
There is nothing else that a stream can answer. -/
theorem slice_and_stream_agree (s : Stream) :
    let bytes := s.flatten
    let answer := (Message.next s).1
    let rest := (Message.next s).2.flatten
    let announced := readWord (bytes.take 4)
    (answer = .ok none ↔ bytes = []) ∧
      (∀ m, answer = .ok (some m) ↔ Message.unframe bytes = .ok m) ∧
      (∀ m, answer = .ok (some m) →
        4 + announced ≤ bytes.length ∧ rest = bytes.drop (4 + announced)) ∧
      (∀ fault, answer = .error (.codec fault) ↔ Message.unframe bytes = .error (.codec fault)) ∧
      (∀ size limit, answer = .error (.frameTooLarge size limit) ↔
        Message.unframe bytes = .error (.frameTooLarge size limit)) ∧
      (answer = .error .streamCut ↔ bytes ≠ [] ∧
        ∃ expected actual, Message.unframe bytes = .error (.incompleteFrame expected actual)) ∧
      (∀ error, answer = .error error → error = .streamCut ∨ (∃ fault, error = .codec fault) ∨
        ∃ size limit, error = .frameTooLarge size limit) ∧
      (4 ≤ bytes.length → frameLimit < announced →
        answer = .error (.frameTooLarge announced frameLimit) ∧ rest = bytes.drop 4 ∧
          ∀ body, Message.unframe (bytes.take 4 ++ body) =
            .error (.frameTooLarge announced frameLimit)) := by
  intro bytes answer rest announced
  have hreads : Reads bytes answer rest := by
    obtain ⟨answer', rest', hreads⟩ := exists_reads bytes
    obtain ⟨s', hnext, rfl⟩ := hreads.next rfl
    simp only [answer, rest, hnext]
    exact hreads
  obtain ⟨hmessage, hcodec, hlarge, hcut⟩ := hreads.agree
  refine ⟨hreads.none_iff, hmessage, fun m hm => Reads.taken (hm ▸ hreads), hcodec, hlarge, hcut,
    fun error herror => Reads.error_cases (herror ▸ hreads), fun hfour hannounced => ?_⟩
  obtain ⟨hanswer, hrest⟩ := hreads.large_taken hfour hannounced
  refine ⟨hanswer, hrest, fun body => ?_⟩
  have hstart : (bytes.take 4).length = 4 := by rw [List.length_take, Nat.min_eq_left hfour]
  rw [Message.unframe_start hstart, if_pos hannounced]

/-- A body that is one byte short, and comes in two pieces. -/
example : Message.unframe [0, 0, 0, 5, 1, 1, 0, 0] = .error (.incompleteFrame 9 8) ∧
    (Message.next [[0, 0, 0], [5, 1, 1, 0, 0]]).1 = .error .streamCut := by decide +kernel

end RemoteUsb.Wire
