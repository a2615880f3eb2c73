import RemoteUsb.Proofs.Wire.Reading

/-! The messages of any bytes whatever. `Longest` says, with no word about a reader, which front of the
bytes is the longest that is a row of frames that are understood, and `Closes` why there is no more: the
bytes are at their end, or go on with a bad frame. A receiver reads the messages of that front and then the
end or the error of that frame. -/

namespace RemoteUsb.Wire

/-- The bytes are a row of frames, each of a message of a version that is understood. -/
inductive Understood : Bytes → List Message → Prop where
  | nil : Understood [] []
  | cons {start body : Bytes} {m : Message} {bytes : Bytes} {messages : List Message}
      (_ : Heads start body) (_ : Message.decode body = .ok m) (_ : m.version.isCompatible = true)
      (_ : Understood bytes messages) : Understood (start ++ body ++ bytes) (m :: messages)

/-- Why the bytes do not begin with another such frame, and what is said of it at the end. -/
inductive Closes : Bytes → Except WireError Unit → Prop where
  | clean : Closes [] (.ok ())
  /-- The frame is not whole, too large, or no message. -/
  | spoilt {bytes rest : Bytes} {error : WireError} (_ : Reads bytes (.error error) rest) :
    Closes bytes (.error error)
  | foreign {start body : Bytes} {m : Message} (_ : Heads start body) (_ : Message.decode body = .ok m)
      (_ : m.version.isCompatible = false) (rest : Bytes) :
    Closes (start ++ body ++ rest) (.error (.incompatibleVersion m.version))

/-- The front of the bytes is the longest that is a row of frames that are understood. -/
structure Longest (bytes front : Bytes) (messages : List Message) (rest : Bytes) : Prop where
  split : bytes = front ++ rest
  row : Understood front messages
  longest : ∀ other others, Understood other others → other <+: bytes → other.length ≤ front.length

/-- Only at the end of the bytes nothing is bad. -/
theorem Closes.ok_iff {bytes : Bytes} {ending : Except WireError Unit} (h : Closes bytes ending) :
    ending = .ok () ↔ bytes = [] := by
  cases h with
  | clean => exact iff_of_true rfl rfl
  | spoilt hspoilt =>
    refine iff_of_false nofun ?_
    rintro rfl
    cases (Reads.ended.unique hspoilt).1
  | foreign hheads _ _ rest =>
    refine iff_of_false nofun fun hnil => ?_
    have hfour := hheads.four
    rw [List.append_assoc, List.append_eq_nil_iff] at hnil
    rw [hnil.1] at hfour
    cases hfour

/-- Bytes that close a row do not begin with a frame that is understood. -/
theorem Closes.not_cons {start body bytes : Bytes} {m : Message} {ending : Except WireError Unit}
    (h : Closes (start ++ body ++ bytes) ending) (hheads : Heads start body)
    (hm : Message.decode body = .ok m) : m.version.isCompatible = false := by
  have hreads := Reads.message hheads hm bytes
  generalize start ++ body ++ bytes = input at h hreads
  cases h with
  | clean => cases (Reads.ended.unique hreads).1
  | spoilt hspoilt => cases (hspoilt.unique hreads).1
  | foreign hheads' hm' hv rest =>
    cases ((Reads.message hheads' hm' rest).unique hreads).1
    exact hv

/-- Every message takes a byte. -/
theorem Understood.length_le {front : Bytes} {messages : List Message} (h : Understood front messages) :
    messages.length ≤ front.length := by
  induction h with
  | nil => exact Nat.le_refl _
  | cons hheads _ _ _ ih =>
    rw [List.length_cons, List.length_append, List.length_append, hheads.four]
    omega

/-- What closes a row cannot be a part of a longer one. -/
theorem Understood.longest {front rest : Bytes} {messages : List Message} {ending : Except WireError Unit}
    (h : Understood front messages) (hrest : Closes rest ending) :
    Longest (front ++ rest) front messages rest := by
  refine ⟨rfl, h, ?_⟩
  induction h with
  | nil =>
    intro other others hother hprefix
    cases hother with
    | nil => exact Nat.le_refl _
    | cons hheads hm hv _ =>
      obtain ⟨more, rfl⟩ := hprefix
      rw [List.append_assoc] at hrest
      rw [hrest.not_cons hheads hm] at hv
      cases hv
  | @cons start body m bytes messages hheads hm hv _ ih =>
    intro other others hother hprefix
    cases hother with
    | nil => exact Nat.zero_le _
    | @cons start' body' m' bytes' _ hheads' hm' _ hrow' =>
      -- Both rows begin with the frame that is read off the bytes.
      obtain ⟨more, heq⟩ := hprefix
      rw [List.append_assoc, List.append_assoc (start ++ body)] at heq
      have hreads := Reads.message hheads hm (bytes ++ rest)
      rw [← heq] at hreads
      have htail : bytes' ++ more = bytes ++ rest :=
        (hreads.unique (Reads.message hheads' hm' (bytes' ++ more))).2
      have hframe : start' ++ body' = start ++ body := by
        rw [htail] at heq
        exact List.append_cancel_right heq
      have hshort := ih bytes' _ hrow' ⟨more, htail⟩
      simp only [hframe, List.length_append] at hshort ⊢
      exact Nat.add_le_add_left hshort _

/-- All bytes are a row, and bytes that close it. -/
theorem exists_understood : ∀ bytes : Bytes, ∃ front messages rest ending,
    bytes = front ++ rest ∧ Understood front messages ∧ Closes rest ending := by
  intro bytes
  induction hlength : bytes.length using Nat.strongRecOn generalizing bytes with
  | _ length ih =>
    obtain ⟨answer, rest, hreads⟩ := exists_reads bytes
    cases answer with
    | error error => exact ⟨[], [], bytes, .error error, rfl, .nil, .spoilt hreads⟩
    | ok read =>
      cases hreads with
      | ended => exact ⟨[], [], [], .ok (), rfl, .nil, .clean⟩
      | @message start body m hheads hm rest =>
        cases hv : m.version.isCompatible with
        | false => exact ⟨[], [], _, _, rfl, .nil, .foreign hheads hm hv rest⟩
        | true =>
          have hshorter : rest.length < length := by
            rw [← hlength, List.length_append, List.length_append, hheads.four]
            omega
          obtain ⟨front, messages, last, ending, rfl, hrow, hcloses⟩ := ih _ hshorter rest rfl
          exact ⟨start ++ body ++ front, m :: messages, last, ending,
            (List.append_assoc ..).symm, .cons hheads hm hv hrow, hcloses⟩

/-! ## The receiver -/

/-- A frame that is understood is received, in the sense that its version gives it. -/
theorem Payload.receive_message {start body rest : Bytes} {m : Message} {s : Stream}
    (hheads : Heads start body) (hm : Message.decode body = .ok m)
    (hv : m.version.isCompatible = true) (hs : s.flatten = start ++ body ++ rest) :
    ∃ s', Payload.receive s = (.ok (some m.accepted), s') ∧ s'.flatten = rest := by
  obtain ⟨s', hnext, hrest⟩ := (Reads.message hheads hm rest).next hs
  exact ⟨s', by simp only [Payload.receive, hnext, Version.validate, if_pos hv]; rfl, hrest⟩

/-- At what closes a row, the receiver ends as it says. -/
theorem Closes.receive {bytes : Bytes} {ending : Except WireError Unit} (h : Closes bytes ending)
    {s : Stream} (hs : s.flatten = bytes) :
    ∃ s', Payload.receive s = (ending.map fun _ => none, s') := by
  cases h with
  | clean =>
    obtain ⟨s', hnext, -⟩ := Reads.ended.next hs
    exact ⟨s', by simp only [Payload.receive, hnext]; rfl⟩
  | spoilt hspoilt =>
    obtain ⟨s', hnext, -⟩ := hspoilt.next hs
    exact ⟨s', by simp only [Payload.receive, hnext]; rfl⟩
  | foreign hheads hm hv rest =>
    obtain ⟨s', hnext, -⟩ := (Reads.message hheads hm rest).next hs
    exact ⟨s', by simp only [Payload.receive, hnext, Version.validate, hv]; rfl⟩

end RemoteUsb.Wire
