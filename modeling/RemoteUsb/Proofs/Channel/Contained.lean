import RemoteUsb.Proofs.Channel.Delivery
import RemoteUsb.Proofs.Lz4.Format
import RemoteUsb.Proofs.Lz4.Steps
import RemoteUsb.Proofs.Manager.Overtaken

/-! # Compressed data from a peer that is not trusted

A peer may send any bytes as a block and announce any size for it. `compressed_contained` says that there
are two outcomes. Either the block stands for exactly as many bytes as were announced, and those bytes are
given to the host once; or the host is not asked at all, and the message counts as one that cannot be read,
at which a connected device is taken off. In both cases unpacking the block comes to an end, and it never
holds more than the announced size. -/

namespace RemoteUsb

namespace Wire

/-- A block is what was announced: it stands for bytes of that number, which are some and no more than a
frame may hold. -/
structure AsAnnounced (size : Nat) (block bytes : Bytes) : Prop where
  stands : Lz4.Stands [] block bytes
  length : bytes.length = size
  positive : 1 ≤ size
  fits : size ≤ frameLimit

/-- What may be wrong with a block and the size announced for it. -/
inductive Unsound (size : Nat) (block : Bytes) : Prop where
  | empty (_ : size = 0)
  | large (_ : frameLimit < size)
  | malformed (_ : ∀ bytes, ¬Lz4.Stands [] block bytes)
  | fewer {bytes : Bytes} (_ : Lz4.Stands [] block bytes) (_ : bytes.length < size)
  | more {bytes : Bytes} (_ : Lz4.Stands [] block bytes) (_ : size < bytes.length)

variable {size : Nat} {block bytes : Bytes}

theorem Unsound.not_asAnnounced (h : Unsound size block) : ¬AsAnnounced size block bytes := by
  rintro ⟨hstands, hlength, hpos, hfits⟩
  cases h with
  | empty h => omega
  | large h => omega
  | malformed h => exact h bytes hstands
  | fewer hother h =>
    rw [hother.unique hstands] at h
    omega
  | more hother h =>
    rw [hother.unique hstands] at h
    omega

/-- A block that is not what was announced has one of these faults. -/
theorem unsound_of_not (h : ∀ bytes, ¬AsAnnounced size block bytes) : Unsound size block := by
  by_cases hempty : size = 0
  · exact .empty hempty
  by_cases hlarge : frameLimit < size
  · exact .large hlarge
  by_cases hstands : ∃ bytes, Lz4.Stands [] block bytes
  · obtain ⟨bytes, hstands⟩ := hstands
    rcases Nat.lt_trichotomy bytes.length size with hless | hequal | hmore
    · exact .fewer hstands hless
    · exact absurd ⟨hstands, hequal, by omega, by omega⟩ (h bytes)
    · exact .more hstands hmore
  · exact .malformed (not_exists.mp hstands)

/-- Exactly the blocks that are what was announced are unpacked. -/
theorem Compression.unpack_eq_ok {size : UInt32} :
    Compression.lz4.unpack block size = .ok bytes ↔ AsAnnounced size.toNat block bytes := by
  simp only [unpack]
  constructor
  · intro h
    split at h
    · cases h
    · split at h
      · cases h
      · split at h
        · cases h
        · rename_i unpacked hread
          split at h
          · rename_i hlength
            cases h
            exact ⟨(Lz4.decompress_eq_ok.mp hread).1, hlength, by omega, by omega⟩
          · cases h
  · rintro ⟨hstands, hlength, hpos, hfits⟩
    have hread := Lz4.decompress_eq_ok.mpr ⟨hstands, Nat.le_of_eq hlength⟩
    rw [if_neg (by omega), if_neg (by omega), hread]
    dsimp only
    rw [if_pos hlength]

theorem Compression.unpack_unsound {size : UInt32} (h : Unsound size.toNat block) :
    ∃ error, Compression.lz4.unpack block size = .error error := by
  cases hunpack : Compression.lz4.unpack block size with
  | error error => exact ⟨error, rfl⟩
  | ok bytes => exact absurd (unpack_eq_ok.mp hunpack) h.not_asAnnounced

end Wire

namespace Channel

variable {c : Channel}

/-- The host of a channel is given the bytes, once. Without a host they are dropped. -/
structure GivesOnce (c : Channel) (bytes : Bytes) (outcome : Channel × List Effect × Option Failure) :
    Prop where
  reads : ∀ host, c.host = some host →
    outcome = c.reading host bytes ∧ outcome.1.host.map Host.readings = some (host.readings + 1)
  drops : c.host = none → outcome = (c, [], none)

/-- A message could not be read. The host is not asked: it only hands the device back where one is taken
off. -/
structure Refuses (c : Channel) (outcome : Channel × List Effect × Option Failure) : Prop where
  reported : outcome.2.2 = some { device := c.device, released := c.state == .connected, fault := .parse }
  unasked : outcome.1.host = if c.state = .connected then c.host.map Host.detach else c.host
  released : c.state = .connected →
    outcome.1.isFree = true ∧ outcome.1.handle? = none ∧ outcome.1.grant = none ∧
      outcome.1.binding = c.binding + 1 ∧
      outcome.2.1 = (c.handle?.map Effect.closed).toList ++ (c.grant.map Effect.inputClosed).toList
  kept : c.state ≠ .connected →
    outcome.1.device = c.device ∧ outcome.1.binding = c.binding ∧ outcome.2.1 = []

theorem failDevice_of_not_connected (h : c.state ≠ .connected) (fault : DeviceFault) :
    (c.failDevice fault).1.host = c.host ∧ (c.failDevice fault).1.device = c.device ∧
      (c.failDevice fault).1.binding = c.binding ∧ (c.failDevice fault).2.1 = [] := by
  obtain ⟨_, hdevice, hbinding⟩ := stopRequest_keeps c
  have hhost : c.stopRequest.host = c.host := by
    unfold stopRequest
    split <;> rfl
  unfold failDevice
  cases hstate : c.state with
  | connected => exact absurd hstate h
  | waitingForAccess => exact ⟨hhost, hdevice, hbinding, rfl⟩
  | disconnected | disconnecting => exact ⟨rfl, rfl, rfl, rfl⟩

theorem failing_refuses (c : Channel) : c.Refuses (c.failing .parse) where
  reported := congrArg some (c.failDevice_eq .parse)
  unasked := by
    change (c.failDevice .parse).1.host = _
    split
    · rename_i h
      rw [failDevice_of_connected h]
      rfl
    · rename_i h
      exact (failDevice_of_not_connected h .parse).1
  released h := by
    rw [failing, failDevice_of_connected h]
    exact ⟨rfl, handle?_detach c.host, rfl, rfl, rfl⟩
  kept h := (failDevice_of_not_connected h .parse).2

theorem receive_announced {size : UInt32} {block bytes : Bytes}
    (h : Wire.AsAnnounced size.toNat block bytes) (c : Channel) :
    c.GivesOnce bytes (c.receive (.compressed .lz4 size block)) := by
  have hunpack := Wire.Compression.unpack_eq_ok.mpr h
  refine ⟨fun host hhost => ?_, fun hnone => ?_⟩
  · rw [receive_packed hhost hunpack]
    exact ⟨rfl, c.reading_readings host bytes⟩
  · rw [receive, hear, hunpack]
    dsimp only
    rw [give, hnone]

theorem receive_unsound {size : UInt32} {block : Bytes} (h : Wire.Unsound size.toNat block) (c : Channel) :
    c.Refuses (c.receive (.compressed .lz4 size block)) := by
  obtain ⟨error, hunpack⟩ := Wire.Compression.unpack_unsound h
  rw [receive_broken hunpack]
  exact c.failing_refuses

/-- Whatever the state of a channel, whatever the block and whatever the size announced for it: either the
block is what was announced, and its bytes are given to the host once; or it is not, and the host is not
asked, and the failure is reported as of a message that cannot be read. Unpacking a block, whatever the
room for it, comes to an end after no more steps than there are bytes to read and to write, and at no step
does it hold more bytes than there is room for. -/
theorem compressed_contained (c : Channel) (size : UInt32) (block : Bytes) :
    ((∃ bytes, Wire.AsAnnounced size.toNat block bytes ∧
        c.GivesOnce bytes (c.receive (.compressed .lz4 size block))) ∨
      (Wire.Unsound size.toNat block ∧ c.Refuses (c.receive (.compressed .lz4 size block)))) ∧
    (∃ n result, n ≤ block.length + size.toNat + 1 ∧
      Lz4.Unpacking.Ends size.toNat (.start block) n result ∧
      Lz4.decompress block size.toNat = result.map Array.toList) ∧
    ∀ u, Lz4.Unpacking.Reaches size.toNat (.start block) u → u.out.size ≤ size.toNat := by
  refine ⟨?_, ?_, fun u => Lz4.Unpacking.start_held⟩
  · by_cases h : ∃ bytes, Wire.AsAnnounced size.toNat block bytes
    · obtain ⟨bytes, h⟩ := h
      exact .inl ⟨bytes, h, receive_announced h c⟩
    · have hunsound := Wire.unsound_of_not (not_exists.mp h)
      exact .inr ⟨hunsound, receive_unsound hunsound c⟩
  · obtain ⟨n, hle, hends⟩ := Lz4.Unpacking.start_ends size.toNat block
    exact ⟨n, _, hle, hends, rfl⟩

/-- One byte, and a match that repeats it. -/
def sevens : Bytes := [0x1f, 7, 1, 0, 76, 0]

theorem stands_sevens : Lz4.Stands [] sevens (List.replicate 96 7) := by
  have hlast : Lz4.Stands (List.replicate 96 7) [0] [] :=
    @Lz4.Stands.last (List.replicate 96 7) [] [] 0 (.short (by decide))
  exact @Lz4.Stands.more [] [] [7] [76] (List.replicate 95 7) [0] [] 0x1f 1 0 91 (.short (by decide))
    (by decide) (by decide) (.full 0 (by decide)) (by decide) (by unfold Lz4.Repeats; decide) hlast

/-- A channel whose host holds a handle of the device. -/
def holder : Channel :=
  { id := 1, transport := .recording true false, threshold := 1000, state := .connected,
    device := some (Manager.deviceAt 2), host := some { handle := some ⟨.busAddress 1 2, 7⟩ } }

/-- The host reads the bytes if their number was announced. If one less was announced, the device is
taken off, and its handle is closed. -/
theorem sevens_contained :
    holder.GivesOnce (List.replicate 96 7) (holder.receive (.compressed .lz4 96 sevens)) ∧
      holder.Refuses (holder.receive (.compressed .lz4 95 sevens)) ∧
      (holder.receive (.compressed .lz4 95 sevens)).2.1 = [.closed ⟨.busAddress 1 2, 7⟩] := by
  have hannounced : Wire.AsAnnounced 96 sevens (List.replicate 96 7) :=
    ⟨stands_sevens, by decide, by decide, by decide⟩
  have hunsound : Wire.Unsound 95 sevens := .more stands_sevens (by decide)
  have hrefuses : holder.Refuses (holder.receive (.compressed .lz4 95 sevens)) := by
    rcases (compressed_contained holder 95 sevens).1 with ⟨bytes, h, _⟩ | ⟨_, h⟩
    · exact absurd h hunsound.not_asAnnounced
    · exact h
  refine ⟨?_, hrefuses, (hrefuses.released rfl).2.2.2.2⟩
  rcases (compressed_contained holder 96 sevens).1 with ⟨bytes, h, hgives⟩ | ⟨h, _⟩
  · rwa [h.stands.unique stands_sevens] at hgives
  · exact absurd hannounced h.not_asAnnounced

end Channel

end RemoteUsb
