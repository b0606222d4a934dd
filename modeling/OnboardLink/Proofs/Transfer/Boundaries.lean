import OnboardLink.Proofs.Frame.Extension
import OnboardLink.Proofs.Transfer.Lossless

/-! Where a packet ends on the wire. The frame's checksum does not settle it, since zeros behind a
frame keep it right; the length word of the packet inside does. So a packet with octets lost or added
at its end is never received, and the attempt costs one error. -/
namespace OnboardLink.AddressedPacket

/-- The octets are those that a packet was sent as, in a buffer or along a stream. -/
def SentAs (sent : AddressedPacket) (octets : Octets) : Prop :=
  (∃ buffer counters size, (sent.sendInto buffer counters).result = .ok size ∧
    (sent.sendInto buffer counters).destination.take size = octets) ∨
  ∃ stream counters size, (sent.sendTo stream counters).result = .ok size ∧
    (sent.sendTo stream counters).destination = stream ++ octets

variable {sent : AddressedPacket} {octets : Octets}

private theorem SentAs.eq_wire (h : sent.SentAs octets) : sent.Sendable ∧ octets = sent.wire := by
  rcases h with ⟨buffer, counters, size, hr, rfl⟩ | ⟨stream, counters, size, hr, hd⟩
  · obtain ⟨hs, hw⟩ := sendBy_eq_ok hr
    exact ⟨hs, (Frame.eq_wire_of_writeInto hw).2.2⟩
  · obtain ⟨hs, -⟩ := sendBy_eq_ok hr
    rw [hs.sendTo_eq] at hd
    exact ⟨hs, (List.append_cancel_left hd).symm⟩

/-- The length word of the packet stands in two octets of the wire. -/
theorem length_wire_eq (h1 : 1 ≤ sent.packet.dataFieldLength)
    (hm : sent.packet.dataFieldLength ≤ SpacePacket.maxDataField) : sent.wire.length =
      11 + ((sent.wire.octetAt 6).toNat * 256 + (sent.wire.octetAt 7).toNat) := by
  have hw : Octets.word (sent.wire.octetAt 6) (sent.wire.octetAt 7) =
      (sent.packet.dataFieldLength - 1).toUInt16 := Octets.word_ofWord _
  have hn := SpacePacket.Header.toNat_lengthWord h1 hm
  rw [← Octets.toNat_word, hw, length_wire, SpacePacket.size]
  change 6 + _ + 4 = _
  omega

section Receivers

variable {wire : Octets} {frame : Frame}

private theorem receive_of_frame_error {error : Frame.Error} (h : Frame.read wire = .error error)
    (secondaryLength : ℕ) (counters : Counters) :
    receive wire secondaryLength counters =
      (.error (.frame error), countFailure counters error) := by
  rw [receive, h]

private theorem receive_of_packet_error {error : SpacePacket.Error} {secondaryLength : ℕ}
    (hf : Frame.read wire = .ok frame)
    (hp : SpacePacket.read frame.payload secondaryLength = .error error) (counters : Counters) :
    receive wire secondaryLength counters = (.error (.packet error), counters.countFrameError) := by
  rw [receive, hf]
  dsimp only
  rw [hp]

end Receivers

/-- Octets that go on after a packet's end are refused. -/
theorem Sendable.receive_append (h : sent.Sendable) {suffix : Octets} (hn : suffix ≠ [])
    (secondaryLength : ℕ) (counters : Counters) :
    (∃ received computed, receive (sent.wire ++ suffix) secondaryLength counters =
      (.error (.frame (.wrongChecksum received computed)), counters.countChecksumError)) ∨
    (∃ size max, receive (sent.wire ++ suffix) secondaryLength counters =
      (.error (.frame (.payloadTooLong size max)), counters.countFrameError)) ∨
    ∃ declared actual, receive (sent.wire ++ suffix) secondaryLength counters =
      (.error (.packet (.overlong declared actual)), counters.countFrameError) := by
  have hs : Frame.minSize ≤ (sent.wire ++ suffix).length := by
    rw [List.length_append, length_wire]
    exact (Nat.le_add_left _ _).trans (Nat.le_add_right _ _)
  by_cases hl : Frame.maxPayload + Frame.minSize < (sent.wire ++ suffix).length
  · obtain ⟨size, max, he⟩ := (Frame.read_eq_payloadTooLong_iff _).mpr hl
    exact .inr (.inl ⟨size, max, receive_of_frame_error he secondaryLength counters⟩)
  · by_cases ha : Frame.Accepted (sent.wire ++ suffix)
    · obtain ⟨longer, hf⟩ := ha
      obtain ⟨more, hm, hp⟩ :=
        Frame.exists_payload_append (Frame.read_wire h.payload_fits) hf
      have hm : more ≠ [] := by
        rwa [← List.length_pos_iff, hm, List.length_pos_iff]
      obtain ⟨declared, actual, he⟩ := h.writable.read_append hm secondaryLength
      refine .inr (.inr ⟨declared, actual, receive_of_packet_error hf ?_ counters⟩)
      rw [hp]
      exact he
    · obtain ⟨received, computed, he⟩ :=
        (Frame.mismatched_iff_not_accepted hs (Nat.not_lt.mp hl)).mpr ha
      exact .inl ⟨received, computed, receive_of_frame_error he secondaryLength counters⟩

/-- Octets that end before the packet does are refused. -/
theorem Sendable.receive_of_append_eq (h : sent.Sendable) {front rest : Octets}
    (he : front ++ rest = sent.wire) (hn : rest ≠ []) (secondaryLength : ℕ)
    (counters : Counters) :
    (∃ length, receive front secondaryLength counters =
      (.error (.frame (.tooShort length)), counters.countFrameError)) ∨
    (∃ received computed, receive front secondaryLength counters =
      (.error (.frame (.wrongChecksum received computed)), counters.countChecksumError)) ∨
    ∃ length needed, receive front secondaryLength counters =
      (.error (.packet (.cutShort length needed)), counters.countFrameError) := by
  have hw : Frame.read (front ++ rest) = .ok sent.frame := by
    rw [he]
    exact Frame.read_wire h.payload_fits
  have hl : front.length ≤ Frame.maxPayload + Frame.minSize := by
    have hb := (Frame.Accepted.length_bounds ⟨_, hw⟩).2
    rw [List.length_append] at hb
    exact (Nat.le_add_right _ _).trans hb
  by_cases hs : front.length < Frame.minSize
  · obtain ⟨length, he⟩ := (Frame.read_eq_tooShort_iff _).mpr hs
    exact .inl ⟨length, receive_of_frame_error he secondaryLength counters⟩
  · by_cases ha : Frame.Accepted front
    · obtain ⟨shorter, hf⟩ := ha
      obtain ⟨more, hm, hp⟩ := Frame.exists_payload_append hf hw
      have hm : more ≠ [] := by
        rwa [← List.length_pos_iff, hm, List.length_pos_iff]
      obtain ⟨length, needed, he⟩ :=
        h.writable.read_of_append_eq hp.symm hm secondaryLength
      exact .inr (.inr ⟨length, needed, receive_of_packet_error hf he counters⟩)
    · obtain ⟨received, computed, he⟩ :=
        (Frame.mismatched_iff_not_accepted (Nat.not_lt.mp hs) hl).mpr ha
      exact .inr (.inl ⟨received, computed, receive_of_frame_error he secondaryLength counters⟩)

/-- What is received has the length that two of its octets tell. So nothing is received with octets
added behind a sent packet or missing at its end: the frame is refused or its packet is, and one
error is counted, of the checksum or of the frame, and nothing received. -/
theorem boundaries_kept :
    (∀ (octets : Octets) (secondaryLength : ℕ) (counters : Counters) (found : AddressedPacket),
      (receive octets secondaryLength counters).1 = .ok found →
        octets.length = 11 + ((octets.octetAt 6).toNat * 256 + (octets.octetAt 7).toNat)) ∧
    ∀ (sent : AddressedPacket) (octets : Octets), sent.SentAs octets →
      ∀ (secondaryLength : ℕ) (counters : Counters),
        (∀ suffix : Octets, suffix ≠ [] →
          (∃ received computed, receive (octets ++ suffix) secondaryLength counters =
            (.error (.frame (.wrongChecksum received computed)),
              { counters with checksumErrors := counters.checksumErrors + 1 })) ∨
          (∃ size max, receive (octets ++ suffix) secondaryLength counters =
            (.error (.frame (.payloadTooLong size max)),
              { counters with frameErrors := counters.frameErrors + 1 })) ∨
          ∃ declared actual, receive (octets ++ suffix) secondaryLength counters =
            (.error (.packet (.overlong declared actual)),
              { counters with frameErrors := counters.frameErrors + 1 })) ∧
        ∀ front rest : Octets, front ++ rest = octets → rest ≠ [] →
          (∃ length, receive front secondaryLength counters =
            (.error (.frame (.tooShort length)),
              { counters with frameErrors := counters.frameErrors + 1 })) ∨
          (∃ received computed, receive front secondaryLength counters =
            (.error (.frame (.wrongChecksum received computed)),
              { counters with checksumErrors := counters.checksumErrors + 1 })) ∨
          ∃ length needed, receive front secondaryLength counters =
            (.error (.packet (.cutShort length needed)),
              { counters with frameErrors := counters.frameErrors + 1 }) := by
  constructor
  · intro octets secondaryLength counters found h
    obtain ⟨-, hp, rfl⟩ := receive_eq_ok_iff.mp h
    obtain ⟨-, h1, hm, -⟩ := SpacePacket.read_eq_ok_iff.mp hp
    exact length_wire_eq h1 hm
  · intro sent octets h secondaryLength counters
    obtain ⟨hs, rfl⟩ := h.eq_wire
    constructor
    · intro suffix hn
      exact hs.receive_append hn secondaryLength counters
    · intro front rest he hn
      exact hs.receive_of_append_eq he hn secondaryLength counters

/-- A packet of one octet. With a zero behind it its frame is still accepted, but not the packet, and
no shorter piece of it is received. -/
theorem boundaries_kept_padded :
    let sent : AddressedPacket := ⟨5, 1, { user := [0xAA] }⟩
    (receive sent.wire 0 {}).1 = .ok sent ∧
    sent.wire.length = 11 + ((sent.wire.octetAt 6).toNat * 256 + (sent.wire.octetAt 7).toNat) ∧
    sent.SentAs sent.wire ∧ Frame.Accepted (sent.wire ++ [0]) ∧
    (∃ declared actual, receive (sent.wire ++ [0]) 0 {} =
      (.error (.packet (.overlong declared actual)), { frameErrors := 1 })) ∧
    ∀ cut < sent.wire.length, ∃ error, (receive (sent.wire.take cut) 0 {}).1 = .error error := by
  intro sent
  have hs : sent.Sendable :=
    ⟨⟨⟨by decide, by decide, by decide⟩, by decide, by decide, by decide⟩, by decide⟩
  have hr : (receive sent.wire 0 {}).1 = .ok sent := hs.receive_wire nofun {}
  have hd : (sent.sendTo [] {}).destination = [] ++ sent.wire := by rw [hs.sendTo_eq]
  have hi : sent.SentAs sent.wire :=
    .inr ⟨[], {}, sent.wire.length, by rw [hs.sendTo_eq], hd⟩
  have hw : Frame.read sent.wire = .ok sent.frame := Frame.read_wire hs.payload_fits
  have hl : sent.wire.length = 11 := length_wire sent
  obtain ⟨longer, hz⟩ : Frame.Accepted (sent.wire ++ [0]) :=
    (Frame.Accepted.append_iff ⟨_, hw⟩ (by rw [hl]; decide)).mpr (Frame.absorb_zero_replicate 1)
  obtain ⟨hadded, hmissing⟩ := boundaries_kept.2 sent sent.wire hi 0 {}
  refine ⟨hr, boundaries_kept.1 _ _ _ _ hr, hi, ⟨longer, hz⟩, ?_, ?_⟩
  · -- The frame is not refused, so the packet is.
    have hn (error : Frame.Error) (counters : Counters) :
        receive (sent.wire ++ [0]) 0 {} ≠ (.error (.frame error), counters) := by
      intro he
      rw [receive, hz] at he
      dsimp only at he
      split at he
      · cases he
      · cases he
    rcases hadded [0] (by decide) with ⟨received, computed, he⟩ | ⟨size, max, he⟩ | he
    · exact absurd he (hn _ _)
    · exact absurd he (hn _ _)
    · exact he
  · intro cut hc
    have hm : sent.wire.drop cut ≠ [] := mt List.drop_eq_nil_iff.mp (Nat.not_le.mpr hc)
    rcases hmissing _ _ (List.take_append_drop cut sent.wire) hm with
      ⟨length, he⟩ | ⟨received, computed, he⟩ | ⟨length, needed, he⟩
    all_goals exact ⟨_, congrArg Prod.fst he⟩

end OnboardLink.AddressedPacket
