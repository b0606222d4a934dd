import OnboardLink.Transfer
import OnboardLink.Proofs.Frame.RoundTrip
import OnboardLink.Proofs.SpacePacket.RoundTrip

/-! Packets through frames. A packet that can be written and fits a frame has one form on the wire.
Both ways of sending produce it, and only such octets are received; what was received is sent as the
same octets again, unless a secondary header was announced and none cut off. -/
namespace OnboardLink.AddressedPacket

/-- The frame that carries the packet. -/
def frame (sent : AddressedPacket) : Frame := ⟨sent.target, sent.protocol, sent.packet.octets⟩

/-- The octets of the packet on the wire. -/
def wire (sent : AddressedPacket) : Octets := sent.frame.wire

/-- The packet can be written and fits a frame. -/
structure Sendable (sent : AddressedPacket) : Prop where
  writable : sent.packet.Writable
  fits : sent.packet.size ≤ Frame.maxPayload

variable {sent : AddressedPacket}

theorem size_frame (sent : AddressedPacket) : sent.frame.size = sent.packet.size + 4 := by
  rw [Frame.size_eq, frame, SpacePacket.length_octets]
  rfl

theorem length_wire (sent : AddressedPacket) : sent.wire.length = sent.packet.size + 4 := by
  rw [wire, Frame.length_wire, size_frame]

theorem Sendable.payload_fits (h : sent.Sendable) :
    sent.frame.payload.length ≤ Frame.maxPayload :=
  (SpacePacket.length_octets sent.packet).trans_le h.fits

theorem payload_eq_ok_iff {octets : Octets} :
    sent.payload = .ok octets ↔ sent.Sendable ∧ octets = sent.packet.octets := by
  rw [payload]
  by_cases hf : Frame.maxPayload < sent.packet.size
  · rw [if_pos hf]
    exact iff_of_false nofun fun h => absurd h.1.fits (Nat.not_le.mpr hf)
  · rw [if_neg hf]
    by_cases hw : sent.packet.Writable
    · rw [hw.appendTo_eq]
      constructor
      · intro h
        cases h
        exact ⟨⟨hw, Nat.not_lt.mp hf⟩, rfl⟩
      · rintro ⟨-, rfl⟩
        rfl
    · refine iff_of_false ?_ fun h => hw h.1.writable
      cases he : sent.packet.headerOctets with
      | error error =>
        rw [SpacePacket.appendTo_of_error he]
        exact nofun
      | ok packed => exact absurd (SpacePacket.headerOctets_eq_ok_iff.mp he).1 hw

section Senders

variable {write : Frame → Octets → Except Frame.Error ℕ × Octets} {destination after : Octets}
  {size : ℕ}

theorem sendBy_of_error {error : Error} (h : sent.payload = .error error) (destination : Octets)
    (counters : Counters) :
    sendBy write sent destination counters = ⟨.error error, destination, counters⟩ := by
  rw [sendBy, h]

theorem Sendable.sendBy_eq (h : sent.Sendable)
    (hw : write sent.frame destination = (.ok size, after)) (counters : Counters) :
    sendBy write sent destination counters = ⟨.ok size, after, counters.countSent size⟩ := by
  rw [frame] at hw
  rw [sendBy, payload_eq_ok_iff.mpr ⟨h, rfl⟩]
  simp only [hw]

theorem Sendable.sendBy_of_error {error : Frame.Error} (h : sent.Sendable)
    (hw : write sent.frame destination = (.error error, after)) (counters : Counters) :
    sendBy write sent destination counters = ⟨.error (.frame error), after, counters⟩ := by
  rw [frame] at hw
  rw [sendBy, payload_eq_ok_iff.mpr ⟨h, rfl⟩]
  simp only [hw]

/-- Nothing else is sent. -/
theorem sendBy_eq_ok {counters : Counters}
    (h : (sendBy write sent destination counters).result = .ok size) :
    sent.Sendable ∧ write sent.frame destination =
      (.ok size, (sendBy write sent destination counters).destination) := by
  cases hp : sent.payload with
  | error error =>
    rw [sendBy_of_error hp] at h
    cases h
  | ok octets =>
    obtain ⟨hs, -⟩ := payload_eq_ok_iff.mp hp
    refine ⟨hs, ?_⟩
    rcases hw : write sent.frame destination with ⟨error | written, after⟩
    · rw [hs.sendBy_of_error hw] at h
      cases h
    · rw [hs.sendBy_eq hw] at h ⊢
      cases h
      rfl

end Senders

/-- With room in the buffer the wire form covers its front and the rest of the buffer stays. -/
theorem Sendable.sendInto_eq (h : sent.Sendable) {buffer : Octets}
    (hr : sent.wire.length ≤ buffer.length) (counters : Counters) :
    sent.sendInto buffer counters = ⟨.ok sent.wire.length,
      sent.wire ++ buffer.drop sent.wire.length, counters.countSent sent.wire.length⟩ := by
  have hl : sent.wire.length = sent.frame.size := Frame.length_wire sent.frame
  rw [hl] at hr ⊢
  exact h.sendBy_eq (Frame.writeInto_of_room h.payload_fits hr) counters

/-- The stream grows by the wire form. -/
theorem Sendable.sendTo_eq (h : sent.Sendable) (stream : Octets) (counters : Counters) :
    sent.sendTo stream counters = ⟨.ok sent.wire.length, stream ++ sent.wire,
      counters.countSent sent.wire.length⟩ := by
  have hl : sent.wire.length = sent.frame.size := Frame.length_wire sent.frame
  rw [hl]
  exact h.sendBy_eq (Frame.appendTo_of_fits h.payload_fits stream) counters

/-- A packet is received from its wire form alone, cut where its secondary header ends. -/
theorem receive_eq_ok_iff {wire : Octets} {secondaryLength : ℕ} {counters : Counters} :
    (receive wire secondaryLength counters).1 = .ok sent ↔
      sent.packet.size ≤ Frame.maxPayload ∧
        SpacePacket.read sent.packet.octets secondaryLength = .ok sent.packet ∧
          wire = sent.wire := by
  constructor
  · intro h
    rw [receive] at h
    cases hf : Frame.read wire with
    | error error =>
      rw [hf] at h
      cases h
    | ok found =>
      rw [hf] at h
      dsimp only at h
      cases hp : SpacePacket.read found.payload secondaryLength with
      | error error =>
        rw [hp] at h
        cases h
      | ok packet =>
        rw [hp] at h
        cases h
        obtain ⟨hm, rfl⟩ := Frame.eq_wire_of_read hf
        have ho : found.payload = packet.octets := (SpacePacket.read_eq_ok_iff.mp hp).2.2.2.2
        rw [ho] at hp hm
        rw [SpacePacket.length_octets] at hm
        refine ⟨hm, hp, ?_⟩
        rw [AddressedPacket.wire, frame, ← ho]
  · rintro ⟨hm, hp, rfl⟩
    have hf : Frame.read sent.wire = .ok ⟨sent.target, sent.protocol, sent.packet.octets⟩ :=
      Frame.read_wire ((SpacePacket.length_octets sent.packet).trans_le hm)
    rw [receive, hf]
    dsimp only
    rw [hp]

/-- Packets that can be sent arrive unchanged where the secondary header's length is known. -/
theorem Sendable.receive_wire (h : sent.Sendable) {secondaryLength : ℕ}
    (hn : sent.packet.header.hasSecondary = true → secondaryLength = sent.packet.secondary.length)
    (counters : Counters) : (receive sent.wire secondaryLength counters).1 = .ok sent :=
  receive_eq_ok_iff.mpr ⟨h.fits, h.writable.read_octets hn, rfl⟩

/-- What was received could have been sent, but for an announced secondary header of no octet. -/
theorem sendable_of_receive {wire : Octets} {secondaryLength : ℕ} {counters : Counters}
    (h : (receive wire secondaryLength counters).1 = .ok sent)
    (hn : sent.packet.header.hasSecondary = false ∨ 1 ≤ secondaryLength) : sent.Sendable := by
  obtain ⟨hf, hp, -⟩ := receive_eq_ok_iff.mp h
  exact ⟨SpacePacket.writable_of_read hp hn, hf⟩

/-- An announced secondary header of no octet is read but not written. -/
theorem payload_of_missing (hf : sent.packet.size ≤ Frame.maxPayload)
    (ha : sent.packet.header.hasSecondary = true) (hs : sent.packet.secondary = []) :
    sent.payload = .error (.packet .secondaryMissing) := by
  rw [payload, if_neg (Nat.not_lt.mpr hf),
    SpacePacket.appendTo_of_error (SpacePacket.headerOctets_of_missing ha hs)]

/-- Packets travel through frames without loss. What is sent arrives as it was, and what arrives
would be sent as the same octets, whichever way; only a secondary header that is announced and cut
off at no octet cannot be sent again. -/
theorem transport_lossless :
    (∀ (sent : AddressedPacket) (buffer : Octets) (sender receiver : Counters)
        (secondaryLength : ℕ),
      sent.packet.header.Fits →
      (sent.packet.secondary ≠ [] ↔ sent.packet.header.hasSecondary = true) →
      1 ≤ sent.packet.dataFieldLength → sent.packet.size ≤ 65535 →
      sent.packet.size + 4 ≤ buffer.length →
      (sent.packet.header.hasSecondary = true →
        secondaryLength = sent.packet.secondary.length) →
        (sent.sendInto buffer sender).result = .ok (sent.packet.size + 4) ∧
        (receive ((sent.sendInto buffer sender).destination.take (sent.packet.size + 4))
          secondaryLength receiver).1 = .ok sent) ∧
    ∀ (octets : Octets) (secondaryLength : ℕ) (receiver : Counters) (found : AddressedPacket),
      (receive octets secondaryLength receiver).1 = .ok found →
      (found.packet.header.hasSecondary = false ∨ 1 ≤ secondaryLength →
        (∀ (buffer : Octets) (sender : Counters), octets.length ≤ buffer.length →
          (found.sendInto buffer sender).result = .ok octets.length ∧
          (found.sendInto buffer sender).destination.take octets.length = octets) ∧
        ∀ (stream : Octets) (sender : Counters),
          (found.sendTo stream sender).result = .ok octets.length ∧
          (found.sendTo stream sender).destination = stream ++ octets) ∧
      (found.packet.header.hasSecondary = true → secondaryLength = 0 →
        (∀ (buffer : Octets) (sender : Counters),
          (found.sendInto buffer sender).result = .error (.packet .secondaryMissing)) ∧
        ∀ (stream : Octets) (sender : Counters),
          (found.sendTo stream sender).result = .error (.packet .secondaryMissing)) := by
  constructor
  · intro sent buffer sender receiver secondaryLength hh hs h1 hf hr hn
    have hm : sent.packet.dataFieldLength ≤ SpacePacket.maxDataField :=
      (Nat.le_add_left _ _).trans (hf.trans (by decide))
    have h : sent.Sendable := ⟨⟨hh, hs, h1, hm⟩, hf⟩
    rw [← length_wire] at hr ⊢
    rw [h.sendInto_eq hr, List.take_left]
    exact ⟨rfl, h.receive_wire hn receiver⟩
  · intro octets secondaryLength receiver found h
    obtain ⟨hf, hp, rfl⟩ := receive_eq_ok_iff.mp h
    constructor
    · intro hn
      have hs : found.Sendable := sendable_of_receive h hn
      constructor
      · intro buffer sender hr
        rw [hs.sendInto_eq hr, List.take_left]
        exact ⟨rfl, rfl⟩
      · intro stream sender
        rw [hs.sendTo_eq]
        exact ⟨rfl, rfl⟩
    · intro ha hz
      have hl := (SpacePacket.read_eq_ok_iff.mp hp).2.2.2.1
      rw [if_pos ha, hz] at hl
      have hm := payload_of_missing hf ha (List.length_eq_zero_iff.mp hl)
      constructor
      · intro buffer sender
        rw [sendInto, sendBy_of_error hm]
      · intro stream sender
        rw [sendTo, sendBy_of_error hm]

/-- A packet with a secondary header of one octet, and the same octets received without a cut. -/
theorem transport_lossless_secondary :
    let sent : AddressedPacket := ⟨5, 1,
      { header := { hasSecondary := true }, secondary := [0xAA], user := [0x01, 0x02] }⟩
    let uncut : AddressedPacket := ⟨5, 1,
      { header := { hasSecondary := true }, user := [0xAA, 0x01, 0x02] }⟩
    let buffer : Octets := List.replicate 14 0xEE
    ((sent.sendInto buffer {}).result = .ok 13 ∧
      (receive ((sent.sendInto buffer {}).destination.take 13) 1 {}).1 = .ok sent) ∧
    ((receive sent.wire 1 {}).1 = .ok sent ∧ (sent.sendInto buffer {}).result = .ok 13 ∧
      (sent.sendTo [] {}).destination = sent.wire) ∧
    (receive sent.wire 0 {}).1 = .ok uncut ∧
      (uncut.sendInto buffer {}).result = .error (.packet .secondaryMissing) := by
  intro sent uncut buffer
  have hh : sent.packet.header.Fits := ⟨by decide, by decide, by decide⟩
  have hs : sent.packet.secondary ≠ [] ↔ sent.packet.header.hasSecondary = true := by decide
  have h1 : 1 ≤ sent.packet.dataFieldLength := by decide
  have hf : sent.packet.size ≤ 65535 := by decide
  have hm : sent.packet.dataFieldLength ≤ SpacePacket.maxDataField := by decide
  have hr : (receive sent.wire 1 {}).1 = .ok sent :=
    receive_eq_ok_iff.mpr ⟨hf, SpacePacket.read_eq_ok_iff.mpr ⟨hh, h1, hm, rfl, rfl⟩, rfl⟩
  have hu : (receive uncut.wire 0 {}).1 = .ok uncut :=
    receive_eq_ok_iff.mpr ⟨hf, SpacePacket.read_eq_ok_iff.mpr ⟨hh, h1, hm, rfl, rfl⟩, rfl⟩
  have ho : uncut.frame = sent.frame := rfl
  have hw : uncut.wire = sent.wire := congrArg Frame.wire ho
  have hl : sent.wire.length = 13 := length_wire sent
  have hb := (transport_lossless.2 _ _ _ _ hr).1 (.inr (le_refl 1))
  rw [hl] at hb
  refine ⟨?_, ⟨hr, (hb.1 buffer {} (by decide)).1, (hb.2 [] {}).2.trans (List.nil_append _)⟩,
    hw ▸ hu, ?_⟩
  · exact transport_lossless.1 sent buffer {} {} 1 hh hs h1 hf (by decide) fun _ => rfl
  · exact ((transport_lossless.2 _ _ _ _ hu).2 rfl rfl).1 buffer {}

end OnboardLink.AddressedPacket
