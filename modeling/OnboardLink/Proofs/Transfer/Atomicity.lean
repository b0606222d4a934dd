import OnboardLink.Proofs.SpacePacket.Acceptance
import OnboardLink.Proofs.Transfer.Lossless

/-! Writers write all or nothing. A refusal comes before the first octet is written, also where it
comes from a writer inside another, so the destination is as it was and nothing is counted. What is
written is the one form of the value, whatever stood in the destination before. -/
namespace OnboardLink

/-- A writer that answers the size of what it has written, or leaves its destination. -/
structure AllOrNothing {δ ε : Type} (write : δ → Except ε ℕ × δ) (octets : Octets)
    (Written : δ → δ → Prop) : Prop where
  written : ∀ {before after : δ} {size : ℕ}, write before = (.ok size, after) →
    size = octets.length ∧ Written before after
  refused : ∀ {before after : δ} {error : ε}, write before = (.error error, after) → after = before

namespace Octets

/-- The octets stand at the front of a buffer, and behind them the buffer is as it was. -/
def Covers (octets before after : Octets) : Prop :=
  octets.length ≤ before.length ∧ after.take octets.length = octets ∧
    after.drop octets.length = before.drop octets.length

/-- The octets stand behind what was there. -/
def Extends (octets before after : Octets) : Prop := after = before ++ octets

theorem covers_append {octets buffer : Octets} (h : octets.length ≤ buffer.length) :
    octets.Covers buffer (octets ++ buffer.drop octets.length) :=
  ⟨h, List.take_left, List.drop_left⟩

end Octets

namespace Frame

theorem writeInto_allOrNothing (frame : Frame) :
    AllOrNothing frame.writeInto frame.wire frame.wire.Covers where
  written h := by
    obtain ⟨-, hr, rfl, rfl⟩ := writeInto_eq_ok h
    rw [← length_wire] at hr ⊢
    exact ⟨rfl, Octets.covers_append hr⟩
  refused := writeInto_of_error

theorem appendTo_allOrNothing (frame : Frame) :
    AllOrNothing frame.appendTo frame.wire frame.wire.Extends where
  written h := by
    obtain ⟨-, rfl, rfl⟩ := appendTo_eq_ok h
    exact ⟨(length_wire frame).symm, rfl⟩
  refused := appendTo_of_error

end Frame

namespace SpacePacket

/-- The octets stand behind what the sink took before, and its room is less by their number. -/
def Sink.Extends (octets : Octets) (before after : Sink) : Prop :=
  (∀ room ∈ before.room, octets.length ≤ room) ∧ after.written = before.written ++ octets ∧
    after.room = before.room.map (· - octets.length)

theorem writeInto_allOrNothing (packet : SpacePacket) :
    AllOrNothing packet.writeInto packet.octets packet.octets.Covers where
  written h := by
    obtain ⟨-, hr, rfl, rfl⟩ := writeInto_eq_ok h
    rw [← length_octets] at hr ⊢
    exact ⟨rfl, Octets.covers_append hr⟩
  refused h := by
    rw [writeInto] at h
    split at h
    · cases h
      rfl
    · split at h
      · cases h
        rfl
      · cases h

theorem appendTo_allOrNothing (packet : SpacePacket) :
    AllOrNothing packet.appendTo packet.octets (Sink.Extends packet.octets) where
  written {before after size} h := by
    cases hh : packet.headerOctets with
    | error error =>
      rw [appendTo_of_error hh] at h
      cases h
    | ok packed =>
      have hw := (headerOctets_eq_ok_iff.mp hh).1
      by_cases hr : before.admits packet.size = true
      · rw [hw.appendTo_of_room hr] at h
        cases h
        rw [← length_octets, Sink.admits, Option.all_eq_true] at hr
        exact ⟨(length_octets packet).symm,
          fun room hm => of_decide_eq_true (hr room hm), rfl, rfl⟩
      · rw [hw.appendTo_of_full hr] at h
        cases h
  refused h := by
    rw [appendTo] at h
    split at h
    · cases h
      rfl
    · split at h
      · cases h
      · cases h
        rfl

end SpacePacket

namespace AddressedPacket

/-- The answer, with all that sending may change. -/
def Sent.parts (sent : Sent) : Except Error ℕ × Octets × Counters :=
  (sent.result, sent.destination, sent.counters)

/-- The writing is done as the relation says and counted once. -/
def Counted (octets : Octets) (Written : Octets → Octets → Prop)
    (before after : Octets × Counters) : Prop :=
  Written before.1 after.1 ∧ after.2 = before.2.countSent octets.length

/-- Sending is all or nothing by a frame writer that is. -/
theorem sendBy_allOrNothing {write : Frame → Octets → Except Frame.Error ℕ × Octets}
    {Written : Octets → Octets → Prop} {sent : AddressedPacket}
    (h : AllOrNothing (write sent.frame) sent.wire Written) :
    AllOrNothing (fun before => (sendBy write sent before.1 before.2).parts) sent.wire
      (Counted sent.wire Written) where
  written {before after size} he := by
    obtain ⟨hr, ha⟩ := Prod.mk.inj he
    obtain ⟨hs, hw⟩ := sendBy_eq_ok hr
    obtain ⟨rfl, hd⟩ := h.written hw
    rw [hs.sendBy_eq hw] at ha
    subst ha
    exact ⟨rfl, hd, rfl⟩
  refused {before after error} he := by
    obtain ⟨hr, ha⟩ := Prod.mk.inj he
    cases hp : sent.payload with
    | error refusal =>
      rw [sendBy_of_error hp] at ha
      exact ha.symm
    | ok octets =>
      have hs := (payload_eq_ok_iff.mp hp).1
      rcases hw : write sent.frame before.1 with ⟨refusal | size, destination⟩
      · obtain rfl := h.refused hw
        rw [hs.sendBy_of_error hw] at ha
        exact ha.symm
      · rw [hs.sendBy_eq hw] at hr
        cases hr

end AddressedPacket

/-- Every writer writes all or nothing: a frame or a packet into a buffer or behind a stream, a
packet into a sink with or without a limit, and a packet in a frame, where the counters change only
with the destination. -/
theorem writers_all_or_nothing :
    (∀ frame : Frame,
      frame.wire.length = frame.payload.length + 4 ∧
      AllOrNothing frame.writeInto frame.wire frame.wire.Covers ∧
      AllOrNothing frame.appendTo frame.wire frame.wire.Extends) ∧
    (∀ packet : SpacePacket,
      packet.octets.length = 6 + (packet.secondary.length + packet.user.length) ∧
      AllOrNothing packet.writeInto packet.octets packet.octets.Covers ∧
      AllOrNothing packet.appendTo packet.octets (SpacePacket.Sink.Extends packet.octets)) ∧
    (∀ sent : AddressedPacket,
      sent.wire.length = sent.packet.octets.length + 4 ∧
      AllOrNothing (fun before => (sent.sendInto before.1 before.2).parts) sent.wire
        (AddressedPacket.Counted sent.wire sent.wire.Covers) ∧
      AllOrNothing (fun before => (sent.sendTo before.1 before.2).parts) sent.wire
        (AddressedPacket.Counted sent.wire sent.wire.Extends)) ∧
    ∀ (device target : UInt8) (application : UInt16) (user : Octets),
      let created := AddressedPacket.telemetry device target application user
      created.wire.length = user.length + 10 ∧
      AllOrNothing (fun before => (created.sendInto before.1 before.2).parts) created.wire
        (AddressedPacket.Counted created.wire created.wire.Covers) := by
  refine ⟨?_, ?_, ?_, ?_⟩
  · intro frame
    exact ⟨(Frame.length_wire frame).trans (Frame.size_eq frame), frame.writeInto_allOrNothing,
      frame.appendTo_allOrNothing⟩
  · intro packet
    exact ⟨SpacePacket.length_octets packet, packet.writeInto_allOrNothing,
      packet.appendTo_allOrNothing⟩
  · intro sent
    have hl : sent.wire.length = sent.packet.octets.length + 4 := by
      rw [AddressedPacket.length_wire, SpacePacket.length_octets]
    exact ⟨hl, AddressedPacket.sendBy_allOrNothing sent.frame.writeInto_allOrNothing,
      AddressedPacket.sendBy_allOrNothing sent.frame.appendTo_allOrNothing⟩
  · intro device target application user created
    have hl : created.wire.length = user.length + 10 := by
      have hs : created.packet.size = 6 + (0 + user.length) := rfl
      rw [AddressedPacket.length_wire, hs]
      omega
    exact ⟨hl, AddressedPacket.sendBy_allOrNothing created.frame.writeInto_allOrNothing⟩

/-- Every writer writes a value of one octet where it has room, and refuses it where it has not, or
else a value that has no form. -/
theorem writers_all_or_nothing_octet :
    let frame : Frame := ⟨5, 2, [0xAB]⟩
    let long : Frame := ⟨5, 2, List.replicate 65536 0⟩
    let sent := AddressedPacket.telemetry 1 5 7 [0xAB]
    let wide := AddressedPacket.telemetry 1 5 0x800 [0xAB]
    let packet := sent.packet
    let counted : Counters := { packetsSent := 1, octetsSent := 11 }
    (∃ after, frame.writeInto [1, 2, 3, 4, 5, 6] = (.ok 5, after) ∧
      after.take 5 = frame.wire ∧ after.drop 5 = [6]) ∧
    frame.writeInto [1, 2, 3, 4] = (.error (.noRoom 5 4), [1, 2, 3, 4]) ∧
    frame.appendTo [1] = (.ok 5, 1 :: frame.wire) ∧
    long.appendTo [1] = (.error (.payloadTooLong 65536 65535), [1]) ∧
    (∃ after, packet.writeInto [1, 2, 3, 4, 5, 6, 7, 8] = (.ok 7, after) ∧
      after.take 7 = packet.octets ∧ after.drop 7 = [8]) ∧
    packet.writeInto [1, 2, 3, 4, 5, 6] = (.error (.noRoom 7 6), [1, 2, 3, 4, 5, 6]) ∧
    packet.appendTo ⟨[1], some 8⟩ = (.ok 7, ⟨1 :: packet.octets, some 1⟩) ∧
    packet.appendTo ⟨[1], some 6⟩ = (.error (.noRoom 7 6), ⟨[1], some 6⟩) ∧
    (∃ after, (sent.sendInto (List.replicate 12 9) {}).parts = (.ok 11, after, counted) ∧
      after.take 11 = sent.wire ∧ after.drop 11 = [9]) ∧
    (sent.sendInto [1, 2] {}).parts = (.error (.frame (.noRoom 11 2)), [1, 2], {}) ∧
    (sent.sendTo [1] {}).parts = (.ok 11, 1 :: sent.wire, counted) ∧
    (wide.sendTo [1] {}).parts = (.error (.packet (.applicationTooGreat 0x800)), [1], {}) := by
  intro frame long sent wide packet counted
  obtain ⟨hf, hp, hs, -⟩ := writers_all_or_nothing
  obtain ⟨-, fi, fa⟩ := hf frame
  obtain ⟨-, pi, pa⟩ := hp packet
  obtain ⟨-, si, sa⟩ := hs sent
  obtain ⟨-, -, wa⟩ := hs wide
  refine ⟨?_, ?_, ?_, ?_, ?_, ?_, ?_, ?_, ?_, ?_, ?_, ?_⟩
  · obtain ⟨after, h⟩ : ∃ after, frame.writeInto [1, 2, 3, 4, 5, 6] = (.ok 5, after) := ⟨_, rfl⟩
    exact ⟨after, h, (fi.written h).2.2⟩
  · obtain ⟨after, h⟩ : ∃ after, frame.writeInto [1, 2, 3, 4] = (.error (.noRoom 5 4), after) :=
      ⟨_, rfl⟩
    obtain rfl := fi.refused h
    exact h
  · obtain ⟨after, h⟩ : ∃ after, frame.appendTo [1] = (.ok 5, after) := ⟨_, rfl⟩
    obtain rfl := (fa.written h).2
    exact h
  · have hl : long.payload.length = 65536 := List.length_replicate
    have h := @Frame.appendTo_of_long long (by rw [hl]; decide) [1]
    rw [hl] at h
    exact h
  · obtain ⟨after, h⟩ : ∃ after, packet.writeInto [1, 2, 3, 4, 5, 6, 7, 8] = (.ok 7, after) :=
      ⟨_, rfl⟩
    exact ⟨after, h, (pi.written h).2.2⟩
  · obtain ⟨after, h⟩ : ∃ after, packet.writeInto [1, 2, 3, 4, 5, 6] =
        (.error (.noRoom 7 6), after) := ⟨_, rfl⟩
    obtain rfl := pi.refused h
    exact h
  · obtain ⟨after, h⟩ : ∃ after, packet.appendTo ⟨[1], some 8⟩ = (.ok 7, after) := ⟨_, rfl⟩
    obtain ⟨-, hw, hr⟩ := (pa.written h).2
    obtain ⟨written, room⟩ := after
    obtain rfl : written = 1 :: packet.octets := hw
    obtain rfl : room = some 1 := hr
    exact h
  · obtain ⟨after, h⟩ : ∃ after, packet.appendTo ⟨[1], some 6⟩ = (.error (.noRoom 7 6), after) :=
      ⟨_, rfl⟩
    obtain rfl := pa.refused h
    exact h
  · obtain ⟨after, h⟩ : ∃ after, (sent.sendInto (List.replicate 12 9) {}).parts = (.ok 11, after) :=
      ⟨_, rfl⟩
    obtain ⟨-, ⟨-, hw⟩, hc⟩ := @si.written (List.replicate 12 9, {}) _ _ h
    obtain ⟨after, counters⟩ := after
    obtain rfl : counters = counted := hc
    exact ⟨after, h, hw⟩
  · obtain ⟨after, h⟩ : ∃ after, (sent.sendInto [1, 2] {}).parts =
        (.error (.frame (.noRoom 11 2)), after) := ⟨_, rfl⟩
    obtain rfl := @si.refused ([1, 2], {}) _ _ h
    exact h
  · obtain ⟨after, h⟩ : ∃ after, (sent.sendTo [1] {}).parts = (.ok 11, after) := ⟨_, rfl⟩
    obtain ⟨-, hw, hc⟩ := @sa.written ([1], {}) _ _ h
    obtain ⟨after, counters⟩ := after
    obtain rfl : after = 1 :: sent.wire := hw
    obtain rfl : counters = counted := hc
    exact h
  · obtain ⟨after, h⟩ : ∃ after, (wide.sendTo [1] {}).parts =
        (.error (.packet (.applicationTooGreat 0x800)), after) := ⟨_, rfl⟩
    obtain rfl := @wa.refused ([1], {}) _ _ h
    exact h

end OnboardLink
