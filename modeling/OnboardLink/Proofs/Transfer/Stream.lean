import OnboardLink.Proofs.Octets.Stream
import OnboardLink.Proofs.Transfer.Accounting

/-! Packets one behind the other along a stream. A packet that cannot be sent leaves no octet in it,
so the stream is the wire forms of the others in their order. Cut at the sizes that the sender
answered, every piece is received as the packet it was sent for, and both ends count the same. -/
namespace OnboardLink

namespace Counters

/-- What sending so many packets adds, of so many octets together. -/
def ofAllSent (packets octets : ℕ) : Counters :=
  { packetsSent := packets.toUInt64, octetsSent := octets.toUInt64 }

/-- What receiving so many packets adds, of so many octets together. -/
def ofAllReceived (packets octets : ℕ) : Counters :=
  { packetsReceived := packets.toUInt64, octetsReceived := octets.toUInt64 }

private theorem countSent_add (counters : Counters) (size packets octets : ℕ) :
    counters.countSent size + .ofAllSent packets octets =
      counters + .ofAllSent (packets + 1) (size + octets) := by
  simp [countSent, ofAllSent, add_def, add_assoc, add_comm (1 : UInt64)]

private theorem countReceived_add (counters : Counters) (size packets octets : ℕ) :
    counters.countReceived size + .ofAllReceived packets octets =
      counters + .ofAllReceived (packets + 1) (size + octets) := by
  simp [countReceived, ofAllReceived, add_def, add_assoc, add_comm (1 : UInt64)]

end Counters

namespace AddressedPacket

/-- Whether a packet can be sent is seen from its payload. -/
instance : DecidablePred Sendable := fun sent =>
  decidable_of_iff (sent.payload.isOk = true) (by
    cases h : sent.payload with
    | error error =>
      refine iff_of_false nofun fun hs => ?_
      rw [payload_eq_ok_iff.mpr ⟨hs, rfl⟩] at h
      cases h
    | ok octets => exact iff_of_true rfl (payload_eq_ok_iff.mp h).1)

/-- Packets that can be sent are received once, with all their octets counted. -/
theorem Sendable.receive_wire_eq {sent : AddressedPacket} (h : sent.Sendable) {secondaryLength : ℕ}
    (hn : sent.packet.header.hasSecondary = true → secondaryLength = sent.packet.secondary.length)
    (counters : Counters) : receive sent.wire secondaryLength counters =
      (.ok sent, counters.countReceived sent.wire.length) := by
  have ho := h.receive_wire hn counters
  refine Prod.ext ho ?_
  rw [receive_counters, ho]
  simp [Counters.ofReceived, Counters.add_def, Counters.countReceived]

end AddressedPacket

namespace Exchange

/-- The packet that was sent along the stream. -/
def Call.sentPacket? : Call → Option AddressedPacket
  | ⟨.send packet, .sent (.ok _) _⟩ => some packet
  | _ => none

/-- A packet is appended as a whole or nothing changes. -/
theorem step_send (exchange : Exchange) (packet : AddressedPacket) :
    (packet.Sendable ∧ exchange.step (.send packet) =
      (.sent (.ok packet.wire.length) (exchange.stream ++ packet.wire),
        ⟨exchange.counters.countSent packet.wire.length, exchange.stream ++ packet.wire⟩)) ∨
    (¬ packet.Sendable ∧ ∃ error,
      exchange.step (.send packet) = (.sent (.error error) exchange.stream, exchange)) := by
  cases hp : packet.payload with
  | error error =>
    have hn : ¬ packet.Sendable := fun hs => by
      rw [AddressedPacket.payload_eq_ok_iff.mpr ⟨hs, rfl⟩] at hp
      cases hp
    refine .inr ⟨hn, error, ?_⟩
    simp only [step, AddressedPacket.sendTo, AddressedPacket.sendBy_of_error hp]
  | ok octets =>
    have hs := (AddressedPacket.payload_eq_ok_iff.mp hp).1
    refine .inl ⟨hs, ?_⟩
    simp only [step, hs.sendTo_eq]

/-- What a run of sends leaves: the accepted packets are those that can be sent, the stream has
grown by their wire forms and the counters by their number and size. -/
theorem run_send (exchange : Exchange) (packets : List AddressedPacket) :
    let calls := exchange.calls (packets.map .send)
    let sent := packets.filter (·.Sendable)
    let octets := (sent.map AddressedPacket.wire).flatten
    calls.filterMap Call.sentPacket? = sent ∧
    calls.filterMap Call.sentSize? = sent.map (·.wire.length) ∧
    (exchange.run (packets.map .send)).2 =
      ⟨exchange.counters + .ofAllSent sent.length octets.length, exchange.stream ++ octets⟩ := by
  induction packets generalizing exchange with
  | nil =>
    refine ⟨rfl, rfl, ?_⟩
    simp [run, Counters.ofAllSent, Counters.add_def]
  | cons packet packets ih =>
    have hcalls : exchange.calls ((packet :: packets).map .send) =
        ⟨.send packet, (exchange.step (.send packet)).1⟩ ::
          (exchange.step (.send packet)).2.calls (packets.map .send) := rfl
    have hrun : (exchange.run ((packet :: packets).map .send)).2 =
        ((exchange.step (.send packet)).2.run (packets.map .send)).2 := rfl
    obtain ⟨hpackets, hsizes, hafter⟩ := ih (exchange.step (.send packet)).2
    dsimp only
    rw [hcalls, hrun, hafter]
    rcases exchange.step_send packet with ⟨hs, he⟩ | ⟨hs, error, he⟩
    · have hf : (packet :: packets).filter (·.Sendable) =
          packet :: packets.filter (·.Sendable) := List.filter_cons_of_pos (decide_eq_true hs)
      rw [he] at hpackets hsizes ⊢
      rw [hf, List.map_cons, List.map_cons, List.flatten_cons, List.length_cons,
        List.length_append]
      refine ⟨congrArg (packet :: ·) hpackets, congrArg (packet.wire.length :: ·) hsizes, ?_⟩
      rw [Counters.countSent_add, List.append_assoc]
    · have hf : (packet :: packets).filter (·.Sendable) = packets.filter (·.Sendable) :=
        List.filter_cons_of_neg (mt of_decide_eq_true hs)
      rw [he] at hpackets hsizes ⊢
      rw [hf]
      exact ⟨hpackets, hsizes, rfl⟩

/-- Packets that can be sent are received from their wire forms, one behind the other. -/
theorem run_receive {packets : List AddressedPacket} (h : ∀ packet ∈ packets, packet.Sendable)
    (exchange : Exchange) :
    exchange.run (packets.map fun packet => .receive packet.wire packet.packet.secondary.length) =
      (packets.map fun packet => .received (.ok packet),
        { exchange with counters := exchange.counters +
            .ofAllReceived packets.length (packets.map AddressedPacket.wire).flatten.length }) := by
  induction packets generalizing exchange with
  | nil => simp [run, Counters.ofAllReceived, Counters.add_def]
  | cons packet packets ih =>
    have hs := h packet List.mem_cons_self
    have ih := ih fun packet hp => h packet (List.mem_cons_of_mem _ hp)
    simp only [List.map_cons, run, step, hs.receive_wire_eq fun _ => rfl, ih]
    rw [Counters.countReceived_add, List.flatten_cons, List.length_append, List.length_cons]

/-- A stream of packets arrives complete and in order. It grows by the wire forms of exactly the
packets that can be sent; a receiver that cuts it at the sizes answered receives these packets; and
it counts as many packets and octets received as the sender counts sent, the octets being the growth
of the stream, and no error. -/
theorem stream_delivered (sender receiver : Exchange) (packets : List AddressedPacket) :
    let calls := sender.calls (packets.map .send)
    let after := (sender.run (packets.map .send)).2
    let sent := calls.filterMap Call.sentPacket?
    let pieces := (calls.filterMap Call.sentSize?).splitLengths
      (after.stream.drop sender.stream.length)
    let delivery := receiver.run (sent.zipWith
      (fun packet piece => .receive piece packet.packet.secondary.length) pieces)
    let number := sent.length.toUInt64
    let growth := (after.stream.length - sender.stream.length).toUInt64
    sent = packets.filter (·.Sendable) ∧
    after.stream = sender.stream ++ (sent.map AddressedPacket.wire).flatten ∧
    delivery.1 = sent.map (fun packet => .received (.ok packet)) ∧
    after.counters = { sender.counters with
      packetsSent := sender.counters.packetsSent + number
      octetsSent := sender.counters.octetsSent + growth } ∧
    delivery.2 = { receiver with counters := { receiver.counters with
      packetsReceived := receiver.counters.packetsReceived + number
      octetsReceived := receiver.counters.octetsReceived + growth } } := by
  intro calls after sent pieces delivery number growth
  obtain ⟨hsent, hsizes, hafter⟩ := sender.run_send packets
  change sent = _ at hsent
  change after = _ at hafter
  rw [← hsent] at hsizes hafter
  have hs : ∀ packet ∈ sent, packet.Sendable := fun packet hp => by
    rw [hsent] at hp
    exact of_decide_eq_true (List.mem_filter.mp hp).2
  have hstream : after.stream = sender.stream ++ (sent.map AddressedPacket.wire).flatten := by
    rw [hafter]
  have hgrowth : growth = (sent.map AddressedPacket.wire).flatten.length.toUInt64 := by
    simp only [growth, hstream, List.length_append, Nat.add_sub_cancel_left]
  have hpieces : pieces = sent.map AddressedPacket.wire := by
    have hl : sent.map (·.wire.length) = (sent.map AddressedPacket.wire).map List.length := by
      rw [List.map_map]
      rfl
    simp only [pieces, calls, hsizes, hstream, List.drop_left, hl, splitLengths_flatten]
  have hdelivery : delivery = receiver.run
      (sent.map fun packet => .receive packet.wire packet.packet.secondary.length) := by
    simp only [delivery, hpieces, List.zipWith_map_right, List.zipWith_self]
  rw [run_receive hs] at hdelivery
  refine ⟨hsent, hstream, ?_, ?_, ?_⟩
  · rw [hdelivery]
  · rw [hafter, hgrowth]
    simp [Counters.ofAllSent, Counters.add_def, number]
  · rw [hdelivery, hgrowth]
    simp [Counters.ofAllReceived, Counters.add_def, number]

end Exchange
end OnboardLink
