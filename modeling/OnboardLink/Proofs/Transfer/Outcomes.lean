import OnboardLink.Proofs.SpacePacket.Writers
import OnboardLink.Proofs.Transfer.Lossless

/-! What comes of sending a packet. The length of the written packet is judged before the packet, the
packet before the buffer, and each with all its own rules, so sending has one outcome for every
packet and every destination. Some refusals of the inner writers can never be the outcome, since an
earlier one stands in front of them. -/
namespace OnboardLink.AddressedPacket

/-- What can be wrong with a packet that is to be sent, in the order in which it is looked for. -/
def faults (sent : AddressedPacket) : List (Bool × Error) :=
  let packet := sent.packet
  let header := packet.header
  [(65535 < packet.size, .overflow packet.size 65535),
    (header.hasSecondary && packet.secondary.isEmpty, .packet .secondaryMissing),
    (!header.hasSecondary && !packet.secondary.isEmpty, .packet .secondaryUnannounced),
    (7 < header.version.toNat, .packet (.versionTooGreat header.version)),
    (0x7FF < header.application.toNat, .packet (.applicationTooGreat header.application)),
    (0x3FFF < header.sequenceCount.toNat, .packet (.sequenceCountTooGreat header.sequenceCount)),
    (packet.size = 6, .packet .noData)]

/-- A buffer that is too short for the frame. -/
def roomFaults (needed available : ℕ) : List (Bool × Error) :=
  [(available < needed, .frame (.noRoom needed available))]

variable {sent : AddressedPacket}

/-- Of packets that fit a frame the length is not judged again. -/
theorem judge_faults_of_fits (h : sent.packet.size ≤ 65535) {α : Type} (accepted : α)
    (refused : Error → α) : judge sent.faults accepted refused =
      judge sent.packet.faults accepted fun fault => refused (.packet fault) := by
  have hz : sent.packet.size = 6 + sent.packet.dataFieldLength := rfl
  have ho : ¬ 65535 < sent.packet.size := by omega
  have hl : ¬ 65536 < sent.packet.dataFieldLength := by omega
  have h0 : sent.packet.size = 6 ↔ sent.packet.dataFieldLength = 0 := by omega
  simp only [faults, SpacePacket.faults, SpacePacket.Header.faults,
    SpacePacket.Header.fieldFaults, SpacePacket.Header.lengthFaults, judge_append, judge_cons,
    judge_nil, decide_eq_true_eq, ho, hl, h0, if_false]

theorem payload_eq_judge (sent : AddressedPacket) :
    sent.payload = judge sent.faults (.ok sent.packet.octets) .error := by
  rw [payload]
  by_cases hf : Frame.maxPayload < sent.packet.size
  · have hd : decide (65535 < sent.packet.size) = true := decide_eq_true hf
    rw [if_pos hf, faults, judge_cons, if_pos hd]
    rfl
  · rw [if_neg hf, judge_faults_of_fits (Nat.not_lt.mp hf)]
    rcases sent.packet.writable_or_refused with ⟨hw, hn⟩ | ⟨-, fault, he, hr⟩
    · rw [hw.appendTo_eq, hn]
      rfl
    · rw [SpacePacket.appendTo_of_error he, hr]

/-- A packet to be sent has no fault exactly where it can be sent. -/
theorem sendable_or_refused (sent : AddressedPacket) :
    (sent.Sendable ∧ ∀ (α : Type) (accepted : α) (refused : Error → α),
      judge sent.faults accepted refused = accepted) ∨
    ∃ fault, sent.payload = .error fault ∧ ∀ (α : Type) (accepted : α) (refused : Error → α),
      judge sent.faults accepted refused = refused fault := by
  have hj := payload_eq_judge sent
  rcases judge_cases sent.faults with ⟨-, hn⟩ | ⟨-, fault, -, hf⟩
  · rw [hn] at hj
    exact .inl ⟨(payload_eq_ok_iff.mp hj).1, hn⟩
  · rw [hf] at hj
    exact .inr ⟨fault, hj, hf⟩

/-- What acceptance comes to matters only for packets that can be sent. -/
theorem judge_faults_congr {α : Type} {accepted other : α} (h : sent.Sendable → accepted = other)
    (refused : Error → α) :
    judge sent.faults accepted refused = judge sent.faults other refused := by
  rcases sendable_or_refused sent with ⟨hs, -⟩ | ⟨fault, -, hf⟩
  · rw [h hs]
  · rw [hf, hf]

private theorem sendInto_eq_judge (sent : AddressedPacket) (buffer : Octets) (counters : Counters) :
    sent.sendInto buffer counters =
      judge (sent.faults ++ roomFaults sent.wire.length buffer.length)
        ⟨.ok sent.wire.length, sent.wire ++ buffer.drop sent.wire.length,
          counters.countSent sent.wire.length⟩
        fun fault => ⟨.error fault, buffer, counters⟩ := by
  rw [judge_append]
  rcases sendable_or_refused sent with ⟨hs, hn⟩ | ⟨fault, he, hf⟩
  · simp only [hn, roomFaults, judge_cons, judge_nil, decide_eq_true_eq]
    have hl : sent.wire.length = sent.frame.size := Frame.length_wire sent.frame
    split
    · rename_i hr
      rw [hl] at hr ⊢
      exact hs.sendBy_of_error (Frame.writeInto_of_small hs.payload_fits hr) counters
    · exact hs.sendInto_eq (Nat.not_lt.mp ‹_›) counters
  · rw [hf]
    exact sendBy_of_error he buffer counters

private theorem sendTo_eq_judge (sent : AddressedPacket) (stream : Octets) (counters : Counters) :
    sent.sendTo stream counters = judge sent.faults
      ⟨.ok sent.wire.length, stream ++ sent.wire, counters.countSent sent.wire.length⟩
      fun fault => ⟨.error fault, stream, counters⟩ := by
  rcases sendable_or_refused sent with ⟨hs, hn⟩ | ⟨fault, he, hf⟩
  · rw [hn]
    exact hs.sendTo_eq stream counters
  · rw [hf]
    exact sendBy_of_error he stream counters

/-- Refusals that only an inner writer would find do not come up. -/
theorem ne_of_mem_faults {needed available : ℕ} {fault : Error}
    (h : (true, fault) ∈ sent.faults ++ roomFaults needed available) (a b : ℕ) :
    fault ≠ .packet (.dataTooLong a b) ∧ fault ≠ .packet (.noRoom a b) ∧
      fault ≠ .frame (.payloadTooLong a b) := by
  have hall : ∀ entry ∈ sent.faults ++ roomFaults needed available,
      entry.2 ≠ .packet (.dataTooLong a b) ∧ entry.2 ≠ .packet (.noRoom a b) ∧
        entry.2 ≠ .frame (.payloadTooLong a b) := by
    simp [faults, roomFaults]
  exact hall _ h

/-- Sending a packet has the outcome that its first fault says, or the packet is sent. Its length is
judged before all else and the room in a buffer after all else; a stream always has room. The octets
are the target, the protocol, the written packet and the checksum of all of these. A packet created
for sending is a plain telemetry packet, whoever sends it. -/
theorem sending_decided :
    (∀ (sent : AddressedPacket) (counters : Counters),
      let size := 6 + (sent.packet.secondary.length + sent.packet.user.length)
      let body := [sent.target, sent.protocol] ++ (sent.packet.appendTo {}).2.written
      let octets := body ++ Octets.ofWord (Checksum.of body)
      (∀ buffer : Octets, sent.sendInto buffer counters =
        judge (sent.faults ++ roomFaults (size + 4) buffer.length)
          ⟨.ok (size + 4), octets ++ buffer.drop (size + 4), counters.countSent (size + 4)⟩
          fun fault => ⟨.error fault, buffer, counters⟩) ∧
      (∀ stream : Octets, sent.sendTo stream counters =
        judge sent.faults
          ⟨.ok (size + 4), stream ++ octets, counters.countSent (size + 4)⟩
          fun fault => ⟨.error fault, stream, counters⟩) ∧
      ∀ (destination : Octets) (fault : Error),
        (sent.sendInto destination counters).result = .error fault ∨
          (sent.sendTo destination counters).result = .error fault →
        ∀ a b : ℕ, fault ≠ .packet (.dataTooLong a b) ∧ fault ≠ .packet (.noRoom a b) ∧
          fault ≠ .frame (.payloadTooLong a b)) ∧
    ∀ (device target : UInt8) (application : UInt16) (user : Octets),
      telemetry device target application user =
        ⟨target, 1, { header := ⟨0, .telemetry, false, application, .unsegmented, 0⟩, user }⟩ := by
  refine ⟨?_, fun _ _ _ _ => rfl⟩
  intro sent counters size body octets
  have hl : sent.wire.length = size + 4 := length_wire sent
  have ho (hs : sent.Sendable) : sent.wire = octets := by
    simp only [octets, body, hs.writable.appendTo_eq]
    rfl
  refine ⟨?_, ?_, ?_⟩
  · intro buffer
    rw [sendInto_eq_judge, judge_append, judge_append, hl]
    exact judge_faults_congr (fun hs => by rw [ho hs]) _
  · intro stream
    rw [sendTo_eq_judge, hl]
    exact judge_faults_congr (fun hs => by rw [ho hs]) _
  · intro destination fault h
    rcases h with h | h
    · rw [sendInto_eq_judge, apply_judge (f := Sent.result)] at h
      exact ne_of_mem_faults (mem_of_judge_eq_error h)
    · rw [sendTo_eq_judge, apply_judge (f := Sent.result)] at h
      exact ne_of_mem_faults (List.mem_append_left (roomFaults 0 0) (mem_of_judge_eq_error h))

/-- A packet of one octet in a buffer that it fits and in one that is an octet too short, and a packet
with three faults, refused for the first. -/
theorem sending_decided_faulty :
    let sent : AddressedPacket := ⟨5, 1, { user := [0xAA] }⟩
    let faulty : AddressedPacket := ⟨5, 1, { header := { version := 8, hasSecondary := true } }⟩
    (sent.sendInto (List.replicate 11 0xEE) {}).result = .ok 11 ∧
      (sent.sendInto (List.replicate 10 0xEE) {}).result = .error (.frame (.noRoom 11 10)) ∧
      (faulty.sendInto [] {}).result = .error (.packet .secondaryMissing) ∧
      Error.packet .secondaryMissing ≠ .packet (.noRoom 6 0) := by
  intro sent faulty
  obtain ⟨hsent, -⟩ := sending_decided.1 sent {}
  obtain ⟨hinto, -, hnever⟩ := sending_decided.1 faulty {}
  have hf : (faulty.sendInto [] {}).result = .error (.packet .secondaryMissing) :=
    congrArg Sent.result (hinto [])
  exact ⟨congrArg Sent.result (hsent (List.replicate 11 0xEE)),
    congrArg Sent.result (hsent (List.replicate 10 0xEE)), hf, (hnever [] _ (.inl hf) 6 0).2.1⟩

end OnboardLink.AddressedPacket
