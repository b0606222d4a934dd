import OnboardLink.Proofs.SpacePacket.Acceptance

/-! The writers of packets side by side: one into a buffer, one behind what a sink holds. They judge
the packet in the same way, and then the room there is, so with the same room they give the same
answer and write the same octets. -/
namespace OnboardLink.SpacePacket

/-- A destination that is too short. -/
def roomFaults (needed available : ℕ) : List (Bool × Error) :=
  [(available < needed, .noRoom needed available)]

/-- Either a packet can be written and the outcome is what follows, or it is the first fault. -/
theorem writable_or_refused (packet : SpacePacket) :
    (packet.Writable ∧ ∀ (α : Type) (accepted : α) (refused : Error → α),
      judge packet.faults accepted refused = accepted) ∨
    ¬ packet.Writable ∧ ∃ fault, packet.headerOctets = .error fault ∧
      ∀ (α : Type) (accepted : α) (refused : Error → α),
        judge packet.faults accepted refused = refused fault := by
  rw [writable_iff_faultless, headerOctets_eq_judge]
  rcases judge_cases packet.faults with h | ⟨hl, fault, -, hf⟩
  · exact .inl h
  · exact .inr ⟨by simp [hl], fault, hf _ _ _, hf⟩

private theorem writeInto_eq_judge (packet : SpacePacket) (buffer : Octets) :
    packet.writeInto buffer = judge (packet.faults ++ roomFaults packet.size buffer.length)
      (.ok packet.size, packet.octets ++ buffer.drop packet.size)
      fun fault => (.error fault, buffer) := by
  rw [judge_append]
  rcases writable_or_refused packet with ⟨hw, hn⟩ | ⟨-, fault, he, hf⟩
  · simp only [hn, roomFaults, judge_cons, judge_nil, decide_eq_true_eq]
    split
    · exact hw.writeInto_of_small ‹_›
    · exact hw.writeInto_eq (Nat.not_lt.mp ‹_›)
  · rw [hf]
    exact writeInto_of_error he buffer

private theorem appendTo_some_eq_judge (packet : SpacePacket) (written : Octets) (room : ℕ) :
    packet.appendTo ⟨written, some room⟩ = judge (packet.faults ++ roomFaults packet.size room)
      (.ok packet.size, ⟨written ++ packet.octets, some (room - packet.size)⟩)
      fun fault => (.error fault, ⟨written, some room⟩) := by
  rw [judge_append]
  rcases writable_or_refused packet with ⟨hw, hn⟩ | ⟨-, fault, he, hf⟩
  · simp only [hn, roomFaults, judge_cons, judge_nil, decide_eq_true_eq]
    have ha : (⟨written, some room⟩ : Sink).admits packet.size = decide (packet.size ≤ room) := rfl
    by_cases hr : room < packet.size
    · rw [if_pos hr, hw.appendTo_of_full (by simpa [ha] using hr)]
      rfl
    · rw [if_neg hr, hw.appendTo_of_room (by simpa [ha] using hr), Sink.append, length_octets]
      rfl
  · rw [hf]
    exact appendTo_of_error he _

private theorem appendTo_none_eq_judge (packet : SpacePacket) (written : Octets) :
    packet.appendTo ⟨written, none⟩ = judge packet.faults
      (.ok packet.size, ⟨written ++ packet.octets, none⟩)
      fun fault => (.error fault, ⟨written, none⟩) := by
  rcases writable_or_refused packet with ⟨hw, hn⟩ | ⟨-, fault, he, hf⟩
  · rw [hn]
    exact hw.appendTo_eq written
  · rw [hf]
    exact appendTo_of_error he _

/-- A buffer and a sink with the same room get the same answer and the same octets. The packet is
judged first and the room after it, so a sink without a limit refuses only packets that cannot be
written, and does otherwise what one with enough room does. -/
theorem writers_agree (packet : SpacePacket) (buffer written : Octets) :
    let slice := packet.writeInto buffer
    let bounded := packet.appendTo ⟨written, some buffer.length⟩
    let growable := packet.appendTo ⟨written, none⟩
    slice.1 = bounded.1 ∧
    slice = judge (packet.faults ++ roomFaults packet.size buffer.length)
      (.ok packet.size, packet.octets ++ buffer.drop packet.size)
      (fun fault => (.error fault, buffer)) ∧
    bounded = judge (packet.faults ++ roomFaults packet.size buffer.length)
      (.ok packet.size, ⟨written ++ packet.octets, some (buffer.length - packet.size)⟩)
      (fun fault => (.error fault, ⟨written, some buffer.length⟩)) ∧
    growable = judge packet.faults
      (.ok packet.size, ⟨written ++ packet.octets, none⟩)
      (fun fault => (.error fault, ⟨written, none⟩)) ∧
    (packet.size ≤ buffer.length →
      growable.1 = bounded.1 ∧ growable.2.written = bounded.2.written) ∧
    ((∃ fault, growable.1 = .error fault) ↔ ¬ packet.Writable) := by
  intro slice bounded growable
  have hs := writeInto_eq_judge packet buffer
  have hb := appendTo_some_eq_judge packet written buffer.length
  have hg := appendTo_none_eq_judge packet written
  refine ⟨?_, hs, hb, hg, ?_, ?_⟩
  · simp only [slice, bounded, hs, hb, apply_judge (f := Prod.fst)]
    rfl
  · intro hr
    have hb : bounded = judge packet.faults
        (.ok packet.size, ⟨written ++ packet.octets, some (buffer.length - packet.size)⟩)
        (fun fault => (.error fault, ⟨written, some buffer.length⟩)) := by
      rw [judge_append, roomFaults, judge_cons, if_neg (by simpa using hr)] at hb
      exact hb
    rcases writable_or_refused packet with ⟨-, hn⟩ | ⟨-, fault, -, hf⟩
    · simp only [growable, hg, hb, hn, and_self]
    · simp only [growable, hg, hb, hf, and_self]
  · rcases writable_or_refused packet with ⟨hw, hn⟩ | ⟨hw, fault, -, hf⟩
    · refine iff_of_false ?_ (not_not_intro hw)
      rintro ⟨fault, h⟩
      simp only [growable, hg, hn] at h
      cases h
    · refine iff_of_true ⟨fault, ?_⟩ hw
      simp only [growable, hg, hf]

/-- A packet of one octet, for which there is room, and one without any, for which there is not; the
second is refused for what is wrong with it. -/
theorem writers_agree_fitting :
    let packet : SpacePacket := { user := [0xAA] }
    let blank : SpacePacket := {}
    let buffer : Octets := List.replicate 8 0xEE
    let octets : Octets := [0x00, 0x00, 0xC0, 0x00, 0x00, 0x00, 0xAA]
    packet.size ≤ buffer.length ∧
      packet.writeInto buffer = (.ok 7, octets ++ [0xEE]) ∧
      packet.appendTo ⟨[0x01], some 8⟩ = (.ok 7, ⟨0x01 :: octets, some 1⟩) ∧
      (packet.appendTo ⟨[0x01], none⟩).2.written = 0x01 :: octets ∧
      blank.writeInto [] = (.error .noData, []) := by
  intro packet blank buffer octets
  have hr : packet.size ≤ buffer.length := by decide
  obtain ⟨-, hs, hb, -, hg, -⟩ := writers_agree packet buffer [0x01]
  refine ⟨hr, hs.trans (by decide), hb.trans (by decide), ?_, (writers_agree blank [] []).2.1⟩
  rw [(hg hr).2, hb]
  decide

end OnboardLink.SpacePacket
