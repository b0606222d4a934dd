import OnboardLink.Proofs.Frame.Acceptance

/-! Octets behind a frame. The checksum of a frame together with its own trailer is zero, so the
register keeps nothing of the frame, and what follows it decides alone whether the whole is accepted.
Zeros always are. -/
namespace OnboardLink.Frame
open Polynomial Checksum

private theorem absorb_eq_zero_iff_dvd (register : UInt16) (octets : Octets) :
    absorb register octets = 0 ↔ divisor ∣
      wordPolynomial register * X ^ (8 * octets.length) + polynomial octets.bits * X ^ 16 := by
  have hz : wordPolynomial 0 = 0 := (polynomial_eq_zero_iff _).mpr (by decide)
  rw [← residue_wordPolynomial_inj, residue_absorb, hz, map_zero, AdjoinRoot.mk_eq_zero]

/-- Octets of admissible length are accepted where their checksum, taken over the trailer too, is
zero. -/
theorem accepted_iff_checksum_eq_zero {octets : Octets} (hs : minSize ≤ octets.length)
    (hl : octets.length ≤ maxPayload + minSize) : Accepted octets ↔ Checksum.of octets = 0 := by
  have he : 8 * octets.length = 8 * (octets.length - 2) + 16 := by
    have : 4 ≤ octets.length := hs
    omega
  rw [accepted_iff_dvd hs hl, Checksum.of, absorb_eq_zero_iff_dvd, he, pow_add, ← mul_assoc,
    ← add_mul]
  constructor
  · intro hd
    exact hd.mul_right _
  · intro hd
    -- The generator shares no factor with the shift by the trailer's sixteen bits.
    exact (divisor_coprime 16).dvd_of_dvd_mul_right hd

/-- The frame without payload to address five. -/
theorem accepted_blank : Accepted [0x05, 0x01, 0xF2, 0xDB] := by
  have hz : Checksum.of [0x05, 0x01, 0xF2, 0xDB] = 0 := by
    simp only [Checksum.of, absorb, List.foldl, step, get_table]
    decide
  exact (accepted_iff_checksum_eq_zero (by decide) (by decide)).mpr hz

/-- Behind accepted octets the register starts from zero. -/
theorem Accepted.append_iff {octets suffix : Octets} (h : Accepted octets)
    (hl : octets.length + suffix.length ≤ maxPayload + minSize) :
    Accepted (octets ++ suffix) ↔ absorb 0 suffix = 0 := by
  obtain ⟨hs, hm⟩ := h.length_bounds
  have hz : absorb initial octets = 0 := (accepted_iff_checksum_eq_zero hs hm).mp h
  rw [← List.length_append] at hl
  have hs : minSize ≤ (octets ++ suffix).length := by
    rw [List.length_append]
    exact hs.trans (Nat.le_add_right _ _)
  rw [accepted_iff_checksum_eq_zero hs hl, Checksum.of, absorb_append, hz]

theorem absorb_zero_replicate (count : ℕ) : absorb 0 (List.replicate count 0) = 0 := by
  have hz : step 0 0 = 0 := by
    rw [step, get_table]
    decide
  induction count with
  | zero => rfl
  | succ count ih =>
    rw [List.replicate_succ, absorb, List.foldl_cons, hz]
    exact ih

/-- Accepted octets that begin with accepted ones have the same header, and their payload goes on
with the shorter frame's trailer and what follows it. -/
theorem read_append {octets suffix : Octets} {frame : Frame} (h : read octets = .ok frame)
    (ha : Accepted (octets ++ suffix)) :
    read (octets ++ suffix) = .ok { frame with
      payload := (frame.payload ++ (octets.drop (octets.length - 2) ++ suffix)).take
        (frame.payload.length + suffix.length) } := by
  obtain ⟨longer, hf⟩ := ha
  obtain ⟨-, hw⟩ := eq_wire_of_read hf
  obtain ⟨-, rfl⟩ := eq_wire_of_read h
  have hl : longer.payload.length = frame.payload.length + suffix.length := by
    have := congrArg List.length hw
    rw [List.length_append, length_wire, length_wire, size_eq, size_eq] at this
    omega
  have ht : frame.wire.drop (frame.wire.length - 2) = Octets.ofWord (Checksum.of frame.body) := by
    rw [wire, List.length_append, Octets.length_ofWord, Nat.add_sub_cancel, List.drop_left]
  rw [hf, ht]
  obtain ⟨target, protocol, payload⟩ := longer
  simp only [wire, body, header, List.append_assoc, List.cons_append, List.nil_append,
    List.cons.injEq] at hw
  obtain ⟨rfl, rfl, hp⟩ := hw
  rw [body, header, List.cons_append, List.cons_append, List.nil_append, hp, ← hl,
    List.take_left]

/-- The longer frame's payload begins with the shorter frame's. -/
theorem exists_payload_append {octets suffix : Octets} {frame longer : Frame}
    (h : read octets = .ok frame) (hl : read (octets ++ suffix) = .ok longer) :
    ∃ more : Octets, more.length = suffix.length ∧ longer.payload = frame.payload ++ more := by
  have he := read_append h ⟨longer, hl⟩
  rw [hl, Except.ok.injEq, List.take_length_add_append] at he
  refine ⟨(octets.drop (octets.length - 2) ++ suffix).take suffix.length, ?_,
    congrArg Frame.payload he⟩
  rw [List.length_take, List.length_append]
  exact Nat.min_eq_left (Nat.le_add_left _ _)

/-- The two octets of a trailer. -/
private theorem exists_trailer {octets : Octets} (h : minSize ≤ octets.length) :
    ∃ high low, octets.drop (octets.length - 2) = [high, low] ∧
      octets.octetAt (octets.length - 2) = high := by
  obtain ⟨frame, word, rfl⟩ := exists_body_append h
  refine ⟨(word >>> 8).toUInt8, word.toUInt8, ?_, ?_⟩
  · rw [List.length_append, Octets.length_ofWord, Nat.add_sub_cancel, List.drop_left]
    rfl
  · rw [List.length_append, Octets.length_ofWord, Nat.add_sub_cancel]
    simp [Octets.octetAt, Octets.ofWord, List.getD]

/-- Octets of admissible length are accepted exactly where the checksum of all of them is zero. So
accepted octets stay accepted behind any others that bring the register from zero to zero, padding
with zeros among them: the trailer and the padding become part of the payload, but for the last two
octets, which are taken for the new trailer. -/
theorem accepted_append_iff :
    (∀ octets : Octets, 4 ≤ octets.length → octets.length ≤ 65539 →
      (Accepted octets ↔ Checksum.of octets = 0)) ∧
    (∀ octets suffix : Octets, Accepted octets → octets.length + suffix.length ≤ 65539 →
      (Accepted (octets ++ suffix) ↔ absorb 0 suffix = 0)) ∧
    ∀ (octets : Octets) (frame : Frame), read octets = .ok frame →
      (octets.length + 1 ≤ 65539 → read (octets ++ [0]) =
        .ok { frame with payload := frame.payload ++ [octets.octetAt (octets.length - 2)] }) ∧
      ∀ count : ℕ, octets.length + (count + 2) ≤ 65539 →
        read (octets ++ List.replicate (count + 2) 0) = .ok { frame with
          payload := frame.payload ++
            (octets.drop (octets.length - 2) ++ List.replicate count 0) } := by
  refine ⟨?_, ?_, ?_⟩
  · intro octets hs hl
    exact accepted_iff_checksum_eq_zero hs hl
  · intro octets suffix ha hl
    exact ha.append_iff hl
  · intro octets frame h
    have ha : Accepted octets := ⟨frame, h⟩
    obtain ⟨high, low, ht, hh⟩ := exists_trailer ha.length_bounds.1
    have hr (count : ℕ) (hl : octets.length + count ≤ 65539) :
        read (octets ++ List.replicate count 0) = .ok { frame with
          payload := frame.payload ++ (high :: low :: List.replicate count 0).take count } := by
      have hz : Accepted (octets ++ List.replicate count 0) :=
        (ha.append_iff (by rwa [List.length_replicate])).mpr (absorb_zero_replicate count)
      rw [read_append h hz, ht, List.length_replicate, List.take_length_add_append]
      rfl
    constructor
    · intro hl
      rw [hh]
      exact hr 1 hl
    · intro count hl
      rw [ht, hr _ hl, List.take_succ_cons, List.take_succ_cons, List.take_replicate,
        Nat.min_eq_left (Nat.le_add_right count 2)]
      rfl

/-- A frame of one octet, and the same octets behind other ones and in front of zeros. -/
theorem accepted_append_iff_short :
    Accepted [5, 1, 0xAA, 0x00, 0xFD] ∧ ¬ Accepted [5, 1, 0xAA, 0x00, 0xFD, 0x07] ∧
    Accepted [5, 1, 0xAA, 0x00, 0xFD, 0x01, 0x10, 0x21] ∧
    read [5, 1, 0xAA, 0x00, 0xFD, 0] = .ok ⟨5, 1, [0xAA, 0x00]⟩ ∧
    read [5, 1, 0xAA, 0x00, 0xFD, 0, 0, 0] = .ok ⟨5, 1, [0xAA, 0x00, 0xFD, 0]⟩ := by
  have hz : Checksum.of [5, 1, 0xAA, 0x00, 0xFD] = 0 := by
    simp only [Checksum.of, absorb, List.foldl, step, get_table]
    decide
  have hn : absorb 0 [0x07] ≠ 0 := by
    simp only [absorb, List.foldl, step, get_table]
    decide
  have hg : absorb 0 [0x01, 0x10, 0x21] = 0 := by
    simp only [absorb, List.foldl, step, get_table]
    decide
  have ha : Accepted [5, 1, 0xAA, 0x00, 0xFD] :=
    (accepted_append_iff.1 _ (by decide) (by decide)).mpr hz
  have hf : read [5, 1, 0xAA, 0x00, 0xFD] = .ok ⟨5, 1, [0xAA]⟩ := ha.read_eq
  refine ⟨ha, ?_, ?_, ?_, ?_⟩
  · exact mt (accepted_append_iff.2.1 _ [0x07] ha (by decide)).mp hn
  · exact (accepted_append_iff.2.1 _ [0x01, 0x10, 0x21] ha (by decide)).mpr hg
  · exact (accepted_append_iff.2.2 _ _ hf).1 (by decide)
  · exact (accepted_append_iff.2.2 _ _ hf).2 1 (by decide)

end OnboardLink.Frame
