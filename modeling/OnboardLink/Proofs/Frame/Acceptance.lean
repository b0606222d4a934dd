import OnboardLink.Proofs.Checksum.Division
import OnboardLink.Proofs.Frame.RoundTrip

/-! Which octets the reader accepts, in terms of the generator. Read as one polynomial, header,
payload and checksum together, they are accepted for a multiple of it, up to the share of the
register's initial value. An error is therefore missed for a multiple of the generator. -/
namespace OnboardLink.Frame
open Polynomial Checksum

/-- The octets are read as a frame. -/
def Accepted (octets : Octets) : Prop := ∃ frame, read octets = .ok frame

/-- The octets are refused for their checksum. -/
def Mismatched (octets : Octets) : Prop :=
  ∃ received computed, read octets = .error (.wrongChecksum received computed)

/-- The checksum of octets, seen from the octets that end in it. -/
theorem eq_checksum_iff_dvd (octets : Octets) (word : UInt16) :
    word = Checksum.of octets ↔
      divisor ∣ wordPolynomial initial * X ^ (8 * octets.length) +
        polynomial (octets ++ Octets.ofWord word).bits := by
  have hp : polynomial (octets ++ Octets.ofWord word).bits =
      polynomial octets.bits * X ^ 16 + wordPolynomial word := by
    rw [Octets.bits_append, polynomial_append, Octets.length_bits]
    rfl
  rw [← residue_wordPolynomial_inj, Checksum.of, residue_absorb, AdjoinRoot.mk_eq_mk,
    CharTwo.sub_eq_add, hp]
  exact iff_of_eq (congrArg _ (by ring))

private theorem accepted_body_append {frame : Frame} (hm : frame.payload.length ≤ maxPayload)
    (word : UInt16) :
    Accepted (frame.body ++ Octets.ofWord word) ↔ word = Checksum.of frame.body := by
  rw [Accepted, read_body_append, if_neg (Nat.not_lt.mpr hm)]
  by_cases hc : word = Checksum.of frame.body
  · exact iff_of_true ⟨frame, if_neg (not_not_intro hc)⟩ hc
  · refine iff_of_false ?_ hc
    rintro ⟨found, h⟩
    rw [if_pos hc] at h
    cases h

/-- Octets of admissible length are accepted for a multiple of the generator. -/
theorem accepted_iff_dvd {octets : Octets} (hs : minSize ≤ octets.length)
    (hl : octets.length ≤ maxPayload + minSize) :
    Accepted octets ↔ divisor ∣
      wordPolynomial initial * X ^ (8 * (octets.length - 2)) + polynomial octets.bits := by
  obtain ⟨frame, word, rfl⟩ := exists_body_append hs
  rw [length_body_append, Nat.add_le_add_iff_right] at hl
  rw [accepted_body_append hl, eq_checksum_iff_dvd, List.length_append, Octets.length_ofWord,
    Nat.add_sub_cancel]

/-- Octets of admissible length are accepted or refused for their checksum. -/
theorem mismatched_iff_not_accepted {octets : Octets} (hs : minSize ≤ octets.length)
    (hl : octets.length ≤ maxPayload + minSize) : Mismatched octets ↔ ¬ Accepted octets := by
  obtain ⟨frame, word, rfl⟩ := exists_body_append hs
  rw [length_body_append, Nat.add_le_add_iff_right] at hl
  rw [accepted_body_append hl, Mismatched, read_body_append, if_neg (Nat.not_lt.mpr hl)]
  by_cases hc : word = Checksum.of frame.body
  · refine iff_of_false ?_ (not_not_intro hc)
    rintro ⟨received, computed, h⟩
    rw [if_neg (not_not_intro hc)] at h
    cases h
  · exact iff_of_true ⟨word, Checksum.of frame.body, if_pos hc⟩ hc

theorem Accepted.length_bounds {octets : Octets} (h : Accepted octets) :
    minSize ≤ octets.length ∧ octets.length ≤ maxPayload + minSize := by
  obtain ⟨frame, hf⟩ := h
  obtain ⟨hp, rfl⟩ := eq_wire_of_read hf
  rw [length_wire, size_eq]
  exact ⟨Nat.le_add_left _ _, Nat.add_le_add_right hp _⟩

/-- What stands where in accepted octets. -/
theorem Accepted.read_eq {octets : Octets} (h : Accepted octets) :
    read octets = .ok ⟨octets.octetAt 0, octets.octetAt 1,
      (octets.take (octets.length - 2)).drop 2⟩ := by
  obtain ⟨frame, hf⟩ := h
  obtain ⟨-, rfl⟩ := eq_wire_of_read hf
  have hl : frame.wire.length - 2 = frame.body.length := by
    rw [wire, List.length_append, Octets.length_ofWord, Nat.add_sub_cancel]
  rw [hf, hl]
  conv_rhs => rw [wire, List.take_left]
  rfl

/-- An error on accepted octets is missed for a multiple of the generator. -/
theorem Accepted.flipped_iff_dvd {octets pattern : Octets} (h : Accepted octets)
    (hp : pattern.length = octets.length) :
    Accepted (octets.flipped pattern) ↔ divisor ∣ polynomial pattern.bits := by
  obtain ⟨hs, hl⟩ := h.length_bounds
  have hb : polynomial (octets.flipped pattern).bits =
      polynomial octets.bits + polynomial pattern.bits := by
    rw [Octets.bits_flipped hp, polynomial_xor (by simp [hp])]
  have hd := (accepted_iff_dvd hs hl).mp h
  rw [← Octets.length_flipped hp] at hs hl
  rw [accepted_iff_dvd hs hl, Octets.length_flipped hp, hb, ← add_assoc]
  exact dvd_add_right hd

/-- Every other error is found by the checksum. -/
theorem Accepted.mismatched_flipped_iff {octets pattern : Octets} (h : Accepted octets)
    (hp : pattern.length = octets.length) :
    Mismatched (octets.flipped pattern) ↔ ¬ divisor ∣ polynomial pattern.bits := by
  obtain ⟨hs, hl⟩ := h.length_bounds
  rw [← Octets.length_flipped hp] at hs hl
  rw [mismatched_iff_not_accepted hs hl, h.flipped_iff_dvd hp]

end OnboardLink.Frame
