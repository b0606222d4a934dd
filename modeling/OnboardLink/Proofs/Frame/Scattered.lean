import OnboardLink.Proofs.Checksum.Order
import OnboardLink.Proofs.Frame.Acceptance
import OnboardLink.Proofs.Frame.Extension

/-! Errors whose bits lie anywhere in accepted octets. Two flipped bits make a power of `x` times a
sum of two terms, so only their distance matters: they are missed where it is a multiple of the order
of `x`, and fewer than 4096 octets are too short for that. The generator vanishes at one, so an odd
number of flipped bits is never missed. -/
namespace OnboardLink.Frame
open Polynomial Checksum

variable {octets changed : Octets}

/-- What arrives in place of accepted octets is accepted if it differs by a multiple of the
generator. -/
theorem Accepted.iff_dvd_add (h : Accepted octets) (hl : changed.length = octets.length) :
    Accepted changed ↔ divisor ∣ polynomial octets.bits + polynomial changed.bits := by
  have hp := h.flipped_iff_dvd (Octets.length_flipped hl)
  rwa [Octets.flipped_flipped hl, Octets.bits_flipped hl, polynomial_xor (by simp [hl])] at hp

theorem polynomial_flipBit {place : ℕ} (h : place < octets.bits.length) :
    polynomial (octets.flipBit place).bits =
      polynomial octets.bits + X ^ (octets.bits.length - 1 - place) := by
  rw [Octets.bits_flipBit, polynomial_modify_not h]

/-- The difference that two flipped bits make. -/
theorem add_polynomial_flipBit_flipBit {i j : ℕ} (hij : i < j) (hj : j < octets.bits.length) :
    polynomial octets.bits + polynomial ((octets.flipBit i).flipBit j).bits =
      (X ^ (j - i) + 1) * X ^ (octets.bits.length - 1 - j) := by
  have hl : (octets.flipBit i).bits.length = octets.bits.length := by simp
  have he : octets.bits.length - 1 - i = (j - i) + (octets.bits.length - 1 - j) := by omega
  rw [polynomial_flipBit (hl.symm ▸ hj), hl, polynomial_flipBit (hij.trans hj), he, pow_add]
  calc
    _ = (polynomial octets.bits + polynomial octets.bits) +
        (X ^ (j - i) + 1) * X ^ (octets.bits.length - 1 - j) := by ring
    _ = _ := by rw [CharTwo.add_self_eq_zero, zero_add]

private theorem Accepted.flipBit_flipBit_iff (h : Accepted octets) {i j : ℕ} (hij : i < j)
    (hj : j < octets.bits.length) :
    Accepted ((octets.flipBit i).flipBit j) ↔ 32767 ∣ j - i := by
  rw [h.iff_dvd_add (by simp), add_polynomial_flipBit_flipBit hij hj,
    ← divisor_dvd_X_pow_add_one_iff]
  constructor
  · exact (divisor_coprime _).dvd_of_dvd_mul_right
  · exact fun hd => hd.mul_right _

private theorem Accepted.mismatched_flipBit_flipBit_iff (h : Accepted octets) {i j : ℕ}
    (hij : i < j) (hj : j < octets.bits.length) :
    Mismatched ((octets.flipBit i).flipBit j) ↔ ¬ 32767 ∣ j - i := by
  obtain ⟨hs, hl⟩ := h.length_bounds
  rw [← h.flipBit_flipBit_iff hij hj]
  exact mismatched_iff_not_accepted (by simpa using hs) (by simpa using hl)

/-- Two flipped bits of accepted octets, wherever they are, are found by the checksum unless their
distance is a multiple of 32767. So all are found in up to 4095 octets, and in more octets than that
some are missed. -/
theorem bit_pairs_detected :
    (∀ (octets : Octets) (i j : ℕ), Accepted octets → i < j → j < octets.bits.length →
      (¬ 32767 ∣ j - i → Mismatched ((octets.flipBit i).flipBit j)) ∧
      (32767 ∣ j - i → Accepted ((octets.flipBit i).flipBit j))) ∧
    (∀ (octets : Octets) (i j : ℕ), Accepted octets → octets.length ≤ 4095 → i < j →
      j < octets.bits.length → Mismatched ((octets.flipBit i).flipBit j)) ∧
    ∀ octets : Octets, Accepted octets → 4095 < octets.length →
      ∃ i j, i < j ∧ j < octets.bits.length ∧ Accepted ((octets.flipBit i).flipBit j) := by
  refine ⟨?_, ?_, ?_⟩
  · intro octets i j ha hij hj
    exact ⟨(ha.mismatched_flipBit_flipBit_iff hij hj).mpr, (ha.flipBit_flipBit_iff hij hj).mpr⟩
  · intro octets i j ha hl hij hj
    apply (ha.mismatched_flipBit_flipBit_iff hij hj).mpr
    intro hd
    have hle : 32767 ≤ j - i := Nat.le_of_dvd (Nat.sub_pos_of_lt hij) hd
    rw [Octets.length_bits] at hj
    omega
  · intro octets ha hl
    have hj : 32767 < octets.bits.length := by
      rw [Octets.length_bits]
      omega
    exact ⟨0, 32767, by decide, hj, (ha.flipBit_flipBit_iff (by decide) hj).mpr dvd_rfl⟩

/-- On the frame without payload to address five, two bits of header and trailer are found. In the
same octets padded to 4096 the first bit is missed together with the last, but not with the one
before. -/
theorem bit_pairs_detected_blank :
    let padded : Octets := [0x05, 0x01, 0xF2, 0xDB] ++ List.replicate 4092 0
    (Accepted [0x05, 0x01, 0xF2, 0xDB] ∧ Mismatched [0x85, 0x01, 0xB2, 0xDB]) ∧
    (Accepted padded ∧ Mismatched ((padded.flipBit 0).flipBit 32766) ∧
      Accepted ((padded.flipBit 0).flipBit 32767)) ∧
    ∃ i j, i < j ∧ j < padded.bits.length ∧ Accepted ((padded.flipBit i).flipBit j) := by
  intro padded
  have ha := accepted_blank
  have hl : padded.length = 4096 := by
    rw [List.length_append, List.length_replicate]
    rfl
  have hb : padded.bits.length = 32768 := by rw [Octets.length_bits, hl]
  have hp : Accepted padded :=
    (ha.append_iff (by rw [List.length_replicate]; decide)).mpr (absorb_zero_replicate 4092)
  refine ⟨⟨ha, ?_⟩, ⟨hp, ?_, ?_⟩, ?_⟩
  · exact bit_pairs_detected.2.1 [0x05, 0x01, 0xF2, 0xDB] 0 17 ha (by decide) (by decide)
      (by decide)
  · exact (bit_pairs_detected.1 padded 0 32766 hp (by decide) (by rw [hb]; decide)).1 (by decide)
  · exact (bit_pairs_detected.1 padded 0 32767 hp (by decide) (by rw [hb]; decide)).2 dvd_rfl
  · exact bit_pairs_detected.2.2 padded hp (by rw [hl]; decide)

/-- An odd number of flipped bits of accepted octets, wherever they are, is always found by the
checksum. -/
theorem odd_errors_detected (octets pattern : Octets) (ha : Accepted octets)
    (hl : pattern.length = octets.length) (ho : Odd (pattern.bits.count true)) :
    Mismatched (octets.flipped pattern) := by
  apply (ha.mismatched_flipped_iff hl).mpr
  intro hd
  exact Nat.not_even_iff_odd.mpr ho (even_count_of_dvd hd)

/-- Three bits of header and trailer of the frame without payload to address five. -/
theorem odd_errors_detected_blank :
    Accepted [0x05, 0x01, 0xF2, 0xDB] ∧
    Odd ((Octets.bits [0x80, 0x01, 0x00, 0x40]).count true) ∧
    Mismatched [0x85, 0x00, 0xF2, 0x9B] := by
  have ho : Odd ((Octets.bits [0x80, 0x01, 0x00, 0x40]).count true) := by decide
  exact ⟨accepted_blank, ho, odd_errors_detected [0x05, 0x01, 0xF2, 0xDB] [0x80, 0x01, 0x00, 0x40]
    accepted_blank rfl ho⟩

end OnboardLink.Frame
