import OnboardLink.Proofs.Checksum.Initial
import OnboardLink.Proofs.Frame.Extension

/-! Zeros in front of a frame. They would go unseen by a register that starts from zero; from its
initial value the register comes back only after as many zeros as the order of `x`, and what the frame
does with any other register is not what it needs to be accepted. -/
namespace OnboardLink.Frame
open Polynomial Checksum

variable {octets : Octets} {count : ℕ}

private theorem polynomial_zeros (count : ℕ) :
    polynomial (Octets.bits (List.replicate count 0)) = 0 := by
  have hz : true ∉ Octets.bitsOf 0 := by decide
  rw [polynomial_eq_zero_iff, Octets.bits, List.mem_flatMap]
  rintro ⟨octet, ho, hb⟩
  rw [List.eq_of_mem_replicate ho] at hb
  exact hz hb

private theorem Accepted.zeros_append_iff (h : Accepted octets)
    (hl : count + octets.length ≤ maxPayload + minSize) :
    Accepted (List.replicate count 0 ++ octets) ↔ 32767 ∣ count := by
  obtain ⟨hs, hm⟩ := h.length_bounds
  have hlen : (List.replicate count 0 ++ octets).length = count + octets.length := by
    rw [List.length_append, List.length_replicate]
  have hd := (accepted_iff_dvd hs hm).mp h
  have he : 8 * (count + octets.length - 2) = 8 * count + 8 * (octets.length - 2) := by
    have : 4 ≤ octets.length := hs
    omega
  have hc : Nat.Coprime 32767 8 := by decide
  -- The zeros move the register's share alone, so they add it once more.
  have hp : wordPolynomial initial * X ^ (8 * (count + octets.length - 2)) +
        polynomial (Octets.bits (List.replicate count 0 ++ octets)) =
      (wordPolynomial initial * X ^ (8 * (octets.length - 2)) + polynomial octets.bits) +
        wordPolynomial initial * (X ^ (8 * count) + 1) * X ^ (8 * (octets.length - 2)) := by
    rw [Octets.bits_append, polynomial_append, polynomial_zeros, he]
    linear_combination -(wordPolynomial initial * X ^ (8 * (octets.length - 2))) * two_eq_zero
  rw [accepted_iff_dvd (hlen ▸ hs.trans (Nat.le_add_left _ _)) (hlen ▸ hl), hlen, hp,
    dvd_add_right hd, ← hc.dvd_mul_left, ← divisor_dvd_initial_mul_iff]
  constructor
  · exact (divisor_coprime _).dvd_of_dvd_mul_right
  · exact fun hd => hd.mul_right _

/-- Zeros in front of accepted octets are found by the checksum unless there are 32767 of them or a
multiple of that. -/
theorem leading_zeros_detected (octets : Octets) (count : ℕ) (ha : Accepted octets) (hc : 0 < count)
    (hl : count + octets.length ≤ 65539) :
    (¬ 32767 ∣ count → Mismatched (List.replicate count 0 ++ octets)) ∧
    (32767 ∣ count → Accepted (List.replicate count 0 ++ octets)) ∧
    (count < 32767 → Mismatched (List.replicate count 0 ++ octets)) := by
  have hs : minSize ≤ (List.replicate count 0 ++ octets).length := by
    rw [List.length_append]
    exact ha.length_bounds.1.trans (Nat.le_add_left _ _)
  have hm : Mismatched (List.replicate count 0 ++ octets) ↔ ¬ 32767 ∣ count := by
    rw [← ha.zeros_append_iff hl]
    exact mismatched_iff_not_accepted hs (by rwa [List.length_append, List.length_replicate])
  exact ⟨hm.mpr, (ha.zeros_append_iff hl).mpr, fun hn => hm.mpr (Nat.not_dvd_of_pos_of_lt hc hn)⟩

/-- The frame without payload to address five, behind one zero and behind 32767. -/
theorem leading_zeros_detected_blank :
    Accepted [0x05, 0x01, 0xF2, 0xDB] ∧ Mismatched [0x00, 0x05, 0x01, 0xF2, 0xDB] ∧
    Accepted (List.replicate 32767 0 ++ [0x05, 0x01, 0xF2, 0xDB]) := by
  exact ⟨accepted_blank,
    (leading_zeros_detected _ 1 accepted_blank (by decide) (by decide)).2.2 (by decide),
    (leading_zeros_detected _ 32767 accepted_blank (by decide) (by decide)).2.1 dvd_rfl⟩

end OnboardLink.Frame
