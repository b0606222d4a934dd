import Mathlib
import OnboardLink.Proofs.Checksum.Division

/-! The order of `x` modulo the generator. Registers are multiplied as their residues are, so a power
of `x` is a register that is squared and shifted along the binary digits of the exponent. The
32767th power is one and no earlier is: `32767 = 7 * 31 * 151`, and three quotients have to be
checked. -/
namespace OnboardLink.Checksum
open Polynomial

/-- The register multiplied by a string of bits, of which the first belongs to the highest power. -/
def times (register : UInt16) (bits : List Bool) : UInt16 :=
  bits.foldl (fun product bit => if bit then shift product ^^^ register else shift product) 0

/-- The power of `x` to an exponent of given binary digits, the lowest first. -/
def power : List Bool → UInt16
  | [] => 1
  | bit :: higher =>
    let squared := times (power higher) (Octets.ofWord (power higher)).bits
    if bit then shift squared else squared

private theorem wordPolynomial_zero : wordPolynomial 0 = 0 :=
  (polynomial_eq_zero_iff _).mpr (by decide)

private theorem wordPolynomial_one : wordPolynomial 1 = 1 := by
  rw [wordPolynomial, Octets.bits_ofWord]
  simp [List.range_succ, polynomial, Nat.testBit]

private theorem residue_shift (register : UInt16) :
    residue (wordPolynomial (shift register)) = residue (wordPolynomial register) * residue X := by
  have h := residue_shifts 1 register
  rwa [pow_one, map_mul] at h

/-- Behind a product under way the bits that come shift it up and add the other factor. -/
private theorem residue_foldl (register product : UInt16) (bits : List Bool) :
    residue (wordPolynomial (bits.foldl (fun product bit =>
        if bit then shift product ^^^ register else shift product) product)) =
      residue (wordPolynomial product * X ^ bits.length +
        wordPolynomial register * polynomial bits) := by
  induction bits generalizing product with
  | nil => simp [polynomial]
  | cons bit bits ih =>
    rw [List.foldl_cons, ih, polynomial, List.length_cons]
    cases bit with
    | false =>
      simp only [Bool.false_eq_true, if_false, map_add, map_mul, map_pow, map_zero, residue_shift]
      ring
    | true =>
      simp only [if_true, wordPolynomial_xor, map_add, map_mul, map_pow, residue_shift]
      ring

private theorem residue_times (register : UInt16) (bits : List Bool) :
    residue (wordPolynomial (times register bits)) =
      residue (wordPolynomial register) * residue (polynomial bits) := by
  rw [times, residue_foldl, wordPolynomial_zero, zero_mul, zero_add, map_mul]

private theorem residue_power (exponent : ℕ) :
    residue (wordPolynomial (power exponent.bits)) = residue X ^ exponent := by
  induction exponent using Nat.binaryRec' with
  | zero => rw [Nat.zero_bits, power, wordPolynomial_one, map_one, pow_zero]
  | bit bit higher hb ih =>
    have hs : residue (wordPolynomial (times (power higher.bits)
        (Octets.ofWord (power higher.bits)).bits)) = residue X ^ (2 * higher) := by
      rw [residue_times, ← wordPolynomial, ih, ← pow_add, two_mul]
    rw [Nat.bits_append_bit higher bit hb, power]
    cases bit with
    | false => exact hs
    | true =>
      rw [if_pos rfl, residue_shift, hs, ← pow_succ]
      rfl

/-- A power of `x` is one where the register that computes it is. -/
theorem residue_pow_eq_one_iff (exponent : ℕ) :
    residue X ^ exponent = 1 ↔ power exponent.bits = 1 := by
  rw [← residue_power, ← map_one residue, ← wordPolynomial_one, residue_wordPolynomial_inj]

theorem orderOf_residue_X : orderOf (residue X) = 32767 := by
  have hone : power (Nat.bits 32767) = 1 := by decide +kernel
  have hseven : power (Nat.bits (32767 / 7)) ≠ 1 := by decide +kernel
  have hthirtyOne : power (Nat.bits (32767 / 31)) ≠ 1 := by decide +kernel
  have hlast : power (Nat.bits (32767 / 151)) ≠ 1 := by decide +kernel
  apply orderOf_eq_of_pow_and_pow_div_prime (by decide)
  · exact (residue_pow_eq_one_iff _).mpr hone
  · intro p hp hd
    rw [ne_eq, residue_pow_eq_one_iff]
    rw [show 32767 = 7 * 31 * 151 from rfl, hp.dvd_mul, hp.dvd_mul] at hd
    rcases hd with (hd | hd) | hd
    · rw [(Nat.prime_dvd_prime_iff_eq hp (by norm_num)).mp hd]
      exact hseven
    · rw [(Nat.prime_dvd_prime_iff_eq hp (by norm_num)).mp hd]
      exact hthirtyOne
    · rw [(Nat.prime_dvd_prime_iff_eq hp (by norm_num)).mp hd]
      exact hlast

/-- Two terms make a multiple of the generator where their distance is a multiple of the order. -/
theorem divisor_dvd_X_pow_add_one_iff (distance : ℕ) :
    divisor ∣ X ^ distance + 1 ↔ 32767 ∣ distance := by
  rw [← orderOf_residue_X, orderOf_dvd_iff_pow_eq_one, ← map_pow, ← map_one residue,
    AdjoinRoot.mk_eq_mk, CharTwo.sub_eq_add]

end OnboardLink.Checksum
