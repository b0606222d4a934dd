import Mathlib
import OnboardLink.Proofs.Checksum.Order

/-! The initial register under zeros. As a polynomial it is a power of `x + 1`, which is a factor of the
generator too. The other factor shares nothing with the register, so it is this factor that zeros have
to pass; the factor `x + 1` divides whatever two powers of `x` add up to, and so it makes no
difference. -/
namespace OnboardLink.Checksum
open Polynomial

/-- The generator without its factor `x + 1`. -/
noncomputable def cofactor : (ZMod 2)[X] :=
  X ^ 15 + X ^ 14 + X ^ 13 + X ^ 12 + X ^ 4 + X ^ 3 + X ^ 2 + X + 1

private theorem divisor_eq_mul : divisor = (X + 1) * cofactor := by
  rw [divisor, cofactor]
  linear_combination
    -(X ^ 15 + X ^ 14 + X ^ 13 + X ^ 4 + X ^ 3 + X ^ 2 + X) * two_eq_zero

/-- The cofactor is a multiple of `x + 1` and one more. -/
theorem cofactor_coprime : IsCoprime cofactor (X + 1) := by
  refine ⟨1, X ^ 14 + X ^ 12 + X ^ 3 + X, ?_⟩
  rw [cofactor]
  linear_combination
    (X ^ 15 + X ^ 14 + X ^ 13 + X ^ 12 + X ^ 4 + X ^ 3 + X ^ 2 + X) * two_eq_zero

private theorem X_add_one_dvd (n : ℕ) : (X + 1 : (ZMod 2)[X]) ∣ X ^ n + 1 := by
  have h := sub_dvd_pow_sub_pow (X : (ZMod 2)[X]) 1 n
  rwa [one_pow, CharTwo.sub_eq_add, CharTwo.sub_eq_add] at h

/-- Ones in a row are a geometric sum. -/
theorem polynomial_replicate_true (n : ℕ) :
    polynomial (List.replicate n true) * (X + 1) = X ^ n + 1 := by
  induction n with
  | zero => simp [polynomial, CharTwo.add_self_eq_zero]
  | succ n ih =>
    rw [List.replicate_succ, polynomial, if_pos rfl, List.length_replicate, add_mul, ih]
    linear_combination X ^ n * two_eq_zero

private theorem wordPolynomial_initial : wordPolynomial initial = (X + 1) ^ 15 := by
  have hb : (Octets.ofWord initial).bits = List.replicate 16 true := by decide
  have hz : (X + 1 : (ZMod 2)[X]) ≠ 0 := X_add_C_ne_zero 1
  apply mul_right_cancel₀ hz
  calc
    _ = X ^ 16 + 1 := by rw [wordPolynomial, hb, polynomial_replicate_true]
    _ = (X + 1) ^ 2 ^ 4 := by rw [add_pow_char_pow, one_pow]; rfl
    _ = _ := pow_succ _ 15

/-- So many zero bits bring the initial register back where they are a multiple of the order. -/
theorem divisor_dvd_initial_mul_iff (n : ℕ) :
    divisor ∣ wordPolynomial initial * (X ^ n + 1) ↔ 32767 ∣ n := by
  rw [← divisor_dvd_X_pow_add_one_iff]
  constructor
  · intro h
    have hc : cofactor ∣ X ^ n + 1 := by
      rw [wordPolynomial_initial] at h
      exact cofactor_coprime.pow_right.dvd_of_dvd_mul_left
        ((Dvd.intro_left _ divisor_eq_mul.symm).trans h)
    rw [divisor_eq_mul]
    exact cofactor_coprime.symm.mul_dvd (X_add_one_dvd n) hc
  · intro h
    exact h.mul_left _

end OnboardLink.Checksum
