import Mathlib
import OnboardLink.Proofs.Octets.Bits

/-! Bits as polynomials over the field of two elements, and the generator of the checksum among
them. Its residue ring is where registers and messages are compared. -/
namespace OnboardLink.Checksum
open Polynomial

/-- The polynomial of a string of bits, of which the first belongs to the highest power. -/
noncomputable def polynomial : List Bool → (ZMod 2)[X]
  | [] => 0
  | bit :: bits => (if bit then X ^ bits.length else 0) + polynomial bits

/-- The generator `x^16 + x^12 + x^5 + 1`. -/
noncomputable def divisor : (ZMod 2)[X] := X ^ 16 + X ^ 12 + X ^ 5 + 1

theorem polynomial_append (front back : List Bool) :
    polynomial (front ++ back) = polynomial front * X ^ back.length + polynomial back := by
  induction front with
  | nil => simp [polynomial]
  | cons bit front ih =>
    rw [List.cons_append, polynomial, polynomial, ih, List.length_append]
    split <;> ring

theorem degree_polynomial_lt (bits : List Bool) : (polynomial bits).degree < bits.length := by
  induction bits with
  | nil => simp [polynomial]
  | cons bit bits ih =>
    have hb : (if bit then (X : (ZMod 2)[X]) ^ bits.length else 0).degree ≤ bits.length := by
      split
      · exact degree_X_pow_le _
      · simp
    have hl : (bits.length : WithBot ℕ) < (bit :: bits).length := by
      rw [List.length_cons]
      exact_mod_cast Nat.lt_succ_self _
    rw [polynomial]
    exact (degree_add_le _ _).trans_lt (max_lt (hb.trans_lt hl) (ih.trans hl))

/-- Adding the bits of equally long strings adds their polynomials. -/
theorem polynomial_xor {a b : List Bool} (h : a.length = b.length) :
    polynomial (a.zipWith (· ^^ ·) b) = polynomial a + polynomial b := by
  induction a generalizing b with
  | nil =>
    obtain rfl := List.length_eq_zero_iff.mp h.symm
    simp [polynomial]
  | cons x a ih =>
    cases b with
    | nil => cases h
    | cons y b =>
      have hl : a.length = b.length := Nat.succ.inj h
      have hz : (a.zipWith (· ^^ ·) b).length = b.length := by simp [hl]
      have hx : (if x ^^ y then (X : (ZMod 2)[X]) ^ b.length else 0) =
          (if x then X ^ b.length else 0) + (if y then X ^ b.length else 0) := by
        cases x <;> cases y <;> simp [CharTwo.add_self_eq_zero]
      rw [List.zipWith_cons_cons, polynomial, polynomial, polynomial, ih hl, hz, hl, hx]
      ring

theorem polynomial_eq_zero_iff (bits : List Bool) : polynomial bits = 0 ↔ true ∉ bits := by
  induction bits with
  | nil => simp [polynomial]
  | cons bit bits ih =>
    cases bit with
    | false => simpa [polynomial] using ih
    | true =>
      refine iff_of_false ?_ (by simp)
      intro h
      have hd : (X ^ bits.length : (ZMod 2)[X]).degree < bits.length := by
        rw [show (X ^ bits.length : (ZMod 2)[X]) = -polynomial bits from
          eq_neg_of_add_eq_zero_left h, degree_neg]
        exact degree_polynomial_lt bits
      rw [degree_X_pow] at hd
      exact lt_irrefl _ hd

/-- Equally long strings are told apart by their polynomials. -/
theorem polynomial_injective {a b : List Bool} (h : a.length = b.length)
    (he : polynomial a = polynomial b) : a = b := by
  have hz : true ∉ a.zipWith (· ^^ ·) b := by
    rw [← polynomial_eq_zero_iff, polynomial_xor h, he, CharTwo.add_self_eq_zero]
  apply List.ext_getElem h
  intro place ha hb
  by_contra hne
  apply hz
  rw [List.mem_iff_getElem]
  exact ⟨place, by simp [ha, hb], by simpa using hne⟩

theorem polynomial_modify_not {bits : List Bool} {place : ℕ} (h : place < bits.length) :
    polynomial (bits.modify place not) = polynomial bits + X ^ (bits.length - 1 - place) := by
  induction bits generalizing place with
  | nil => cases h
  | cons bit bits ih =>
    cases place with
    | zero =>
      rw [List.modify_zero_cons, polynomial, polynomial, List.length_cons, Nat.add_sub_cancel,
        Nat.sub_zero]
      cases bit with
      | false => simp [add_comm]
      | true => simp [add_right_comm, CharTwo.add_self_eq_zero]
    | succ place =>
      have he : (bit :: bits).length - 1 - (place + 1) = bits.length - 1 - place := by
        rw [List.length_cons]
        omega
      rw [List.modify_succ_cons, polynomial, polynomial, ih (Nat.lt_of_succ_lt_succ h),
        List.length_modify, he, add_assoc]

theorem divisor_monic : divisor.Monic := by
  unfold divisor
  monicity!

theorem degree_divisor : divisor.degree = 16 := by
  unfold divisor
  compute_degree!

/-- The generator has a constant term, so no power of `x` shares a factor with it. -/
theorem divisor_coprime (n : ℕ) : IsCoprime divisor (X ^ n) := by
  apply IsCoprime.pow_right
  refine ⟨1, -(X ^ 15 + X ^ 11 + X ^ 4), ?_⟩
  rw [divisor]
  ring

theorem eval_one_polynomial (bits : List Bool) :
    (polynomial bits).eval 1 = (bits.count true : ZMod 2) := by
  induction bits with
  | nil => simp [polynomial]
  | cons bit bits ih =>
    cases bit with
    | false => simp [polynomial, ih]
    | true => simp [polynomial, ih, add_comm]

private theorem eval_one_divisor : divisor.eval 1 = 0 := by
  simp only [divisor, eval_add, eval_pow, eval_X, eval_one, one_pow]
  decide

/-- Multiples of the generator have an even number of terms. -/
theorem even_count_of_dvd {bits : List Bool} (h : divisor ∣ polynomial bits) :
    Even (bits.count true) := by
  obtain ⟨quotient, hq⟩ := h
  rw [← ZMod.natCast_eq_zero_iff_even, ← eval_one_polynomial, hq, eval_mul, eval_one_divisor,
    zero_mul]

end OnboardLink.Checksum
