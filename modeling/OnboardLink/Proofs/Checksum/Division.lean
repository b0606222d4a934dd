import Mathlib
import OnboardLink.Checksum
import OnboardLink.Proofs.Checksum.Polynomial

/-! The checksum as a remainder. Every step of the register is followed in the residue ring of the
generator, where a register of sixteen bits is its own remainder. -/
namespace OnboardLink.Checksum
open Polynomial

/-- Takes one bit into the register. Where it differs from the bit that leaves at the top, the
generator is added. -/
def stepBit (register : UInt16) (bit : Bool) : UInt16 :=
  if register.toNat.testBit 15 ^^ bit then (register <<< 1) ^^^ 0x1021 else register <<< 1

/-- The register after a string of bits, one at a time. -/
def absorbBits (register : UInt16) (bits : List Bool) : UInt16 := bits.foldl stepBit register

/-- The polynomial of a word; its top bit belongs to `x^15`. -/
noncomputable def wordPolynomial (word : UInt16) : (ZMod 2)[X] :=
  polynomial (Octets.ofWord word).bits

/-- The residue of a polynomial modulo the generator. -/
noncomputable abbrev residue : (ZMod 2)[X] →+* AdjoinRoot divisor := AdjoinRoot.mk divisor

theorem two_eq_zero : (2 : (ZMod 2)[X]) = 0 := CharTwo.two_eq_zero

private theorem degree_wordPolynomial_lt (word : UInt16) : (wordPolynomial word).degree < 16 :=
  degree_polynomial_lt _

theorem wordPolynomial_injective {a b : UInt16} (h : wordPolynomial a = wordPolynomial b) :
    a = b :=
  Octets.ofWord_inj.mp (Octets.bits_injective (polynomial_injective rfl h))

theorem wordPolynomial_xor (a b : UInt16) :
    wordPolynomial (a ^^^ b) = wordPolynomial a + wordPolynomial b := by
  have hl : (Octets.ofWord b).length = (Octets.ofWord a).length := rfl
  rw [wordPolynomial, Octets.ofWord_xor, Octets.bits_flipped hl, polynomial_xor (by simp)]
  rfl

private theorem bits_shiftLeft (word : UInt16) : ∃ low : List Bool, low.length = 15 ∧
    (Octets.ofWord word).bits = word.toNat.testBit 15 :: low ∧
    (Octets.ofWord (word <<< 1)).bits = low ++ [false] := by
  have hb (place : ℕ) : (word.toNat <<< 1 % 65536).testBit (place + 1) =
      (decide (place + 1 < 16) && word.toNat.testBit place) := by
    rw [show 65536 = 2 ^ 16 from rfl, Nat.testBit_mod_two_pow, Nat.testBit_shiftLeft]
    simp
  refine ⟨(List.range 15).map fun place => word.toNat.testBit (14 - place), by simp, ?_, ?_⟩
  · rw [Octets.bits_ofWord, List.range_succ_eq_map]
    simp [List.range_succ]
  · rw [Octets.bits_ofWord]
    simp [List.range_succ, hb]

/-- Moving a word up multiplies by `x`, but for the bit that leaves. -/
theorem wordPolynomial_shiftLeft (word : UInt16) :
    wordPolynomial (word <<< 1) + (if word.toNat.testBit 15 then X ^ 16 else 0) =
      wordPolynomial word * X := by
  obtain ⟨low, hl, hw, hs⟩ := bits_shiftLeft word
  have hz : polynomial [false] = 0 := by simp [polynomial]
  rw [wordPolynomial, wordPolynomial, hw, hs, polynomial_append, hz, polynomial, hl,
    List.length_singleton]
  split <;> ring

private theorem wordPolynomial_generator : wordPolynomial 0x1021 = X ^ 12 + X ^ 5 + 1 := by
  rw [wordPolynomial, Octets.bits_ofWord]
  simp [List.range_succ, polynomial, Nat.testBit]
  ring

/-- One step of the register, as an equation of polynomials. -/
theorem wordPolynomial_stepBit (register : UInt16) (bit : Bool) :
    wordPolynomial (stepBit register bit) +
        (if register.toNat.testBit 15 ^^ bit then divisor else 0) =
      wordPolynomial register * X + (if bit then X ^ 16 else 0) := by
  have h := wordPolynomial_shiftLeft register
  have hg : wordPolynomial ((register <<< 1) ^^^ 0x1021) =
      wordPolynomial (register <<< 1) + (X ^ 12 + X ^ 5 + 1) := by
    rw [wordPolynomial_xor, wordPolynomial_generator]
  unfold stepBit
  generalize register.toNat.testBit 15 = top at h ⊢
  cases top <;> cases bit
  all_goals simp only [Bool.xor_false, Bool.xor_true, Bool.not_true, Bool.not_false, if_true,
    Bool.false_eq_true, if_false, add_zero] at h ⊢
  · exact h
  · rw [hg, divisor]
    linear_combination h + (X ^ 12 + X ^ 5 + 1) * two_eq_zero
  · rw [hg, divisor]
    linear_combination h + (X ^ 12 + X ^ 5 + 1) * two_eq_zero
  · linear_combination h - X ^ 16 * two_eq_zero

private theorem residue_divisor : residue divisor = 0 := AdjoinRoot.mk_self

private theorem residue_stepBit (register : UInt16) (bit : Bool) :
    residue (wordPolynomial (stepBit register bit)) =
      residue (wordPolynomial register) * residue X + residue (if bit then X ^ 16 else 0) := by
  have h := congrArg residue (wordPolynomial_stepBit register bit)
  have hd : residue (if register.toNat.testBit 15 ^^ bit then divisor else 0) = 0 := by
    split
    · exact residue_divisor
    · exact map_zero _
  rwa [map_add, hd, add_zero, map_add, map_mul] at h

/-- The bits of a message enter behind those of the register. -/
theorem residue_absorbBits (register : UInt16) (bits : List Bool) :
    residue (wordPolynomial (absorbBits register bits)) =
      residue (wordPolynomial register * X ^ bits.length + polynomial bits * X ^ 16) := by
  induction bits generalizing register with
  | nil => simp [absorbBits, polynomial]
  | cons bit bits ih =>
    have hs : absorbBits register (bit :: bits) = absorbBits (stepBit register bit) bits := rfl
    have hb : (if bit then X ^ bits.length else 0) * X ^ 16 =
        (if bit then X ^ 16 else 0) * (X : (ZMod 2)[X]) ^ bits.length := by
      cases bit <;> simp [mul_comm]
    rw [hs, ih, polynomial, List.length_cons, add_mul (ite _ _ _), hb]
    simp only [map_add, map_mul, residue_stepBit, map_pow]
    ring

private theorem shift_eq_stepBit (register : UInt16) : shift register = stepBit register false := by
  have ht : register &&& 0x8000 ≠ 0 ↔ register.toNat.testBit 15 = true := by
    rw [ne_eq, ← UInt16.toNat_inj, UInt16.toNat_and, show (0x8000 : UInt16).toNat = 2 ^ 15 from rfl,
      Nat.and_two_pow]
    cases register.toNat.testBit 15 <;> decide
  rw [shift, stepBit, Bool.xor_false]
  exact if_congr ht rfl rfl

private theorem shifts_eq_absorbBits (places : ℕ) (register : UInt16) :
    shifts places register = absorbBits register (List.replicate places false) := by
  induction places generalizing register with
  | zero => rfl
  | succ places ih =>
    rw [shifts, ih, shift_eq_stepBit]
    rfl

theorem residue_shifts (places : ℕ) (register : UInt16) :
    residue (wordPolynomial (shifts places register)) =
      residue (wordPolynomial register * X ^ places) := by
  have hz : polynomial (List.replicate places false) = 0 :=
    (polynomial_eq_zero_iff _).mpr (by simp [List.mem_replicate])
  rw [shifts_eq_absorbBits, residue_absorbBits, hz, zero_mul, add_zero, List.length_replicate]

private theorem wordPolynomial_eq (word : UInt16) :
    wordPolynomial word = polynomial (Octets.bitsOf (word >>> 8).toUInt8) * X ^ 8 +
      polynomial (Octets.bitsOf word.toUInt8) := by
  simp [wordPolynomial, Octets.ofWord, polynomial_append]

private theorem wordPolynomial_shiftLeft_eight (word : UInt16) :
    wordPolynomial (word <<< 8) = polynomial (Octets.bitsOf word.toUInt8) * X ^ 8 := by
  have hz : polynomial (Octets.bitsOf 0) = 0 := (polynomial_eq_zero_iff _).mpr (by decide)
  have hh : ((word <<< 8) >>> 8).toUInt8 = word.toUInt8 := by
    apply UInt8.toNat_inj.mp
    simp [Nat.shiftLeft_eq, Nat.shiftRight_eq_div_pow]
    omega
  have hl : (word <<< 8).toUInt8 = 0 := by
    apply UInt8.toNat_inj.mp
    simp [Nat.shiftLeft_eq]
  rw [wordPolynomial_eq, hh, hl, hz, add_zero]

/-- The table makes one step of a whole octet: its high octet leaves together with the octet that
comes, and their remainder is added below. -/
theorem residue_step (register : UInt16) (octet : UInt8) :
    residue (wordPolynomial (step register octet)) =
      residue (wordPolynomial register * X ^ 8 + polynomial (Octets.bitsOf octet) * X ^ 16) := by
  have hx : polynomial (Octets.bitsOf ((register >>> 8).toUInt8 ^^^ octet)) =
      polynomial (Octets.bitsOf (register >>> 8).toUInt8) + polynomial (Octets.bitsOf octet) := by
    rw [Octets.bitsOf_xor, polynomial_xor (by simp)]
  rw [step, get_table, wordPolynomial_xor, map_add, residue_shifts, wordPolynomial_shiftLeft_eight,
    wordPolynomial_shiftLeft_eight, UInt8.toUInt8_toUInt16, hx, ← map_add,
    wordPolynomial_eq register]
  exact congrArg residue (by ring)

/-- The octets of a message enter behind the bits of the register. -/
theorem residue_absorb (register : UInt16) (octets : Octets) :
    residue (wordPolynomial (absorb register octets)) =
      residue (wordPolynomial register * X ^ (8 * octets.length) +
        polynomial octets.bits * X ^ 16) := by
  induction octets generalizing register with
  | nil => simp [polynomial]
  | cons octet octets ih =>
    have hs : absorb register (octet :: octets) = absorb (step register octet) octets := rfl
    rw [hs, ih, map_add, map_mul, residue_step, ← map_mul, ← map_add, Octets.bits_cons,
      polynomial_append, Octets.length_bits, List.length_cons]
    exact congrArg residue (by ring)

/-- A word with the residue of a polynomial is its remainder. -/
theorem wordPolynomial_eq_modByMonic {word : UInt16} {p : (ZMod 2)[X]}
    (h : residue (wordPolynomial word) = residue p) : wordPolynomial word = p %ₘ divisor := by
  have hd : (wordPolynomial word).degree < divisor.degree :=
    (degree_wordPolynomial_lt word).trans_eq degree_divisor.symm
  rw [← (modByMonic_eq_self_iff divisor_monic).mpr hd]
  exact modByMonic_eq_of_dvd_sub divisor_monic (AdjoinRoot.mk_eq_mk.mp h)

/-- Words are told apart by their residues. -/
theorem residue_wordPolynomial_inj {a b : UInt16} :
    residue (wordPolynomial a) = residue (wordPolynomial b) ↔ a = b := by
  constructor
  · intro h
    apply wordPolynomial_injective
    rw [wordPolynomial_eq_modByMonic h, ← wordPolynomial_eq_modByMonic rfl]
  · rintro rfl
    rfl

/-- The register after a message is the remainder of the message behind the initial register, in
front of sixteen zeros, and the register that takes one bit at a time holds the same. -/
theorem absorb_eq_remainder (register : UInt16) (octets : Octets) :
    polynomial (Octets.ofWord (absorb register octets)).bits =
        (polynomial (Octets.ofWord register).bits * X ^ (8 * octets.length) +
          polynomial octets.bits * X ^ 16) %ₘ (X ^ 16 + X ^ 12 + X ^ 5 + 1) ∧
      absorb register octets = absorbBits register octets.bits := by
  have h := residue_absorb register octets
  refine ⟨wordPolynomial_eq_modByMonic h, ?_⟩
  apply wordPolynomial_injective
  rw [wordPolynomial_eq_modByMonic h, ← Octets.length_bits]
  exact (wordPolynomial_eq_modByMonic (residue_absorbBits register octets.bits)).symm

end OnboardLink.Checksum
