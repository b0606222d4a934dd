import Mathlib
import OnboardLink.Proofs.Checksum.Division

/-! The checksum of data in pieces, and of sums. Data enters the register behind what it held, so the
register keeps its place among all others whatever passes through it, and two sums pass as one. -/
namespace OnboardLink.Checksum
open Polynomial

/-- Registers and data that are added pass as their sum. -/
theorem absorb_xor {a b : Octets} (h : a.length = b.length) (i j : UInt16) :
    absorb (i ^^^ j) (a.flipped b) = absorb i a ^^^ absorb j b := by
  have hl : (a.flipped b).length = a.length := Octets.length_flipped h.symm
  rw [← residue_wordPolynomial_inj, residue_absorb, wordPolynomial_xor, wordPolynomial_xor,
    map_add residue (wordPolynomial (absorb i a)), residue_absorb, residue_absorb, hl, ← h,
    Octets.bits_flipped h.symm, polynomial_xor (by simp [h]), ← map_add]
  exact congrArg residue (by ring)

/-- No data brings two registers together. -/
theorem absorb_injective (data : Octets) : Function.Injective (absorb · data) := by
  intro i j h
  have hr := congrArg (fun register => residue (wordPolynomial register)) h
  simp only [residue_absorb, map_add, add_left_inj, map_mul] at hr
  rw [← sub_eq_zero, ← sub_mul, ← map_sub, ← map_mul, AdjoinRoot.mk_eq_zero] at hr
  -- The generator shares no factor with the shift, so it divides the difference of the two.
  have hd := (divisor_coprime _).dvd_of_dvd_mul_right hr
  exact residue_wordPolynomial_inj.mp (AdjoinRoot.mk_eq_mk.mpr hd)

private theorem finite_registers : Finite UInt16 :=
  Finite.of_injective UInt16.toFin fun _ _ => UInt16.toFin_inj.mp

theorem absorb_bijective (data : Octets) : Function.Bijective (absorb · data) :=
  have := finite_registers
  Finite.injective_iff_bijective.mp (absorb_injective data)

private theorem Digest.foldl_absorb (digest : Digest) (pieces : List Octets) :
    pieces.foldl Digest.absorb digest = ⟨Checksum.absorb digest.register pieces.flatten⟩ := by
  induction pieces generalizing digest with
  | nil => rfl
  | cons piece pieces ih =>
    rw [List.foldl_cons, ih, List.flatten_cons, absorb_append]
    rfl

/-- After each piece the digest holds the checksum of all pieces so far. -/
theorem Digest.scanl_absorb (digest : Digest) (pieces : List Octets) :
    pieces.scanl Digest.absorb digest =
      pieces.inits.map fun front => ⟨Checksum.absorb digest.register front.flatten⟩ := by
  apply List.ext_getElem
  · rw [List.length_scanl, List.length_map, List.length_inits]
  · intro number _ _
    rw [List.getElem_scanl, Digest.foldl_absorb, List.getElem_map, List.getElem_inits]

/-- A digest holds the checksum of the pieces so far after each of them, and in the end of the whole,
however it was cut. The checksum of a sum is the sum of the checksums, and for fixed data every register
comes out of exactly one other. -/
theorem digest_linear_bijective :
    (∀ seed (pieces : List Octets), pieces.scanl Digest.absorb ⟨seed⟩ =
      pieces.inits.map fun front => ⟨absorb seed front.flatten⟩) ∧
    (∀ seed (pieces others : List Octets), pieces.flatten = others.flatten →
      pieces.foldl Digest.absorb ⟨seed⟩ = others.foldl Digest.absorb ⟨seed⟩ ∧
      (pieces.foldl Digest.absorb ⟨seed⟩).register = absorb seed pieces.flatten) ∧
    (∀ (a b : Octets) (i j : UInt16), a.length = b.length →
      absorb (i ^^^ j) (a.flipped b) = absorb i a ^^^ absorb j b) ∧
    ∀ data : Octets, Function.Bijective (absorb · data) := by
  refine ⟨fun seed => Digest.scanl_absorb ⟨seed⟩, ?_, fun a b i j h => absorb_xor h i j,
    absorb_bijective⟩
  intro seed pieces others h
  rw [Digest.foldl_absorb, Digest.foldl_absorb, h]
  exact ⟨rfl, rfl⟩

/-- Three octets in one piece and in three, of which one is empty, and two octets that are added. -/
theorem digest_linear_bijective_cut :
    [[0x31, 0x32, 0x33]].foldl Digest.absorb {} =
      [[0x31], [], [0x32, 0x33]].foldl Digest.absorb {} ∧
    absorb (0x1234 ^^^ 0xFFFF) [0x31 ^^^ 0x05, 0x32 ^^^ 0x06] =
      absorb 0x1234 [0x31, 0x32] ^^^ absorb 0xFFFF [0x05, 0x06] := by
  obtain ⟨-, hcut, hsum, -⟩ := digest_linear_bijective
  exact ⟨(hcut initial [[0x31, 0x32, 0x33]] [[0x31], [], [0x32, 0x33]] rfl).1,
    hsum [0x31, 0x32] [0x05, 0x06] 0x1234 0xFFFF rfl⟩

end OnboardLink.Checksum
