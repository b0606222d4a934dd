import OnboardLink.Proofs.Frame.Acceptance

/-! Errors that flip bits within a short stretch of accepted octets. The generator has a constant
term, so where the stretch lies does not matter: only the bits in it are compared with the
generator, which spans seventeen. -/
namespace OnboardLink.Frame
open Polynomial Checksum

/-- All ones of the pattern stand within so many places from a start. -/
def Within (pattern : Octets) (start width : ℕ) : Prop :=
  ∀ place, pattern.bits[place]? = some true → start ≤ place ∧ place < start + width

/-- The bits of the generator, from its highest power down. -/
def divisorBits : List Bool :=
  [true, false, false, false, true, false, false, false, false, false, false, true,
    false, false, false, false, true]

private theorem polynomial_divisorBits : polynomial divisorBits = divisor := by
  simp [divisorBits, polynomial, divisor]
  ring

/-- Zeros in front of a stretch count for nothing and zeros behind it move it up. -/
theorem Within.polynomial_eq {pattern : Octets} {start width : ℕ}
    (h : Within pattern start width) :
    polynomial pattern.bits = polynomial ((pattern.bits.drop start).take width) *
      X ^ (pattern.bits.length - (start + width)) := by
  have hs : pattern.bits = pattern.bits.take start ++
      ((pattern.bits.drop start).take width ++ pattern.bits.drop (start + width)) := by
    rw [← List.drop_drop, List.take_append_drop, List.take_append_drop]
  have hf : polynomial (pattern.bits.take start) = 0 := by
    rw [polynomial_eq_zero_iff]
    intro hm
    obtain ⟨place, hp⟩ := List.mem_iff_getElem?.mp hm
    rw [List.getElem?_take] at hp
    split at hp
    · exact absurd (h place hp).1 (by omega)
    · cases hp
  have hb : polynomial (pattern.bits.drop (start + width)) = 0 := by
    rw [polynomial_eq_zero_iff]
    intro hm
    obtain ⟨place, hp⟩ := List.mem_iff_getElem?.mp hm
    rw [List.getElem?_drop] at hp
    exact absurd (h _ hp).2 (by omega)
  conv_lhs => rw [hs]
  rw [polynomial_append, polynomial_append, hf, hb, zero_mul, zero_add, add_zero, List.length_drop]

/-- Sixteen bits are too few for a multiple of the generator. -/
theorem Within.not_dvd {pattern : Octets} {start : ℕ} (h : Within pattern start 16)
    (ht : true ∈ pattern.bits) : ¬ divisor ∣ polynomial pattern.bits := by
  intro hd
  rw [h.polynomial_eq] at hd
  have hm := (divisor_coprime _).dvd_of_dvd_mul_right hd
  have hz : polynomial ((pattern.bits.drop start).take 16) ≠ 0 := by
    intro hz
    apply (polynomial_eq_zero_iff pattern.bits).mp ?_ ht
    rw [h.polynomial_eq, hz, zero_mul]
  have hl : ((pattern.bits.drop start).take 16).length ≤ 16 := List.length_take_le _ _
  refine divisor_monic.not_dvd_of_degree_lt hz ?_ hm
  rw [degree_divisor]
  exact (degree_polynomial_lt _).trans_le (by exact_mod_cast hl)

/-- Of seventeen bits that begin and end with a one only the generator's own are a multiple. -/
theorem Within.dvd_iff {pattern : Octets} {start : ℕ} (h : Within pattern start 17)
    (hf : pattern.bits[start]? = some true) (hl : pattern.bits[start + 16]? = some true) :
    divisor ∣ polynomial pattern.bits ↔ (pattern.bits.drop start).take 17 = divisorBits := by
  obtain ⟨hb, -⟩ := List.getElem?_eq_some_iff.mp hl
  obtain ⟨hs, he⟩ := List.getElem?_eq_some_iff.mp hf
  let rest := (pattern.bits.drop (start + 1)).take 16
  have hr : rest.length = 16 := by
    simp only [rest, List.length_take, List.length_drop]
    omega
  have hm : (pattern.bits.drop start).take 17 = true :: rest := by
    rw [List.drop_eq_getElem_cons hs, he, List.take_succ_cons]
  rw [h.polynomial_eq, hm]
  constructor
  · intro hd
    have hd := (divisor_coprime _).dvd_of_dvd_mul_right hd
    have hx : polynomial (true :: rest) + divisor =
        polynomial (rest.zipWith (· ^^ ·) divisorBits.tail) := by
      rw [← polynomial_divisorBits, ← polynomial_xor (by simp [hr, divisorBits])]
      simp [divisorBits, polynomial]
    have hz : polynomial (true :: rest) + divisor = 0 := by
      by_contra hz
      refine divisor_monic.not_dvd_of_degree_lt hz ?_ (dvd_add hd dvd_rfl)
      rw [hx, degree_divisor]
      refine (degree_polynomial_lt _).trans_le ?_
      simp [hr, divisorBits]
    apply polynomial_injective (by simp [hr, divisorBits])
    rw [polynomial_divisorBits]
    exact CharTwo.add_eq_zero.mp hz
  · intro hd
    rw [hd, polynomial_divisorBits]
    exact dvd_mul_right _ _

/-- Different octets differ in some bit. -/
theorem true_mem_bits_flipped {octets changed : Octets} (hl : changed.length = octets.length)
    (hn : changed ≠ octets) : true ∈ (octets.flipped changed).bits := by
  by_contra hz
  apply hn
  have hp : (octets.flipped changed).length = octets.length := Octets.length_flipped hl
  apply Octets.bits_injective
  apply polynomial_injective (by simp [hl])
  rw [← Octets.flipped_flipped hl, Octets.bits_flipped hp, polynomial_xor (by simp [hp]),
    (polynomial_eq_zero_iff _).mpr hz, add_zero]

/-- Octets that agree but for two neighbours differ within sixteen bits. -/
theorem within_of_neighbours {octets changed : Octets} {place : ℕ}
    (h : ∀ i, i ≠ place → i ≠ place + 1 → changed[i]? = octets[i]?) :
    Within (octets.flipped changed) (8 * place) 16 := by
  intro i hi
  by_contra hn
  rw [Octets.getElem?_bits, Octets.flipped, List.getElem?_zipWith,
    h (i / 8) (by omega) (by omega)] at hi
  cases ho : octets[i / 8]? with
  | none =>
    rw [ho] at hi
    cases hi
  | some octet =>
    rw [ho] at hi
    simp at hi

/-- An error within sixteen bits of accepted octets is always found, wherever it lies; so is any
change of one or two neighbouring octets of a written frame. Of the errors that span seventeen bits
only the generator itself is missed. -/
theorem bursts_detected :
    (∀ (octets pattern : Octets) (start : ℕ), Accepted octets → pattern.length = octets.length →
      true ∈ pattern.bits → Within pattern start 16 → Mismatched (octets.flipped pattern)) ∧
    (∀ (frame : Frame) (buffer written changed : Octets) (size place : ℕ),
      frame.writeInto buffer = (.ok size, written) → changed.length = size →
      changed ≠ written.take size →
      (∀ i, i ≠ place → i ≠ place + 1 → changed[i]? = (written.take size)[i]?) →
        Mismatched changed) ∧
    ∀ (octets pattern : Octets) (start : ℕ), Accepted octets → pattern.length = octets.length →
      pattern.bits[start]? = some true → pattern.bits[start + 16]? = some true →
      Within pattern start 17 →
        (Accepted (octets.flipped pattern) ↔ (pattern.bits.drop start).take 17 = divisorBits) := by
  refine ⟨?_, ?_, ?_⟩
  · intro octets pattern start ha hp ht hw
    exact (ha.mismatched_flipped_iff hp).mpr (hw.not_dvd ht)
  · intro frame buffer written changed size place hf hl hn h
    obtain ⟨hp, hs, hw⟩ := eq_wire_of_writeInto hf
    rw [hw] at hn h
    have ha : Accepted frame.wire := ⟨frame, read_wire hp⟩
    have hl : changed.length = frame.wire.length := by rw [hl, hs, length_wire]
    rw [← Octets.flipped_flipped hl]
    apply (ha.mismatched_flipped_iff (Octets.length_flipped hl)).mpr
    exact (within_of_neighbours h).not_dvd (true_mem_bits_flipped hl hn)
  · intro octets pattern start ha hp hf hl hw
    rw [ha.flipped_iff_dvd hp, hw.dvd_iff hf hl]

private theorem within_of_forall_lt {pattern : Octets} {start width : ℕ}
    (h : ∀ place < pattern.bits.length, pattern.bits[place]? = some true →
      start ≤ place ∧ place < start + width) : Within pattern start width := by
  intro place hp
  obtain ⟨hl, -⟩ := List.getElem?_eq_some_iff.mp hp
  exact h place hl hp

/-- On the frame without payload to address five: ten wrong bits across header and checksum are
found, the octet that is wrong with its neighbour too, and the generator's own bits are missed. -/
theorem bursts_detected_blank :
    Accepted [0x05, 0x01, 0xF2, 0xDB] ∧
    (Within [0x00, 0x03, 0xFF, 0x00] 14 16 ∧ Mismatched [0x05, 0x02, 0x0D, 0xDB]) ∧
    (writeInto ⟨5, 1, []⟩ [0, 0, 0, 0] = (.ok 4, [0x05, 0x01, 0xF2, 0xDB]) ∧
      Mismatched [0x05, 0x10, 0x00, 0xDB]) ∧
    Within [0x88, 0x10, 0x80, 0x00] 0 17 ∧ Accepted [0x8D, 0x11, 0x72, 0xDB] := by
  have hc : Checksum.of [0x05, 0x01] = 0xF2DB := by
    simp only [Checksum.of, absorb, List.foldl, step, get_table]
    decide
  have hw : wire ⟨5, 1, []⟩ = [0x05, 0x01, 0xF2, 0xDB] :=
    congrArg (fun word => [0x05, 0x01] ++ Octets.ofWord word) hc
  have ha : Accepted [0x05, 0x01, 0xF2, 0xDB] := by
    refine ⟨⟨5, 1, []⟩, ?_⟩
    rw [← hw]
    exact read_wire (by decide)
  have hi : writeInto ⟨5, 1, []⟩ [0, 0, 0, 0] = (.ok 4, [0x05, 0x01, 0xF2, 0xDB]) := by
    rw [writeInto_of_room (by decide) (by decide), hw]
    rfl
  have h16 : Within [0x00, 0x03, 0xFF, 0x00] 14 16 := within_of_forall_lt (by decide)
  have h17 : Within [0x88, 0x10, 0x80, 0x00] 0 17 := within_of_forall_lt (by decide)
  have ht : true ∈ Octets.bits [0x00, 0x03, 0xFF, 0x00] := by decide
  refine ⟨ha, ⟨h16, ?_⟩, ⟨hi, ?_⟩, h17, ?_⟩
  · exact bursts_detected.1 [0x05, 0x01, 0xF2, 0xDB] [0x00, 0x03, 0xFF, 0x00] 14 ha rfl ht h16
  · refine bursts_detected.2.1 _ _ _ _ _ 1 hi rfl (by decide) ?_
    intro i h1 h2
    rcases i with _ | _ | _ | _ | i
    · rfl
    · exact absurd rfl h1
    · exact absurd rfl h2
    · rfl
    · rfl
  · have hf : (Octets.bits [0x88, 0x10, 0x80, 0x00])[0]? = some true := by decide
    have hl : (Octets.bits [0x88, 0x10, 0x80, 0x00])[0 + 16]? = some true := by decide
    have hd := bursts_detected.2.2 [0x05, 0x01, 0xF2, 0xDB] [0x88, 0x10, 0x80, 0x00] 0 ha rfl
      hf hl h17
    exact hd.mpr (by decide)

end OnboardLink.Frame
