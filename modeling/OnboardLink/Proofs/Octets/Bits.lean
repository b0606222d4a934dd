import OnboardLink.Octets

/-! Octets as bits in the order in which they are sent, and errors as patterns of the same length
whose ones mark the bits that arrive flipped. -/
namespace OnboardLink.Octets

/-- The bits of an octet, most significant first. -/
def bitsOf (octet : UInt8) : List Bool :=
  (List.range 8).map fun place => octet.toNat.testBit (7 - place)

/-- The bits of a string of octets. -/
def bits (octets : Octets) : List Bool := octets.flatMap bitsOf

/-- The string with each bit flipped that is one in the pattern. -/
def flipped (octets pattern : Octets) : Octets := octets.zipWith (· ^^^ ·) pattern

/-- The string with the bit at one place flipped. -/
def flipBit (octets : Octets) (place : Nat) : Octets :=
  octets.modify (place / 8) (· ^^^ 0x80 >>> (place % 8).toUInt8)

@[simp] theorem length_bitsOf (octet : UInt8) : (bitsOf octet).length = 8 := by
  simp [bitsOf]

@[simp] theorem bits_nil : bits [] = [] := rfl

@[simp] theorem bits_cons (octet : UInt8) (octets : Octets) :
    bits (octet :: octets) = bitsOf octet ++ bits octets := rfl

@[simp] theorem bits_append (front back : Octets) :
    bits (front ++ back) = bits front ++ bits back :=
  List.flatMap_append

@[simp] theorem length_bits (octets : Octets) : octets.bits.length = 8 * octets.length := by
  induction octets with
  | nil => rfl
  | cons octet octets ih =>
    rw [bits_cons, List.length_append, length_bitsOf, ih, List.length_cons]
    omega

private theorem getElem?_bitsOf (octet : UInt8) {place : Nat} (h : place < 8) :
    (bitsOf octet)[place]? = some (octet.toNat.testBit (7 - place)) := by
  simp [bitsOf, h]

/-- The bit at a place stands in the octet of its eighth. -/
theorem getElem?_bits (octets : Octets) (place : Nat) :
    octets.bits[place]? =
      octets[place / 8]?.map fun octet => octet.toNat.testBit (7 - place % 8) := by
  induction octets generalizing place with
  | nil => rfl
  | cons octet octets ih =>
    by_cases h : place < 8
    · rw [bits_cons, List.getElem?_append_left (by simpa using h), getElem?_bitsOf octet h,
        Nat.div_eq_of_lt h, Nat.mod_eq_of_lt h]
      rfl
    · have hd : place / 8 = (place - 8) / 8 + 1 := by omega
      have hm : place % 8 = (place - 8) % 8 := by omega
      rw [bits_cons, List.getElem?_append_right (by simpa using h), length_bitsOf, ih, hd, hm,
        List.getElem?_cons_succ]

private theorem bitsOf_injective {a b : UInt8} (h : bitsOf a = bitsOf b) : a = b := by
  apply UInt8.toNat_inj.mp
  apply Nat.eq_of_testBit_eq
  intro place
  by_cases hp : place < 8
  · have he := congrArg (·[7 - place]?) h
    simp only [getElem?_bitsOf _ (show 7 - place < 8 by omega), Option.some.injEq] at he
    rwa [show 7 - (7 - place) = place by omega] at he
  · have hw : 2 ^ 8 ≤ 2 ^ place := Nat.pow_le_pow_right (by decide) (Nat.not_lt.mp hp)
    rw [Nat.testBit_lt_two_pow (Nat.lt_of_lt_of_le a.toNat_lt hw),
      Nat.testBit_lt_two_pow (Nat.lt_of_lt_of_le b.toNat_lt hw)]

/-- Strings are told apart by their bits. -/
theorem bits_injective {a b : Octets} (h : a.bits = b.bits) : a = b := by
  have hl : a.length = b.length := by
    have h8 := congrArg List.length h
    rw [length_bits, length_bits] at h8
    omega
  induction a generalizing b with
  | nil => exact (List.length_eq_zero_iff.mp hl.symm).symm
  | cons octet a ih =>
    cases b with
    | nil => cases hl
    | cons other b =>
      obtain ⟨ho, hr⟩ := List.append_inj h (by simp)
      rw [bitsOf_injective ho, ih hr (Nat.succ.inj hl)]

/-- A word's octets are its own bits, most significant first. -/
theorem bits_ofWord (word : UInt16) :
    (ofWord word).bits = (List.range 16).map fun place => word.toNat.testBit (15 - place) := by
  have hh (place : Nat) : (word.toNat >>> 8 % 256).testBit place =
      (decide (place < 8) && word.toNat.testBit (8 + place)) := by
    rw [show 256 = 2 ^ 8 from rfl, Nat.testBit_mod_two_pow, Nat.testBit_shiftRight]
  have hl (place : Nat) : (word.toNat % 256).testBit place =
      (decide (place < 8) && word.toNat.testBit place) := by
    rw [show 256 = 2 ^ 8 from rfl, Nat.testBit_mod_two_pow]
  simp [bits, bitsOf, ofWord, List.range_succ, hh, hl]

@[simp] theorem length_flipped {octets pattern : Octets} (h : pattern.length = octets.length) :
    (octets.flipped pattern).length = octets.length := by
  simp [flipped, h]

theorem bitsOf_xor (a b : UInt8) :
    bitsOf (a ^^^ b) = (bitsOf a).zipWith (· ^^ ·) (bitsOf b) := by
  simp [bitsOf, List.zipWith_map, List.zipWith_self]

theorem ofWord_xor (a b : UInt16) : ofWord (a ^^^ b) = (ofWord a).flipped (ofWord b) := by
  simp [ofWord, flipped, UInt16.shiftRight_xor]

/-- Flipping octets flips their bits. -/
theorem bits_flipped {octets pattern : Octets} (h : pattern.length = octets.length) :
    (octets.flipped pattern).bits = octets.bits.zipWith (· ^^ ·) pattern.bits := by
  induction octets generalizing pattern with
  | nil => rfl
  | cons octet octets ih =>
    cases pattern with
    | nil => cases h
    | cons change pattern =>
      rw [bits_cons, bits_cons, List.zipWith_append (by simp), ← bitsOf_xor,
        ← ih (Nat.succ.inj h)]
      rfl

/-- The difference of two strings flips one into the other. -/
theorem flipped_flipped {octets other : Octets} (h : other.length = octets.length) :
    octets.flipped (octets.flipped other) = other := by
  induction octets generalizing other with
  | nil => exact (List.length_eq_zero_iff.mp h).symm
  | cons octet octets ih =>
    cases other with
    | nil => cases h
    | cons new other =>
      have hx : octet ^^^ (octet ^^^ new) = new := by
        rw [← UInt8.xor_assoc, UInt8.xor_self, UInt8.zero_xor]
      change (octet ^^^ (octet ^^^ new)) :: flipped octets (flipped octets other) = new :: other
      rw [hx, ih (Nat.succ.inj h)]

@[simp] theorem length_flipBit (octets : Octets) (place : Nat) :
    (octets.flipBit place).length = octets.length := by
  simp [flipBit]

private theorem testBit_mask : ∀ place < 8, ∀ other < 8,
    (0x80 >>> place.toUInt8 : UInt8).toNat.testBit (7 - other) = decide (place = other) := by
  decide

theorem bits_flipBit (octets : Octets) (place : Nat) :
    (octets.flipBit place).bits = octets.bits.modify place not := by
  apply List.ext_getElem?
  intro other
  rw [getElem?_bits, flipBit, List.getElem?_modify, List.getElem?_modify, getElem?_bits]
  cases octets[other / 8]? with
  | none => rfl
  | some octet =>
    have hm := testBit_mask (place % 8) (Nat.mod_lt _ (by decide)) (other % 8)
      (Nat.mod_lt _ (by decide))
    simp only [Option.map_eq_map, Option.map_some, Option.some.injEq]
    by_cases he : place / 8 = other / 8
    · -- In the octet concerned the mask has its one at the place alone.
      have hp : place = other ↔ place % 8 = other % 8 := by omega
      rw [if_pos he, UInt8.toNat_xor, Nat.testBit_xor, hm]
      by_cases hc : place = other
      · rw [if_pos hc, decide_eq_true (hp.mp hc), Bool.xor_true]
      · rw [if_neg hc, decide_eq_false (mt hp.mpr hc), Bool.xor_false]
    · have hn : place ≠ other := fun hc => he (congrArg (· / 8) hc)
      rw [if_neg he, if_neg hn]

end OnboardLink.Octets
