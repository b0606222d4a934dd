import Mathlib.Algebra.Group.Nat.Defs
import Mathlib.Data.List.Basic
import OnboardLink.Checksum

/-! Access to octets and arithmetic on lengths as partial operations, which have no result outside
their range. A function written with them has a result only where each of its accesses does, so that
it equals a total function says that none of them is ever out of range. -/
namespace OnboardLink

namespace Length

/-- One more than the greatest length that a machine word holds. -/
def limit : ℕ := 2 ^ 64

/-- The sum of two lengths, where a machine word holds it. -/
def add? (a b : ℕ) : Option ℕ := if a + b < limit then some (a + b) else none

/-- The difference of two lengths, where it is not below zero. -/
def sub? (a b : ℕ) : Option ℕ := if b ≤ a then some (a - b) else none

variable {a b : ℕ}

theorem add?_of_lt (h : a + b < limit) : add? a b = some (a + b) := if_pos h

theorem sub?_of_le (h : b ≤ a) : sub? a b = some (a - b) := if_pos h

end Length

namespace Octets

variable {octets source : Octets} {position next start stop : ℕ}

/-- The stretch of a string from `start` up to `stop`. -/
def slice? (octets : Octets) (start stop : ℕ) : Option Octets :=
  if start ≤ stop ∧ stop ≤ octets.length then some ((octets.take stop).drop start) else none

/-- The word whose octets are at two positions. -/
def word? (octets : Octets) (position next : ℕ) : Option UInt16 := do
  let high ← octets[position]?
  let low ← octets[next]?
  return word high low

/-- The string with one octet replaced. -/
def set? (octets : Octets) (position : ℕ) (octet : UInt8) : Option Octets :=
  if position < octets.length then some (octets.set position octet) else none

/-- The string with the stretch from `start` up to `stop` replaced by a source as long as it. -/
def copy? (octets : Octets) (start stop : ℕ) (source : Octets) : Option Octets := do
  let target ← octets.slice? start stop
  if target.length = source.length then some (octets.overwrite start source) else none

/-- The string cut in two. -/
def splitAt? (octets : Octets) (position : ℕ) : Option (Octets × Octets) :=
  if position ≤ octets.length then some (octets.take position, octets.drop position) else none

theorem slice?_of_le (lower : start ≤ stop) (upper : stop ≤ octets.length) :
    octets.slice? start stop = some ((octets.take stop).drop start) :=
  if_pos ⟨lower, upper⟩

theorem splitAt?_of_le (inside : position ≤ octets.length) :
    octets.splitAt? position = some (octets.take position, octets.drop position) :=
  if_pos inside

theorem getElem?_of_lt (inside : position < octets.length) :
    octets[position]? = some (octets.octetAt position) := by
  rw [octetAt, List.getD_eq_getElem?_getD, List.getElem?_eq_getElem inside]
  rfl

theorem word?_of_lt (adjacent : next = position + 1) (inside : next < octets.length) :
    octets.word? position next = some (octets.wordAt position) := by
  subst adjacent
  rw [word?, getElem?_of_lt inside, getElem?_of_lt (Nat.lt_of_succ_lt inside)]
  rfl

/-- Octets are laid one behind the other: the next one follows those that are there. -/
theorem set?_overwrite (laid : Octets) (next : position = laid.length)
    (inside : position < octets.length) (octet : UInt8) :
    (octets.overwrite 0 laid).set? position octet = some (octets.overwrite 0 (laid ++ [octet])) := by
  have hl : laid.length ≤ octets.length := next ▸ Nat.le_of_lt inside
  have hi : position < (octets.overwrite 0 laid).length := by
    rwa [length_overwrite (by rwa [Nat.zero_add])]
  rw [set?, if_pos hi, List.set_eq_take_append_cons_drop, if_pos hi,
    ← overwrite_overwrite (Nat.zero_le _) (next.trans (Nat.zero_add _).symm)]
  simp [overwrite]

theorem copy?_overwrite (laid : Octets) (next : start = laid.length)
    (width : stop = start + source.length) (inside : stop ≤ octets.length) :
    (octets.overwrite 0 laid).copy? start stop source =
      some (octets.overwrite 0 (laid ++ source)) := by
  have hl : 0 + laid.length ≤ octets.length := by omega
  have hi : stop ≤ (octets.overwrite 0 laid).length := by rwa [length_overwrite hl]
  have ht : (((octets.overwrite 0 laid).take stop).drop start).length = source.length := by
    rw [List.length_drop, List.length_take_of_le hi, width, Nat.add_sub_cancel_left]
  rw [copy?, slice?_of_le (width ▸ Nat.le_add_right _ _) hi, ← overwrite_overwrite (Nat.zero_le _)
    (next.trans (Nat.zero_add _).symm)]
  exact if_pos ht

theorem slice?_overwrite (laid : Octets) (all : stop = laid.length)
    (inside : stop ≤ octets.length) : (octets.overwrite 0 laid).slice? 0 stop = some laid := by
  have hl : 0 + laid.length ≤ octets.length := by rwa [Nat.zero_add, ← all]
  rw [slice?_of_le (Nat.zero_le _) (by rwa [length_overwrite hl]), overwrite_zero, all,
    List.take_left, List.drop_zero]

end Octets

namespace Checksum

/-- Takes one octet into the register, with the table's index as a number. -/
def step? (register : UInt16) (octet : UInt8) : Option UInt16 := do
  let entry ← table[((register >>> 8).toUInt8 ^^^ octet).toNat]?
  return (register <<< 8) ^^^ entry

def absorb? (register : UInt16) (octets : Octets) : Option UInt16 := octets.foldlM step? register

def of? (octets : Octets) : Option UInt16 := absorb? initial octets

/-- The table has an entry for every index that is asked for. -/
theorem step?_eq (register : UInt16) (octet : UInt8) :
    step? register octet = some (step register octet) := by
  have hi : ((register >>> 8).toUInt8 ^^^ octet).toNat < 256 := UInt8.toNat_lt _
  rw [step?, Vector.getElem?_eq_getElem hi]
  rfl

theorem absorb?_eq (register : UInt16) (octets : Octets) :
    absorb? register octets = some (absorb register octets) := by
  induction octets generalizing register with
  | nil => rfl
  | cons octet octets ih =>
    rw [absorb?, List.foldlM_cons, step?_eq]
    exact ih (step register octet)

theorem of?_eq (octets : Octets) : of? octets = some (of octets) := absorb?_eq initial octets

end Checksum
end OnboardLink
