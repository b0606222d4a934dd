/-! Strings of octets as they travel over a link, with words written most significant octet
first. -/
namespace OnboardLink

abbrev Octets := List UInt8

namespace Octets

def ofWord (word : UInt16) : Octets := [(word >>> 8).toUInt8, word.toUInt8]

def word (high low : UInt8) : UInt16 := (high.toUInt16 <<< 8) ||| low.toUInt16

/-- The octet at a position. Callers stay inside the string; past its end there is only zero. -/
def octetAt (octets : Octets) (position : Nat) : UInt8 := octets.getD position 0

def wordAt (octets : Octets) (position : Nat) : UInt16 :=
  word (octets.octetAt position) (octets.octetAt (position + 1))

/-- The buffer with `source` laid over it from `start` on. Everything before and after the laid
stretch keeps its content. -/
def overwrite (buffer : Octets) (start : Nat) (source : Octets) : Octets :=
  buffer.take start ++ source ++ buffer.drop (start + source.length)

@[simp] theorem length_ofWord (word : UInt16) : (ofWord word).length = 2 := rfl

theorem toNat_word (high low : UInt8) : (word high low).toNat = high.toNat * 256 + low.toNat := by
  have highBound := high.toNat_lt
  have lowBound := low.toNat_lt
  have small : high.toNat <<< 8 % 2 ^ 16 = high.toNat <<< 8 := by
    rw [Nat.shiftLeft_eq]
    omega
  simp only [word, UInt16.toNat_or, UInt16.toNat_shiftLeft, UInt8.toNat_toUInt16]
  rw [show (8 : UInt16).toNat % 16 = 8 from rfl, small, ← Nat.shiftLeft_add_eq_or_of_lt lowBound,
    Nat.shiftLeft_eq]

theorem word_ofWord (w : UInt16) : word (w >>> 8).toUInt8 w.toUInt8 = w := by
  have bound := w.toNat_lt
  apply UInt16.toNat_inj.mp
  rw [toNat_word]
  simp [Nat.shiftRight_eq_div_pow]
  omega

@[simp] theorem ofWord_inj {a b : UInt16} : ofWord a = ofWord b ↔ a = b := by
  constructor
  · intro h
    simp only [ofWord, List.cons.injEq, and_true] at h
    rw [← word_ofWord a, h.1, h.2, word_ofWord]
  · exact congrArg ofWord

theorem ofWord_word (high low : UInt8) : ofWord (word high low) = [high, low] := by
  have highBound := high.toNat_lt
  have lowBound := low.toNat_lt
  simp only [ofWord, List.cons.injEq, and_true]
  constructor
  · apply UInt8.toNat_inj.mp
    simp [toNat_word, Nat.shiftRight_eq_div_pow]
    omega
  · apply UInt8.toNat_inj.mp
    simp [toNat_word]

theorem length_overwrite {buffer source : Octets} {start : Nat}
    (inside : start + source.length ≤ buffer.length) :
    (buffer.overwrite start source).length = buffer.length := by
  simp [overwrite]
  omega

theorem overwrite_zero (buffer source : Octets) :
    buffer.overwrite 0 source = source ++ buffer.drop source.length := by
  simp [overwrite]

/-- Octets laid behind a front cover the octets that came next, and the front stays. -/
theorem overwrite_append (front rest source : Octets) :
    (front ++ rest).overwrite front.length source = front ++ (source ++ rest.drop source.length) := by
  simp [overwrite, List.drop_append]

theorem overwrite_overwrite {buffer front back : Octets} {start next : Nat}
    (inside : start ≤ buffer.length) (adjacent : next = start + front.length) :
    (buffer.overwrite start front).overwrite next back = buffer.overwrite start (front ++ back) := by
  have length : (buffer.take start).length = start := List.length_take_of_le inside
  have split : buffer.overwrite start front =
      (buffer.take start ++ front) ++ buffer.drop (start + front.length) := rfl
  have reach : start + front.length = (buffer.take start ++ front).length := by
    rw [List.length_append, length]
  rw [split, adjacent, reach, overwrite_append, ← reach]
  simp [overwrite, Nat.add_assoc]

end Octets
end OnboardLink
