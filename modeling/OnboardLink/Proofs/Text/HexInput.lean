import Mathlib.Data.List.Basic
import Mathlib.Data.Nat.Notation
import OnboardLink.Text.Hex

/-! Reading hexadecimal text. Octets may be spelled in digits of either case, with or without the
mark and with blanks anywhere; the text that octets are shown in is one of these spellings. -/
namespace OnboardLink

/-- Digits are among the characters of ASCII. -/
theorem toNat_lt_of_hexValue? {c : Char} {value : ℕ} (h : hexValue? c = some value) :
    c.toNat < 128 := by
  rw [hexValue?] at h
  split at h
  · rename_i hc
    exact Nat.lt_of_le_of_lt hc.2 (by decide)
  · split at h
    · rename_i hc
      exact Nat.lt_of_le_of_lt hc.2 (by decide)
    · split at h
      · rename_i hc
        exact Nat.lt_of_le_of_lt hc.2 (by decide)
      · cases h

namespace HexInput

/-- Two digits of either case for each octet, high half first. -/
inductive Pairs : Octets → List Char → Prop where
  | nil : Pairs [] []
  | cons {octet : UInt8} {octets : Octets} {high low : Char} {rest : List Char}
      (hh : hexValue? high = some (octet.toNat / 16))
      (hl : hexValue? low = some (octet.toNat % 16)) (hr : Pairs octets rest) :
      Pairs (octet :: octets) (high :: low :: rest)

/-- The text gives the octets: blanks aside, it is their digits, with or without a mark in front. -/
def Spells (octets : Octets) (text : String) : Prop :=
  ∃ mark digits, (mark = "" ∨ mark = "0x" ∨ mark = "0X") ∧
    text.toList.filter (!isBlank ·) = mark.toList ++ digits ∧ Pairs octets digits

/-- A digit takes one octet of text. -/
theorem encode_digit {c : Char} {value : ℕ} (h : hexValue? c = some value) :
    String.utf8EncodeChar c = [c.toNat.toUInt8] ∧ octetValue? c.toNat.toUInt8 = some value := by
  have hb := toNat_lt_of_hexValue? h
  have hs : c.utf8Size = 1 := Char.utf8Size_eq_one_iff.mpr (UInt32.le_iff_toNat_le.mpr (by
    change c.toNat ≤ 127
    omega))
  have hn : c.toNat.toUInt8.toNat = c.toNat := UInt8.toNat_ofNat_of_lt (Nat.lt_trans hb (by decide))
  constructor
  · rw [String.utf8EncodeChar_eq_singleton hs]
    rfl
  · rw [octetValue?, hn, Char.ofNat_toNat, h]

variable {octets : Octets} {characters : List Char}

namespace Pairs

/-- In UTF-8, digits are as many octets, each of which is a digit. -/
theorem encode (h : Pairs octets characters) :
    (characters.flatMap String.utf8EncodeChar).length = 2 * octets.length ∧
    ∀ octet ∈ characters.flatMap String.utf8EncodeChar, (octetValue? octet).isSome := by
  induction h with
  | nil => exact ⟨rfl, nofun⟩
  | @cons octet octets high low rest hh hl hr ih =>
    obtain ⟨ehigh, vhigh⟩ := encode_digit hh
    obtain ⟨elow, vlow⟩ := encode_digit hl
    rw [List.flatMap_cons, List.flatMap_cons, ehigh, elow]
    constructor
    · simp only [List.length_append, List.length_cons, List.length_nil, ih.1]
      omega
    · intro code hm
      simp only [List.cons_append, List.nil_append, List.mem_cons] at hm
      rcases hm with rfl | rfl | hm
      · rw [vhigh]
        rfl
      · rw [vlow]
        rfl
      · exact ih.2 code hm

/-- Pairs are taken up one after the other. -/
theorem pairUp_eq (h : Pairs octets characters) (taken : Octets) :
    pairUp taken (characters.flatMap String.utf8EncodeChar) = taken.reverse ++ octets := by
  induction h generalizing taken with
  | nil => exact (List.append_nil _).symm
  | @cons octet octets high low rest hh hl hr ih =>
    obtain ⟨ehigh, vhigh⟩ := encode_digit hh
    obtain ⟨elow, vlow⟩ := encode_digit hl
    have ho : (octet.toNat / 16 * 16 + octet.toNat % 16).toUInt8 = octet := by
      rw [Nat.div_add_mod']
      exact UInt8.ofNat_toNat
    rw [List.flatMap_cons, List.flatMap_cons, ehigh, elow]
    simp only [List.cons_append, List.nil_append, pairUp, vhigh, vlow, Option.getD_some, ho]
    rw [ih, List.reverse_cons, List.append_assoc]
    rfl

/-- Digits do not begin like the mark. -/
theorem skipMark_eq (h : Pairs octets characters) : skipMark characters = characters := by
  cases h with
  | nil => rfl
  | @cons octet octets high low rest hh hl hr =>
    rw [skipMark]
    · rintro _ hx
      cases hx
      cases hl
    · rintro _ hx
      cases hx
      cases hl

end Pairs

/-- The reader takes every spelling of octets for these octets. -/
theorem Spells.read_eq {text : String} (h : Spells octets text) : read text = .ok octets := by
  obtain ⟨mark, characters, hm, hf, hp⟩ := h
  have hs : skipMark (mark.toList ++ characters) = characters := by
    rcases hm with rfl | rfl | rfl
    · exact hp.skipMark_eq
    · rfl
    · rfl
  have hd : digits text = characters.flatMap String.utf8EncodeChar := by rw [digits, hf, hs]
  obtain ⟨hl, hv⟩ := hp.encode
  have hn : (characters.flatMap String.utf8EncodeChar).findIdx?
      (fun octet => (octetValue? octet).isNone) = none := by
    rw [List.findIdx?_eq_none_iff]
    intro octet ho
    rw [Option.isNone_eq_false_iff]
    exact hv octet ho
  rw [read, hd, hl, if_neg (by omega), hn]
  dsimp only
  rw [hp.pairUp_eq]
  rfl

end HexInput

namespace Octets

open HexInput

variable (octets : Octets)

end Octets
end OnboardLink
