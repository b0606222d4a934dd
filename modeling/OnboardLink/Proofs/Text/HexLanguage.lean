import Mathlib.Data.List.Induction
import OnboardLink.Proofs.Text.HexInput

/-! Which texts are hexadecimal, and what is reported of the others. Digits are counted and judged in
UTF-8, where only a digit itself is an octet that is one, so a text of digits alone is told from every
other by its octets. -/
namespace OnboardLink

theorem lt_of_hexValue? {c : Char} {value : ℕ} (h : hexValue? c = some value) : value < 16 := by
  have hz : '0'.toNat = 48 ∧ 'a'.toNat = 97 ∧ 'A'.toNat = 65 := ⟨rfl, rfl, rfl⟩
  rw [hexValue?] at h
  split at h
  · rename_i hc
    have hu : c.toNat ≤ 57 := hc.2
    cases h
    omega
  · split at h
    · rename_i hc
      have hu : c.toNat ≤ 102 := hc.2
      cases h
      omega
    · split at h
      · rename_i hc
        have hu : c.toNat ≤ 70 := hc.2
        cases h
        omega
      · cases h

namespace HexInput

/-- The text behind the mark, or all of a text that does not begin with one. -/
inductive Unmarked : List Char → List Char → Prop where
  | marked {mark : String} {digits : List Char} (hm : mark = "0x" ∨ mark = "0X") :
      Unmarked (mark.toList ++ digits) digits
  | plain {digits : List Char}
      (hn : ∀ mark : String, mark = "0x" ∨ mark = "0X" → ¬ mark.toList <+: digits) :
      Unmarked digits digits

/-- Only the first mark is taken off. -/
theorem unmarked_iff {characters digits : List Char} :
    Unmarked characters digits ↔ digits = skipMark characters := by
  constructor
  · intro h
    cases h with
    | marked hm => rcases hm with rfl | rfl <;> rfl
    | plain hn =>
      rw [skipMark.eq_def]
      split
      · exact absurd ⟨_, rfl⟩ (hn "0x" (.inl rfl))
      · exact absurd ⟨_, rfl⟩ (hn "0X" (.inr rfl))
      · rfl
  · rintro rfl
    rw [skipMark.eq_def]
    split
    · exact @Unmarked.marked "0x" _ (.inl rfl)
    · exact @Unmarked.marked "0X" _ (.inr rfl)
    · rename_i hx hX
      refine .plain ?_
      rintro _ (rfl | rfl) ⟨rest, he⟩
      · exact hx rest he.symm
      · exact hX rest he.symm

variable {octets : Octets} {characters : List Char} {text : String}

/-- Digits behind the mark spell a text, and so do digits without one. -/
theorem Unmarked.spells (h : Unmarked (text.toList.filter (!isBlank ·)) characters)
    (hp : Pairs octets characters) : Spells octets text := by
  generalize hf : text.toList.filter (!isBlank ·) = filtered at h
  cases h with
  | @marked mark _ hm => exact ⟨mark, characters, .inr hm, hf, hp⟩
  | plain => exact ⟨"", characters, .inl rfl, hf, hp⟩

/-- Octets beyond ASCII are no digits. -/
theorem octetValue?_eq_none {octet : UInt8} (h : 128 ≤ octet.toNat) : octetValue? octet = none := by
  have hv : octet.toNat.isValidChar := .inl (Nat.lt_trans octet.toNat_lt (by decide))
  have hn : (Char.ofNat octet.toNat).toNat = octet.toNat := by
    rw [Char.ofNat, dif_pos hv]
    rfl
  rw [octetValue?, Option.eq_none_iff_forall_ne_some]
  intro value hc
  have hl := toNat_lt_of_hexValue? hc
  rw [hn] at hl
  exact Nat.not_lt.mpr h hl

/-- A character of which every octet is a digit is a digit itself. -/
theorem isSome_hexValue?_of_encode {c : Char}
    (h : ∀ octet ∈ String.utf8EncodeChar c, (octetValue? octet).isSome = true) :
    (hexValue? c).isSome = true := by
  by_cases hc : c.val.toNat ≤ 127
  · have he : String.utf8EncodeChar c = [c.toNat.toUInt8] := if_pos hc
    have hn : c.toNat.toUInt8.toNat = c.toNat :=
      UInt8.toNat_ofNat_of_lt (Nat.lt_of_le_of_lt hc (by decide))
    have hv := h c.toNat.toUInt8 (by simp [he])
    rwa [octetValue?, hn, Char.ofNat_toNat] at hv
  · exfalso
    -- The first octet of a longer form is above those of ASCII, however long the form is.
    obtain ⟨octet, rest, he, ho⟩ :
        ∃ octet rest, String.utf8EncodeChar c = octet :: rest ∧ 128 ≤ octet.toNat := by
      simp only [String.utf8EncodeChar, if_neg hc]
      split
      · exact ⟨_, _, rfl, by rw [UInt8.toNat_ofNat']; omega⟩
      · split
        · exact ⟨_, _, rfl, by rw [UInt8.toNat_ofNat']; omega⟩
        · exact ⟨_, _, rfl, by rw [UInt8.toNat_ofNat']; omega⟩
    have hv := h octet (by rw [he]; exact List.mem_cons_self)
    rw [octetValue?_eq_none ho] at hv
    cases hv

/-- An even number of digits are pairs. -/
theorem exists_pairs_iff : (∃ octets, Pairs octets characters) ↔
    characters.length % 2 = 0 ∧ ∀ c ∈ characters, (hexValue? c).isSome = true := by
  constructor
  · rintro ⟨octets, h⟩
    induction h with
    | nil => exact ⟨rfl, nofun⟩
    | cons hh hl hr ih =>
      rw [List.length_cons, List.length_cons, List.forall_mem_cons, List.forall_mem_cons, hh, hl]
      exact ⟨by omega, rfl, rfl, ih.2⟩
  · rintro ⟨he, hd⟩
    induction characters using List.twoStepInduction with
    | nil => exact ⟨[], .nil⟩
    | singleton c => cases he
    | cons_cons high low rest ih =>
      rw [List.length_cons, List.length_cons] at he
      rw [List.forall_mem_cons, List.forall_mem_cons] at hd
      obtain ⟨hh, hl, hr⟩ := hd
      obtain ⟨octets, hp⟩ := ih (by omega) hr
      obtain ⟨a, ha⟩ := Option.isSome_iff_exists.mp hh
      obtain ⟨b, hb⟩ := Option.isSome_iff_exists.mp hl
      have hal := lt_of_hexValue? ha
      have hbl := lt_of_hexValue? hb
      have hn : (a * 16 + b).toUInt8.toNat = a * 16 + b :=
        UInt8.toNat_ofNat_of_lt' (show a * 16 + b < 256 by omega)
      refine ⟨(a * 16 + b).toUInt8 :: octets, .cons ?_ ?_ hp⟩
      · rw [hn, ha]
        congr
        omega
      · rw [hn, hb]
        congr
        omega

/-- Digits take one octet each. -/
theorem length_encode (h : ∀ c ∈ characters, (hexValue? c).isSome = true) :
    (characters.flatMap String.utf8EncodeChar).length = characters.length := by
  induction characters with
  | nil => rfl
  | cons c rest ih =>
    obtain ⟨hc, hr⟩ := List.forall_mem_cons.mp h
    obtain ⟨value, hv⟩ := Option.isSome_iff_exists.mp hc
    rw [List.flatMap_cons, (encode_digit hv).1, List.singleton_append, List.length_cons, ih hr,
      List.length_cons]

/-- Of a text that is not pairs of digits, an odd length is reported or else the first octet that is no
digit. -/
theorem read_eq_error (h : ∀ octets, ¬ Pairs octets (skipMark (text.toList.filter (!isBlank ·)))) :
    if (digits text).length % 2 = 1 then read text = .error .oddLength
    else ∃ front octet back, digits text = front ++ octet :: back ∧
      (∀ other ∈ front, (octetValue? other).isSome = true) ∧ octetValue? octet = none ∧
      read text = .error (.notDigit octet front.length) := by
  split
  · rename_i ho
    exact if_pos (ne_of_eq_of_ne ho (by decide))
  · rename_i ho
    cases hi : (digits text).findIdx? fun octet => (octetValue? octet).isNone with
    | none =>
      exfalso
      have hd : ∀ c ∈ skipMark (text.toList.filter (!isBlank ·)), (hexValue? c).isSome = true := by
        intro c hc
        refine isSome_hexValue?_of_encode fun octet ho => ?_
        have hn := List.findIdx?_eq_none_iff.mp hi octet (List.mem_flatMap.mpr ⟨c, hc, ho⟩)
        exact Option.isNone_eq_false_iff.mp hn
      have he : (skipMark (text.toList.filter (!isBlank ·))).length % 2 = 0 := by
        rw [← length_encode hd]
        change (digits text).length % 2 = 0
        omega
      obtain ⟨octets, hp⟩ := exists_pairs_iff.mpr ⟨he, hd⟩
      exact h octets hp
    | some position =>
      have hr : read text = .error (.notDigit ((digits text).octetAt position) position) := by
        rw [read, if_neg (by omega), hi]
      obtain ⟨hl, hn, hb⟩ := List.findIdx?_eq_some_iff_getElem.mp hi
      refine ⟨(digits text).take position, (digits text)[position], (digits text).drop (position + 1),
        ?_, ?_, ?_, ?_⟩
      · rw [List.getElem_cons_drop, List.take_append_drop]
      · intro other ho
        obtain ⟨earlier, he, rfl⟩ := List.mem_take_iff_getElem.mp ho
        have hf := hb earlier (Nat.lt_of_lt_of_le he (Nat.min_le_left _ _))
        exact Option.isNone_eq_false_iff.mp (Bool.eq_false_iff.mpr hf)
      · exact Option.isNone_iff_eq_none.mp hn
      · have ha : (digits text).octetAt position = (digits text)[position] :=
          (List.getElem_eq_getD 0).symm
        rw [hr, List.length_take_of_le (Nat.le_of_lt hl), ← ha]

/-- What does not spell octets is refused, so only their digits are read. -/
theorem read_eq_ok_iff (hu : Unmarked (text.toList.filter (!isBlank ·)) characters) :
    read text = .ok octets ↔ Pairs octets characters := by
  constructor
  · intro h
    by_cases hp : ∃ octets, Pairs octets characters
    · obtain ⟨spelled, hp⟩ := hp
      obtain rfl : spelled = octets := Except.ok.inj ((hu.spells hp).read_eq.symm.trans h)
      exact hp
    · obtain rfl := unmarked_iff.mp hu
      have he := read_eq_error (not_exists.mp hp)
      split at he
      · cases h.symm.trans he
      · obtain ⟨_, _, _, -, -, -, he⟩ := he
        cases h.symm.trans he
  · exact fun hp => (hu.spells hp).read_eq

end HexInput
end OnboardLink
