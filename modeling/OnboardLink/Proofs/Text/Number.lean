import Mathlib.Algebra.Group.Nat.Defs
import Mathlib.Data.List.Basic
import Mathlib.Data.Nat.Notation
import OnboardLink.CommandLine.Setting
import OnboardLink.Proofs.Text.NumberLanguage

/-! Numbers in decimal digits. Every reader of numbers takes the decimal text of a number in its
range for that number. -/
namespace OnboardLink

section Digits

variable {c : Char} {digits : List Char}

/-- A decimal digit is one of ten characters. -/
theorem exists_digitChar (h : c.isDigit = true) : ∃ value : Fin 10, c = value.val.digitChar := by
  obtain ⟨hl, hu⟩ := Char.isDigit_iff_toNat.mp h
  have hl : 48 ≤ c.toNat := hl
  have hu : c.toNat ≤ 57 := hu
  refine ⟨⟨c.toNat - 48, by omega⟩, Char.toNat_inj.mp ?_⟩
  rw [Nat.toNat_digitChar_of_lt_ten (by dsimp only; omega)]
  dsimp only
  omega

private theorem digitValue?_of_isDigit (h : c.isDigit = true) :
    digitValue? 10 c = some (c.toNat - '0'.toNat) := by
  obtain ⟨value, rfl⟩ := exists_digitChar h
  revert value
  decide

theorem isBlank_of_isDigit (h : c.isDigit = true) : isBlank c = false := by
  obtain ⟨value, rfl⟩ := exists_digitChar h
  revert value
  decide

/-- Digits only make a number greater. -/
theorem le_ofDigitChars (digits : List Char) (value : ℕ) :
    value ≤ Nat.ofDigitChars 10 digits value := by
  rw [Nat.ofDigitChars_eq_ofDigitChars_zero]
  exact Nat.le_add_right_of_le (Nat.le_mul_of_pos_left value (Nat.pow_pos (by decide)))

/-- Decimal text has no leading zero unless it is that of zero. -/
theorem head?_toDigits {value : ℕ} (h : value ≠ 0) : (Nat.toDigits 10 value).head? ≠ some '0' := by
  induction value using Nat.strongRecOn with
  | _ value ih =>
    rcases Nat.lt_or_ge value 10 with hl | hg
    · rw [Nat.toDigits_of_lt_base hl, List.head?_cons, ne_eq, Option.some_inj,
        Nat.digitChar_eq_zero]
      exact h
    · rw [Nat.toDigits_of_base_le (by decide) hg, List.head?_append_of_ne_nil _ Nat.toDigits_ne_nil]
      exact ih (value / 10) (by omega) (by omega)

/-- The number that digits stand for is the one they give to a start, moved up by as many. -/
theorem ofDigitChars_eq_ofDigits (digits : List Char) (start : ℕ) :
    Nat.ofDigitChars 10 digits start = start * 10 ^ (digits.map fun c => c.toNat - '0'.toNat).length +
      Nat.ofDigits 10 (digits.map fun c => c.toNat - '0'.toNat).reverse := by
  induction digits generalizing start with
  | nil => exact (Nat.mul_one start).symm
  | cons c rest ih =>
    rw [Nat.ofDigitChars_cons, ih, Nat.mul_comm 10, List.map_cons, ofDigits_reverse_cons]

variable (hd : ∀ c ∈ digits, c.isDigit = true)
include hd

private theorem trimBlanks_eq : trimBlanks digits = digits := by
  refine (trimmed_iff.mp ⟨[], [], (List.append_nil digits).symm, nofun, nofun, ?_, ?_⟩).symm
  · exact fun c hc => isBlank_of_isDigit (hd c (List.mem_of_mem_head? hc))
  · exact fun c hc => isBlank_of_isDigit (hd c (List.mem_of_mem_getLast? hc))

private theorem positional_of_isDigit (hn : digits ≠ []) :
    Positional 10 digits (Nat.ofDigitChars 10 digits 0) := by
  refine ⟨hn, digits.map fun c => c.toNat - '0'.toNat, ?_, ?_⟩
  · rw [List.map_map]
    exact List.map_congr_left fun c hc => digitValue?_of_isDigit (hd c hc)
  · rw [ofDigitChars_eq_ofDigits, Nat.zero_mul, Nat.zero_add]

private theorem skipPlus_eq : skipPlus digits = digits := by
  rw [skipPlus.eq_def]
  split
  · exact absurd (hd '+' List.mem_cons_self) (by decide)
  · rfl

private theorem readMagnitude_eq {limit : ℕ} {beyond : IntegerError} {value : ℕ}
    (hl : Nat.ofDigitChars 10 digits value ≤ limit) :
    readMagnitude limit beyond value digits = .ok (Nat.ofDigitChars 10 digits value) := by
  induction digits generalizing value with
  | nil => rfl
  | cons c rest ih =>
    obtain ⟨hc, hr⟩ := List.forall_mem_cons.mp hd
    rw [Nat.ofDigitChars_cons, Nat.mul_comm] at hl ⊢
    have hb := Nat.le_trans (le_ofDigitChars rest _) hl
    rw [readMagnitude, digitValue?_of_isDigit hc]
    dsimp only
    rw [if_neg (Nat.not_lt.mpr hb)]
    exact ih hr hl

end Digits

section Readers

theorem toList_decimal (value : ℕ) : (toString value).toList = Nat.toDigits 10 value := by
  rw [Nat.toString_eq_ofList_toDigits, String.toList_ofList]

theorem isDigit_of_mem_decimal {value : ℕ} {c : Char} (h : c ∈ Nat.toDigits 10 value) :
    c.isDigit = true :=
  Nat.isDigit_of_mem_toDigits (by decide) (by decide) h

theorem readWidth_decimal {bits value : ℕ} (hb : bits ≤ 64) (hl : value < 2 ^ bits) :
    readWidth bits (toString value) = .ok value := by
  have hd : ∀ c ∈ Nat.toDigits 10 value, c.isDigit = true := fun _ => isDigit_of_mem_decimal
  have hp := positional_of_isDigit hd Nat.toDigits_ne_nil
  rw [Nat.ofDigitChars_ten_toDigits] at hp
  refine (readWidth_eq_ok_iff hb).mpr ⟨?_, hl⟩
  rw [toList_decimal, trimBlanks_eq hd]
  exact @Denotes.decimal "" _ value (.inl rfl) hp

theorem readOctet_decimal (octet : UInt8) : readOctet (toString octet.toNat) = .ok octet := by
  rw [readOctet, readWidth_decimal (by decide) octet.toNat_lt]
  exact congrArg Except.ok UInt8.ofNat_toNat

theorem plainOctet_decimal (octet : UInt8) : plainOctet (toString octet.toNat) = .ok octet := by
  have hd : ∀ c ∈ Nat.toDigits 10 octet.toNat, c.isDigit = true := fun _ => isDigit_of_mem_decimal
  have hv : Nat.ofDigitChars 10 (Nat.toDigits 10 octet.toNat) 0 = octet.toNat :=
    Nat.ofDigitChars_ten_toDigits
  have hb := octet.toNat_lt
  have hm : readMagnitude (Nat.pow 2 63 - 1) .tooGreat 0 (Nat.toDigits 10 octet.toNat) =
      .ok octet.toNat := by
    have hl : Nat.ofDigitChars 10 (Nat.toDigits 10 octet.toNat) 0 ≤ Nat.pow 2 63 - 1 := by
      rw [hv]
      exact Nat.le_trans (Nat.le_of_lt hb) (by decide)
    rw [readMagnitude_eq hd hl, hv]
  have hs : readSigned (toString octet.toNat) = .ok (octet.toNat : Int) := by
    rw [readSigned, toList_decimal]
    split
    · rename_i hn
      exact absurd hn Nat.toDigits_ne_nil
    · rename_i hn
      exact absurd (hd '-' (hn ▸ List.mem_cons_self)) (by decide)
    · rw [skipPlus_eq hd, readDigitsOf, hm]
      · rfl
      · exact Nat.toDigits_ne_nil
  rw [plainOctet, hs]
  dsimp only
  rw [if_pos ⟨Int.natCast_nonneg _, by omega⟩]
  exact congrArg Except.ok UInt8.ofNat_toNat

private theorem not_mem_decimal {c : Char} (h : c.isDigit = false) (value : ℕ) :
    c ∉ (toString value).toList := by
  rw [toList_decimal]
  intro hc
  rw [isDigit_of_mem_decimal hc] at h
  cases h

theorem plainOctets_decimal {octets : List UInt8} (hn : octets ≠ []) :
    plainOctets (String.intercalate "," (octets.map fun octet => toString octet.toNat)) =
      .ok octets := by
  have hm : ∀ octets : List UInt8,
      (octets.map fun octet => toString octet.toNat).mapM plainOctet = .ok octets := by
    intro octets
    induction octets with
    | nil => rfl
    | cons octet octets ih =>
      rw [List.map_cons, List.mapM_cons, plainOctet_decimal, ih]
      rfl
  have hs : (String.intercalate "," (octets.map fun octet => toString octet.toNat)).toList.splitOn
      ',' = octets.map fun octet => (toString octet.toNat).toList := by
    rw [String.toList_intercalate, List.map_map]
    apply List.splitOn_intercalate
    · intro characters hc
      obtain ⟨octet, -, rfl⟩ := List.mem_map.mp hc
      exact not_mem_decimal (by decide) _
    · rwa [ne_eq, List.map_eq_nil_iff]
  have ho : (octets.map fun octet => (toString octet.toNat).toList).map String.ofList =
      octets.map fun octet => toString octet.toNat := by
    rw [List.map_map]
    exact List.map_congr_left fun octet _ => String.ofList_toList
  rw [plainOctets, hs, ho, hm]

theorem toList_append_colon (destination port : String) :
    (destination ++ ":" ++ port).toList = destination.toList ++ ':' :: port.toList := by
  rw [String.toList_append, String.toList_append, List.append_assoc]
  rfl

/-- The destination of a route ends at the first colon. -/
theorem readRoute_append {destination : String} (h : ':' ∉ destination.toList) (port : String) :
    readRoute (destination ++ ":" ++ port) = do
      let address ← numeric readOctet destination
      return ⟨address, ← numeric readOctet port⟩ := by
  have hc : ∀ c ∈ destination.toList, decide (c ≠ ':') = true :=
    fun c hc => decide_eq_true (ne_of_mem_of_not_mem hc h)
  have ht : (destination ++ ":" ++ port).toList.takeWhile (· ≠ ':') = destination.toList := by
    rw [toList_append_colon, List.takeWhile_append_of_pos hc]
    exact List.append_nil _
  have hd : (destination ++ ":" ++ port).toList.dropWhile (· ≠ ':') = ':' :: port.toList := by
    rw [toList_append_colon, List.dropWhile_append_of_pos hc]
    rfl
  rw [readRoute, ht, hd, String.ofList_toList]
  dsimp only
  rw [String.ofList_toList]

/-- A route in decimal text. -/
def Route.decimal (route : Route) : String :=
  toString route.destination.toNat ++ ":" ++ toString route.port.toNat

theorem readRoute_decimal (route : Route) : readRoute route.decimal = .ok route := by
  rw [Route.decimal, readRoute_append (not_mem_decimal (by decide) _), numeric, readOctet_decimal,
    numeric, readOctet_decimal]
  rfl

/-- Neither the digits of a number nor the blanks around it are of any other kind of character. -/
theorem not_mem_of_readOctet {text : String} {octet : UInt8} {c : Char}
    (h : readOctet text = .ok octet) (hb : isBlank c = false) (hv : hexValue? c = none)
    (hc : c ∉ ['+', 'x', 'X']) : c ∉ text.toList := by
  cases hw : readWidth 8 text with
  | error error =>
    rw [readOctet, hw] at h
    cases h
  | ok value =>
    have hd := ((readWidth_eq_ok_iff (by decide)).mp hw).1
    exact not_mem_of_trimmed (trimmed_trimBlanks _) hb (hd.not_mem hv hc)

/-- Numbers without sign do not begin with a dash. -/
theorem head?_of_readOctet {text : String} {octet : UInt8} (h : readOctet text = .ok octet) :
    text.toList.head? ≠ some '-' := by
  intro hc
  exact not_mem_of_readOctet h rfl rfl (by decide) (List.mem_of_mem_head? hc)

end Readers
end OnboardLink
