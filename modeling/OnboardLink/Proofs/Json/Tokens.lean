import Mathlib.Data.List.TakeDrop
import OnboardLink.Proofs.Json.Grammar
import OnboardLink.Proofs.Text.HexInput
import OnboardLink.Proofs.Text.Number

/-! What readers meet at the front of a text: blanks, numbers, strings, and the parts of lists and
objects. A number alone does not show its end, which what follows has to. -/
namespace OnboardLink.Json

/-- What follows a value cannot go on with a number. -/
def Ends (rest : List Char) : Prop :=
  ∀ c ∈ rest.head?, c.isDigit = false ∧ c ≠ '.' ∧ c ≠ 'e' ∧ c ≠ 'E'

theorem ends_nil : Ends [] := nofun

private theorem ends_cons {c : Char} {rest : List Char} (h : c = ',' ∨ c = ']' ∨ c = '\x7d') :
    Ends (c :: rest) := by
  rintro _ ⟨⟩
  rcases h with rfl | rfl | rfl <;> decide

section Blanks

variable {rest : List Char}

theorem skipBlanks_cons {c : Char} (h : isBlank c = false) (rest : List Char) :
    skipBlanks (c :: rest) = c :: rest := by
  rw [skipBlanks, List.dropWhile_cons_of_neg]
  rw [h]
  decide

@[simp] theorem skipBlanks_gap (gap : Blanks) (rest : List Char) :
    skipBlanks (gap.val ++ rest) = skipBlanks rest :=
  List.dropWhile_append_of_pos gap.property

theorem skipBlanks_gap_nil (gap : Blanks) : skipBlanks gap.val = [] := by
  rw [← List.append_nil gap.val, skipBlanks_gap]
  rfl

/-- Blanks end a number as well as what follows them. -/
theorem Ends.gap_append (h : Ends rest) (gap : Blanks) : Ends (gap.val ++ rest) := by
  obtain ⟨blanks, hb⟩ := gap
  cases blanks with
  | nil => exact h
  | cons c blanks =>
    rintro _ ⟨⟩
    have hc : ((c = ' ' ∨ c = '\t') ∨ c = '\n') ∨ c = '\r' := by
      simpa [isBlank] using hb c List.mem_cons_self
    rcases hc with ((rfl | rfl) | rfl) | rfl <;> decide

end Blanks

section Numbers

variable {digits rest front back : List Char}

theorem isBlank_of_isDigit {c : Char} (h : c.isDigit = true) : isBlank c = false := by
  obtain ⟨value, rfl⟩ := exists_digitChar h
  revert value
  decide

private theorem readDigits_append (hd : Digits digits) (hr : ∀ c ∈ rest.head?, c.isDigit = false)
    (atEnd : Fault) : readDigits atEnd (digits ++ rest) = .ok (digits, rest) := by
  have ht : rest.takeWhile Char.isDigit = [] ∧ rest.dropWhile Char.isDigit = rest := by
    cases rest with
    | nil => exact ⟨rfl, rfl⟩
    | cons c rest =>
      have hc : ¬ c.isDigit = true := by
        rw [hr c rfl]
        decide
      exact ⟨List.takeWhile_cons_of_neg hc, List.dropWhile_cons_of_neg hc⟩
  rw [readDigits, List.span_eq_takeWhile_dropWhile, List.takeWhile_append_of_pos hd.2,
    List.dropWhile_append_of_pos hd.2, ht.1, ht.2, List.append_nil]
  cases digits with
  | nil => exact absurd rfl hd.1
  | cons c digits => rfl

private theorem readFraction_append {fraction : Option (List Char)}
    (hf : FractionText fraction front)
    (hr : ∀ c ∈ rest.head?, c.isDigit = false ∧ c ≠ '.') (atEnd : Fault) :
    readFraction atEnd (front ++ rest) = .ok (fraction, rest) := by
  cases hf with
  | none =>
    rw [List.nil_append, readFraction.eq_def]
    split
    · exact absurd rfl (hr '.' rfl).2
    · rfl
  | some hd =>
    rw [List.cons_append, readFraction, readDigits_append hd fun c hc => (hr c hc).1]
    rfl

private theorem readSign_append {negative : Bool} {sign : List Char} (hs : SignText negative sign)
    (hd : Digits digits) : readSign (sign ++ (digits ++ rest)) = (negative, digits ++ rest) := by
  cases hs with
  | minus => rfl
  | plus => rfl
  | none =>
    obtain ⟨c, digits, rfl⟩ := List.exists_cons_of_ne_nil hd.1
    have hc := hd.2 c List.mem_cons_self
    rw [List.nil_append, List.cons_append, readSign.eq_def]
    split
    · rename_i h
      cases h
      cases hc
    · rename_i h
      cases h
      cases hc
    · rfl

private theorem readExponent_append {exponent : Option (Bool × List Char)}
    (hx : ExponentText exponent back) (he : Ends rest) (atEnd : Fault) :
    readExponent atEnd (back ++ rest) = .ok (exponent, rest) := by
  cases hx with
  | none =>
    cases rest with
    | nil => rfl
    | cons c rest => exact if_neg (not_or.mpr (he c rfl).2.2)
  | some hm hs hd =>
    rw [List.cons_append, readExponent, if_pos hm, List.append_assoc, readSign_append hs hd]
    dsimp only
    rw [readDigits_append hd fun c hc => (he c hc).1]
    rfl

/-- An exponent does not begin like a fraction, nor does what follows a number. -/
theorem ExponentText.head_append {exponent : Option (Bool × List Char)}
    (hx : ExponentText exponent back) (he : Ends rest) :
    ∀ c ∈ (back ++ rest).head?, c.isDigit = false ∧ c ≠ '.' := by
  cases hx with
  | none => exact fun c hc => ⟨(he c hc).1, (he c hc).2.1⟩
  | some hm =>
    rintro _ ⟨⟩
    rcases hm with rfl | rfl <;> decide

private theorem FractionText.head_append {fraction : Option (List Char)}
    (hf : FractionText fraction front)
    (hr : ∀ c ∈ rest.head?, c.isDigit = false) : ∀ c ∈ (front ++ rest).head?, c.isDigit = false := by
  cases hf with
  | none => exact hr
  | some =>
    rintro _ ⟨⟩
    rfl

/-- A minus is told from the digits behind it. -/
theorem minus_append (negative : Bool) (hd : Digits digits) (rest : List Char) :
    let text := (if negative then ['-'] else []) ++ (digits ++ rest)
    decide (text.head? = some '-') = negative ∧
      (if text.head? = some '-' then text.drop 1 else text) = digits ++ rest := by
  cases negative with
  | true => exact ⟨rfl, rfl⟩
  | false =>
    have hm : (digits ++ rest).head? ≠ some '-' := by
      rw [List.head?_append_of_ne_nil _ hd.1]
      intro hc
      cases hd.2 '-' (List.mem_of_head? hc)
    exact ⟨decide_eq_false hm, if_neg hm⟩

/-- A number is read to its end. -/
theorem readNumeral_append {numeral : Numeral} {text : List Char} (hn : NumberText numeral text)
    (he : Ends rest) (atEnd : Fault) :
    readNumeral atEnd (text ++ rest) = .ok (numeral, rest) := by
  cases hn with
  | @mk negative whole front back fraction exponent hw hz hf hx =>
    have hb := hx.head_append he
    have hr := hf.head_append fun c hc => (hb c hc).1
    have hs := minus_append negative hw (front ++ (back ++ rest))
    have hzero : (whole.head? = some '0' && whole.length ≠ 1) = false := by
      simpa using hz
    simp only [List.append_assoc, readNumeral, hs, readDigits_append hw hr, bind, Except.bind, hzero,
      readFraction_append hf hb, readExponent_append hx he]
    rfl

theorem NumberText.exists_cons {numeral : Numeral} {text : List Char} (hn : NumberText numeral text) :
    ∃ c rest, text = c :: rest ∧ (c = '-' ∨ c.isDigit = true) := by
  cases hn with
  | @mk negative whole front back fraction exponent hw =>
    obtain ⟨c, digits, rfl⟩ := List.exists_cons_of_ne_nil hw.1
    cases negative with
    | true => exact ⟨_, _, rfl, .inl rfl⟩
    | false => exact ⟨_, _, rfl, .inr (hw.2 c List.mem_cons_self)⟩

/-- The decimal text of a natural number as a numeral. -/
def Numeral.ofNatural (value : ℕ) : Numeral := { negative := false, whole := Nat.toDigits 10 value }

theorem numberText_natural (value : ℕ) :
    NumberText (.ofNatural value) (Nat.toDigits 10 value) := by
  have hd : Digits (Nat.toDigits 10 value) := ⟨Nat.toDigits_ne_nil, fun _ => isDigit_of_mem_decimal⟩
  have hz : (Nat.toDigits 10 value).head? = some '0' → (Nat.toDigits 10 value).length = 1 := by
    by_cases hv : value = 0
    · subst hv
      exact fun _ => rfl
    · exact fun h => absurd h (head?_toDigits hv)
  have hn : NumberText (.ofNatural value) ([] ++ (Nat.toDigits 10 value ++ ([] ++ []))) :=
    @NumberText.mk false _ _ _ _ _ hd hz .none .none
  rwa [List.nil_append, List.append_nil, List.append_nil] at hn

private theorem decimalValue_eq (digits : List Char) (value : ℕ) :
    digits.foldl shiftIn value = Nat.ofDigitChars 10 digits value := by
  induction digits generalizing value with
  | nil => rfl
  | cons c rest ih => rw [List.foldl_cons, ih, Nat.ofDigitChars_cons, shiftIn, Nat.mul_comm]

private theorem decimalValue_toDigits (value : ℕ) :
    decimalValue (Nat.toDigits 10 value) = value := by
  rw [decimalValue, decimalValue_eq, Nat.ofDigitChars_ten_toDigits]

private theorem takeWhole_eq {value : ℕ}
    (h : Nat.ofDigitChars 10 digits value ≤ Numeral.maxSignificand) :
    Numeral.takeWhole value digits = (Nat.ofDigitChars 10 digits value, 0) := by
  induction digits generalizing value with
  | nil => rfl
  | cons c rest ih =>
    have hs : shiftIn value c = 10 * value + (c.toNat - '0'.toNat) := by rw [shiftIn, Nat.mul_comm]
    rw [Nat.ofDigitChars_cons] at h ⊢
    rw [← hs] at h ⊢
    have hm := Nat.le_trans (le_ofDigitChars rest (shiftIn value c)) h
    rw [Numeral.takeWhole, if_pos hm]
    exact ih h

/-- Numbers that a significand can hold are in range. -/
theorem isTooGreat_natural {value : ℕ} (h : value ≤ Numeral.maxSignificand) :
    (Numeral.ofNatural value).isTooGreat = false := by
  have ho : Nat.ofDigitChars 10 (Nat.toDigits 10 value) 0 = value := Nat.ofDigitChars_ten_toDigits
  have hs : (Numeral.ofNatural value).scientific = (value, 0) := by
    have hw : Numeral.takeWhole 0 (Numeral.ofNatural value).whole = (value, 0) := by
      rw [Numeral.ofNatural, takeWhole_eq (ho.trans_le h), ho]
    rw [Numeral.scientific, hw]
    rfl
  rw [Numeral.isTooGreat, hs]
  simp

theorem natural?_natural {value : ℕ} (h : value ≤ Numeral.maxSignificand) :
    (Numeral.ofNatural value).natural? = some value := by
  have hv : decimalValue (Numeral.ofNatural value).whole = value := decimalValue_toDigits value
  rw [Numeral.natural?, hv, if_pos h]
  rfl

end Numbers

section Strings

variable {c : Char} {piece rest : List Char}

/-- Behind a backslash stands no digit's mark where a letter does. -/
theorem ne_of_plainEscape? {mark : Char} (h : (plainEscape? mark).isSome = true) : mark ≠ 'u' := by
  rintro rfl
  cases h

private theorem readStringFrom_piece (hc : CharacterText c piece) (taken rest : List Char) :
    readStringFrom taken (piece ++ rest) = readStringFrom (c :: taken) rest := by
  cases hc with
  | plain hc hq hs =>
    -- All other rules begin with a quote or a backslash.
    rw [List.singleton_append, readStringFrom, if_neg hc]
    · exact hq
    · exact fun _ _ _ _ _ h _ => hs h
    · exact fun _ h _ => hs h
    · exact fun h _ => hs h
    · exact fun _ _ h _ => hs h
  | @letter mark _ hm =>
    have hu : mark ≠ 'u' := ne_of_plainEscape? (Option.isSome_of_mem hm)
    rw [List.cons_append, List.singleton_append, readStringFrom, hm]
    · exact fun _ _ _ _ _ h _ => hu h
    · exact hu
  | unit hu hl ht =>
    simp only [List.cons_append, List.nil_append, readStringFrom, hu, ht, hl]
    rfl
  | pair hu hl hv ht =>
    rename_i leading trailing
    have hn : isTrailing leading = false := by
      simp only [isLeading, isTrailing, Bool.and_eq_true, decide_eq_true_eq] at hl ⊢
      simp [Nat.not_le_of_lt hl.2]
    simp only [List.cons_append, List.nil_append, readStringFrom, hu, hn, hl, hv, ht]
    rfl

private theorem readStringFrom_pieces {characters : List Char} {pieces : List (List Char)}
    (hp : List.Forall₂ CharacterText characters pieces) (taken rest : List Char) :
    readStringFrom taken (pieces.flatten ++ '"' :: rest) =
      .ok (String.ofList (taken.reverse ++ characters), rest) := by
  induction hp generalizing taken with
  | nil =>
    rw [List.append_nil]
    rfl
  | cons hc _ ih =>
    rw [List.flatten_cons, List.append_assoc, readStringFrom_piece hc, ih, List.reverse_cons,
      List.append_assoc]
    rfl

/-- A string is read for what it says, however it is written. -/
theorem readString_append {said : String} {body : List Char} (hb : StringText said body)
    (rest : List Char) : readString (body ++ '"' :: rest) = .ok (said, rest) := by
  obtain ⟨pieces, hp, rfl⟩ := hb
  rw [readString, readStringFrom_pieces hp]
  exact congrArg (fun said => Except.ok (said, rest)) String.ofList_toList

private theorem skipString_piece (hp : StringPiece piece) (rest : List Char) :
    skipString (piece ++ rest) = skipString rest := by
  cases hp with
  | plain hc hq hs =>
    rw [List.singleton_append, skipString, if_neg hc]
    · exact hq
    · exact fun _ _ _ _ _ h _ => hs h
    · exact fun _ h _ => hs h
    · exact fun h _ => hs h
    · exact fun _ _ h _ => hs h
  | @letter mark hm =>
    have hu : mark ≠ 'u' := ne_of_plainEscape? hm
    rw [List.cons_append, List.singleton_append, skipString, if_pos hm]
    · exact fun _ _ _ _ _ h _ => hu h
    · exact hu
  | unit hu => simp only [List.cons_append, List.nil_append, skipString, if_pos hu]

theorem skipString_append {body : List Char} (hb : StringBody body) (rest : List Char) :
    skipString (body ++ '"' :: rest) = .ok rest := by
  obtain ⟨pieces, hp, rfl⟩ := hb
  induction pieces with
  | nil => rfl
  | cons piece pieces ih =>
    obtain ⟨hc, hp⟩ := List.forall_mem_cons.mp hp
    rw [List.flatten_cons, List.append_assoc, skipString_piece hc]
    exact ih hp

end Strings

section Parts

/-- The text begins as a part of a list or an object does. -/
def Solid (text : List Char) : Prop :=
  ∃ c rest, text = c :: rest ∧ isBlank c = false ∧ c ≠ ']' ∧ c ≠ '\x7d'

variable {closing : Char} {first : Bool} {parts : List (List Char)} {text : List Char}

theorem Solid.skipBlanks_eq (h : Solid text) (gap : Blanks) (rest : List Char) :
    skipBlanks (gap.val ++ (text ++ rest)) = text ++ rest := by
  obtain ⟨c, tail, rfl, hb, -⟩ := h
  rw [skipBlanks_gap, List.cons_append, skipBlanks_cons hb]

theorem Member.solid (member : Member) : Solid member.chars := ⟨_, _, rfl, rfl, by decide, by decide⟩

theorem Enclosed.solid {opening : Char} (ht : Enclosed opening closing parts text)
    (ho : opening = '[' ∨ opening = '\x7b') : Solid text := by
  cases ht with
  | mk hi => rcases ho with rfl | rfl <;> exact ⟨_, _, rfl, rfl, by decide, by decide⟩

/-- Behind a part stands what a number cannot go on with. -/
theorem Inside.ends (h : Inside closing false parts text) (hc : closing = ']' ∨ closing = '\x7d')
    (rest : List Char) : Ends (text ++ rest) := by
  cases h with
  | close gap =>
    rw [List.append_assoc]
    exact Ends.gap_append (ends_cons (.inr hc)) gap
  | part hl =>
    cases hl with
    | further front back =>
      rw [List.append_assoc, List.append_assoc]
      exact Ends.gap_append (ends_cons (.inl rfl)) front

theorem Inside.length_lt (h : Inside closing first parts text) (hs : ∀ part ∈ parts, Solid part) :
    parts.length < text.length := by
  induction h with
  | close gap =>
    rw [List.length_append]
    exact Nat.lt_add_left _ Nat.zero_lt_one
  | part _ _ ih =>
    obtain ⟨⟨c, tail, rfl, -⟩, ho⟩ := List.forall_mem_cons.mp hs
    have := ih ho
    simp only [List.length_cons, List.length_append]
    omega

theorem Inside.length_members_lt {members : List Member}
    (h : Inside closing first (members.map Member.chars) text) : members.length < text.length := by
  rw [← List.length_map Member.chars]
  refine h.length_lt fun part hp => ?_
  obtain ⟨member, -, rfl⟩ := List.mem_map.mp hp
  exact member.solid

end Parts
end OnboardLink.Json
