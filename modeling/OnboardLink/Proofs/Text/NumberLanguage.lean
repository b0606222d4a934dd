import Mathlib.Data.List.TakeWhile
import Mathlib.Data.Nat.Digits.Defs
import OnboardLink.Text.Number

/-! Which texts are numbers, and of which value. Digits only make a number greater, so a reader that
gives up at the first value beyond its limit finds just the numbers below it, however many digits and
leading zeros they are written in. -/
namespace OnboardLink

/-- The text between the blanks at both ends of another. -/
def Trimmed (characters inner : List Char) : Prop :=
  ∃ front back, characters = front ++ (inner ++ back) ∧
    (∀ c ∈ front, isBlank c = true) ∧ (∀ c ∈ back, isBlank c = true) ∧
    (∀ c ∈ inner.head?, isBlank c = false) ∧ ∀ c ∈ inner.getLast?, isBlank c = false

/-- One or more digits of a base, the highest first, stand for a number. -/
def Positional (base : ℕ) (digits : List Char) (value : ℕ) : Prop :=
  digits ≠ [] ∧ ∃ places : List ℕ,
    digits.map (digitValue? base) = places.map some ∧ value = Nat.ofDigits base places.reverse

/-- A text without blanks around it stands for a number. The digits may follow a plus, and both may
follow the mark of hexadecimal digits. -/
inductive Denotes : List Char → ℕ → Prop where
  | decimal {sign : String} {digits : List Char} {value : ℕ} (hs : sign = "" ∨ sign = "+")
      (hd : Positional 10 digits value) : Denotes (sign.toList ++ digits) value
  | hexadecimal {mark sign : String} {digits : List Char} {value : ℕ}
      (hm : mark = "0x" ∨ mark = "0X") (hs : sign = "" ∨ sign = "+")
      (hd : Positional 16 digits value) : Denotes (mark.toList ++ (sign.toList ++ digits)) value

section Digits

variable {base limit value : ℕ} {digits characters : List Char}

private theorem exists_places_cons {c : Char} {wanted : List ℕ → Prop} :
    (∃ places : List ℕ, (c :: digits).map (digitValue? base) = places.map some ∧ wanted places) ↔
      ∃ place, digitValue? base c = some place ∧ ∃ places : List ℕ,
        digits.map (digitValue? base) = places.map some ∧ wanted (place :: places) := by
  constructor
  · rintro ⟨_ | ⟨place, places⟩, hp, hw⟩
    · cases hp
    · obtain ⟨hc, hr⟩ := List.cons.inj hp
      exact ⟨place, hc, places, hr, hw⟩
  · rintro ⟨place, hc, places, hr, hw⟩
    exact ⟨place :: places, by rw [List.map_cons, hc, hr, List.map_cons], hw⟩

/-- The first place moves up by as many as follow. -/
theorem ofDigits_reverse_cons (start place : ℕ) (places : List ℕ) :
    start * base ^ (place :: places).length + Nat.ofDigits base (place :: places).reverse =
      (start * base + place) * base ^ places.length + Nat.ofDigits base places.reverse := by
  rw [List.length_cons, List.reverse_cons, Nat.ofDigits_append, Nat.ofDigits_singleton,
    List.length_reverse]
  ring

/-- The digits to come move the number up and add their own. -/
theorem foldlM_eq_some_iff (hb : 0 < base) {start : ℕ} (hs : start < limit) :
    digits.foldlM (fun value c =>
        ((digitValue? base c).map (value * base + ·)).filter (· < limit)) start = some value ↔
      ∃ places : List ℕ, digits.map (digitValue? base) = places.map some ∧
        value = start * base ^ places.length + Nat.ofDigits base places.reverse ∧ value < limit := by
  induction digits generalizing start with
  | nil =>
    have hz : start = start * base ^ ([] : List ℕ).length + Nat.ofDigits base ([] : List ℕ).reverse := by
      simp
    constructor
    · intro h
      cases h
      exact ⟨[], rfl, hz, hs⟩
    · rintro ⟨places, hp, hv, -⟩
      obtain rfl := List.map_eq_nil_iff.mp hp.symm
      exact congrArg some (hz.trans hv.symm)
  | cons c rest ih =>
    rw [List.foldlM_cons, exists_places_cons]
    cases digitValue? base c with
    | none => exact iff_of_false nofun (by rintro ⟨_, hc, -⟩; cases hc)
    | some place =>
      simp only [Option.some.injEq, exists_eq_left', ofDigits_reverse_cons, Option.map_some,
        Option.filter_some, decide_eq_true_eq]
      by_cases hl : start * base + place < limit
      · rw [if_pos hl]
        exact ih hl
      · -- Places only move a number up, so it stays beyond the limit.
        rw [if_neg hl]
        refine iff_of_false nofun ?_
        rintro ⟨places, -, hv, hb'⟩
        have := Nat.le_mul_of_pos_right (start * base + place) (Nat.pow_pos hb (n := places.length))
        omega

private theorem positional?_eq_some_iff (hb : 0 < base) (hl : 0 < limit) :
    positional? limit base digits = some value ↔ Positional base digits value ∧ value < limit := by
  cases digits with
  | nil => exact iff_of_false nofun fun h => h.1.1 rfl
  | cons c rest =>
    rw [positional?, foldlM_eq_some_iff hb hl, Positional]
    · simp only [Nat.zero_mul, Nat.zero_add, ne_eq, reduceCtorEq, not_false_eq_true, true_and,
        ← and_assoc, exists_and_right]
    · exact nofun

/-- Every digit has a value. -/
theorem Positional.exists_digitValue? (h : Positional base digits value) :
    ∀ c ∈ digits, ∃ place, digitValue? base c = some place := by
  obtain ⟨-, places, hp, -⟩ := h
  intro c hc
  have hm : digitValue? base c ∈ places.map some := hp ▸ List.mem_map_of_mem hc
  obtain ⟨place, -, he⟩ := List.mem_map.mp hm
  exact ⟨place, he.symm⟩

private theorem exists_sign (characters : List Char) : ∃ sign : String, (sign = "" ∨ sign = "+") ∧
    characters = sign.toList ++ skipPlus characters := by
  rw [skipPlus.eq_def]
  split
  · exact ⟨"+", .inr rfl, rfl⟩
  · exact ⟨"", .inl rfl, rfl⟩

private theorem skipPlus_sign {sign : String} (hs : sign = "" ∨ sign = "+")
    (hd : Positional base digits value) : skipPlus (sign.toList ++ digits) = digits := by
  rcases hs with rfl | rfl
  · change skipPlus digits = digits
    rw [skipPlus.eq_def]
    split
    · obtain ⟨_, hc⟩ := hd.exists_digitValue? '+' List.mem_cons_self
      cases hc
    · rfl
  · rfl

/-- Decimal digits do not look like the mark, nor does a sign in front of them. -/
theorem splitBase_sign {sign : String} (hs : sign = "" ∨ sign = "+")
    (hd : Positional 10 digits value) :
    splitBase (sign.toList ++ digits) = (10, sign.toList ++ digits) := by
  rcases hs with rfl | rfl
  · change splitBase digits = (10, digits)
    rw [splitBase.eq_def]
    split
    · obtain ⟨_, hc⟩ := hd.exists_digitValue? 'x' (List.mem_cons_of_mem _ List.mem_cons_self)
      cases hc
    · obtain ⟨_, hc⟩ := hd.exists_digitValue? 'X' (List.mem_cons_of_mem _ List.mem_cons_self)
      cases hc
    · rfl
  · rfl

private theorem splitBase_cases (characters : List Char) :
    splitBase characters = (10, characters) ∨
      ∃ (mark : String) (rest : List Char), (mark = "0x" ∨ mark = "0X") ∧
        characters = mark.toList ++ rest ∧ splitBase characters = (16, rest) := by
  rw [splitBase.eq_def]
  split
  · exact .inr ⟨"0x", _, .inl rfl, rfl, rfl⟩
  · exact .inr ⟨"0X", _, .inr rfl, rfl, rfl⟩
  · exact .inl rfl

/-- The numbers below the limit of 64 bits are read, and nothing else is. -/
theorem number?_eq_some_iff :
    number? characters = some value ↔ Denotes characters value ∧ value < 2 ^ 64 := by
  have hr {base : ℕ} {rest : List Char} (hb : 0 < base) (he : splitBase characters = (base, rest)) :
      number? characters = some value ↔
        Positional base (skipPlus rest) value ∧ value < 2 ^ 64 := by
    rw [number?, he]
    exact positional?_eq_some_iff hb (by decide)
  constructor
  · intro h
    rcases splitBase_cases characters with he | ⟨mark, rest, hm, hc, he⟩
    · obtain ⟨hd, hl⟩ := (hr (by decide) he).mp h
      obtain ⟨sign, hs, hc⟩ := exists_sign characters
      rw [hc]
      exact ⟨.decimal hs hd, hl⟩
    · obtain ⟨hd, hl⟩ := (hr (by decide) he).mp h
      obtain ⟨sign, hs, hrest⟩ := exists_sign rest
      rw [hc, hrest]
      exact ⟨.hexadecimal hm hs hd, hl⟩
  · rintro ⟨hd, hl⟩
    cases hd with
    | @decimal sign digits _ hs hd =>
      rw [hr (by decide) (splitBase_sign hs hd), skipPlus_sign hs hd]
      exact ⟨hd, hl⟩
    | @hexadecimal mark sign digits _ hm hs hd =>
      have he : splitBase (mark.toList ++ (sign.toList ++ digits)) = (16, sign.toList ++ digits) := by
        rcases hm with rfl | rfl <;> rfl
      rw [hr (by decide) he, skipPlus_sign hs hd]
      exact ⟨hd, hl⟩

/-- Numbers are written in digits, with a plus and the letter of the mark. -/
theorem Denotes.not_mem {c : Char} (h : Denotes characters value) (hv : hexValue? c = none)
    (hc : c ∉ ['+', 'x', 'X']) : c ∉ characters := by
  have hd {base value : ℕ} {digits : List Char} (hp : Positional base digits value) : c ∉ digits := by
    intro hm
    obtain ⟨_, hs⟩ := hp.exists_digitValue? c hm
    rw [digitValue?, hv] at hs
    cases hs
  have hz : c ≠ '0' := by
    rintro rfl
    cases hv
  obtain ⟨hplus, hx, hX⟩ : c ≠ '+' ∧ c ≠ 'x' ∧ c ≠ 'X' := by simpa using hc
  have hsign {sign : String} (hs : sign = "" ∨ sign = "+") : c ∉ sign.toList := by
    rcases hs with rfl | rfl
    · exact List.not_mem_nil
    · exact List.not_mem_cons_of_ne_of_not_mem hplus List.not_mem_nil
  have hmark {mark : String} (hm : mark = "0x" ∨ mark = "0X") : c ∉ mark.toList := by
    rcases hm with rfl | rfl
    · exact List.not_mem_cons_of_ne_of_not_mem hz
        (List.not_mem_cons_of_ne_of_not_mem hx List.not_mem_nil)
    · exact List.not_mem_cons_of_ne_of_not_mem hz
        (List.not_mem_cons_of_ne_of_not_mem hX List.not_mem_nil)
  cases h with
  | decimal hs hp => exact List.not_mem_append (hsign hs) (hd hp)
  | hexadecimal hm hs hp =>
    exact List.not_mem_append (hmark hm) (List.not_mem_append (hsign hs) (hd hp))

end Digits

section Reading

variable {bits value : ℕ} {text : String}

theorem trimmed_trimBlanks (characters : List Char) : Trimmed characters (trimBlanks characters) := by
  generalize hr : characters.dropWhile isBlank = rest
  have hf : characters = characters.takeWhile isBlank ++ rest := by
    rw [← hr, List.takeWhile_append_dropWhile]
  have hb : rest = trimBlanks characters ++ (rest.reverse.takeWhile isBlank).reverse := by
    rw [trimBlanks, hr, ← List.reverse_append, List.takeWhile_append_dropWhile, List.reverse_reverse]
  refine ⟨characters.takeWhile isBlank, (rest.reverse.takeWhile isBlank).reverse, ?_, ?_, ?_, ?_, ?_⟩
  · rw [← hb]
    exact hf
  · exact fun c hc => List.mem_takeWhile_imp hc
  · exact fun c hc => List.mem_takeWhile_imp (List.mem_reverse.mp hc)
  · intro c hc
    have hh : rest.head? = some c := by
      rw [hb, List.head?_append, Option.mem_def.mp hc]
      rfl
    have := List.head?_dropWhile_not isBlank characters
    rw [hr, hh] at this
    exact this
  · intro c hc
    rw [trimBlanks, hr, List.getLast?_reverse] at hc
    have := List.head?_dropWhile_not isBlank rest.reverse
    rw [Option.mem_def.mp hc] at this
    exact this

private theorem dropWhile_isBlank {front inner : List Char} (hf : ∀ c ∈ front, isBlank c = true)
    (hi : ∀ c ∈ inner.head?, isBlank c = false) : (front ++ inner).dropWhile isBlank = inner := by
  rw [List.dropWhile_append_of_pos hf]
  cases inner with
  | nil => rfl
  | cons c rest => exact List.dropWhile_cons_of_neg (Bool.eq_false_iff.mp (hi c rfl))

/-- There is one text between the blanks. -/
theorem trimmed_iff {characters inner : List Char} :
    Trimmed characters inner ↔ inner = trimBlanks characters := by
  constructor
  · rintro ⟨front, back, rfl, hf, hb, hh, hl⟩
    have hd : (front ++ (inner ++ back)).dropWhile isBlank =
        if inner = [] then [] else inner ++ back := by
      cases inner with
      | nil =>
        rw [List.nil_append, if_pos rfl, List.dropWhile_eq_nil_iff, List.forall_mem_append]
        exact ⟨hf, hb⟩
      | cons c rest => exact dropWhile_isBlank hf hh
    rw [trimBlanks, hd]
    split
    · rename_i hn
      exact hn
    · rw [List.reverse_append, dropWhile_isBlank, List.reverse_reverse]
      · exact fun c hc => hb c (List.mem_reverse.mp hc)
      · rwa [List.head?_reverse]
  · rintro rfl
    exact trimmed_trimBlanks characters

theorem not_mem_of_trimmed {characters inner : List Char} {c : Char} (h : Trimmed characters inner)
    (hc : isBlank c = false) (hi : c ∉ inner) : c ∉ characters := by
  obtain ⟨front, back, rfl, hf, hb, -, -⟩ := h
  refine List.not_mem_append ?_ (List.not_mem_append hi ?_)
  · exact fun hm => Bool.false_ne_true (hc.symm.trans (hf c hm))
  · exact fun hm => Bool.false_ne_true (hc.symm.trans (hb c hm))

/-- A number is read if it has no more than so many bits. -/
theorem readWidth_eq_ok_iff (hb : bits ≤ 64) :
    readWidth bits text = .ok value ↔
      Denotes (trimBlanks text.toList) value ∧ value < 2 ^ bits := by
  have hl : 2 ^ bits ≤ 2 ^ 64 := Nat.pow_le_pow_right (by decide) hb
  rw [readWidth]
  constructor
  · intro h
    split at h
    · cases h
    · rename_i found hn
      split at h
      · rename_i hv
        cases h
        exact ⟨(number?_eq_some_iff.mp hn).1, hv⟩
      · cases h
  · rintro ⟨hd, hv⟩
    rw [number?_eq_some_iff.mpr ⟨hd, Nat.lt_of_lt_of_le hv hl⟩]
    exact if_pos hv

/-- Too great a number is no number, as a text of no number is. -/
theorem readWidth_eq_invalid_iff :
    readWidth bits text = .error (.invalid (String.ofList (trimBlanks text.toList))) ↔
      ∀ value, Denotes (trimBlanks text.toList) value → 2 ^ 64 ≤ value := by
  rw [readWidth]
  constructor
  · intro h value hd
    by_contra hl
    rw [number?_eq_some_iff.mpr ⟨hd, Nat.lt_of_not_le hl⟩] at h
    dsimp only at h
    split at h <;> cases h
  · intro h
    split
    · rfl
    · rename_i value hn
      obtain ⟨hd, hl⟩ := number?_eq_some_iff.mp hn
      exact absurd (h value hd) (Nat.not_le.mpr hl)

/-- What is told of a number between the width and 64 bits shows the text with its blanks. -/
theorem readWidth_eq_tooWide_iff :
    readWidth bits text = .error (.tooWide text bits) ↔
      ∃ value, Denotes (trimBlanks text.toList) value ∧ 2 ^ bits ≤ value ∧ value < 2 ^ 64 := by
  rw [readWidth]
  constructor
  · intro h
    split at h
    · cases h
    · rename_i value hn
      obtain ⟨hd, hl⟩ := number?_eq_some_iff.mp hn
      split at h
      · cases h
      · rename_i hv
        exact ⟨value, hd, Nat.le_of_not_lt hv, hl⟩
  · rintro ⟨value, hd, hv, hl⟩
    rw [number?_eq_some_iff.mpr ⟨hd, hl⟩]
    exact if_neg (Nat.not_lt.mpr hv)

theorem readWidth_error_cases {error : NumberError} (h : readWidth bits text = .error error) :
    error = .invalid (String.ofList (trimBlanks text.toList)) ∨ error = .tooWide text bits := by
  rw [readWidth] at h
  split at h
  · cases h
    exact .inl rfl
  · split at h
    · cases h
    · cases h
      exact .inr rfl

theorem length_trimBlanks_le (characters : List Char) :
    (trimBlanks characters).length ≤ characters.length := by
  obtain ⟨front, back, he, -⟩ := trimmed_trimBlanks characters
  have := congrArg List.length he
  rw [List.length_append, List.length_append] at this
  omega

/-- An invalid number is shown without its blanks, so of the two messages that one is the shorter. -/
theorem message_invalid_ne_tooWide (text : String) (bits : ℕ) :
    (NumberError.invalid (String.ofList (trimBlanks text.toList))).message ≠
      (NumberError.tooWide text bits).message := by
  intro h
  have hl := congrArg String.length h
  change ("invalid number: " ++ String.ofList (trimBlanks text.toList)).length =
    (text ++ " does not fit in " ++ toString bits ++ " bits").length at hl
  have hi : "invalid number: ".length = 16 := rfl
  have hw : " does not fit in ".length = 17 := rfl
  have hb := length_trimBlanks_le text.toList
  rw [String.length_append, String.length_append, String.length_append, String.length_append, hi, hw,
    String.length_ofList] at hl
  rw [String.length_toList] at hb
  omega

/-- The message tells which of the two faults of a text it is about. -/
theorem message_inj {one other : NumberError}
    (ho : one = .invalid (String.ofList (trimBlanks text.toList)) ∨ one = .tooWide text bits)
    (hr : other = .invalid (String.ofList (trimBlanks text.toList)) ∨ other = .tooWide text bits)
    (h : one.message = other.message) : one = other := by
  rcases ho with rfl | rfl
  · rcases hr with rfl | rfl
    · rfl
    · exact absurd h (message_invalid_ne_tooWide text bits)
  · rcases hr with rfl | rfl
    · exact absurd h.symm (message_invalid_ne_tooWide text bits)
    · rfl

end Reading
end OnboardLink
