import OnboardLink.Json.Shape
import OnboardLink.Proofs.Json.Tokens

/-! What readers take texts for: numbers, truth values, choices, and lists of any of them. -/
namespace OnboardLink.Json

/-- Behind any blanks the reader takes the text, and no more than it, for a result. -/
structure Reads {α : Type} (reader : Reader α) (result : α) (text : List Char) : Prop where
  solid : Solid text
  eq : ∀ (gap : Blanks) {rest : List Char}, Ends rest →
    reader (gap.val ++ (text ++ rest)) = .ok (result, rest)

section Scalars

/-- A natural number is read where one as great is wanted. -/
theorem reads_natural {value greatest : ℕ} (h : value ≤ greatest)
    (hg : greatest ≤ Numeral.maxSignificand) :
    Reads (readNatural greatest) value (Nat.toDigits 10 value) := by
  have hm := Nat.le_trans h hg
  obtain ⟨c, digits, hc⟩ := List.exists_cons_of_ne_nil (@Nat.toDigits_ne_nil value 10)
  have hd : c.isDigit = true := isDigit_of_mem_decimal (hc ▸ List.mem_cons_self)
  have hs : Solid (Nat.toDigits 10 value) := by
    refine ⟨c, digits, hc, isBlank_of_isDigit hd, ?_, ?_⟩
    all_goals
      rintro rfl
      cases hd
  refine ⟨hs, fun gap rest he => ?_⟩
  have hn : readNumber (Nat.toDigits 10 value ++ rest) = .ok (.ofNatural value, rest) := by
    simp only [readNumber, readNumeral_append (numberText_natural value) he, bind, Except.bind,
      isTooGreat_natural hm]
    rfl
  rw [readNatural, hs.skipBlanks_eq]
  rw [hc, List.cons_append] at hn ⊢
  dsimp only
  rw [if_pos (.inr hd), hn]
  simp only [bind, Except.bind, natural?_natural hm, if_pos h]
  rfl

theorem reads_octet (octet : UInt8) : Reads readUInt8 octet (Nat.toDigits 10 octet.toNat) := by
  have hr : Reads (readNatural 0xFF) octet.toNat (Nat.toDigits 10 octet.toNat) :=
    reads_natural (Nat.le_of_lt_succ octet.toNat_lt) (by decide)
  refine ⟨hr.solid, fun gap rest he => ?_⟩
  rw [readUInt8, hr.eq gap he]
  exact congrArg (fun octet => Except.ok (octet, rest)) UInt8.ofNat_toNat

theorem reads_word (word : UInt32) : Reads readUInt32 word (Nat.toDigits 10 word.toNat) := by
  have hr : Reads (readNatural 0xFFFFFFFF) word.toNat (Nat.toDigits 10 word.toNat) :=
    reads_natural (Nat.le_of_lt_succ word.toNat_lt) (by decide)
  refine ⟨hr.solid, fun gap rest he => ?_⟩
  rw [readUInt32, hr.eq gap he]
  exact congrArg (fun word => Except.ok (word, rest)) UInt32.ofNat_toNat

theorem BoolText.reads {value : Bool} {text : List Char} (h : BoolText value text) :
    Reads readBool value text := by
  cases h with
  | true =>
    refine ⟨⟨_, _, rfl, rfl, by decide, by decide⟩, fun gap rest _ => ?_⟩
    rw [readBool, skipBlanks_gap]
    rfl
  | false =>
    refine ⟨⟨_, _, rfl, rfl, by decide, by decide⟩, fun gap rest _ => ?_⟩
    rw [readBool, skipBlanks_gap]
    rfl

/-- A choice is read by its name, however the name is written. -/
theorem reads_choice {α : Type} {ofName? : String → Option α} {name : String} {choice : α}
    {body : List Char} (hn : StringText name body) (hc : ofName? name = some choice) :
    Reads (readChoice ofName?) choice ('"' :: (body ++ ['"'])) := by
  refine ⟨⟨_, _, rfl, rfl, by decide, by decide⟩, fun gap rest _ => ?_⟩
  rw [readChoice, skipBlanks_gap, List.cons_append, skipBlanks_cons rfl]
  simp only [readChosen, List.append_assoc, List.singleton_append, readString_append hn, bind,
    Except.bind, hc]
  rfl

end Scalars

section Lists

variable {first : Bool} {lead part : List Char}

theorem nextElement_part (hl : Lead first lead) (hs : Solid part) (rest : List Char) :
    nextElement first (lead ++ (part ++ rest)) = .ok (some (part ++ rest)) := by
  cases hl with
  | first gap =>
    rw [nextElement, hs.skipBlanks_eq]
    obtain ⟨c, tail, rfl, -, hc, -⟩ := hs
    split
    · rename_i h
      cases h
    · rename_i h
      cases h
      exact absurd rfl hc
    · rename_i h
      cases h
      rfl
  | further front back =>
    have hb := hs.skipBlanks_eq back rest
    rw [nextElement, List.append_assoc, skipBlanks_gap, List.cons_append, skipBlanks_cons rfl]
    split
    · rename_i h
      cases h
    · rename_i h
      cases h
    · rename_i h
      cases h
      rw [if_neg (by decide), if_pos rfl, hb]
      obtain ⟨c, tail, rfl, -, hc, -⟩ := hs
      split
      · rename_i h
        cases h
      · rename_i h
        cases h
        exact absurd rfl hc
      · rfl

theorem nextElement_close (first : Bool) (gap : Blanks) (rest : List Char) :
    nextElement first (gap.val ++ ']' :: rest) = .ok none := by
  rw [nextElement, skipBlanks_gap]
  rfl

theorem endList_close (gap : Blanks) (rest : List Char) :
    endList (gap.val ++ ']' :: rest) = .ok rest := by
  rw [endList, skipBlanks_gap]
  rfl

variable {α : Type} {element : Reader α} {results : List α} {elements : List (List Char)}
  {text : List Char}

/-- Elements are read in order, up to the end of their list. -/
theorem readElements_inside (ht : Inside ']' first elements text)
    (hr : List.Forall₂ (Reads element) results elements) {bound : List Char}
    (hb : elements.length < bound.length) (taken : List α) (rest : List Char) :
    readElements element bound taken first (text ++ rest) = .ok (taken.reverse ++ results, rest) := by
  induction ht generalizing results bound taken with
  | @close first gap =>
    cases hr
    obtain ⟨c, bound, rfl⟩ := List.exists_cons_of_length_pos hb
    rw [List.append_nil, List.append_assoc, List.singleton_append, readElements]
    simp only [nextElement_close, bind, Except.bind, endList_close]
    rfl
  | @part first lead part text parts hl ht ih =>
    obtain ⟨result, results, hv, ho, rfl⟩ := List.forall₂_cons_right_iff.mp hr
    obtain ⟨c, bound, rfl⟩ := List.exists_cons_of_length_pos (Nat.zero_lt_of_lt hb)
    have he := hv.eq .none (ht.ends (.inl rfl) rest)
    change element (part ++ (text ++ rest)) = _ at he
    rw [List.append_assoc, List.append_assoc, readElements]
    simp only [nextElement_part hl hv.solid, bind, Except.bind, he]
    rw [ih ho (Nat.lt_of_succ_lt_succ hb), List.reverse_cons, List.append_assoc]
    rfl

/-- A list is read as the list of what its elements are read as. -/
theorem ListText.reads {Text : α → List Char → Prop}
    (hr : ∀ {value part}, Text value part → Reads element value part) {values : List α}
    (h : ListText Text values text) : Reads (readList element) values text := by
  obtain ⟨elements, hv, ht⟩ := h
  have hv : List.Forall₂ (Reads element) values elements := hv.imp fun _ _ => hr
  have hs : ∀ part ∈ elements, Solid part :=
    ((List.forall₂_and_left _ _).mp (hv.flip.imp fun _ _ h => ⟨h.solid, h⟩)).1
  refine ⟨ht.solid (.inl rfl), fun gap rest _ => ?_⟩
  cases ht with
  | @mk inner hi =>
    have hb : elements.length < (inner ++ rest).length := by
      rw [List.length_append]
      exact Nat.lt_add_right _ (hi.length_lt hs)
    rw [readList, skipBlanks_gap, List.cons_append, skipBlanks_cons rfl]
    exact readElements_inside hi hv hb [] rest

end Lists

/-- A text is read as a whole, with blanks around what it holds. -/
theorem readWhole_padded {α : Type} {reader : Reader α} {result : α} {form : List Char → Prop}
    {text : String} (ht : Padded form text) (hr : ∀ {inner}, form inner → Reads reader result inner) :
    readWhole reader text = .ok result := by
  obtain ⟨front, back, inner, hf, ht⟩ := ht
  have he : Ends (back.val ++ []) := ends_nil.gap_append back
  rw [List.append_nil] at he
  rw [readWhole, ht]
  simp only [(hr hf).eq front he, bind, Except.bind, skipBlanks_gap_nil]
  rfl

end OnboardLink.Json
