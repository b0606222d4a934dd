import OnboardLink.Json.Skip
import OnboardLink.Proofs.Json.Tokens

/-! Passing over a value takes exactly that value, whatever it holds and however deep it is. A walk is
followed step by step from one passage to another; a value takes no more steps than it has characters,
which is what the bound of the walk allows. -/
namespace OnboardLink.Json

namespace Passage

/-- So many steps lead from one passage to another. -/
inductive Takes : ℕ → Passage → Passage → Prop where
  | nil {passage : Passage} : Takes 0 passage passage
  | cons {number : ℕ} {passage next last : Passage} (hs : passage.step = .ok next)
      (hr : Takes number next last) : Takes (number + 1) passage last

theorem Takes.append {number more : ℕ} {passage next last : Passage}
    (h : Takes number passage next) (hr : Takes more next last) :
    Takes (number + more) passage last := by
  induction h with
  | nil => rwa [Nat.zero_add]
  | cons hs _ ih =>
    rw [Nat.succ_add]
    exact .cons hs (ih hr)

/-- A walk that is bound by as many steps comes to the end of its value. -/
theorem Takes.toEnd_eq {number : ℕ} {passage : Passage} {rest bound : List Char}
    (h : Takes number passage ⟨[], false, rest⟩) (hb : number ≤ bound.length) :
    toEnd bound passage = .ok rest := by
  generalize he : (⟨[], false, rest⟩ : Passage) = last at h
  induction h generalizing bound with
  | nil =>
    subst he
    cases bound <;> rfl
  | @cons number passage next last hs _ ih =>
    obtain ⟨c, bound, rfl⟩ := List.exists_cons_of_length_pos (Nat.zero_lt_of_lt hb)
    have hn : toEnd bound next = .ok rest := ih (Nat.le_of_succ_le_succ hb) he
    have hw : (do toEnd bound (← passage.step)) = .ok rest := by
      rw [hs]
      exact hn
    rcases passage with ⟨_ | ⟨container, inside⟩, _ | _, text⟩
    · -- A value that has ended stays where it is.
      cases hs
      exact ih (Nat.le_of_succ_le hb) he
    all_goals exact hw

/-- Goes on inside a container, from behind its opening or from behind a value. -/
def proceed : Bool → List Container → Container → List Char → Except Fault Passage
  | true => enter
  | false => leave

variable {first : Bool} {container : Container} {part : List Char}

private theorem isBlank_closing (container : Container) : isBlank container.closing = false := by
  cases container <;> rfl

private theorem proceed_close (first : Bool) (inside : List Container) (container : Container)
    (gap : Blanks) (rest : List Char) :
    proceed first inside container (gap.val ++ container.closing :: rest) =
      .ok ⟨inside, false, rest⟩ := by
  have hb := skipBlanks_cons (isBlank_closing container) rest
  cases first with
  | true =>
    rw [proceed, enter, skipBlanks_gap, hb]
    exact if_pos rfl
  | false =>
    rw [proceed, leave, skipBlanks_gap, hb]
    exact if_pos rfl

/-- In front of a part there is only its lead to go over. -/
theorem proceed_part {lead : List Char} (hl : Lead first lead) (hs : Solid part)
    (inside : List Container) (container : Container) (rest : List Char) :
    ∃ gap : Blanks, proceed first inside container (lead ++ (part ++ rest)) =
      (skipLead container (gap.val ++ (part ++ rest))).map (⟨container :: inside, true, ·⟩) := by
  cases hl with
  | first gap =>
    refine ⟨.none, ?_⟩
    obtain ⟨c, tail, rfl, hb, hc⟩ := hs
    have hc : c ≠ container.closing := by cases container <;> simp [Container.closing, hc]
    rw [proceed, enter, skipBlanks_gap, List.cons_append, skipBlanks_cons hb]
    dsimp only
    rw [if_neg hc]
    change _ = (skipLead container (c :: (tail ++ rest))).map _
    cases skipLead container (c :: (tail ++ rest)) <;> rfl
  | further front back =>
    refine ⟨back, ?_⟩
    have hc : ',' ≠ container.closing := by cases container <;> decide
    rw [proceed, leave, List.append_assoc, skipBlanks_gap, List.cons_append, skipBlanks_cons rfl]
    dsimp only
    rw [if_neg hc, if_pos rfl]
    cases skipLead container (back.val ++ (part ++ rest)) <;> rfl

end Passage

open Passage

/-- Steps lead over the text as over one value. -/
structure Skips (text : List Char) : Prop where
  solid : Solid text
  takes : ∀ (inside : List Container) (gap : Blanks) {rest : List Char}, Ends rest →
    ∃ number ≤ text.length,
      Takes number ⟨inside, true, gap.val ++ (text ++ rest)⟩ ⟨inside, false, rest⟩

/-- Steps lead over the text as over one part of a container. -/
structure Container.Admits (container : Container) (part : List Char) : Prop where
  solid : Solid part
  takes : ∀ (inside : List Container) (gap : Blanks) {rest : List Char}, Ends rest →
    ∃ text, skipLead container (gap.val ++ (part ++ rest)) = .ok text ∧
      ∃ number ≤ part.length,
        Takes number ⟨container :: inside, true, text⟩ ⟨container :: inside, false, rest⟩

theorem Skips.admits {text : List Char} (h : Skips text) : Container.list.Admits text :=
  ⟨h.solid, fun inside gap _ he => ⟨_, rfl, h.takes (.list :: inside) gap he⟩⟩

theorem Member.admits {member : Member} (hn : StringBody member.name) (hv : Skips member.value) :
    Container.object.Admits member.chars where
  solid := member.solid
  takes inside gap rest he := by
    obtain ⟨number, hl, ht⟩ := hv.takes (.object :: inside) member.behind he
    refine ⟨_, ?_, number, ?_, ht⟩
    · have hq := skipString_append hn
        (member.before.val ++ ':' :: (member.behind.val ++ (member.value ++ rest)))
      rw [skipLead, skipName, member.solid.skipBlanks_eq, Member.chars]
      simp only [List.cons_append, List.append_assoc, hq, bind, Except.bind]
      rw [skipColon, skipBlanks_gap]
      rfl
    · simp only [Member.chars, List.length_cons, List.length_append]
      omega

variable {container : Container} {first : Bool} {parts : List (List Char)} {text : List Char}

/-- From inside a container steps lead behind it, one for each part and one for the end besides those
over the parts themselves. -/
theorem takes_inside (ht : Inside container.closing first parts text)
    (hp : ∀ part ∈ parts, container.Admits part) (inside : List Container) (rest : List Char)
    {passage : Passage} (hs : passage.step = proceed first inside container (text ++ rest)) :
    ∃ number ≤ text.length + first.toNat, Takes number passage ⟨inside, false, rest⟩ := by
  induction ht generalizing passage with
  | @close first gap =>
    rw [List.append_assoc, List.singleton_append, proceed_close] at hs
    refine ⟨1, ?_, .cons hs .nil⟩
    rw [List.length_append, List.length_singleton]
    omega
  | @part first lead part text parts hl ht ih =>
    obtain ⟨hp, ho⟩ := List.forall_mem_cons.mp hp
    have hc : container.closing = ']' ∨ container.closing = '\x7d' := by
      cases container <;> decide
    rw [List.append_assoc, List.append_assoc] at hs
    obtain ⟨gap, hg⟩ := proceed_part hl hp.solid inside container (text ++ rest)
    obtain ⟨next, hn, number, hb, hv⟩ := hp.takes inside gap (ht.ends hc rest)
    have hb' : step ⟨container :: inside, false, text ++ rest⟩ =
        proceed false inside container (text ++ rest) := rfl
    obtain ⟨more, hm, hr⟩ := ih ho hb'
    rw [hg, hn] at hs
    refine ⟨number + more + 1, ?_, .cons hs (hv.append hr)⟩
    -- The step to a part is paid for by the comma, or else by the bracket that opened.
    have hf : 1 ≤ lead.length + first.toNat := by
      cases hl with
      | first gap => exact Nat.le_add_left 1 _
      | further front back =>
        rw [List.length_append, List.length_cons]
        omega
    have hz : more ≤ text.length := hm
    rw [List.length_append, List.length_append]
    omega

private theorem skips_enclosed {opening : Char} (ht : Enclosed opening container.closing parts text)
    (ho : opening = '[' ∨ opening = '\x7b')
    (hs : ∀ inside (gap : Blanks) rest, step ⟨inside, true, gap.val ++ opening :: rest⟩ =
      enter inside container rest)
    (hp : ∀ part ∈ parts, container.Admits part) : Skips text where
  solid := ht.solid ho
  takes inside gap rest _ := by
    cases ht with
    | mk hi => exact takes_inside hi hp inside rest (hs inside gap _)

/-- A value that holds no others is passed over in one step. -/
theorem skips_scalar (hs : Solid text) (hl : text.head? ≠ some '[') (ho : text.head? ≠ some '\x7b')
    (h : ∀ {rest}, Ends rest → skipScalar (text ++ rest) = .ok rest) : Skips text where
  solid := hs
  takes inside gap rest he := by
    have hb := hs.skipBlanks_eq gap rest
    have hr := h he
    obtain ⟨c, tail, rfl, -⟩ := hs
    have hstep : step ⟨inside, true, gap.val ++ (c :: tail ++ rest)⟩ = .ok ⟨inside, false, rest⟩ := by
      rw [step, hb]
      split
      · rename_i h
        cases h
        exact absurd rfl hl
      · rename_i h
        cases h
        exact absurd rfl ho
      · rw [hr]
        rfl
    exact ⟨1, Nat.succ_le_of_lt (List.length_pos_of_ne_nil nofun), .cons hstep .nil⟩

private theorem NumberText.skips {numeral : Numeral} (hn : NumberText numeral text) :
    Skips text := by
  have hr {rest : List Char} (he : Ends rest) : skipNumber (text ++ rest) = .ok rest := by
    rw [skipNumber, readNumeral_append hn he]
    rfl
  obtain ⟨c, tail, rfl, hc⟩ := hn.exists_cons
  have hne {other : Char} (ho : other ≠ '-') (hd : other.isDigit = false) : c ≠ other := by
    rintro rfl
    rcases hc with rfl | hc
    · exact ho rfl
    · rw [hc] at hd
      cases hd
  have hb : isBlank c = false := by
    rcases hc with rfl | hc
    · rfl
    · exact isBlank_of_isDigit hc
  refine skips_scalar ⟨c, tail, rfl, hb, hne (by decide) rfl, hne (by decide) rfl⟩ ?_ ?_ ?_
  · exact fun h => hne (by decide) rfl (Option.some.inj h)
  · exact fun h => hne (by decide) rfl (Option.some.inj h)
  · intro rest he
    rw [List.cons_append, skipScalar, if_pos hc]
    · exact hr he
    · exact hne (by decide) rfl
    · exact hne (by decide) rfl
    · exact hne (by decide) rfl
    · exact hne (by decide) rfl

/-- Every value is passed over. -/
theorem ValueText.skips (h : ValueText text) : Skips text := by
  induction h with
  | null | true | false =>
    exact skips_scalar ⟨_, _, rfl, rfl, by decide, by decide⟩ nofun nofun fun _ => rfl
  | number hn => exact hn.skips
  | @string body hb =>
    refine skips_scalar ⟨_, _, rfl, rfl, by decide, by decide⟩ nofun nofun ?_
    intro rest _
    rw [List.cons_append, List.append_assoc]
    exact skipString_append hb rest
  | list _ ht ih =>
    refine @skips_enclosed .list _ _ _ ht (.inl rfl) ?_ fun part hp => (ih part hp).admits
    intro inside gap rest
    rw [step, skipBlanks_gap]
    rfl
  | object hn _ ht ih =>
    refine @skips_enclosed .object _ _ _ ht (.inr rfl) ?_ ?_
    · intro inside gap rest
      rw [step, skipBlanks_gap]
      rfl
    · intro part hp
      obtain ⟨member, hm, rfl⟩ := List.mem_map.mp hp
      exact Member.admits (hn member hm) (ih member hm)

/-- Behind blanks, just the value is passed over. -/
theorem skipValue_append {rest : List Char} (h : ValueText text) (gap : Blanks) (he : Ends rest) :
    skipValue (gap.val ++ (text ++ rest)) = .ok rest := by
  obtain ⟨number, hl, ht⟩ := h.skips.takes [] gap he
  refine ht.toEnd_eq ?_
  rw [List.length_append, List.length_append]
  omega

end OnboardLink.Json
