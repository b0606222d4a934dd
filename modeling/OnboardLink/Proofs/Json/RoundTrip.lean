import OnboardLink.Json.Value
import OnboardLink.Proofs.Json.Records

/-! The compact text of a value is among the texts of what it holds: nothing in it is blank, and every
character of a string is written in one of the ways it can be. -/
namespace OnboardLink.Json

section Strings

theorem characterText_escape (c : Char) : CharacterText c (escape c) := by
  rw [escape.eq_def]
  split
  · exact .letter rfl
  · exact .letter rfl
  · exact .letter rfl
  · exact .letter rfl
  · exact .letter rfl
  · exact .letter rfl
  · exact .letter rfl
  · rename_i hq hs _ _ _ _ _
    split
    · rename_i hc
      have hl : c.toNat < 32 := hc
      have hu : hexUnit? '0' '0' (hexDigit (c.toNat / 16)) (hexDigit (c.toNat % 16)) =
          some c.toNat := by
        have hd : ∀ unit : Fin 32, hexUnit? '0' '0' (hexDigit (unit.val / 16))
            (hexDigit (unit.val % 16)) = some unit.val := by decide
        exact hd ⟨c.toNat, hl⟩
      have hd : isLeading c.toNat = false := by
        rw [isLeading, decide_eq_false (by omega), Bool.false_and]
      have ht : isTrailing c.toNat = false := by
        rw [isTrailing, decide_eq_false (by omega), Bool.false_and]
      have hp := CharacterText.unit hu hd ht
      rwa [Char.ofNat_toNat] at hp
    · rename_i hc
      exact .plain hc hq hs

theorem stringText_escape (said : String) : StringText said (said.toList.flatMap escape) := by
  refine ⟨said.toList.map escape, ?_, List.flatMap_def⟩
  rw [List.forall₂_map_right_iff, List.forall₂_same]
  exact fun c _ => characterText_escape c

end Strings

section Containers

private theorem Value.inside_restOfList (elements : List Value) :
    Inside ']' false (elements.map Value.chars) (restOfList elements) := by
  induction elements with
  | nil => exact .close .none
  | cons value elements ih => exact .part (.further .none .none) ih

private theorem Value.enclosed_list (elements : List Value) :
    Enclosed '[' ']' (elements.map Value.chars) (Value.list elements).chars := by
  cases elements with
  | nil => exact .mk (.close .none)
  | cons value elements => exact .mk (.part (.first .none) (inside_restOfList elements))

/-- A member as it stands in a compact text. -/
def Member.compact (member : String × Value) : Member :=
  { name := member.1.toList.flatMap escape, value := member.2.chars }

private theorem Member.chars_compact (name : String) (value : Value) :
    (compact (name, value)).chars = quote name ++ ':' :: value.chars := by
  rw [quote, List.cons_append, List.cons_append, List.append_assoc]
  rfl

private theorem Value.inside_restOfObject (members : List (String × Value)) :
    Inside '\x7d' false ((members.map Member.compact).map Member.chars) (restOfObject members) := by
  induction members with
  | nil => exact .close .none
  | cons member members ih =>
    obtain ⟨name, value⟩ := member
    have hp : restOfObject ((name, value) :: members) =
        [','] ++ ((Member.compact (name, value)).chars ++ restOfObject members) := by
      rw [restOfObject, Member.chars_compact]
      simp only [List.cons_append, List.nil_append, List.append_assoc]
    rw [hp]
    exact .part (.further .none .none) ih

private theorem Value.enclosed_object (members : List (String × Value)) :
    Enclosed '\x7b' '\x7d' ((members.map Member.compact).map Member.chars)
      (Value.object members).chars := by
  cases members with
  | nil => exact .mk (.close .none)
  | cons member members =>
    obtain ⟨name, value⟩ := member
    have hp : (Value.object ((name, value) :: members)).chars =
        '\x7b' :: ([] ++ ((Member.compact (name, value)).chars ++ restOfObject members)) := by
      rw [Value.chars, Member.chars_compact]
      simp only [List.cons_append, List.nil_append, List.append_assoc]
    rw [hp]
    exact .mk (.part (.first .none) (inside_restOfObject members))

end Containers

section Texts

variable {α : Type}

theorem padded_compact {form : List Char → Prop} {value : Value} (h : form value.chars) :
    Padded form value.compact := by
  refine ⟨.none, .none, value.chars, h, ?_⟩
  rw [Value.compact, String.toList_ofList]
  exact (List.append_nil _).symm

theorem boolText_compact (value : Bool) : BoolText value (Value.bool value).chars := by
  cases value with
  | false => exact .false
  | true => exact .true

/-- The text of a list is that of a list of texts. -/
theorem listText_compact {Text : α → List Char → Prop} {toJson : α → Value}
    (h : ∀ value, Text value (toJson value).chars) (values : List α) :
    ListText Text values (Value.list (values.map toJson)).chars := by
  refine ⟨_, ?_, Value.enclosed_list _⟩
  rw [List.map_map, List.forall₂_map_right_iff, List.forall₂_same]
  exact fun value _ => h value

/-- An object with a member for each field, in their order, gives all fields. -/
theorem objectText_compact {forms : List (Form α)} {record : α} {members : List (String × Value)}
    (h : List.Forall₂ (fun form member => form.name = member.1 ∧ form.Text record member.2.chars)
      forms members) :
    ObjectText forms record (forms.map Form.name) (Value.object members).chars := by
  refine ⟨_, ?_, Value.enclosed_object members⟩
  rw [List.forall₂_map_left_iff, List.forall₂_map_right_iff]
  refine ((List.forall₂_and_left forms members).mpr ⟨fun _ hm => hm, h⟩).imp ?_
  rintro form member ⟨hm, hn, ht⟩
  exact ⟨hn ▸ stringText_escape member.1, .known hm ht⟩

end Texts
end OnboardLink.Json
