import Mathlib.Data.List.Forall2
import OnboardLink.Json.Numeral

/-! Which texts are JSON, said apart from the readers. The parts of lists and objects are held as
texts of their own, so that one relation says where brackets, commas and blanks stand, whatever the
parts are. -/
namespace OnboardLink.Json

/-- Blanks, or nothing. -/
abbrev Blanks := { text : List Char // ∀ c ∈ text, isBlank c = true }

def Blanks.none : Blanks := ⟨[], List.forall_mem_nil _⟩

section Numbers

def Digits (text : List Char) : Prop := text ≠ [] ∧ ∀ c ∈ text, c.isDigit = true

inductive FractionText : Option (List Char) → List Char → Prop where
  | none : FractionText none []
  | some {digits : List Char} (hd : Digits digits) : FractionText (some digits) ('.' :: digits)

/-- The sign of an exponent, by whether it is a minus. -/
inductive SignText : Bool → List Char → Prop where
  | minus : SignText true ['-']
  | plus : SignText false ['+']
  | none : SignText false []

inductive ExponentText : Option (Bool × List Char) → List Char → Prop where
  | none : ExponentText none []
  | some {mark : Char} {negative : Bool} {sign digits : List Char} (hm : mark = 'e' ∨ mark = 'E')
      (hs : SignText negative sign) (hd : Digits digits) :
      ExponentText (some (negative, digits)) (mark :: (sign ++ digits))

/-- A number of any size. Only a zero that is the one digit before the point may lead. -/
inductive NumberText : Numeral → List Char → Prop where
  | mk {negative : Bool} {whole front back : List Char} {fraction : Option (List Char)}
      {exponent : Option (Bool × List Char)} (hw : Digits whole)
      (hz : whole.head? = some '0' → whole.length = 1) (hf : FractionText fraction front)
      (he : ExponentText exponent back) :
      NumberText ⟨negative, whole, fraction, exponent⟩
        ((if negative then ['-'] else []) ++ (whole ++ (front ++ back)))

end Numbers

section Strings

/-- The ways to write a character in a string. Half a pair writes none. -/
inductive CharacterText : Char → List Char → Prop where
  | plain {c : Char} (hc : ¬ c < ' ') (hq : c ≠ '"') (hs : c ≠ '\\') : CharacterText c [c]
  | letter {mark c : Char} (hm : plainEscape? mark = some c) : CharacterText c ['\\', mark]
  | unit {c₁ c₂ c₃ c₄ : Char} {unit : ℕ} (hu : hexUnit? c₁ c₂ c₃ c₄ = some unit)
      (hl : isLeading unit = false) (ht : isTrailing unit = false) :
      CharacterText (Char.ofNat unit) ['\\', 'u', c₁, c₂, c₃, c₄]
  | pair {c₁ c₂ c₃ c₄ c₅ c₆ c₇ c₈ : Char} {leading trailing : ℕ}
      (hu : hexUnit? c₁ c₂ c₃ c₄ = some leading) (hl : isLeading leading = true)
      (hv : hexUnit? c₅ c₆ c₇ c₈ = some trailing) (ht : isTrailing trailing = true) :
      CharacterText (pairOf leading trailing)
        ['\\', 'u', c₁, c₂, c₃, c₄, '\\', 'u', c₅, c₆, c₇, c₈]

/-- What may stand between the quotes of a string that says something. -/
def StringText (said : String) (body : List Char) : Prop :=
  ∃ pieces, List.Forall₂ CharacterText said.toList pieces ∧ body = pieces.flatten

/-- What a string is made of by form alone, halves of pairs among it. -/
inductive StringPiece : List Char → Prop where
  | plain {c : Char} (hc : ¬ c < ' ') (hq : c ≠ '"') (hs : c ≠ '\\') : StringPiece [c]
  | letter {mark : Char} (hm : (plainEscape? mark).isSome = true) : StringPiece ['\\', mark]
  | unit {c₁ c₂ c₃ c₄ : Char} (hu : (hexUnit? c₁ c₂ c₃ c₄).isSome = true) :
      StringPiece ['\\', 'u', c₁, c₂, c₃, c₄]

/-- What may stand between the quotes of a string. -/
def StringBody (body : List Char) : Prop :=
  ∃ pieces : List (List Char), (∀ piece ∈ pieces, StringPiece piece) ∧ body = pieces.flatten

end Strings

section Containers

/-- What stands in front of a part: blanks, among which there is a comma unless the part is the
first. -/
inductive Lead : Bool → List Char → Prop where
  | first (gap : Blanks) : Lead true gap.val
  | further (front back : Blanks) : Lead false (front.val ++ ',' :: back.val)

/-- What stands from behind the opening bracket, or from behind a part, to the closing bracket. -/
inductive Inside (closing : Char) : Bool → List (List Char) → List Char → Prop where
  | close {first : Bool} (gap : Blanks) : Inside closing first [] (gap.val ++ [closing])
  | part {first : Bool} {lead part text : List Char} {parts : List (List Char)}
      (hl : Lead first lead) (ht : Inside closing false parts text) :
      Inside closing first (part :: parts) (lead ++ (part ++ text))

/-- Parts between brackets. -/
inductive Enclosed (opening closing : Char) : List (List Char) → List Char → Prop where
  | mk {parts : List (List Char)} {inner : List Char} (hi : Inside closing true parts inner) :
      Enclosed opening closing parts (opening :: inner)

/-- A member of an object: what stands between the quotes of its name, the text of its value, and the
blanks around the colon. -/
structure Member where
  name : List Char
  value : List Char
  before : Blanks := .none
  behind : Blanks := .none

def Member.chars (member : Member) : List Char :=
  '"' :: (member.name ++ '"' :: (member.before.val ++ ':' :: (member.behind.val ++ member.value)))

end Containers

/-- A JSON value of any kind and depth, from its first character to its last. -/
inductive ValueText : List Char → Prop where
  | null : ValueText ['n', 'u', 'l', 'l']
  | true : ValueText ['t', 'r', 'u', 'e']
  | false : ValueText ['f', 'a', 'l', 's', 'e']
  | number {numeral : Numeral} {text : List Char} (hn : NumberText numeral text) : ValueText text
  | string {body : List Char} (hb : StringBody body) : ValueText ('"' :: (body ++ ['"']))
  | list {elements : List (List Char)} {text : List Char}
      (he : ∀ element ∈ elements, ValueText element) (ht : Enclosed '[' ']' elements text) :
      ValueText text
  | object {members : List Member} {text : List Char} (hn : ∀ member ∈ members, StringBody member.name)
      (hv : ∀ member ∈ members, ValueText member.value)
      (ht : Enclosed '\x7b' '\x7d' (members.map Member.chars) text) : ValueText text

inductive BoolText : Bool → List Char → Prop where
  | true : BoolText true ['t', 'r', 'u', 'e']
  | false : BoolText false ['f', 'a', 'l', 's', 'e']

/-- The texts of a list of values, by those of its elements. -/
def ListText {α : Type} (Text : α → List Char → Prop) (values : List α) (text : List Char) : Prop :=
  ∃ elements, List.Forall₂ Text values elements ∧ Enclosed '[' ']' elements text

/-- A text with something between blanks. -/
def Padded (form : List Char → Prop) (text : String) : Prop :=
  ∃ (front back : Blanks) (inner : List Char), form inner ∧
    text.toList = front.val ++ (inner ++ back.val)

end OnboardLink.Json
