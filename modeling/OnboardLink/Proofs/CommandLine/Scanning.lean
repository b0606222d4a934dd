import Mathlib.Data.List.Forall2
import Mathlib.Data.List.TakeWhile
import OnboardLink.CommandLine.Scan

/-! Scanning the arguments of a command without commands below it. Options come one after the other,
each with its value, and what the scan holds is what they say. -/
namespace OnboardLink

/-- The value of an option as it is written: attached to the option's name, or in an argument of its
own, which must not begin like an option. -/
structure OptionValue where
  text : String
  attached : Bool := false
  apart : attached = false → text.toList.head? = some '-' → text = "-"

/-- The arguments that an option takes up with its value. -/
def OptionValue.arguments (name : String) (value : OptionValue) : List String :=
  if value.attached then ["--" ++ name ++ "=" ++ value.text] else ["--" ++ name, value.text]

/-- An option with the values that it is given, and what these say. -/
structure GivenOption where
  name : String
  values : List OptionValue
  settings : List Setting

namespace GivenOption

/-- The arguments that an option takes up, which is named for each of its values. -/
def arguments (option : GivenOption) : List String :=
  option.values.flatMap (·.arguments option.name)

def said (option : GivenOption) : List (String × Setting) := option.settings.map (option.name, ·)

theorem name_of_mem_said {given : List GivenOption} {said : String × Setting}
    (h : said ∈ given.flatMap (·.said)) : said.1 ∈ given.map (·.name) := by
  obtain ⟨option, ho, hm⟩ := List.mem_flatMap.mp h
  obtain ⟨setting, -, rfl⟩ := List.mem_map.mp hm
  exact List.mem_map_of_mem ho

theorem map_said (given : List GivenOption) :
    (given.flatMap (·.said)).map (·.2) = given.flatMap (·.settings) := by
  rw [List.map_flatMap]
  refine congrArg given.flatMap (funext fun option => ?_)
  rw [said, List.map_map]
  exact List.map_id option.settings

end GivenOption

section Words

private theorem isLong_iff {argument : String} :
    isLong argument = true ↔ ['-', '-'] <+: argument.toList ∧ argument ≠ "--" := by
  rw [isLong, Bool.and_eq_true, String.startsWith_string_iff, decide_eq_true_iff]
  rfl

/-- Arguments that do not begin with a dash, and the dash alone, are no options. -/
theorem not_option {argument : String} (h : argument.toList.head? = some '-' → argument = "-") :
    argument ≠ "--" ∧ isLong argument = false ∧ isShort argument = false := by
  by_cases hd : argument = "-"
  · subst hd
    have hl : isLong "-" = false := by
      rw [← Bool.not_eq_true, isLong_iff]
      decide
    refine ⟨by decide, hl, ?_⟩
    rw [isShort, decide_eq_false (not_not_intro rfl), Bool.and_false]
  · have hn : argument.startsWith "-" = false := by
      rw [← Bool.not_eq_true, String.startsWith_string_iff]
      rintro ⟨rest, hr⟩
      exact hd (h (hr ▸ rfl))
    have hl : isLong argument = false := by
      rw [← Bool.not_eq_true, isLong_iff]
      rintro ⟨⟨rest, hr⟩, -⟩
      exact hd (h (hr ▸ rfl))
    refine ⟨?_, hl, ?_⟩
    · rintro rfl
      exact hd (h rfl)
    · rw [isShort, hn, Bool.false_and, Bool.false_and]

variable {name : String}

private theorem isLong_name (hn : name ≠ "") (rest : String) :
    isLong ("--" ++ name ++ rest) = true := by
  have ht : ("--" ++ name ++ rest).toList = ['-', '-'] ++ (name.toList ++ rest.toList) := by
    rw [String.toList_append, String.toList_append, List.append_assoc]
    rfl
  rw [isLong_iff, ht]
  refine ⟨List.prefix_append _ _, fun he => hn ?_⟩
  have hl := congrArg String.toList he
  rw [ht] at hl
  have hr : name.toList ++ rest.toList = [] := List.append_cancel_left hl
  exact String.toList_eq_nil_iff.mp (List.append_eq_nil_iff.mp hr).1

variable (he : '=' ∉ name.toList)
include he

private theorem forall_ne_mark : ∀ c ∈ name.toList, (decide (c ≠ '=')) = true := by
  intro c hc
  refine decide_eq_true ?_
  rintro rfl
  exact he hc

private theorem splitOption_name : splitOption ("--" ++ name) = (name, none) := by
  have ht : ("--" ++ name).toList.drop 2 = name.toList := by
    rw [String.toList_append]
    rfl
  have hw := List.takeWhile_eq_self_iff.mpr (forall_ne_mark he)
  have hd := List.dropWhile_eq_nil_iff.mpr (forall_ne_mark he)
  rw [splitOption, ht, hw, hd, String.ofList_toList]

private theorem splitOption_attached (text : String) :
    splitOption ("--" ++ name ++ "=" ++ text) = (name, some text) := by
  have ht : ("--" ++ name ++ "=" ++ text).toList.drop 2 = name.toList ++ '=' :: text.toList := by
    rw [String.toList_append, String.toList_append, String.toList_append]
    simp only [List.append_assoc]
    rfl
  have hw : (name.toList ++ '=' :: text.toList).takeWhile (· ≠ '=') = name.toList := by
    rw [List.takeWhile_append_of_pos (forall_ne_mark he)]
    exact List.append_nil _
  have hd : (name.toList ++ '=' :: text.toList).dropWhile (· ≠ '=') = '=' :: text.toList := by
    rw [List.dropWhile_append_of_pos (forall_ne_mark he)]
    rfl
  rw [splitOption, ht, hw, hd, String.ofList_toList]
  dsimp only
  rw [String.ofList_toList]

end Words

namespace Scan

/-- What a scan holds of the arguments so far, last first, and the parameters without name that can
still come. The value of the last argument may not have been read yet. -/
inductive Holds : Scan → List (String × Setting) → List Parameter → Prop where
  | read {found : List (String × Setting)} {positionals : List Parameter} :
      Holds { found, positionals } found positionals
  | pending {parameter : Parameter} {text : String} {setting : Setting}
      {found : List (String × Setting)} {positionals : List Parameter}
      (hr : parameter.read text = .ok setting)
      (hf : parameter.repeatable = true ∨ ∀ said ∈ found, said.1 ≠ parameter.name) :
      Holds { pending := some (parameter, some text), found, positionals }
        ((parameter.name, setting) :: found) positionals

variable {scan : Scan} {found : List (String × Setting)} {positionals : List Parameter}

private theorem keep_eq {name : String} {repeatable : Bool} {setting : Setting}
    (hf : repeatable = true ∨ ∀ said ∈ scan.found, said.1 ≠ name) :
    scan.keep name repeatable (.ok setting) =
      .ok { scan with found := (name, setting) :: scan.found } := by
  have hc : ¬ (!repeatable && scan.found.any (·.1 == name)) = true := by
    rcases hf with rfl | hf
    · exact Bool.false_ne_true
    · rw [Bool.and_eq_true, List.any_eq_true, not_and]
      rintro - ⟨said, hs, he⟩
      exact hf said hs (beq_iff_eq.mp he)
  rw [keep, if_neg hc]
  rfl

theorem Holds.resolve_eq (h : scan.Holds found positionals) :
    scan.resolve = .ok { found, positionals } := by
  cases h with
  | read => rfl
  | @pending parameter text setting found _ hr hf =>
    rw [resolve]
    dsimp only
    rw [hr, keep_eq hf]

end Scan

namespace Level

variable {level : Level} {scan : Scan} {found : List (String × Setting)}
  {positionals : List Parameter} {parameter : Parameter} {setting : Setting}

section Steps

variable (hn : level.names = [])
include hn

private theorem scan_long (hh : scan.Holds found positionals) {argument : String}
    (hl : isLong argument = true) (rest : List String) : level.scan scan (argument :: rest) =
      (do level.scan (← level.takeLong scan argument) rest) := by
  have ht : scan.trailing = false := by cases hh <;> rfl
  have hd : argument ≠ "--" := (isLong_iff.mp hl).2
  rw [Level.scan, ht, hn, if_neg Bool.false_ne_true, if_neg (by simp), if_neg hd, if_pos hl]

/-- An option is taken with its value, however this is written. -/
theorem scan_option (hh : scan.Holds found positionals) {name : String} {value : OptionValue}
    (hp : name ≠ "" ∧ '=' ∉ name.toList)
    (ho : level.options.find? (·.name == name) = some parameter)
    (hr : parameter.read value.text = .ok setting)
    (hf : parameter.repeatable = true ∨ ∀ said ∈ found, said.1 ≠ name) (rest : List String) :
    ∃ next, level.scan scan (value.arguments name ++ rest) = level.scan next rest ∧
      next.Holds ((name, setting) :: found) positionals := by
  have hb := List.find?_some ho
  obtain rfl : parameter.name = name := beq_iff_eq.mp hb
  rw [OptionValue.arguments]
  split
  · have hl : isLong ("--" ++ parameter.name ++ "=" ++ value.text) = true := by
      rw [String.append_assoc]
      exact isLong_name hp.1 _
    have hk : Scan.keep { found, positionals } parameter.name parameter.repeatable (.ok setting) =
        .ok { found := (parameter.name, setting) :: found, positionals } := Scan.keep_eq hf
    refine ⟨_, ?_, .read⟩
    rw [List.singleton_append, scan_long hn hh hl]
    simp only [takeLong, splitOption_attached hp.2, ho, hh.resolve_eq, bind, Except.bind, hr, hk]
  · rename_i ha
    obtain ⟨hm, hl, hs⟩ := not_option (value.apart (Bool.eq_false_iff.mpr ha))
    have hw : isLong ("--" ++ parameter.name) = true := by
      have ht := isLong_name hp.1 ""
      rwa [String.append_empty] at ht
    refine ⟨_, ?_, .pending hr hf⟩
    rw [List.cons_append, scan_long hn hh hw]
    simp only [takeLong, splitOption_name hp.2, ho, hh.resolve_eq, bind, Except.bind, pure,
      Except.pure]
    rw [List.singleton_append, Level.scan, hn]
    simp only [Scan.awaitsValue, hm, hl, hs]
    rfl

/-- What is no option is taken for the next parameter without name. -/
theorem scan_placed (hh : scan.Holds found (parameter :: positionals)) {text : String}
    (hr : parameter.read text = .ok setting) (ht : text.toList.head? = some '-' → text = "-")
    (hf : ∀ said ∈ found, said.1 ≠ parameter.name) (rest : List String) :
    ∃ next, level.scan scan (text :: rest) = level.scan next rest ∧
      next.Holds ((parameter.name, setting) :: found) positionals := by
  obtain ⟨hm, hl, hs⟩ := not_option ht
  have hp : level.takePositional scan text =
      .ok { pending := some (parameter, some text), found, positionals } := by
    have hs : scan.positionals = parameter :: positionals := by cases hh <;> rfl
    simp only [takePositional, hs, hh.resolve_eq, bind, Except.bind]
    rfl
  refine ⟨_, ?_, .pending hr (.inr hf)⟩
  have hw : scan.trailing = false := by cases hh <;> rfl
  rw [Level.scan, hw, hn]
  simp only [hm, hl, hs, hp]
  cases hh <;> rfl

/-- The values of one option are taken in order. Of an option that cannot be repeated there is one
at most. -/
theorem scan_values (hh : scan.Holds found positionals) {name : String}
    (hp : name ≠ "" ∧ '=' ∉ name.toList)
    (ho : level.options.find? (·.name == name) = some parameter) {values : List OptionValue}
    {settings : List Setting} (hr : List.Forall₂
      (fun value setting => parameter.read value.text = .ok setting) values settings)
    (hf : values ≠ [] → parameter.repeatable = true ∨
      values.length ≤ 1 ∧ ∀ said ∈ found, said.1 ≠ name) (rest : List String) :
    ∃ next, level.scan scan (values.flatMap (·.arguments name) ++ rest) = level.scan next rest ∧
      next.Holds ((settings.map (name, ·)).reverse ++ found) positionals := by
  induction hr generalizing scan found with
  | nil => exact ⟨scan, rfl, hh⟩
  | @cons value setting values settings hv hr ih =>
    have hf := hf (List.cons_ne_nil _ _)
    obtain ⟨next, he, hh⟩ := scan_option hn hh hp ho hv (hf.imp_right And.right)
      (values.flatMap (·.arguments name) ++ rest)
    have hf : values ≠ [] → parameter.repeatable = true ∨
        values.length ≤ 1 ∧ ∀ said ∈ (name, setting) :: found, said.1 ≠ name := by
      intro hv
      rcases hf with hf | ⟨hl, -⟩
      · exact .inl hf
      · exact absurd (List.eq_nil_of_length_eq_zero (Nat.le_zero.mp (Nat.le_of_succ_le_succ hl))) hv
    obtain ⟨last, hl, hh⟩ := ih hh hf
    refine ⟨last, ?_, ?_⟩
    · rw [List.flatMap_cons, List.append_assoc, he, hl]
    · rw [List.map_cons, List.reverse_cons, List.append_assoc]
      exact hh

end Steps

/-- The level has the option, cannot be given it too often, and reads what its values say. -/
structure Grants (level : Level) (option : GivenOption) : Prop where
  proper : option.name ≠ "" ∧ '=' ∉ option.name.toList
  read : ∃ parameter, level.options.find? (·.name == option.name) = some parameter ∧
    (parameter.repeatable = true ∨ option.values.length ≤ 1) ∧
    List.Forall₂ (fun value setting => parameter.read value.text = .ok setting) option.values
      option.settings

/-- Options of different names are taken one after the other, to the end. -/
theorem scan_given (hn : level.names = []) {given : List GivenOption}
    (hg : ∀ option ∈ given, level.Grants option) (hd : (given.map (·.name)).Nodup)
    (hh : scan.Holds found positionals) (hf : ∀ said ∈ found, said.1 ∉ given.map (·.name)) :
    ∃ next, level.scan scan (given.flatMap (·.arguments)) = .ok (next, none) ∧
      next.Holds ((given.flatMap (·.said)).reverse ++ found) positionals := by
  induction given generalizing scan found with
  | nil => exact ⟨scan, rfl, hh⟩
  | cons option given ih =>
    obtain ⟨⟨hp, parameter, hk, hl, hr⟩, hg⟩ := List.forall_mem_cons.mp hg
    obtain ⟨hm, hd⟩ := List.nodup_cons.mp hd
    have hv : option.values ≠ [] → parameter.repeatable = true ∨
        option.values.length ≤ 1 ∧ ∀ said ∈ found, said.1 ≠ option.name := fun _ =>
      hl.imp_right fun hl => ⟨hl, fun said hs he => hf said hs (he ▸ List.mem_cons_self)⟩
    obtain ⟨next, he, hh⟩ := scan_values hn hh hp hk hr hv (given.flatMap (·.arguments))
    have hf : ∀ earlier ∈ (option.settings.map (option.name, ·)).reverse ++ found,
        earlier.1 ∉ given.map (·.name) := by
      intro earlier hs
      rcases List.mem_append.mp hs with hs | hs
      · obtain ⟨setting, -, rfl⟩ := List.mem_map.mp (List.mem_reverse.mp hs)
        exact hm
      · exact fun hc => hf earlier hs (List.mem_cons_of_mem _ hc)
    obtain ⟨last, hl, hh⟩ := ih hg hd hh hf
    refine ⟨last, ?_, ?_⟩
    · rw [List.flatMap_cons]
      exact he.trans hl
    · rw [List.flatMap_cons, List.reverse_append, List.append_assoc]
      exact hh

end Level
end OnboardLink
