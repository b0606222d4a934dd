import OnboardLink.CommandLine.Invocation
import OnboardLink.Proofs.CommandLine.Scanning
import OnboardLink.Proofs.Text.Number

/-! The arguments of the route command. They name a target and either the file of a plan or the
parts of one, and are understood as just that. -/
namespace OnboardLink

/-- The value of an option with what it is read as. -/
structure Spelled {α : Type} (read : ValueReader α) extends OptionValue where
  meaning : α
  read_text : read text = .ok meaning

/-- Options that every command takes. -/
structure SharedOptions where
  format : Option (Spelled (choice OutputFormat.ofName?)) := none
  logFormat : Option (Spelled (choice LogFormat.ofName?)) := none
  logLevel : Option (Spelled (choice LogLevel.ofName?)) := none

/-- Options that give a plan part by part. -/
structure PlanOptions where
  device : Spelled (numeric readOctet)
  ports : Spelled plainOctet
  routes : List (Spelled readRoute)
  connected : List (Spelled plainOctets)
  channels : List (Spelled plainOctets)

namespace GivenOption

variable {α : Type} {read : ValueReader α}

/-- An option that is given values which are read as settings of one kind. -/
def spelling (name : String) (setting : α → Setting) (spelled : List (Spelled read)) :
    GivenOption :=
  ⟨name, spelled.map (·.toOptionValue), spelled.map fun value => setting value.meaning⟩

private theorem spelling_granted {level : Level} {name : String} {setting : α → Setting}
    {parameter : Parameter} (hk : level.options.find? (·.name == name) = some parameter)
    (hp : parameter.read = fun text => (read text).map setting)
    (hn : name ≠ "" ∧ '=' ∉ name.toList) {spelled : List (Spelled read)}
    (hl : parameter.repeatable = true ∨ spelled.length ≤ 1) :
    level.Grants (spelling name setting spelled) := by
  refine ⟨hn, parameter, hk, ?_, ?_⟩
  · rwa [spelling, List.length_map]
  · rw [spelling, List.forall₂_map_left_iff, List.forall₂_map_right_iff, List.forall₂_same]
    intro value _
    rw [hp]
    exact congrArg (Except.map setting) value.read_text

end GivenOption

def SharedOptions.given (shared : SharedOptions) : List GivenOption := [
  .spelling "format" .format shared.format.toList,
  .spelling "log-format" .logFormat shared.logFormat.toList,
  .spelling "log-level" .logLevel shared.logLevel.toList]

private theorem SharedOptions.grants (shared : SharedOptions) :
    ∀ option ∈ shared.given, Verb.route.level.Grants option := by
  simp only [given, List.forall_mem_cons]
  exact ⟨GivenOption.spelling_granted rfl rfl (by decide) (.inr Option.length_toList_le),
    GivenOption.spelling_granted rfl rfl (by decide) (.inr Option.length_toList_le),
    GivenOption.spelling_granted rfl rfl (by decide) (.inr Option.length_toList_le), nofun⟩

/-- The option that names the file of a plan. -/
def fileOption (path : Spelled readPath) : GivenOption := .spelling "config" .planFile [path]

private theorem fileOption_granted (path : Spelled readPath) :
    Verb.route.level.Grants (fileOption path) :=
  GivenOption.spelling_granted rfl rfl (by decide) (.inr (Nat.le_refl 1))

namespace PlanOptions

/-- The options with their values. Those with lists are left out where there is nothing to list. -/
def given (options : PlanOptions) : List GivenOption := [
  .spelling "device" .device [options.device], .spelling "ports" .ports [options.ports],
  .spelling "route" .route options.routes, .spelling "connected" .connected options.connected,
  .spelling "channels" .channels options.channels]

/-- The plan that the options give. -/
def plan (options : PlanOptions) : RouterPlan where
  device := options.device.meaning
  ports := options.ports.meaning
  routes := options.routes.map (·.meaning)
  connected := options.connected.flatMap (·.meaning)
  channels := options.channels.flatMap (·.meaning)

private theorem grants (options : PlanOptions) :
    ∀ option ∈ options.given, Verb.route.level.Grants option := by
  simp only [given, List.forall_mem_cons]
  exact ⟨GivenOption.spelling_granted rfl rfl (by decide) (.inr (Nat.le_refl 1)),
    GivenOption.spelling_granted rfl rfl (by decide) (.inr (Nat.le_refl 1)),
    GivenOption.spelling_granted rfl rfl (by decide) (.inl rfl),
    GivenOption.spelling_granted rfl rfl (by decide) (.inl rfl),
    GivenOption.spelling_granted rfl rfl (by decide) (.inl rfl), nofun⟩

end PlanOptions

section Understanding

variable {environment : Option String} {scan : Scan} {said : List (String × Setting)}
  {command : Command} {arguments : List String}

/-- The log level that the environment asks for. -/
def environmentLevel (environment : Option String) : Except Refusal (Option LogLevel) :=
  match environment with
  | none => .ok none
  | some name => (choice LogLevel.ofName? name).map some

theorem exists_environmentLevel_eq
    (h : ∀ name ∈ environment, (LogLevel.ofName? name).isSome = true) :
    ∃ level, environmentLevel environment = .ok level := by
  cases environment with
  | none => exact ⟨none, rfl⟩
  | some name =>
    obtain ⟨level, hl⟩ := Option.isSome_iff_exists.mp (h name rfl)
    exact ⟨some level, by rw [environmentLevel, choice, hl]; rfl⟩

private theorem Scan.Holds.finish_eq {positionals : List Parameter}
    (h : scan.Holds said.reverse positionals) :
    scan.finish environment = if said.any (·.1 == "log-level") then .ok ⟨said, none⟩
      else (environmentLevel environment).map (⟨said, ·⟩) := by
  rw [Scan.finish, h.resolve_eq]
  simp only [bind, Except.bind, List.reverse_reverse]
  split
  · rfl
  · cases environment with
    | none => rfl
    | some name =>
      rw [environmentLevel]
      dsimp only
      cases choice LogLevel.ofName? name <;> rfl

/-- The plan is named as a file or given part by part, not both. -/
def OneSource (names : List String) : Prop :=
  "config" ∉ names ∨ ∀ name ∈ ["device", "ports", "route", "connected", "channels"], name ∉ names

theorem OneSource.mono {names fewer : List String} (h : OneSource names)
    (hs : ∀ name ∈ fewer, name ∈ names) : OneSource fewer :=
  h.imp (fun h hc => h (hs _ hc)) fun h name hn hc => h name hn (hs name hc)

private theorem OneSource.conflicts_eq (h : OneSource (said.map Prod.fst)) :
    (Verb.route.conflicts.any fun pair =>
      said.any (·.1 == pair.1) && said.any (·.1 == pair.2)) = false := by
  have hs : ∀ name, said.any (·.1 == name) = true → name ∈ said.map Prod.fst := by
    intro name ha
    obtain ⟨one, hm, hb⟩ := List.any_eq_true.mp ha
    exact beq_iff_eq.mp hb ▸ List.mem_map_of_mem hm
  rw [← Bool.not_eq_true, List.any_eq_true]
  rintro ⟨pair, hp, hb⟩
  obtain ⟨name, hm, rfl⟩ := List.mem_map.mp hp
  obtain ⟨hone, hother⟩ := Bool.and_eq_true_iff.mp hb
  rcases h with h | h
  · exact h (hs _ hone)
  · exact h name hm (hs _ hother)

/-- What is said makes up a command, once it is known what the environment asks for. -/
theorem understand_route
    (hs : Verb.route.level.scan { positionals := Verb.route.level.positionals } arguments =
      .ok (scan, none)) (hh : scan.Holds said.reverse []) (ho : OneSource (said.map Prod.fst))
    (hc : Verb.route.command? (said.map (·.2)) = some command) :
    Verb.route.understand environment arguments =
      if said.any (·.1 == "log-level") then .ok ⟨command, [⟨said, none⟩]⟩
      else (environmentLevel environment).map fun level => ⟨command, [⟨said, level⟩]⟩ := by
  have hf : scan.finish environment = _ := hh.finish_eq
  rw [Verb.understand]
  by_cases hb : said.any (·.1 == "log-level") = true
  · rw [if_pos hb] at hf ⊢
    simp only [hs, bind, Except.bind, hf, ho.conflicts_eq, hc]
    rfl
  · rw [if_neg hb] at hf ⊢
    cases he : environmentLevel environment with
    | error refusal =>
      rw [he] at hf
      simp only [hs, bind, Except.bind, hf]
      rfl
    | ok level =>
      rw [he] at hf
      simp only [hs, bind, Except.bind, hf, Except.map, ho.conflicts_eq, hc]
      rfl

end Understanding

section Showing

variable {files : Files} {atTerminal : Bool} {environment : Option String}

/-- What a run leaves behind but for its log. -/
def Outcome.shown (outcome : Outcome) : ℕ × String × Option String :=
  (outcome.code, outcome.output, outcome.failure)

/-- What the program shows for its arguments, unless it refuses them. -/
def shownFor (files : Files) (atTerminal : Bool) (environment : Option String)
    (arguments : List String) : Except Refusal (ℕ × String × Option String) :=
  (Invocation.ofArguments environment arguments).map fun invocation =>
    (invocation.run files atTerminal).shown

/-- What a run shows follows from its command's answer and its output format. -/
theorem shown_run {one other : Invocation}
    (hc : one.command.perform files = other.command.perform files)
    (hf : one.format = other.format) :
    (one.run files atTerminal).shown = (other.run files atTerminal).shown := by
  rw [Invocation.run, Invocation.run, hc, hf]
  cases other.command.perform files <;> rfl

/-- The output format that settings ask for. -/
def formatOf (settings : List Setting) : Option OutputFormat :=
  pick (fun | .format format => some format | _ => none) settings

/-- Only the command itself was told anything. -/
theorem innermost_below {α : Type} (kind : Setting → Option α) (said : List (String × Setting))
    (outer inner : Option LogLevel) :
    innermost kind [⟨[], outer⟩, ⟨said, inner⟩] = pick kind (said.map (·.2)) := by
  rw [innermost, List.reverse_cons, List.reverse_singleton, List.singleton_append,
    List.findSome?_cons, List.findSome?_cons]
  dsimp only
  cases pick kind (said.map (·.2)) <;> rfl

/-- The log level that the environment asks for has to be one. Which one it is shows in the log
alone. -/
theorem shown_route {scan : Scan} {said : List (String × Setting)} {command : Command}
    {arguments : List String}
    (hs : Verb.route.level.scan { positionals := Verb.route.level.positionals } arguments =
      .ok (scan, none)) (hh : scan.Holds said.reverse []) (ho : OneSource (said.map Prod.fst))
    (hc : Verb.route.command? (said.map (·.2)) = some command) :
    shownFor files atTerminal environment ("route" :: arguments) =
      (environmentLevel environment).map fun _ =>
        (Invocation.run files atTerminal
          { command, format := formatOf (said.map (·.2)) }).shown := by
  have hu : understand environment ("route" :: arguments) =
      (Verb.route.understand environment arguments).bind fun inner =>
        below environment { positionals := [] } (some inner) := rfl
  have hf : Scan.finish environment { positionals := [] } =
      (environmentLevel environment).map (⟨[], ·⟩) := by
    have hr : ({ positionals := [] } : Scan).Holds [].reverse [] := .read
    exact hr.finish_eq
  rw [shownFor, Invocation.ofArguments, hu, understand_route hs hh ho hc]
  cases he : environmentLevel environment with
  | error refusal =>
    rw [he] at hf
    split
    · simp only [Except.bind, below, bind, hf]
      rfl
    · rfl
  | ok level =>
    rw [he] at hf
    have hb : ∀ inner, below environment { positionals := [] } (some ⟨command, [⟨said, inner⟩]⟩) =
        .ok ⟨command, [⟨[], level⟩, ⟨said, inner⟩]⟩ := by
      intro inner
      rw [below]
      simp only [bind, Except.bind, hf]
      rfl
    split
    · simp only [Except.bind, hb, bind]
      exact congrArg Except.ok (shown_run rfl (innermost_below _ _ _ _))
    · simp only [Except.bind, Except.map, hb, bind]
      exact congrArg Except.ok (shown_run rfl (innermost_below _ _ _ _))

variable {target : String} {address : UInt8} {given : List GivenOption}

/-- The route command takes a target and options of different names. -/
theorem scan_route (ht : readOctet target = .ok address)
    (hg : ∀ option ∈ given, Verb.route.level.Grants option)
    (hd : ("TARGET" :: given.map (·.name)).Nodup) :
    ∃ scan, Verb.route.level.scan { positionals := Verb.route.level.positionals }
        (target :: given.flatMap (·.arguments)) = .ok (scan, none) ∧
      scan.Holds ((given.flatMap (·.said)).reverse ++ [("TARGET", .target address)]) [] := by
  obtain ⟨hm, hd⟩ := List.nodup_cons.mp hd
  have hr : (Parameter.of "TARGET" (numeric readOctet) .target).read target =
      .ok (.target address) := by
    change Except.map _ (Except.mapError _ (readOctet target)) = _
    rw [ht]
    rfl
  have hn : Verb.route.level.names = [] := rfl
  have hf : ∀ said ∈ ([] : List (String × Setting)), said.1 ≠ "TARGET" := by simp
  obtain ⟨next, he, hh⟩ := Level.scan_placed hn .read hr
    (fun hc => absurd hc (head?_of_readOctet ht)) hf (given.flatMap (·.arguments))
  have hf : ∀ said ∈ [("TARGET", Setting.target address)], said.1 ∉ given.map (·.name) := by
    intro said hs
    rw [List.mem_singleton] at hs
    subst hs
    exact hm
  obtain ⟨last, hl, hh⟩ := Level.scan_given hn hg hd hh hf
  exact ⟨last, he.trans hl, hh⟩

/-- A target and options of different names make up what is said. -/
theorem shown_given {command : Command} (ht : readOctet target = .ok address)
    (hg : ∀ option ∈ given, Verb.route.level.Grants option)
    (hd : ("TARGET" :: given.map (·.name)).Nodup)
    (ho : OneSource ("TARGET" :: given.map (·.name)))
    (hc : Verb.route.command? (.target address :: given.flatMap (·.settings)) = some command) :
    shownFor files atTerminal environment ("route" :: target :: given.flatMap (·.arguments)) =
      (environmentLevel environment).map fun _ => (Invocation.run files atTerminal
        { command, format := formatOf (.target address :: given.flatMap (·.settings)) }).shown := by
  obtain ⟨scan, hs, hh⟩ := scan_route ht hg hd
  rw [← List.reverse_cons] at hh
  have hm : (("TARGET", .target address) :: given.flatMap (·.said)).map (·.2) =
      .target address :: given.flatMap (·.settings) := by
    rw [List.map_cons, GivenOption.map_said]
  rw [← hm] at hc ⊢
  refine shown_route hs hh (ho.mono ?_) hc
  intro name hn
  obtain ⟨said, hs, rfl⟩ := List.mem_map.mp hn
  rcases List.mem_cons.mp hs with rfl | hs
  · exact List.mem_cons_self
  · exact List.mem_cons_of_mem _ (GivenOption.name_of_mem_said hs)

end Showing

section Sources

variable {files : Files} {atTerminal : Bool} {environment : Option String} {target : String}
  {address : UInt8}

section Kinds

variable {α β : Type}

private theorem findSome?_none (l : List α) : l.findSome? (fun _ => (none : Option β)) = none :=
  List.findSome?_eq_none_iff.mpr fun _ _ => rfl

private theorem flatMap_nil (l : List α) : l.flatMap (fun _ => ([] : List β)) = [] :=
  List.flatMap_eq_nil_iff.mpr fun _ _ => rfl

end Kinds

private theorem command?_file (shared : SharedOptions) (path : Spelled readPath) :
    Verb.route.command? (.target address ::
      (shared.given ++ [fileOption path]).flatMap (·.settings)) =
        some (.route address (.file path.meaning)) := by
  simp [Verb.command?, SharedOptions.given, fileOption, GivenOption.spelling, pick,
    List.findSome?_append, List.findSome?_map, Function.comp_def, findSome?_none]

private theorem command?_given (shared : SharedOptions) (options : PlanOptions) :
    Verb.route.command? (.target address :: (shared.given ++ options.given).flatMap (·.settings)) =
      some (.route address (.given options.plan)) := by
  simp [Verb.command?, SharedOptions.given, PlanOptions.given, PlanOptions.plan, givenPlan,
    GivenOption.spelling, pick, List.findSome?_append, List.findSome?_map, Function.comp_def,
    findSome?_none, List.filterMap_map, List.flatMap_map, flatMap_nil]

private theorem formatOf_shared (shared : SharedOptions) {given : List GivenOption}
    (h : formatOf (given.flatMap (·.settings)) = none) :
    formatOf (.target address :: (shared.given ++ given).flatMap (·.settings)) =
      shared.format.map (·.meaning) := by
  rw [formatOf, pick] at h ⊢
  rw [List.flatMap_append, List.findSome?_cons, List.findSome?_append, h]
  cases hf : shared.format <;>
    simp [SharedOptions.given, GivenOption.spelling, List.findSome?_append, List.findSome?_map,
      Function.comp_def, findSome?_none, hf]

/-- A file is named, and routing is by its plan. -/
theorem shown_file (shared : SharedOptions) (ht : readOctet target = .ok address)
    (path : Spelled readPath) :
    shownFor files atTerminal environment ("route" :: target ::
        (shared.given ++ [fileOption path]).flatMap (·.arguments)) =
      (environmentLevel environment).map fun _ => (Invocation.run files atTerminal
        { command := .route address (.file path.meaning)
          format := shared.format.map (·.meaning) }).shown := by
  have hn : (shared.given ++ [fileOption path]).map (·.name) =
      ["format", "log-format", "log-level", "config"] := rfl
  have hg : ∀ option ∈ shared.given ++ [fileOption path],
      Verb.route.level.Grants option :=
    List.forall_mem_append.mpr
      ⟨shared.grants, List.forall_mem_singleton.mpr (fileOption_granted path)⟩
  have ho : OneSource ["TARGET", "format", "log-format", "log-level", "config"] :=
    .inr (by decide)
  rw [shown_given ht hg (by rw [hn]; decide) (by rw [hn]; exact ho) (command?_file shared path),
    formatOf_shared shared rfl]

/-- A plan is given part by part, and routing is by this plan. -/
theorem shown_options (shared : SharedOptions) (ht : readOctet target = .ok address)
    (options : PlanOptions) :
    shownFor files atTerminal environment ("route" :: target ::
        (shared.given ++ options.given).flatMap (·.arguments)) =
      (environmentLevel environment).map fun _ => (Invocation.run files atTerminal
        { command := .route address (.given options.plan)
          format := shared.format.map (·.meaning) }).shown := by
  have hn : (shared.given ++ options.given).map (·.name) = ["format", "log-format", "log-level",
      "device", "ports", "route", "connected", "channels"] := rfl
  have hg : ∀ option ∈ shared.given ++ options.given, Verb.route.level.Grants option :=
    List.forall_mem_append.mpr ⟨shared.grants, options.grants⟩
  have ho : OneSource ["TARGET", "format", "log-format", "log-level", "device", "ports", "route",
      "connected", "channels"] := .inl (by decide)
  have hf : formatOf (options.given.flatMap (·.settings)) = none := by
    simp [formatOf, PlanOptions.given, GivenOption.spelling, pick, List.findSome?_append,
      List.findSome?_map, Function.comp_def, findSome?_none]
  rw [shown_given ht hg (by rw [hn]; decide) (by rw [hn]; exact ho) (command?_given shared options),
    formatOf_shared shared hf]

end Sources

namespace Spelled

/-- The text attached to its option, as every text can be. -/
def attach {α : Type} {read : ValueReader α} (text : String) (meaning : α)
    (h : read text = .ok meaning) : Spelled read where
  text
  attached := true
  apart := nofun
  meaning
  read_text := h

/-- Octets in decimal text, or no option where there are none. -/
def decimalOctets (octets : List UInt8) : List (Spelled plainOctets) :=
  if h : octets = [] then [] else [attach _ octets (plainOctets_decimal h)]

private theorem flatMap_decimalOctets (octets : List UInt8) :
    (decimalOctets octets).flatMap (·.meaning) = octets := by
  rw [decimalOctets]
  split
  · rename_i h
    exact h.symm
  · exact List.append_nil octets

end Spelled

namespace PlanOptions

open Spelled

/-- A plan in decimal options. -/
def decimal (plan : RouterPlan) : PlanOptions where
  device := attach (toString plan.device.toNat) plan.device
    (by rw [numeric, readOctet_decimal]; rfl)
  ports := attach _ plan.ports (plainOctet_decimal plan.ports)
  routes := plan.routes.map fun route => attach _ route (readRoute_decimal route)
  connected := decimalOctets plan.connected
  channels := decimalOctets plan.channels

/-- Every plan can be given by options. -/
theorem plan_decimal (plan : RouterPlan) : (decimal plan).plan = plan := by
  have hr : (decimal plan).routes.map (·.meaning) = plan.routes := by
    rw [decimal, List.map_map]
    exact List.map_id plan.routes
  rw [PlanOptions.plan, hr]
  simp only [decimal, flatMap_decimalOctets]
  rfl

end PlanOptions
end OnboardLink
