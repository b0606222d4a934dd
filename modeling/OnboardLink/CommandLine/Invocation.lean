import OnboardLink.CommandLine.Journal
import OnboardLink.CommandLine.Verb

/-! The arguments of the program as a command with its output and log formats, and what comes of
running it. -/
namespace OnboardLink

/-- A command together with how its answer and its log are to be shown. -/
structure Invocation where
  command : Command
  format : Option OutputFormat := none
  logFormat : LogFormat := .text
  logLevel : LogLevel := .warn
  deriving DecidableEq, Repr

/-- The settings of one command, by name and in order, and the log level that the environment asks
for. -/
structure Said where
  found : List (String × Setting)
  environment : Option LogLevel

/-- Ends the scan of a command's arguments. The log level of the environment counts for a command
that was not given one. -/
def Scan.finish (environment : Option String) (scan : Scan) : Except Refusal Said := do
  let found := (← scan.resolve).found.reverse
  if found.any (·.1 == "log-level") then return ⟨found, none⟩
  match environment with
  | none => return ⟨found, none⟩
  | some name => return ⟨found, some (← choice LogLevel.ofName? name)⟩

def Said.isAnything (said : Said) : Bool := !said.found.isEmpty || said.environment.isSome

/-- What is understood once the program and the command have been told apart. -/
structure Understood where
  command : Command
  /-- What was said at each level, outermost first. -/
  said : List Said

def Verb.understand (environment : Option String) (verb : Verb) (arguments : List String) :
    Except Refusal Understood := do
  let (scan, _) ← verb.level.scan { positionals := verb.level.positionals } arguments
  let said ← scan.finish environment
  let isSaid (name : String) : Bool := said.found.any (·.1 == name)
  if verb.conflicts.any fun (one, other) => isSaid one && isSaid other then throw .conflict
  match verb.command? (said.found.map (·.2)) with
  | some command => return ⟨command, [said]⟩
  | none => throw .missingArgument

inductive Entry where
  | verb (verb : Verb)
  | group (commands : List (String × Verb))

def entries : List (String × Entry) := [
  ("char", .verb .character),
  ("crc", .verb .checksum),
  ("frame", .group [("encode", .encodeFrame), ("decode", .decodeFrame)]),
  ("packet", .group [("create", .createPacket), ("decode", .decodePacket)]),
  ("route", .verb .route),
  ("version", .verb .version)]

/-- Answers a wish for help about a command, which is named from the outside in. Below a group and
below the program, help itself is a command. -/
def helpAbout : List String → Refusal
  | [] => .help
  | ["help"] => .help
  | name :: names =>
    match entries.lookup name with
    | none => .unknownCommand
    | some (.verb _) => if names.isEmpty then .help else .unknownCommand
    | some (.group commands) =>
      match names with
      | [] => .help
      | [name] => if name = "help" || (commands.lookup name).isSome then .help else .unknownCommand
      | _ => .unknownCommand

/-- Ends the scan of a command that has commands below it. One of these has to be named; what it was
told is judged before what was told to this one. -/
def below (environment : Option String) (scan : Scan) (inner : Option Understood) :
    Except Refusal Understood := do
  let said ← scan.finish environment
  match inner with
  | some understood => return { understood with said := said :: understood.said }
  | none => throw (if said.isAnything then .missingCommand else .nothingGiven)

def understandGroup (environment : Option String) (group : String)
    (commands : List (String × Verb)) (arguments : List String) : Except Refusal Understood := do
  let level : Level := { options := sharedOptions, commands := commands.map (·.1) }
  let (scan, next) ← level.scan { positionals := [] } arguments
  match next with
  | none => below environment scan none
  | some (name, arguments) =>
    match commands.lookup name with
    | some verb => below environment scan (some (← verb.understand environment arguments))
    | none => throw (helpAbout (group :: arguments))

def understand (environment : Option String) (arguments : List String) :
    Except Refusal Understood := do
  let level : Level :=
    { options := sharedOptions, commands := entries.map (·.1), hasVersion := true }
  let (scan, next) ← level.scan { positionals := [] } arguments
  match next with
  | none => below environment scan none
  | some (name, arguments) =>
    match entries.lookup name with
    | some (.verb verb) => below environment scan (some (← verb.understand environment arguments))
    | some (.group commands) =>
      below environment scan (some (← understandGroup environment name commands arguments))
    | none => throw (helpAbout arguments)

/-- A setting that every level can make; the innermost counts. -/
def innermost {α : Type} (kind : Setting → Option α) (said : List Said) : Option α :=
  said.reverse.findSome? fun level => pick kind (level.found.map (·.2))

/-- The invocation that arguments make up. `environment` is the log level asked for there, which
counts when no argument asks for another. -/
def Invocation.ofArguments (environment : Option String) (arguments : List String) :
    Except Refusal Invocation := do
  let ⟨command, said⟩ ← understand environment arguments
  let format := innermost (fun | .format format => some format | _ => none) said
  let logFormat := innermost (fun | .logFormat format => some format | _ => none) said
  let logLevel := innermost (fun | .logLevel level => some level | _ => none) said
  let inherited := said.findSome? (·.environment)
  return {
    command, format
    logFormat := logFormat.getD .text
    logLevel := (logLevel.or inherited).getD .warn }

structure Outcome where
  code : Nat
  output : String
  log : List Event
  failure : Option String

/-- Runs a command. `atTerminal` says whether a person reads the output, who is given a table unless
asked otherwise. -/
def Invocation.run (files : Files) (atTerminal : Bool) (invocation : Invocation) : Outcome :=
  let shown (events : List Event) : List Event :=
    events.filter (·.level.rank ≤ invocation.logLevel.rank)
  let journal := invocation.command.journal files
  match invocation.command.perform files with
  | .ok report =>
    let format := invocation.format.getD (if atTerminal then .table else .json)
    ⟨ExitCode.success, unlines (report.layOut format), shown journal, none⟩
  | .error failure =>
    ⟨failure.code, "", shown (journal ++ [failure.event]), some failure.message⟩

end OnboardLink
