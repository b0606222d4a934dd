import OnboardLink.CommandLine.Setting

/-! Scanning arguments from left to right. A command may have commands below it; the arguments up to
the name of one of these belong to the command itself, the rest to the one below. The value of an
argument is read only when the next argument of its own begins, or at the end. -/
namespace OnboardLink

structure Parameter where
  name : String
  repeatable : Bool := false
  read : ValueReader Setting

def Parameter.of {α : Type} (name : String) (read : ValueReader α) (setting : α → Setting) :
    Parameter :=
  { name, read := fun text => (read text).map setting }

/-- What a command understands. -/
structure Level where
  options : List Parameter := []
  flags : List (String × Setting) := []
  positionals : List Parameter := []
  /-- The commands below. A command with others below it also knows `help`. -/
  commands : List String := []
  hasVersion : Bool := false

/-- How far the arguments of one command have been scanned. -/
structure Scan where
  /-- The parameter whose value was not read yet, and the value if it has come. -/
  pending : Option (Parameter × Option String) := none
  /-- What was said so far, by name, last first. -/
  found : List (String × Setting) := []
  /-- Parameters without name that did not come yet. -/
  positionals : List Parameter
  /-- Whether only parameters without name can follow. -/
  trailing : Bool := false

namespace Scan

/-- Keeps a setting; one that cannot be repeated must not be there already. -/
def keep (scan : Scan) (name : String) (repeatable : Bool) (setting : Except Refusal Setting) :
    Except Refusal Scan := do
  if !repeatable && scan.found.any (·.1 == name) then throw .conflict
  return { scan with found := (name, ← setting) :: scan.found }

def resolve (scan : Scan) : Except Refusal Scan :=
  match scan.pending with
  | none => .ok scan
  | some (_, none) => .error .invalidValue
  | some (parameter, some value) =>
    { scan with pending := none }.keep parameter.name parameter.repeatable (parameter.read value)

def awaitsValue (scan : Scan) : Bool :=
  match scan.pending with
  | some (_, none) => true
  | _ => false

end Scan

def splitOption (argument : String) : String × Option String :=
  let characters := argument.toList.drop 2
  let name := String.ofList (characters.takeWhile (· ≠ '='))
  match characters.dropWhile (· ≠ '=') with
  | [] => (name, none)
  | _ :: value => (name, some (String.ofList value))

def isLong (argument : String) : Bool := argument.startsWith "--" && argument ≠ "--"

def isShort (argument : String) : Bool :=
  argument.startsWith "-" && !argument.startsWith "--" && argument ≠ "-"

namespace Level

def names (level : Level) : List String :=
  if level.commands.isEmpty then [] else level.commands ++ ["help"]

def takeLong (level : Level) (scan : Scan) (argument : String) : Except Refusal Scan := do
  let (name, value?) := splitOption argument
  match level.options.find? (·.name == name) with
  | some option =>
    let scan ← scan.resolve
    match value? with
    | some value => scan.keep option.name option.repeatable (option.read value)
    | none => return { scan with pending := some (option, none) }
  | none =>
    let known := level.flags.lookup name
    let isHelp := name = "help"
    let isVersion := name = "version" && level.hasVersion
    if !known.isSome && !isHelp && !isVersion then throw .unknownArgument
    if value?.isSome then throw .unwantedValue
    let scan ← scan.resolve
    if isHelp then throw .help
    match known with
    | none => throw .version
    | some setting => scan.keep name false (.ok setting)

/-- Takes an argument of one dash and letters. The first letter decides, as help and version are all
there is to ask for. -/
def takeShort (level : Level) (scan : Scan) (argument : String) : Except Refusal Scan := do
  match argument.toList.drop 1 with
  | 'h' :: _ => discard scan.resolve; throw .help
  | 'V' :: _ =>
    if level.hasVersion then discard scan.resolve; throw .version
    else throw .unknownArgument
  | _ => throw .unknownArgument

def takePositional (level : Level) (scan : Scan) (argument : String) : Except Refusal Scan := do
  match scan.positionals with
  | parameter :: positionals =>
    let scan ← scan.resolve
    return { scan with pending := some (parameter, some argument), positionals }
  | [] =>
    if level.names.isEmpty || (scan.trailing && level.names.contains argument) then
      throw .unknownArgument
    else throw .unknownCommand

/-- Scans arguments up to their end or to the name of a command below, which is answered with the
arguments behind it. -/
def scan (level : Level) (progress : Scan) :
    List String → Except Refusal (Scan × Option (String × List String))
  | [] => .ok (progress, none)
  | argument :: arguments =>
    if progress.trailing then do
      level.scan (← level.takePositional progress argument) arguments
    else if !progress.awaitsValue && level.names.contains argument then
      .ok (progress, some (argument, arguments))
    else if argument = "--" then level.scan { progress with trailing := true } arguments
    else if isLong argument then do
      level.scan (← level.takeLong progress argument) arguments
    else if isShort argument then do
      level.scan (← level.takeShort progress argument) arguments
    else match progress.pending with
      | some (parameter, none) =>
        level.scan { progress with pending := some (parameter, some argument) } arguments
      | _ => do level.scan (← level.takePositional progress argument) arguments

end Level
end OnboardLink
