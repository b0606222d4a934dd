import OnboardLink.CommandLine.Layout

/-! Events that are logged, and the two forms of a log. -/
namespace OnboardLink

inductive LogLevel where
  | error
  | warn
  | info
  | debug
  | trace
  deriving DecidableEq, Repr

namespace LogLevel

/-- The rank of a level; what matters most comes first. -/
def rank : LogLevel → Nat
  | error => 0
  | warn => 1
  | info => 2
  | debug => 3
  | trace => 4

def label : LogLevel → String
  | error => "ERROR"
  | warn => "WARN"
  | info => "INFO"
  | debug => "DEBUG"
  | trace => "TRACE"

def ofName? : String → Option LogLevel
  | "error" => some error
  | "warn" => some warn
  | "info" => some info
  | "debug" => some debug
  | "trace" => some trace
  | _ => none

end LogLevel

inductive LogFormat where
  | text
  | json
  deriving DecidableEq, Repr

def LogFormat.ofName? : String → Option LogFormat
  | "text" => some .text
  | "json" => some .json
  | _ => none

structure Event where
  level : LogLevel
  origin : String
  message : String
  fields : List (String × Json.Value)

namespace Event

/-- The event as a line of text, which begins with the level at the right of five columns. -/
def line (event : Event) : String :=
  let level := event.level.label
  let fields := event.fields.map fun (name, value) => " " ++ name ++ "=" ++ value.display
  fill ' ' (5 - level.length) ++ level ++ " " ++ event.origin ++ ": " ++ event.message ++
    String.join fields

def toJson (event : Event) : Json.Value := .object <| [
  ("level", .string event.level.label), ("target", .string event.origin),
  ("message", .string event.message)] ++ event.fields

end Event

end OnboardLink
