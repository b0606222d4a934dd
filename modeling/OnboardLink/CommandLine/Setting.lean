import OnboardLink.CommandLine.Event
import OnboardLink.Text.Number

/-! What single arguments say: the settings that make up a command, and how the text of each is
read. -/
namespace OnboardLink

/-- Why arguments are not taken as a command. Asking for help or for the version is one reason. -/
inductive Refusal where
  | missingArgument
  | unknownArgument
  /-- The value is missing, empty, or none of the choices. -/
  | invalidValue
  | unreadableValue (message : String)
  /-- Two arguments exclude each other, or one came twice. -/
  | conflict
  | unwantedValue
  | unknownCommand
  | missingCommand
  | help
  | version
  | nothingGiven
  deriving DecidableEq, Repr

def Refusal.exitCode : Refusal → Nat
  | help | version => ExitCode.success
  | _ => 2

inductive Setting where
  | format (format : OutputFormat)
  | logFormat (format : LogFormat)
  | logLevel (level : LogLevel)
  | octet (value : UInt8)
  | parity (value : UInt8)
  | hex (digits : String)
  | text (words : String)
  | register (value : UInt16)
  | target (address : UInt8)
  | protocol (identifier : UInt8)
  | device (address : UInt8)
  | application (identifier : UInt16)
  | digits (digits : String)
  | secondaryLength (length : Nat)
  | planFile (path : String)
  | ports (count : UInt8)
  | route (route : Route)
  | connected (ports : List UInt8)
  | channels (channels : List UInt8)
  | extended
  deriving DecidableEq, Repr

abbrev ValueReader (α : Type) := String → Except Refusal α

def numeric {α : Type} (read : String → Except NumberError α) : ValueReader α := fun text =>
  (read text).mapError fun error => .unreadableValue error.message

def plainOctet : ValueReader UInt8 := fun text =>
  match readSigned text with
  | .error error => .error (.unreadableValue error.message)
  | .ok value =>
    if 0 ≤ value ∧ value ≤ 255 then .ok value.toNat.toUInt8
    else .error (.unreadableValue s!"{value} is not in 0..=255")

def plainLength : ValueReader Nat := fun text =>
  (readUnsigned text).mapError fun error => .unreadableValue error.message

def plainOctets : ValueReader (List UInt8) := fun text =>
  ((text.toList.splitOn ',').map String.ofList).mapM plainOctet

/-- Reads a route: two numbers around the first colon. -/
def readRoute : ValueReader Route := fun text =>
  let characters := text.toList
  match characters.dropWhile (· ≠ ':') with
  | [] => .error (.unreadableValue s!"expected DEST:PORT, got {text}")
  | _ :: port => do
    let destination ← numeric readOctet (String.ofList (characters.takeWhile (· ≠ ':')))
    return ⟨destination, ← numeric readOctet (String.ofList port)⟩

def choice {α : Type} (ofName? : String → Option α) : ValueReader α := fun text =>
  match ofName? text with
  | some value => .ok value
  | none => .error .invalidValue

def readPath : ValueReader String := fun text =>
  if text = "" then .error .invalidValue else .ok text

def anyText : ValueReader String := .ok

end OnboardLink
