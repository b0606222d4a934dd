import OnboardLink.Octets

/-! Files that hold text, and why a file cannot be read. -/
namespace OnboardLink

inductive ReadFailure where
  | notFound
  | isDirectory
  | notDirectory
  | denied
  | nameTooLong
  | nulInPath
  | notText
  | other (text : String)
  deriving DecidableEq, Repr

def ReadFailure.message : ReadFailure → String
  | notFound => "No such file or directory (os error 2)"
  | isDirectory => "Is a directory (os error 21)"
  | notDirectory => "Not a directory (os error 20)"
  | denied => "Permission denied (os error 13)"
  | nameTooLong => "File name too long (os error 36)"
  | nulInPath => "file name contained an unexpected NUL byte"
  | notText => "stream did not contain valid UTF-8"
  | other text => text

/-- The files within reach, as the text read at each path. -/
abbrev Files := String → Except ReadFailure String

def decodeText (octets : Octets) : Except ReadFailure String :=
  match String.fromUTF8? ⟨octets.toArray⟩ with
  | some text => .ok text
  | none => .error .notText

def encodeText (text : String) : Octets := text.toUTF8.data.toList

end OnboardLink
