import OnboardLink.Proofs.CommandLine.Answers
import OnboardLink.Proofs.CommandLine.Printing
import OnboardLink.Proofs.Transfer.Stream

/-! Encoding commands against decoding ones. The text in which a frame or packet is shown is taken
back as an argument, and what is shown then is what the first command was given. -/
namespace OnboardLink

open Json

/-- The payload gives the octets, by their digits or as text in UTF-8. -/
inductive PayloadInput.Gives : PayloadInput → Octets → Prop where
  | hex {octets : Octets} {digits : String} (h : HexInput.Spells octets digits) :
      Gives (.hex digits) octets
  | text (words : String) : Gives (.text words) (words.toList.flatMap String.utf8EncodeChar)

section Commands

variable {payload : PayloadInput} (files : Files) (atTerminal : Bool) (shown : Invocation)

variable {device target : UInt8} {application : UInt16} {octets : Octets}

end Commands

end OnboardLink
