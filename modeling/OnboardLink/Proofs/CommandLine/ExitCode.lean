import OnboardLink.CommandLine.Invocation
import OnboardLink.Proofs.CommandLine.Answers
import OnboardLink.Proofs.Router.SetUp
import OnboardLink.Proofs.Transfer.Outcomes

/-! How commands end. What is wrong with an argument is the caller's fault, and what is wrong with
octets that came over a link is the link's. The buffers that commands prepare are never too short,
so no command blames the program itself. -/
namespace OnboardLink

namespace AddressedPacket

end AddressedPacket
namespace Command

/-- The exit code of a command. -/
def exitCode (files : Files) (command : Command) : ℕ :=
  match command.perform files with
  | .ok _ => 0
  | .error failure => failure.code

variable {files : Files} {command : Command}

end Command

end OnboardLink
