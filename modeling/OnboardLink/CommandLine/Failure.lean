import OnboardLink.Character
import OnboardLink.Router.Refusal
import OnboardLink.Transfer

/-! How commands end: exit codes, and the failures that end a command early. -/
namespace OnboardLink

namespace ExitCode

def success : Nat := 0

def failure : Nat := 1

def dataInvalid : Nat := 60

def usage : Nat := 64

def noRoute : Nat := 66

def internal : Nat := 125

end ExitCode

structure Failure where
  code : Nat
  message : String
  deriving DecidableEq, Repr

namespace Failure

def during (context : String) (code : Nat) (message : String) : Failure :=
  ⟨code, context ++ ": " ++ message⟩

end Failure

def Character.Error.exitCode : Character.Error → Nat
  | oddOnes .. => ExitCode.dataInvalid
  | notABit _ => ExitCode.usage

def Frame.Error.exitCode : Frame.Error → Nat
  | wrongChecksum .. | tooShort _ | payloadTooLong .. => ExitCode.dataInvalid
  | noRoom .. => ExitCode.internal

/-- The exit code of a packet that cannot be written or read. What an input lacks is its own fault;
what a packet lacks is the caller's. -/
def SpacePacket.Error.exitCode : SpacePacket.Error → Nat
  | cutShort .. | overlong .. | secondaryTooLong .. => ExitCode.dataInvalid
  | noRoom .. => ExitCode.internal
  | versionTooGreat _ | applicationTooGreat _ | sequenceCountTooGreat _ | noData
  | dataTooLong .. | secondaryMissing | secondaryUnannounced => ExitCode.usage

def AddressedPacket.Error.exitCode : AddressedPacket.Error → Nat
  | frame error => error.exitCode
  | packet error => error.exitCode
  | overflow .. => ExitCode.usage

def RouterRefusal.exitCode : RouterRefusal → Nat
  | miss .. => ExitCode.noRoute
  | unreadable .. => ExitCode.failure
  | invalidPlan _ => ExitCode.dataInvalid
  | noSuchPort .. | noSuchChannel _ => ExitCode.usage

namespace Failure

def ofCharacter (context : String) (error : Character.Error) : Failure :=
  during context error.exitCode error.message

def ofFrame (context : String) (error : Frame.Error) : Failure :=
  during context error.exitCode error.message

def ofPacket (context : String) (error : SpacePacket.Error) : Failure :=
  during context error.exitCode error.message

def ofTransfer (context : String) (error : AddressedPacket.Error) : Failure :=
  during context error.exitCode error.message

def ofRouter (context : String) (error : RouterRefusal) : Failure :=
  during context error.exitCode error.message

end Failure
end OnboardLink
