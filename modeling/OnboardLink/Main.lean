import OnboardLink.CommandLine.Invocation

/-! The program. It reads what the pure part asks for and prints what that answers. -/
namespace OnboardLink

def logLevelVariable : String := "SWLINK_LOG_LEVEL"

/-- Reads a file as text. A directory can be opened, so it is told by a fault that names no path. Of
a path that is opened, nothing but its length can be an invalid argument. -/
def readText (path : String) : IO (Except ReadFailure String) := do
  try
    return decodeText (← IO.FS.readBinFile path).toList
  catch
    | .noFileOrDirectory .. => return .error .notFound
    | .inappropriateType none .. => return .error .isDirectory
    | .inappropriateType (some _) .. => return .error .notDirectory
    | .permissionDenied .. => return .error .denied
    | .invalidArgument (some _) .. => return .error .nameTooLong
    | error => return .error (.other (toString error))

def filesFor : Command → IO Files
  | .route _ (.file path) => do
    let content ← readText path
    return fun asked => if asked = path then content else .error .notFound
  | _ => return fun _ => .error .notFound

def printEvent (format : LogFormat) (event : Event) : IO Unit :=
  match format with
  | .text => IO.eprintln event.line
  | .json => IO.eprintln event.toJson.compact

def runInvocation (invocation : Invocation) : IO Nat := do
  let files ← filesFor invocation.command
  let outcome := invocation.run files (← (← IO.getStdout).isTty)
  outcome.log.forM (printEvent invocation.logFormat)
  IO.print outcome.output
  outcome.failure.forM fun message => IO.eprintln ("error: " ++ message)
  return outcome.code

def answerRefusal : Refusal → IO Unit
  | .help => IO.println s!"Usage: {programName} [OPTIONS] <COMMAND>"
  | .version => IO.println versionLine
  | .unreadableValue message => IO.eprintln ("error: " ++ message)
  | _ => IO.eprintln s!"Usage: {programName} [OPTIONS] <COMMAND>"

end OnboardLink

open OnboardLink in
def main (arguments : List String) : IO UInt32 := do
  match Invocation.ofArguments (← IO.getEnv logLevelVariable) arguments with
  | .ok invocation => return (← runInvocation invocation).toUInt32
  | .error refusal =>
    answerRefusal refusal
    return refusal.exitCode.toUInt32
