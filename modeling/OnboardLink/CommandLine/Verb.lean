import OnboardLink.CommandLine.Scan

/-! The commands that do something: which arguments each of them takes, and what these make up. -/
namespace OnboardLink

def sharedOptions : List Parameter := [
  .of "format" (choice OutputFormat.ofName?) .format,
  .of "log-format" (choice LogFormat.ofName?) .logFormat,
  .of "log-level" (choice LogLevel.ofName?) .logLevel]

/-- Parameters of a payload; one of them has to be given. -/
def payloadOptions : List Parameter := [.of "hex" anyText .hex, .of "text" anyText .text]

inductive Verb where
  | character
  | checksum
  | encodeFrame
  | decodeFrame
  | createPacket
  | decodePacket
  | route
  | version
  deriving DecidableEq, Repr

def Verb.level : Verb → Level
  | character => {
    options := .of "parity" plainOctet .parity :: sharedOptions
    positionals := [.of "VALUE" (numeric readOctet) .octet] }
  | checksum => {
    options := .of "init" (numeric readWord) .register :: payloadOptions ++ sharedOptions }
  | encodeFrame => {
    options := .of "target" (numeric readOctet) .target ::
      .of "protocol" (numeric readOctet) .protocol :: payloadOptions ++ sharedOptions }
  | decodeFrame => {
    options := sharedOptions
    positionals := [.of "HEX" anyText .digits] }
  | createPacket => {
    options := .of "device" (numeric readOctet) .device ::
      .of "target" (numeric readOctet) .target ::
      .of "apid" (numeric readWord) .application :: payloadOptions ++ sharedOptions }
  | decodePacket => {
    options := .of "secondary-header-len" plainLength .secondaryLength :: sharedOptions
    positionals := [.of "HEX" anyText .digits] }
  | route => {
    options := .of "config" readPath .planFile ::
      .of "device" (numeric readOctet) .device ::
      .of "ports" plainOctet .ports ::
      { Parameter.of "route" readRoute .route with repeatable := true } ::
      { Parameter.of "connected" plainOctets .connected with repeatable := true } ::
      { Parameter.of "channels" plainOctets .channels with repeatable := true } ::
      sharedOptions
    positionals := [.of "TARGET" (numeric readOctet) .target] }
  | version => {
    options := sharedOptions
    flags := [("extended", .extended)] }

def Verb.conflicts : Verb → List (String × String)
  | checksum | encodeFrame | createPacket => [("hex", "text")]
  | route => ["device", "ports", "route", "connected", "channels"].map (("config", ·))
  | character | decodeFrame | decodePacket | version => []

def pick {α : Type} (kind : Setting → Option α) (settings : List Setting) : Option α :=
  settings.findSome? kind

def pickPayload : List Setting → Option PayloadInput := pick fun
  | .hex digits => some (.hex digits)
  | .text words => some (.text words)
  | _ => none

def givenPlan (settings : List Setting) : RouterPlan where
  device := (pick (fun | .device address => some address | _ => none) settings).getD 0
  ports := (pick (fun | .ports count => some count | _ => none) settings).getD 8
  routes := settings.filterMap fun | .route route => some route | _ => none
  connected := settings.flatMap fun | .connected ports => ports | _ => []
  channels := settings.flatMap fun | .channels channels => channels | _ => []

/-- The command that settings make up, unless something it needs is missing. -/
def Verb.command? (settings : List Setting) : Verb → Option Command
  | character => do
    let octet ← pick (fun | .octet value => some value | _ => none) settings
    return .character octet (pick (fun | .parity value => some value | _ => none) settings)
  | checksum => do
    let register := pick (fun | .register value => some value | _ => none) settings
    return .checksum (← pickPayload settings) (register.getD Checksum.initial)
  | encodeFrame => do
    let target ← pick (fun | .target address => some address | _ => none) settings
    let protocol := pick (fun | .protocol identifier => some identifier | _ => none) settings
    return .encodeFrame target (protocol.getD Protocol.packet) (← pickPayload settings)
  | decodeFrame => do
    return .decodeFrame (← pick (fun | .digits digits => some digits | _ => none) settings)
  | createPacket => do
    let device := pick (fun | .device address => some address | _ => none) settings
    let target ← pick (fun | .target address => some address | _ => none) settings
    let application ← pick (fun | .application identifier => some identifier | _ => none) settings
    return .createPacket (device.getD 0) target application (← pickPayload settings)
  | decodePacket => do
    let length := pick (fun | .secondaryLength length => some length | _ => none) settings
    let digits ← pick (fun | .digits digits => some digits | _ => none) settings
    return .decodePacket digits (length.getD 0)
  | route => do
    let target ← pick (fun | .target address => some address | _ => none) settings
    let file := pick (fun | .planFile path => some path | _ => none) settings
    return .route target (file.elim (.given (givenPlan settings)) .file)
  | version => return .version (settings.contains .extended)

end OnboardLink
