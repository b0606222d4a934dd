import OnboardLink.CommandLine.Failure
import OnboardLink.Json.Value
import OnboardLink.Router
import OnboardLink.Settings
import OnboardLink.Text.Hex

/-! What the program can be asked for, and what it answers: a record of named values, or lines for the
version. -/
namespace OnboardLink

open Json

inductive PayloadInput where
  | hex (digits : String)
  | text (words : String)
  deriving DecidableEq, Repr

inductive PlanSource where
  | file (path : String)
  | given (plan : RouterPlan)
  deriving DecidableEq, Repr

inductive Command where
  /-- Encode a character, and decode it again with the parity bit given. -/
  | character (octet : UInt8) (parity : Option UInt8)
  | checksum (payload : PayloadInput) (register : UInt16)
  | encodeFrame (target protocol : UInt8) (payload : PayloadInput)
  | decodeFrame (digits : String)
  | createPacket (device target : UInt8) (application : UInt16) (payload : PayloadInput)
  | decodePacket (digits : String) (secondaryLength : Nat)
  | route (target : UInt8) (plan : PlanSource)
  | version (extended : Bool)
  deriving DecidableEq, Repr

inductive Report where
  | record (fields : List (String × Value))
  | lines (texts : List String)

def readHex (text : String) : Except Failure Octets :=
  match HexInput.read text with
  | .ok octets => .ok octets
  | .error error => .error (.during "invalid hex input" ExitCode.usage error.message)

def PayloadInput.octets : PayloadInput → Except Failure Octets
  | .hex digits => readHex digits
  | .text words => .ok (encodeText words)

def Counters.toJson (counters : Counters) : Value := .object [
  ("packets_sent", .natural counters.packetsSent.toNat),
  ("packets_received", .natural counters.packetsReceived.toNat),
  ("crc_errors", .natural counters.checksumErrors.toNat),
  ("frame_errors", .natural counters.frameErrors.toNat),
  ("link_errors", .natural counters.linkErrors.toNat),
  ("bytes_sent", .natural counters.octetsSent.toNat),
  ("bytes_received", .natural counters.octetsReceived.toNat)]

def zeros (length : Nat) : Octets := List.replicate length 0

/-- The buffer that a sent packet is written into: room for the frame of a packet with the given
user data and nothing else. -/
def packetBuffer (user : Octets) : Octets :=
  zeros (Frame.sizeFor (SpacePacket.headerSize + user.length))

/-- Encodes an octet and decodes it with the parity bit given, or else its own. -/
def describeCharacter (octet : UInt8) (parity : Option UInt8) : Except Failure Report := do
  let signal := Character.encode octet
  let parity := parity.getD signal.parity
  let (kind, control) ← match Character.decode signal.octet parity with
    | .error error => throw (.ofCharacter "decode" error)
    | .ok (.data _) => pure ("data", Value.null)
    | .ok (.control code) => pure ("control", Value.string code.name)
  return .record [
    ("byte", .string (Octets.markedOctet signal.octet)), ("parity", .octet parity),
    ("kind", .string kind), ("control", control)]

def describeChecksum (payload : PayloadInput) (register : UInt16) : Except Failure Report := do
  let octets ← payload.octets
  return .record [
    ("len", .natural octets.length), ("init", .string (Octets.markedWord register)),
    ("crc", .string (Octets.markedWord (Checksum.absorb register octets)))]

def Report.ofEncoded (size : Nat) (checksum : UInt16) (octets : Octets) : Report := .record [
  ("size", .natural size), ("crc", .string (Octets.markedWord checksum)),
  ("frame", .string (Octets.toHex octets))]

def Report.ofCreated (size : Nat) (octets : Octets) (counters : Counters) : Report := .record [
  ("size", .natural size), ("frame", .string (Octets.toHex octets)),
  ("statistics", counters.toJson)]

def Report.ofReceived (received : AddressedPacket) (counters : Counters) : Report :=
  let header := received.packet.header
  .record [
    ("target_addr", .octet received.target), ("protocol_id", .octet received.protocol),
    ("version", .octet header.version), ("packet_type", .string header.kind.name),
    ("apid", .natural header.application.toNat),
    ("sequence_flags", .string header.segment.name),
    ("sequence_count", .natural header.sequenceCount.toNat),
    ("secondary_header",
      if header.hasSecondary then .string (Octets.toHex received.packet.secondary) else .null),
    ("user_data", .string (Octets.toHex received.packet.user)),
    ("statistics", counters.toJson)]

def describeEncoded (target protocol : UInt8) (payload : PayloadInput) :
    Except Failure Report := do
  let octets ← payload.octets
  let frame : Frame := ⟨target, protocol, octets⟩
  match frame.writeInto (zeros frame.size) with
  | (.error error, _) => throw (.ofFrame "encode" error)
  | (.ok size, buffer) =>
    return .ofEncoded size (buffer.wordAt (size - Frame.trailerSize)) (buffer.take size)

def describeDecoded (digits : String) : Except Failure Report := do
  let octets ← readHex digits
  match Frame.read octets with
  | .error error => throw (.ofFrame "decode" error)
  | .ok frame =>
    return .record [
      ("target_addr", .octet frame.target), ("protocol_id", .octet frame.protocol),
      ("protocol", .string (Protocol.name frame.protocol)),
      ("payload_len", .natural frame.payload.length),
      ("payload", .string (Octets.toHex frame.payload))]

def describeCreated (device target : UInt8) (application : UInt16) (payload : PayloadInput) :
    Except Failure Report := do
  let user ← payload.octets
  let sent := (AddressedPacket.telemetry device target application user).sendInto
    (packetBuffer user) {}
  match sent.result with
  | .error error => throw (.ofTransfer "create" error)
  | .ok size => return .ofCreated size (sent.destination.take size) sent.counters

def describeReceived (digits : String) (secondaryLength : Nat) : Except Failure Report := do
  let octets ← readHex digits
  match AddressedPacket.receive octets secondaryLength {} with
  | (.error error, _) => throw (.ofTransfer "decode" error)
  | (.ok received, counters) => return .ofReceived received counters

def RouterPlan.ofFile (files : Files) (path : String) : Except RouterRefusal RouterPlan :=
  match files path with
  | .error reason => .error (.unreadable path reason)
  | .ok text => (RouterPlan.ofText text).mapError .invalidPlan

def PlanSource.plan (files : Files) : PlanSource → Except RouterRefusal RouterPlan
  | .file path => RouterPlan.ofFile files path
  | .given plan => .ok plan

def probe (target : UInt8) : Frame := ⟨target, Protocol.packet, []⟩

def describeRoute (files : Files) (target : UInt8) (source : PlanSource) :
    Except Failure Report := do
  let router ← (source.plan files >>= Router.ofPlan).mapError (.ofRouter "config")
  match router.dispatch (probe target) with
  | (.error error, _) => throw (.ofRouter "route" error)
  | (.ok decision, router) =>
    let (word, port, state) := match decision with
      | .stay => ("local", Value.null, Value.null)
      | .forward port =>
        ("forward", .octet port, (router.port? port).elim .null fun record => record.state.toJson)
    return .record [
      ("device_addr", .octet router.device), ("target_addr", .octet target),
      ("decision", .string word), ("port", port), ("link_state", state)]

def programName : String := "swlink"

def programVersion : String := "0.1.0"

def versionLine : String := programName ++ " " ++ programVersion

/-- The platform that the program is built for. -/
structure Platform where
  triple : String := "x86_64-unknown-linux-gnu"
  system : String := "linux"
  architecture : String := "x86_64"

def describeVersion (extended : Bool) : Report :=
  let platform : Platform := {}
  .lines <| if extended then [
    "name: " ++ programName,
    "version: " ++ programVersion,
    "build_target: " ++ platform.triple,
    "target_os: " ++ platform.system,
    "target_arch: " ++ platform.architecture,
    "crc: CRC-16-CCITT poly=" ++ Octets.markedWord Checksum.generator ++
      " init=" ++ Octets.markedWord Checksum.initial,
    s!"max_ports: {Router.maxPorts}",
    s!"max_channels: {Channel.count}"]
  else [versionLine]

/-- Does what a command asks, with the given files in reach. -/
def Command.perform (files : Files) : Command → Except Failure Report
  | .character octet parity => describeCharacter octet parity
  | .checksum payload register => describeChecksum payload register
  | .encodeFrame target protocol payload => describeEncoded target protocol payload
  | .decodeFrame digits => describeDecoded digits
  | .createPacket device target application payload =>
    describeCreated device target application payload
  | .decodePacket digits secondaryLength => describeReceived digits secondaryLength
  | .route target source => describeRoute files target source
  | .version extended => .ok (describeVersion extended)

end OnboardLink
