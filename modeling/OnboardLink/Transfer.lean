import OnboardLink.Frame.Wire
import OnboardLink.SpacePacket

/-! Space packets on their way through frames, one packet to a frame. Every transfer is counted,
modulo `2^64`. -/
namespace OnboardLink

/-- What one node has sent and received since its counters were last cleared. -/
structure Counters where
  packetsSent : UInt64 := 0
  packetsReceived : UInt64 := 0
  checksumErrors : UInt64 := 0
  /-- Frames refused for any other reason, their packets included. -/
  frameErrors : UInt64 := 0
  linkErrors : UInt64 := 0
  octetsSent : UInt64 := 0
  octetsReceived : UInt64 := 0
  deriving DecidableEq, Repr

namespace Counters

def countSent (counters : Counters) (size : Nat) : Counters :=
  { counters with
    packetsSent := counters.packetsSent + 1, octetsSent := counters.octetsSent + size.toUInt64 }

def countReceived (counters : Counters) (size : Nat) : Counters :=
  { counters with
    packetsReceived := counters.packetsReceived + 1
    octetsReceived := counters.octetsReceived + size.toUInt64 }

def countChecksumError (counters : Counters) : Counters :=
  { counters with checksumErrors := counters.checksumErrors + 1 }

def countFrameError (counters : Counters) : Counters :=
  { counters with frameErrors := counters.frameErrors + 1 }

def countLinkError (counters : Counters) : Counters :=
  { counters with linkErrors := counters.linkErrors + 1 }

end Counters

structure Addressing where
  device : UInt8 := 0
  target : UInt8 := 0
  protocol : UInt8 := Protocol.packet
  /-- Kept for setting up a link. Frames carry a checksum in any case. -/
  checksum : Bool := true
  deriving DecidableEq, Repr

/-- A space packet with the address and protocol of the frame that carries it. -/
structure AddressedPacket where
  target : UInt8
  protocol : UInt8
  packet : SpacePacket
  deriving DecidableEq, Repr

namespace AddressedPacket

inductive Error where
  | frame (error : Frame.Error)
  | packet (error : SpacePacket.Error)
  | overflow (size max : Nat)
  deriving DecidableEq, Repr

namespace Error

/-- The text shown for a packet that cannot be sent or received. Faults of the frame and of the
packet keep their own text. -/
def message : Error → String
  | frame error => error.message
  | packet error => error.message
  | overflow size max =>
    s!"serialized packet of {size} bytes does not fit a frame payload (max {max})"

def fromLine : Error → Bool
  | frame error => error.fromLine
  | packet _ | overflow .. => false

end Error

def blank (addressing : Addressing) : AddressedPacket :=
  ⟨addressing.target, addressing.protocol, {}⟩

/-- A telemetry packet to a target. The sender's own address does not travel. -/
def telemetry (device target : UInt8) (application : UInt16) (user : Octets) : AddressedPacket :=
  { blank { device, target } with packet := .telemetry application user }

/-- The payload of the frame that carries the packet. A packet too long for any frame is refused
whatever else is wrong with it. -/
def payload (sent : AddressedPacket) : Except Error Octets :=
  if Frame.maxPayload < sent.packet.size then
    .error (.overflow sent.packet.size Frame.maxPayload)
  else match sent.packet.appendTo {} with
    | (.error error, _) => .error (.packet error)
    | (.ok _, sink) => .ok sink.written

/-- What sending leaves behind: the answer, the destination and the counters. -/
structure Sent where
  result : Except Error Nat
  destination : Octets
  counters : Counters

/-- Sends a packet by a frame writer. Only a written frame is counted. -/
def sendBy (write : Frame → Octets → Except Frame.Error Nat × Octets) (sent : AddressedPacket)
    (destination : Octets) (counters : Counters) : Sent :=
  match sent.payload with
  | .error error => ⟨.error error, destination, counters⟩
  | .ok payload =>
    match write ⟨sent.target, sent.protocol, payload⟩ destination with
    | (.error error, destination) => ⟨.error (.frame error), destination, counters⟩
    | (.ok size, destination) => ⟨.ok size, destination, counters.countSent size⟩

def sendInto : AddressedPacket → Octets → Counters → Sent := sendBy Frame.writeInto

def sendTo : AddressedPacket → Octets → Counters → Sent := sendBy Frame.appendTo

def countFailure (counters : Counters) : Frame.Error → Counters
  | .wrongChecksum .. => counters.countChecksumError
  | _ => counters.countFrameError

/-- Receives the packet that a frame carries. When its header announces a secondary header, that is
taken to have the given length. Each call adds to exactly one of three counters. -/
def receive (wire : Octets) (secondaryLength : Nat) (counters : Counters) :
    Except Error AddressedPacket × Counters :=
  match Frame.read wire with
  | .error error => (.error (.frame error), countFailure counters error)
  | .ok frame =>
    match SpacePacket.read frame.payload secondaryLength with
    | .error error => (.error (.packet error), counters.countFrameError)
    | .ok packet =>
      (.ok ⟨frame.target, frame.protocol, packet⟩, counters.countReceived wire.length)

end AddressedPacket
end OnboardLink
