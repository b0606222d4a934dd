import OnboardLink.SpacePacket.Header

/-! Space packets: a primary header and a data field, which is an optional secondary header followed
by the user data. How long the secondary header is, the packet does not say. -/
namespace OnboardLink

/-- A packet with its data field cut in two. -/
structure SpacePacket where
  header : SpacePacket.Header := {}
  /-- Present exactly when the header says so, or the packet cannot be written. -/
  secondary : Octets := []
  user : Octets := []
  deriving DecidableEq, Repr

namespace SpacePacket

def telemetry (application : UInt16) (user : Octets) : SpacePacket :=
  { header := { application }, user }

def dataFieldLength (packet : SpacePacket) : Nat := packet.secondary.length + packet.user.length

/-- The length of the written packet, also of one that cannot be written. -/
def size (packet : SpacePacket) : Nat := headerSize + packet.dataFieldLength

/-- The octets of the header. The secondary header is judged first, then the length of the data
field against its maximum, then the header's own fields. -/
def headerOctets (packet : SpacePacket) : Except Error Octets :=
  if packet.header.hasSecondary && packet.secondary.isEmpty then .error .secondaryMissing
  else if !packet.header.hasSecondary && !packet.secondary.isEmpty then
    .error .secondaryUnannounced
  else if maxDataField < packet.dataFieldLength then
    .error (.dataTooLong packet.dataFieldLength maxDataField)
  else packet.header.pack packet.dataFieldLength

/-- Writes a packet at the front of a buffer and answers its size, together with the whole buffer
afterwards. A refusal leaves the buffer as it was. -/
def writeInto (packet : SpacePacket) (buffer : Octets) : Except Error Nat × Octets :=
  match packet.headerOctets with
  | .error error => (.error error, buffer)
  | .ok header =>
    if buffer.length < packet.size then
      (.error (.noRoom packet.size buffer.length), buffer)
    else
      let userStart := headerSize + packet.secondary.length
      (.ok packet.size,
        ((buffer.overwrite 0 header).overwrite headerSize packet.secondary).overwrite userStart
          packet.user)

/-- A destination that octets are appended to. It may have room for only so many more. -/
structure Sink where
  written : Octets := []
  room : Option Nat := none
  deriving DecidableEq, Repr

namespace Sink

def admits (sink : Sink) (count : Nat) : Bool := sink.room.all (count ≤ ·)

def append (sink : Sink) (octets : Octets) : Sink :=
  ⟨sink.written ++ octets, sink.room.map (· - octets.length)⟩

end Sink

/-- Appends a packet to a sink, part by part, and answers its size, together with the sink
afterwards. A refusal leaves the sink as it was. -/
def appendTo (packet : SpacePacket) (sink : Sink) : Except Error Nat × Sink :=
  match packet.headerOctets with
  | .error error => (.error error, sink)
  | .ok header =>
    if sink.admits packet.size then
      (.ok packet.size, ((sink.append header).append packet.secondary).append packet.user)
    else
      (.error (.noRoom packet.size (sink.room.getD 0)), sink)

/-- Reads octets as exactly one packet. When the header announces a secondary header, the first
`secondaryLength` octets of the data field are taken for it. -/
def read (octets : Octets) (secondaryLength : Nat) : Except Error SpacePacket :=
  let (header, dataFieldLength) := Header.unpack octets
  let declared := headerSize + dataFieldLength
  let dataField := octets.drop headerSize
  let cut := if header.hasSecondary then secondaryLength else 0
  if octets.length < headerSize then .error (.cutShort octets.length headerSize)
  else if octets.length < declared then .error (.cutShort octets.length declared)
  else if declared < octets.length then .error (.overlong declared octets.length)
  else if dataField.length < cut then .error (.secondaryTooLong cut dataField.length)
  else .ok { header, secondary := dataField.take cut, user := dataField.drop cut }

end SpacePacket
end OnboardLink
