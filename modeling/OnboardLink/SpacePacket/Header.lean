import OnboardLink.Text.Hex

/-! The primary header of a space packet: six octets, read as three words. The third word counts the
octets of the data field less one, so a data field has between 1 and 65536 octets. -/
namespace OnboardLink
namespace SpacePacket

inductive Kind where
  | telemetry
  | telecommand
  deriving DecidableEq, Repr

def Kind.name : Kind → String
  | telemetry => "telemetry"
  | telecommand => "telecommand"

def Kind.bit : Kind → UInt16
  | telemetry => 0
  | telecommand => 1

/-- Where a packet's data stands in a series of packets. -/
inductive Segment where
  | continuation
  | first
  | last
  | unsegmented
  deriving DecidableEq, Repr

def Segment.name : Segment → String
  | continuation => "continuation"
  | first => "first"
  | last => "last"
  | unsegmented => "unsegmented"

def Segment.bits : Segment → UInt16
  | continuation => 0
  | first => 1
  | last => 2
  | unsegmented => 3

def Segment.ofBits (bits : UInt16) : Segment :=
  if bits = 0 then continuation
  else if bits = 1 then first
  else if bits = 2 then last
  else unsegmented

@[simp] theorem Segment.ofBits_bits (segment : Segment) : ofBits segment.bits = segment := by
  cases segment <;> rfl

/-- The primary header without its length word, which follows from the data field. -/
structure Header where
  version : UInt8 := 0
  kind : Kind := .telemetry
  hasSecondary : Bool := false
  application : UInt16 := 0
  segment : Segment := .unsegmented
  sequenceCount : UInt16 := 0
  deriving DecidableEq, Repr

def headerSize : Nat := 6

def maxVersion : UInt8 := 0x07

def maxApplication : UInt16 := 0x07FF

def maxSequenceCount : UInt16 := 0x3FFF

def maxDataField : Nat := 65536

inductive Error where
  | versionTooGreat (version : UInt8)
  | applicationTooGreat (application : UInt16)
  | sequenceCountTooGreat (count : UInt16)
  | noData
  | dataTooLong (size max : Nat)
  | secondaryMissing
  | secondaryUnannounced
  | secondaryTooLong (length dataField : Nat)
  | cutShort (length needed : Nat)
  | overlong (declared actual : Nat)
  | noRoom (needed available : Nat)
  deriving DecidableEq, Repr

def Error.message : Error → String
  | versionTooGreat version => s!"packet version {version.toNat} out of range (max 7)"
  | applicationTooGreat application =>
    s!"APID {Octets.markedWord application} out of range (max 0x07ff)"
  | sequenceCountTooGreat count => s!"sequence count {count.toNat} out of range (max 16383)"
  | noData => "packet data field is empty"
  | dataTooLong size max => s!"packet data field too large ({size} bytes, max {max})"
  | secondaryMissing => "secondary header flag set without a secondary header"
  | secondaryUnannounced => "secondary header present but flag is clear"
  | secondaryTooLong length dataField =>
    s!"secondary header of {length} bytes exceeds data field of {dataField} bytes"
  | cutShort length needed => s!"truncated packet ({length} bytes, need {needed})"
  | overlong declared actual =>
    s!"packet length mismatch (header declares {declared} bytes, input has {actual})"
  | noRoom needed available =>
    s!"buffer too small for packet ({needed} bytes needed, {available} available)"

namespace Header

/-- Judges the fields against their widths, from the first field to the last. -/
def check (header : Header) : Except Error Unit :=
  if maxVersion < header.version then .error (.versionTooGreat header.version)
  else if maxApplication < header.application then
    .error (.applicationTooGreat header.application)
  else if maxSequenceCount < header.sequenceCount then
    .error (.sequenceCountTooGreat header.sequenceCount)
  else .ok ()

/-- The first word: version, kind, secondary header flag and application process. -/
def identification (header : Header) : UInt16 :=
  (header.version.toUInt16 <<< 13) ||| (header.kind.bit <<< 12) |||
    (header.hasSecondary.toUInt16 <<< 11) ||| header.application

def sequencing (header : Header) : UInt16 := (header.segment.bits <<< 14) ||| header.sequenceCount

/-- The six octets of a header in front of a data field of the given length. Faults of the header
are found before faults of the length. -/
def pack (header : Header) (dataField : Nat) : Except Error Octets :=
  match header.check with
  | .error error => .error error
  | .ok () =>
    if dataField = 0 then .error .noData
    else if maxDataField < dataField then .error (.dataTooLong dataField maxDataField)
    else .ok (Octets.ofWord header.identification ++ Octets.ofWord header.sequencing ++
      Octets.ofWord (dataField - 1).toUInt16)

/-- Reads a header and the length of the data field behind it from the first six octets. Every six
octets are a header. -/
def unpack (octets : Octets) : Header × Nat :=
  let identification := octets.wordAt 0
  let sequencing := octets.wordAt 2
  ({ version := (identification >>> 13).toUInt8
     kind := if identification &&& 0x1000 ≠ 0 then .telecommand else .telemetry
     hasSecondary := identification &&& 0x0800 ≠ 0
     application := identification &&& maxApplication
     segment := .ofBits (sequencing >>> 14)
     sequenceCount := sequencing &&& maxSequenceCount },
   (octets.wordAt 4).toNat + 1)

end Header
end SpacePacket
end OnboardLink
