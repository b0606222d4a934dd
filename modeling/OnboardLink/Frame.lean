import OnboardLink.Text.Hex

/-! Link frames: the address of the receiving node, a protocol identifier and a payload. On the wire
a two-octet checksum follows the payload. -/
namespace OnboardLink

/-- A frame before it is put on the wire or after it was taken off. -/
structure Frame where
  target : UInt8
  protocol : UInt8
  payload : Octets
  deriving DecidableEq, Repr

namespace Protocol

def packet : UInt8 := 1

def raw : UInt8 := 2

/-- The name of a protocol identifier. All but two are left to the application. -/
def name (identifier : UInt8) : String :=
  if identifier = packet then "PACKET" else if identifier = raw then "RAW" else "UNASSIGNED"

def isAssigned (identifier : UInt8) : Bool := identifier = packet || identifier = raw

end Protocol

namespace Frame

def headerSize : Nat := 2

def trailerSize : Nat := 2

def minSize : Nat := headerSize + trailerSize

def maxPayload : Nat := 65535

def sizeFor (payloadLength : Nat) : Nat := headerSize + payloadLength + trailerSize

def size (frame : Frame) : Nat := sizeFor frame.payload.length

def blank : Frame := ⟨0, Protocol.packet, []⟩

inductive Error where
  | noRoom (needed available : Nat)
  | tooShort (length : Nat)
  | wrongChecksum (received computed : UInt16)
  | payloadTooLong (size max : Nat)
  deriving DecidableEq, Repr

namespace Error

def message : Error → String
  | noRoom needed available =>
    s!"buffer too small for frame ({needed} bytes needed, {available} available)"
  | tooShort length => s!"malformed frame ({length} bytes, minimum 4)"
  | wrongChecksum received computed =>
    s!"checksum mismatch (frame carries {Octets.markedWord received}, " ++
      s!"computed {Octets.markedWord computed})"
  | payloadTooLong size max => s!"payload too large ({size} bytes, max {max})"

/-- Whether the fault came over the wire rather than from the caller. -/
def fromLine : Error → Bool
  | wrongChecksum .. | tooShort _ => true
  | noRoom .. | payloadTooLong .. => false

end Error
end Frame
end OnboardLink
