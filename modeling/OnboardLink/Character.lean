import OnboardLink.Text.Hex

/-! Nine-bit characters: an octet and a parity bit that makes the number of ones even. The octets
0 to 3 are reserved for control codes and never stand for data. -/
namespace OnboardLink

inductive ControlCode where
  | escape
  | flowControlToken
  | endOfPacket
  | endOfErrorPacket
  deriving DecidableEq, Repr

namespace ControlCode

def octet : ControlCode → UInt8
  | escape => 0
  | flowControlToken => 1
  | endOfPacket => 2
  | endOfErrorPacket => 3

def ofOctet? (octet : UInt8) : Option ControlCode :=
  [escape, flowControlToken, endOfPacket, endOfErrorPacket].find? (·.octet == octet)

@[simp] theorem ofOctet?_octet (code : ControlCode) : ofOctet? code.octet = some code := by
  cases code <;> rfl

def name : ControlCode → String
  | escape => "ESC"
  | flowControlToken => "FCT"
  | endOfPacket => "EOP"
  | endOfErrorPacket => "EEP"

end ControlCode

inductive Character where
  | data (octet : UInt8)
  | control (code : ControlCode)
  deriving DecidableEq, Repr

namespace Character

inductive Error where
  | oddOnes (octet bit : UInt8)
  | notABit (value : UInt8)
  deriving DecidableEq, Repr

def Error.message : Error → String
  | .oddOnes octet bit =>
    s!"parity error on byte {Octets.markedOctet octet} (received parity {bit.toNat})"
  | .notABit value => s!"invalid parity bit value {value.toNat} (expected 0 or 1)"

def ones (octet : UInt8) : Nat := (List.range 8).countP fun place => octet.toNat.testBit place

def parityBit (octet : UInt8) : UInt8 := UInt8.ofNat (ones octet % 2)

structure Signal where
  octet : UInt8
  parity : UInt8
  deriving DecidableEq, Repr

def encode (octet : UInt8) : Signal := ⟨octet, parityBit octet⟩

/-- Reads a received character. The parity is judged first, so a marker with a wrong parity bit is
a parity error like any other octet. -/
def decode (octet parity : UInt8) : Except Error Character :=
  if 1 < parity then .error (.notABit parity)
  else if parity ≠ parityBit octet then .error (.oddOnes octet parity)
  else .ok <| match ControlCode.ofOctet? octet with
    | some code => .control code
    | none => .data octet

def data? : Character → Option UInt8
  | .data octet => some octet
  | .control _ => none

end Character
end OnboardLink
