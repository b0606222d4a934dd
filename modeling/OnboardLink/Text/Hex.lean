import OnboardLink.Octets

/-! Hexadecimal text of octets. It is shown in lowercase digits alone, and taken in digits of either
case, with blanks anywhere and the mark `0x` in front. -/
namespace OnboardLink

def hexValue? (c : Char) : Option Nat :=
  if '0' ≤ c ∧ c ≤ '9' then some (c.toNat - '0'.toNat)
  else if 'a' ≤ c ∧ c ≤ 'f' then some (c.toNat - 'a'.toNat + 10)
  else if 'A' ≤ c ∧ c ≤ 'F' then some (c.toNat - 'A'.toNat + 10)
  else none

def hexDigit (value : Nat) : Char :=
  if value < 10 then Char.ofNat ('0'.toNat + value) else Char.ofNat ('a'.toNat + (value - 10))

namespace Octets

def hexPair (octet : UInt8) : List Char :=
  [hexDigit (octet.toNat / 16), hexDigit (octet.toNat % 16)]

/-- Two digits for each octet, in order and without separators. -/
def toHex (octets : Octets) : String := String.ofList (octets.flatMap hexPair)

def markedOctet (octet : UInt8) : String := "0x" ++ toHex [octet]

def markedWord (word : UInt16) : String := "0x" ++ toHex (ofWord word)

end Octets

/-- First and last code point of each stretch of blank characters. -/
def blankRanges : List (Nat × Nat) :=
  [(0x0009, 0x000D), (0x0020, 0x0020), (0x0085, 0x0085), (0x00A0, 0x00A0), (0x1680, 0x1680),
    (0x2000, 0x200A), (0x2028, 0x2029), (0x202F, 0x202F), (0x205F, 0x205F), (0x3000, 0x3000)]

def isBlank (c : Char) : Bool :=
  blankRanges.any fun (first, last) => first ≤ c.toNat && c.toNat ≤ last

namespace HexInput

inductive Error where
  | oddLength
  | notDigit (octet : UInt8) (position : Nat)
  deriving DecidableEq, Repr

def codePoint (c : Char) : String := String.ofList (Nat.toDigits 16 c.toNat)

/-- The character with the code of an octet, between single quotes. What cannot be seen is escaped,
and so are backslash and quote. -/
def quoted (octet : UInt8) : String :=
  let c := Char.ofNat octet.toNat
  let text :=
    if c = '\x00' then "\\0"
    else if c = '\\' then "\\\\"
    else if c = '\'' then "\\'"
    else if c.toNat < 0x20 ∨ (0x7F ≤ c.toNat ∧ c.toNat ≤ 0xA0) ∨ c.toNat = 0xAD then
      "\\u\x7b" ++ codePoint c ++ "\x7d"
    else c.toString
  "'" ++ text ++ "'"

def Error.message : Error → String
  | oddLength => "Odd number of digits"
  | notDigit octet position =>
    "Invalid character " ++ quoted octet ++ " at position " ++ toString position

def skipMark : List Char → List Char
  | '0' :: 'x' :: digits | '0' :: 'X' :: digits => digits
  | digits => digits

/-- The text that must consist of digits, in UTF-8. Positions count these octets. -/
def digits (text : String) : Octets :=
  (skipMark (text.toList.filter (!isBlank ·))).flatMap String.utf8EncodeChar

def octetValue? (octet : UInt8) : Option Nat := hexValue? (Char.ofNat octet.toNat)

/-- The octets of pairs of digits, in order behind those already taken, which are held last first.
What is no digit counts as zero. -/
def pairUp (taken : Octets) : Octets → Octets
  | high :: low :: rest =>
    let octet := ((octetValue? high).getD 0 * 16 + (octetValue? low).getD 0).toUInt8
    pairUp (octet :: taken) rest
  | _ => taken.reverse

/-- Reads octets. An odd length is reported first, then the first octet of the text that is no
digit. -/
def read (text : String) : Except Error Octets :=
  let digits := digits text
  if digits.length % 2 ≠ 0 then .error .oddLength
  else match digits.findIdx? fun octet => (octetValue? octet).isNone with
    | some position => .error (.notDigit (digits.octetAt position) position)
    | none => .ok (pairUp [] digits)

end HexInput
end OnboardLink
