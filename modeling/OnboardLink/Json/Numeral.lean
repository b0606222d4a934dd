import OnboardLink.Json.Scan

/-! The numbers of JSON texts: their form, and which of them are whole numbers written as such. A
number that is read must lie in the range of binary floating point with 64 bits, whatever it is
wanted for; one that is passed over may be of any size. -/
namespace OnboardLink.Json

structure Numeral where
  negative : Bool
  whole : List Char
  fraction : Option (List Char) := none
  /-- The exponent, if there is one: whether it is negative, and its digits. -/
  exponent : Option (Bool × List Char) := none
  deriving DecidableEq, Repr

/-- Reads one or more digits. `atEnd` is the fault of a text that ends before the first. -/
def readDigits (atEnd : Fault) (text : List Char) : Except Fault (List Char × List Char) :=
  match text.span Char.isDigit with
  | ([], []) => .error atEnd
  | ([], _ :: _) => .error .malformed
  | (digits, rest) => .ok (digits, rest)

def readFraction (atEnd : Fault) : List Char → Except Fault (Option (List Char) × List Char)
  | '.' :: rest => do
    let (digits, rest) ← readDigits atEnd rest
    return (some digits, rest)
  | rest => .ok (none, rest)

def readSign : List Char → Bool × List Char
  | '-' :: rest => (true, rest)
  | '+' :: rest => (false, rest)
  | rest => (false, rest)

def readExponent (atEnd : Fault) : List Char → Except Fault (Option (Bool × List Char) × List Char)
  | c :: rest =>
    if c = 'e' ∨ c = 'E' then do
      let (negative, rest) := readSign rest
      let (digits, rest) ← readDigits atEnd rest
      return (some (negative, digits), rest)
    else .ok (none, c :: rest)
  | [] => .ok (none, [])

/-- Reads a number from its sign or first digit on. A leading zero must be the only digit before
the point. -/
def readNumeral (atEnd : Fault) (text : List Char) : Except Fault (Numeral × List Char) := do
  let negative := text.head? = some '-'
  let (whole, rest) ← readDigits atEnd (if negative then text.drop 1 else text)
  if whole.head? = some '0' && whole.length ≠ 1 then throw .malformed
  let (fraction, rest) ← readFraction atEnd rest
  let (exponent, rest) ← readExponent atEnd rest
  return (⟨negative, whole, fraction, exponent⟩, rest)

def shiftIn (value : Nat) (digit : Char) : Nat := value * 10 + (digit.toNat - '0'.toNat)

def decimalValue (digits : List Char) : Nat := digits.foldl shiftIn 0

namespace Numeral

def maxSignificand : Nat := UInt64.size - 1

/-- Takes digits before the point into a significand until it is full. From then on each digit only
counts as a place. -/
def takeWhole (significand : Nat) : List Char → Nat × Nat
  | [] => (significand, 0)
  | digit :: digits =>
    let next := shiftIn significand digit
    if next ≤ maxSignificand then takeWhole next digits else (significand, digits.length + 1)

def takeFraction (significand places : Nat) : List Char → Nat × Nat
  | [] => (significand, places)
  | digit :: digits =>
    let next := shiftIn significand digit
    if next ≤ maxSignificand then takeFraction next (places + 1) digits else (significand, places)

/-- The greatest exponent that is told from greater ones. No text is long enough for its other
digits to make up for more. -/
def maxExponent : Nat := Nat.pow 2 31 - 1

def exponentValue (digits : List Char) : Nat :=
  digits.foldl (fun value digit => min maxExponent (shiftIn value digit)) 0

/-- The significand kept of a number and the power of ten that goes with it. -/
def scientific (numeral : Numeral) : Nat × Int :=
  let (significand, dropped) := takeWhole 0 numeral.whole
  let (significand, places) := takeFraction significand 0 (numeral.fraction.getD [])
  let exponent : Int := match numeral.exponent with
    | none => 0
    | some (true, digits) => -(exponentValue digits : Int)
    | some (false, digits) => exponentValue digits
  (significand, (dropped : Int) - (places : Int) + exponent)

/-- The nearest number with 53 significant binary places; of two, the one with an even last
place. -/
def roundBinary (value : Nat) : Nat :=
  let unit := Nat.pow 2 (value.log2 + 1 - 53)
  let quotient := value / unit
  let remainder := value % unit
  if 2 * remainder < unit || (2 * remainder = unit && quotient % 2 = 0) then quotient * unit
  else (quotient + 1) * unit

/-- Half a last place above the greatest number of 64-bit binary floating point. From here on
numbers round to infinity. -/
def infinity : Nat := Nat.pow 2 1024 - Nat.pow 2 970

/-- Whether a number is too great for binary floating point with 64 bits, when significand and
power of ten are rounded first. Every significand is in range by itself, and no power beyond 308
is. -/
def isTooGreat (numeral : Numeral) : Bool :=
  let (significand, exponent) := numeral.scientific
  significand ≠ 0 && 0 < exponent &&
    (308 < exponent ||
      infinity ≤ roundBinary significand * roundBinary (Nat.pow 10 exponent.toNat))

def natural? (numeral : Numeral) : Option Nat :=
  if numeral.negative || numeral.fraction.isSome || numeral.exponent.isSome then none
  else if decimalValue numeral.whole ≤ maxSignificand then some (decimalValue numeral.whole)
  else none

end Numeral

def readNumber : Reader Numeral := fun text => do
  let (numeral, rest) ← readNumeral .truncated text
  if numeral.isTooGreat then throw .malformed
  return (numeral, rest)

/-- The rest of a text behind a number that is not wanted. Such a number cannot be cut short: where
the text ends inside it, it is malformed. -/
def skipNumber (text : List Char) : Except Fault (List Char) :=
  (readNumeral .malformed text).map (·.2)

end OnboardLink.Json
