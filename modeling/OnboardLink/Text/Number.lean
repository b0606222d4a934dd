import OnboardLink.Text.Hex

/-! Numbers given as arguments. Addresses and words may be decimal or hexadecimal and may stand
among blanks; plain integers are decimal and stand alone. -/
namespace OnboardLink

def trimBlanks (characters : List Char) : List Char :=
  ((characters.dropWhile isBlank).reverse.dropWhile isBlank).reverse

def digitValue? (base : Nat) (c : Char) : Option Nat := (hexValue? c).filter (· < base)

/-- The number that one or more digits of a base stand for, if it is below a limit. Digits only make
a number greater, so it is given up as soon as it is too great. -/
def positional? (limit base : Nat) : List Char → Option Nat
  | [] => none
  | digits => digits.foldlM (fun value c =>
      ((digitValue? base c).map (value * base + ·)).filter (· < limit)) 0

inductive NumberError where
  | invalid (trimmed : String)
  | tooWide (text : String) (bits : Nat)
  deriving DecidableEq, Repr

def NumberError.message : NumberError → String
  | invalid trimmed => s!"invalid number: {trimmed}"
  | tooWide text bits => s!"{text} does not fit in {bits} bits"

def splitBase : List Char → Nat × List Char
  | '0' :: 'x' :: digits | '0' :: 'X' :: digits => (16, digits)
  | digits => (10, digits)

def skipPlus : List Char → List Char
  | '+' :: digits => digits
  | digits => digits

/-- The number below `2^64` that a text without blanks around it stands for. -/
def number? (characters : List Char) : Option Nat :=
  let (base, digits) := splitBase characters
  positional? UInt64.size base (skipPlus digits)

def readWidth (bits : Nat) (text : String) : Except NumberError Nat :=
  let trimmed := trimBlanks text.toList
  match number? trimmed with
  | none => .error (.invalid (String.ofList trimmed))
  | some value => if value < Nat.pow 2 bits then .ok value else .error (.tooWide text bits)

def readOctet (text : String) : Except NumberError UInt8 := (readWidth 8 text).map Nat.toUInt8

def readWord (text : String) : Except NumberError UInt16 := (readWidth 16 text).map Nat.toUInt16

inductive IntegerError where
  | empty
  | invalidDigit
  | tooGreat
  | tooSmall
  deriving DecidableEq, Repr

def IntegerError.message : IntegerError → String
  | empty => "cannot parse integer from empty string"
  | invalidDigit => "invalid digit found in string"
  | tooGreat => "number too large to fit in target type"
  | tooSmall => "number too small to fit in target type"

/-- Reads further decimal digits of a magnitude. The first character that is no digit or takes the
magnitude beyond its limit is reported. -/
def readMagnitude (limit : Nat) (beyond : IntegerError) :
    Nat → List Char → Except IntegerError Nat
  | value, [] => .ok value
  | value, c :: rest =>
    match digitValue? 10 c with
    | none => .error .invalidDigit
    | some digit =>
      if limit < value * 10 + digit then .error beyond
      else readMagnitude limit beyond (value * 10 + digit) rest

def readDigitsOf (limit : Nat) (beyond : IntegerError) : List Char → Except IntegerError Nat
  | [] => .error .invalidDigit
  | digits => readMagnitude limit beyond 0 digits

def readSigned (text : String) : Except IntegerError Int :=
  match text.toList with
  | [] => .error .empty
  | '-' :: digits => (readDigitsOf (Nat.pow 2 63) .tooSmall digits).map fun value => -(value : Int)
  | characters =>
    (readDigitsOf (Nat.pow 2 63 - 1) .tooGreat (skipPlus characters)).map fun value => (value : Int)

def readUnsigned (text : String) : Except IntegerError Nat :=
  match text.toList with
  | [] => .error .empty
  | characters => readDigitsOf (UInt64.size - 1) .tooGreat (skipPlus characters)

end OnboardLink
