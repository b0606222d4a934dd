import OnboardLink.Text.Hex

/-! Reading JSON texts from left to right: blanks, words, strings, and what may stand between the
parts of lists and objects. Readers take a text and leave the rest of it. -/
namespace OnboardLink.Json

/-- The kinds of fault of a JSON text. Texts are read from left to right, and the first fault that
comes up is the one reported. -/
inductive Fault where
  | truncated
  | malformed
  /-- The text is JSON so far but not of the wanted shape. -/
  | mismatched
  deriving DecidableEq, Repr

def Fault.message : Fault → String
  | truncated => "the text ends too early"
  | malformed => "the text is not JSON"
  | mismatched => "the value has the wrong shape"

/-- Takes a value from the front of a text and leaves the rest. -/
abbrev Reader (α : Type) := List Char → Except Fault (α × List Char)

/-- The four characters that may stand between the parts of a text. -/
def isBlank (c : Char) : Bool := c = ' ' || c = '\t' || c = '\n' || c = '\r'

def skipBlanks (text : List Char) : List Char := text.dropWhile isBlank

def skipWord : List Char → List Char → Except Fault (List Char)
  | [], text => .ok text
  | _ :: _, [] => .error .truncated
  | w :: word, c :: text => if c = w then skipWord word text else .error .malformed

def hexUnit? (a b c d : Char) : Option Nat := do
  return (((← hexValue? a) * 16 + (← hexValue? b)) * 16 + (← hexValue? c)) * 16 + (← hexValue? d)

/-- The fault of a text that ends less than four characters after the mark of a numeric escape. It
is cut short unless what is there already takes four octets, and then is not of digits alone. -/
def shortEscape (text : List Char) : Fault :=
  if text.foldl (fun size c => size + c.utf8Size) 0 < 4 then .truncated else .malformed

def plainEscape? (c : Char) : Option Char :=
  [('"', '"'), ('\\', '\\'), ('/', '/'), ('b', '\x08'), ('f', '\x0c'), ('n', '\n'), ('r', '\r'),
    ('t', '\t')].lookup c

def isLeading (unit : Nat) : Bool := 0xD800 ≤ unit && unit < 0xDC00

def isTrailing (unit : Nat) : Bool := 0xDC00 ≤ unit && unit < 0xE000

def pairOf (leading trailing : Nat) : Char :=
  Char.ofNat ((leading - 0xD800) * 0x400 + (trailing - 0xDC00) + 0x10000)

/-- Reads a string from behind its opening quote to behind its closing one. `taken` holds the
characters read so far, last first. -/
def readStringFrom (taken : List Char) : List Char → Except Fault (String × List Char)
  | [] => .error .truncated
  | '"' :: rest => .ok (String.ofList taken.reverse, rest)
  | '\\' :: 'u' :: a :: b :: c :: d :: rest =>
    match hexUnit? a b c d with
    | none => .error .malformed
    | some unit =>
      if isTrailing unit then .error .malformed
      else if isLeading unit then
        match rest with
        | '\\' :: 'u' :: e :: f :: g :: h :: rest =>
          match hexUnit? e f g h with
          | none => .error .malformed
          | some second =>
            if isTrailing second then readStringFrom (pairOf unit second :: taken) rest
            else .error .malformed
        | '\\' :: 'u' :: rest => .error (shortEscape rest)
        | ['\\'] | [] => .error .truncated
        | _ => .error .malformed
      else readStringFrom (Char.ofNat unit :: taken) rest
  | '\\' :: 'u' :: rest => .error (shortEscape rest)
  | ['\\'] => .error .truncated
  | '\\' :: c :: rest =>
    match plainEscape? c with
    | some c => readStringFrom (c :: taken) rest
    | none => .error .malformed
  | c :: rest => if c < ' ' then .error .malformed else readStringFrom (c :: taken) rest

def readString : Reader String := readStringFrom []

/-- The rest of a text behind a string's closing quote. Unlike a string that is read, one that is
passed over may hold half a pair. -/
def skipString : List Char → Except Fault (List Char)
  | [] => .error .truncated
  | '"' :: rest => .ok rest
  | '\\' :: 'u' :: a :: b :: c :: d :: rest =>
    if (hexUnit? a b c d).isSome then skipString rest else .error .malformed
  | '\\' :: 'u' :: rest => .error (shortEscape rest)
  | ['\\'] => .error .truncated
  | '\\' :: c :: rest => if (plainEscape? c).isSome then skipString rest else .error .malformed
  | c :: rest => if c < ' ' then .error .malformed else skipString rest

/-- Looks for the next element of a list, `first` if none was read yet. Answers the text where the
element begins, or nothing if the list ends, which leaves its bracket. -/
def nextElement (first : Bool) (text : List Char) : Except Fault (Option (List Char)) :=
  match skipBlanks text with
  | [] => .error .truncated
  | ']' :: _ => .ok none
  | c :: rest =>
    if first then .ok (some (c :: rest))
    else if c = ',' then
      match skipBlanks rest with
      | [] => .error .truncated
      | ']' :: _ => .error .malformed
      | rest => .ok (some rest)
    else .error .malformed

def endList (text : List Char) : Except Fault (List Char) :=
  match skipBlanks text with
  | [] => .error .truncated
  | ']' :: rest => .ok rest
  | _ => .error .malformed

/-- Looks for the next member of an object, `first` if none was read yet. Answers the text behind
the opening quote of the member's name, or the text behind the object's end. -/
def nextMember (first : Bool) (text : List Char) : Except Fault (List Char ⊕ List Char) :=
  match skipBlanks text with
  | [] => .error .truncated
  | '}' :: rest => .ok (.inr rest)
  | c :: rest =>
    if first then
      if c = '"' then .ok (.inl rest) else .error .malformed
    else if c = ',' then
      match skipBlanks rest with
      | [] => .error .truncated
      | '"' :: rest => .ok (.inl rest)
      | _ => .error .malformed
    else .error .malformed

def skipColon (text : List Char) : Except Fault (List Char) :=
  match skipBlanks text with
  | [] => .error .truncated
  | ':' :: rest => .ok rest
  | _ => .error .malformed

end OnboardLink.Json
