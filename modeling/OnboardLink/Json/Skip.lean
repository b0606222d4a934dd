import OnboardLink.Json.Numeral

/-! Passing over JSON values of any kind and depth. The containers that are open stand in a list, so
depth costs nothing but that list. -/
namespace OnboardLink.Json

inductive Container where
  | list
  | object
  deriving DecidableEq, Repr

/-- How far a value has been passed over. -/
structure Passage where
  /-- The containers that are open, innermost first. -/
  inside : List Container
  /-- Whether a value comes next. If not, one has just ended. -/
  atValue : Bool
  rest : List Char
  deriving DecidableEq, Repr

def skipScalar : List Char → Except Fault (List Char)
  | [] => .error .truncated
  | 'n' :: rest => skipWord ['u', 'l', 'l'] rest
  | 't' :: rest => skipWord ['r', 'u', 'e'] rest
  | 'f' :: rest => skipWord ['a', 'l', 's', 'e'] rest
  | '"' :: rest => skipString rest
  | c :: rest => if c = '-' ∨ c.isDigit then skipNumber (c :: rest) else .error .malformed

def skipName (text : List Char) : Except Fault (List Char) :=
  match skipBlanks text with
  | [] => .error .truncated
  | '"' :: rest => do skipColon (← skipString rest)
  | _ => .error .malformed

def skipLead : Container → List Char → Except Fault (List Char)
  | .list, text => .ok text
  | .object, text => skipName text

def Container.closing : Container → Char
  | .list => ']'
  | .object => '}'

namespace Passage

def enter (inside : List Container) (container : Container) (text : List Char) :
    Except Fault Passage :=
  match skipBlanks text with
  | [] => .error .truncated
  | c :: rest =>
    if c = container.closing then .ok ⟨inside, false, rest⟩
    else return ⟨container :: inside, true, ← skipLead container (c :: rest)⟩

def leave (inside : List Container) (container : Container) (text : List Char) :
    Except Fault Passage :=
  match skipBlanks text with
  | [] => .error .truncated
  | c :: rest =>
    if c = container.closing then .ok ⟨inside, false, rest⟩
    else if c = ',' then return ⟨container :: inside, true, ← skipLead container rest⟩
    else .error .malformed

/-- Passes over a value that holds no others, or over one mark of a container and what leads up to
its next value. -/
def step : Passage → Except Fault Passage
  | ⟨inside, true, text⟩ =>
    match skipBlanks text with
    | '[' :: rest => enter inside .list rest
    | '{' :: rest => enter inside .object rest
    | rest => return ⟨inside, false, ← skipScalar rest⟩
  | ⟨container :: inside, false, text⟩ => leave inside container text
  | ⟨[], false, text⟩ => .ok ⟨[], false, text⟩

/-- The rest of a text behind the value. Each step takes a character at least, so there are as many
as the text of `bound` has characters, and where it has none left the text has come to its end. -/
def toEnd : List Char → Passage → Except Fault (List Char)
  | _, ⟨[], false, text⟩ => .ok text
  | [], _ => .error .truncated
  | _ :: bound, passage => do toEnd bound (← passage.step)

end Passage

def skipValue (text : List Char) : Except Fault (List Char) :=
  Passage.toEnd text ⟨[], true, text⟩

end OnboardLink.Json
