import OnboardLink.Text.Hex

/-! JSON values and their compact text: no blanks, members in the order in which they are held. -/
namespace OnboardLink.Json

/-- A JSON value. The only numbers here are natural ones. -/
inductive Value where
  | null
  | bool (value : Bool)
  | natural (value : Nat)
  | string (text : String)
  | list (elements : List Value)
  | object (members : List (String × Value))
  deriving Repr, Inhabited

/-- A character as it stands in a string. Quotes, backslashes and control characters are escaped. -/
def escape (c : Char) : List Char :=
  match c with
  | '"' => ['\\', '"']
  | '\\' => ['\\', '\\']
  | '\x08' => ['\\', 'b']
  | '\x0c' => ['\\', 'f']
  | '\n' => ['\\', 'n']
  | '\r' => ['\\', 'r']
  | '\t' => ['\\', 't']
  | c =>
    if c < ' ' then
      ['\\', 'u', '0', '0', hexDigit (c.toNat / 16), hexDigit (c.toNat % 16)]
    else [c]

def quote (text : String) : List Char := '"' :: text.toList.flatMap escape ++ ['"']

namespace Value

mutual

def chars : Value → List Char
  | null => ['n', 'u', 'l', 'l']
  | bool true => ['t', 'r', 'u', 'e']
  | bool false => ['f', 'a', 'l', 's', 'e']
  | natural value => Nat.toDigits 10 value
  | string text => quote text
  | list [] => ['[', ']']
  | list (element :: elements) => '[' :: element.chars ++ restOfList elements
  | object [] => ['\x7b', '\x7d']
  | object ((name, value) :: members) =>
    '\x7b' :: quote name ++ ':' :: value.chars ++ restOfObject members

def restOfList : List Value → List Char
  | [] => [']']
  | element :: elements => ',' :: element.chars ++ restOfList elements

def restOfObject : List (String × Value) → List Char
  | [] => ['\x7d']
  | (name, value) :: members => ',' :: quote name ++ ':' :: value.chars ++ restOfObject members

end

def compact (value : Value) : String := String.ofList value.chars

end Value
end OnboardLink.Json
