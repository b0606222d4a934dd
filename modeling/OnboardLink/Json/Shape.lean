import OnboardLink.Json.Skip

/-! Reading values of a wanted shape: numbers, truth values, lists, and records whose fields may
come by name or by position. A value of another shape is reported once its kind is known. -/
namespace OnboardLink.Json

/-- The fault of a value that is not of the wanted kind, from its first character on. Words, numbers
and strings are read to their end first; of lists and objects the opening is enough. -/
def unwanted (text : List Char) : Fault :=
  let afterwards {α : Type} : Except Fault α → Fault
    | .ok _ => .mismatched
    | .error fault => fault
  match text with
  | [] => .truncated
  | 'n' :: rest => afterwards (skipWord ['u', 'l', 'l'] rest)
  | 't' :: rest => afterwards (skipWord ['r', 'u', 'e'] rest)
  | 'f' :: rest => afterwards (skipWord ['a', 'l', 's', 'e'] rest)
  | '"' :: rest => afterwards (readString rest)
  | '[' :: _ | '{' :: _ => .mismatched
  | c :: rest => if c = '-' ∨ c.isDigit then afterwards (readNumber (c :: rest)) else .malformed

def readNatural (greatest : Nat) : Reader Nat := fun text =>
  match skipBlanks text with
  | [] => .error .truncated
  | c :: rest =>
    if c = '-' ∨ c.isDigit then do
      let (numeral, rest) ← readNumber (c :: rest)
      match numeral.natural? with
      | some value => if value ≤ greatest then return (value, rest) else throw .mismatched
      | none => throw .mismatched
    else .error (unwanted (c :: rest))

def readUInt8 : Reader UInt8 := fun text =>
  (readNatural 0xFF text).map fun (value, rest) => (value.toUInt8, rest)

def readUInt32 : Reader UInt32 := fun text =>
  (readNatural 0xFFFFFFFF text).map fun (value, rest) => (value.toUInt32, rest)

def readBool : Reader Bool := fun text =>
  match skipBlanks text with
  | [] => .error .truncated
  | 't' :: rest => (skipWord ['r', 'u', 'e'] rest).map (true, ·)
  | 'f' :: rest => (skipWord ['a', 'l', 's', 'e'] rest).map (false, ·)
  | rest => .error (unwanted rest)

def readNull : Reader Unit := fun text =>
  match skipBlanks text with
  | [] => .error .truncated
  | 'n' :: rest => (skipWord ['u', 'l', 'l'] rest).map ((), ·)
  | rest => .error (unwanted rest)

/-- Reads elements up to the end of a list. Each takes a character at least, so there are no more
than the text of `bound` has characters. `taken` holds the elements read so far, last first. -/
def readElements {α : Type} (element : Reader α) :
    List Char → List α → Bool → List Char → Except Fault (List α × List Char)
  | [], _, _, _ => .error .truncated
  | _ :: bound, taken, first, text => do
    match ← nextElement first text with
    | none => return (taken.reverse, ← endList text)
    | some text =>
      let (value, text) ← element text
      readElements element bound (value :: taken) false text

def readList {α : Type} (element : Reader α) : Reader (List α) := fun text =>
  match skipBlanks text with
  | [] => .error .truncated
  | '[' :: rest => readElements element rest [] true rest
  | rest => .error (unwanted rest)

/-- A field of a record: its name, and how its value is read into what is known of the record. -/
structure Field (δ : Type) where
  name : String
  read : δ → Reader δ

def Field.of {α δ : Type} (name : String) (value : Reader α) (store : δ → α → δ) : Field δ :=
  ⟨name, fun draft text => (value text).map fun (value, rest) => (store draft value, rest)⟩

/-- The shape of a record: what is known of it at first, its fields in order, and the record itself
once no more fields come. -/
structure Shape (δ α : Type) where
  start : δ
  fields : List (Field δ)
  finish : δ → Option α

def Shape.withDefaults {α : Type} (default : α) (fields : List (Field α)) : Shape α α :=
  ⟨default, fields, some⟩

def readPositions {δ : Type} : List (Field δ) → Bool → δ → Reader δ
  | [], _, draft, text => .ok (draft, text)
  | field :: fields, first, draft, text => do
    match ← nextElement first text with
    | none => return (draft, text)
    | some text =>
      let (draft, text) ← field.read draft text
      readPositions fields false draft text

/-- Reads members by name, up to the end of the object. Members of unknown name are passed over; a
known name must not come twice, and is refused as soon as it does. Each member takes a character at
least, so there are no more than the text of `bound` has characters. -/
def readMembers {δ : Type} (fields : List (Field δ)) :
    List Char → List String → Bool → δ → Reader δ
  | [], _, _, _, _ => .error .truncated
  | _ :: bound, seen, first, draft, text => do
    match ← nextMember first text with
    | .inr rest => return (draft, rest)
    | .inl text =>
      let (name, text) ← readString text
      match fields.find? (·.name == name) with
      | none =>
        let text ← skipValue (← skipColon text)
        readMembers fields bound seen false draft text
      | some field =>
        if seen.contains name then throw .mismatched
        let (draft, text) ← field.read draft (← skipColon text)
        readMembers fields bound (name :: seen) false draft text

def Shape.read {δ α : Type} (shape : Shape δ α) : Reader α := fun text =>
  match skipBlanks text with
  | [] => .error .truncated
  | '[' :: rest => do
    let (draft, rest) ← readPositions shape.fields true shape.start rest
    match shape.finish draft with
    | none => throw .mismatched
    | some record => return (record, ← endList rest)
  | '{' :: rest => do
    let (draft, rest) ← readMembers shape.fields rest [] true shape.start rest
    match shape.finish draft with
    | none => throw .mismatched
    | some record => return (record, rest)
  | rest => .error (unwanted rest)

def readChosen {α : Type} (ofName? : String → Option α) : Reader α := fun text => do
  let (name, rest) ← readString text
  match ofName? name with
  | some choice => return (choice, rest)
  | none => throw .mismatched

/-- Reads a choice among named cases: the name, or an object with the name and no value. -/
def readChoice {α : Type} (ofName? : String → Option α) : Reader α := fun text =>
  match skipBlanks text with
  | [] => .error .truncated
  | '"' :: rest => readChosen ofName? rest
  | '{' :: rest =>
    match skipBlanks rest with
    | [] => .error .truncated
    | '"' :: rest => do
      let (choice, rest) ← readChosen ofName? rest
      let ((), rest) ← readNull (← skipColon rest)
      match skipBlanks rest with
      | [] => throw .truncated
      | '}' :: rest => return (choice, rest)
      | _ => throw .malformed
    | _ => .error .malformed
  | _ => .error .malformed

def readWhole {α : Type} (value : Reader α) (text : String) : Except Fault α := do
  let (value, rest) ← value text.toList
  if (skipBlanks rest).isEmpty then return value else throw .malformed

end OnboardLink.Json
