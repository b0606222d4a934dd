import OnboardLink.CommandLine.Report

/-! How a command's answer is laid out: as one line of JSON, as a line for each field, or as a
table. -/
namespace OnboardLink

inductive OutputFormat where
  | json
  | table
  | pretty
  deriving DecidableEq, Repr

def OutputFormat.ofName? : String → Option OutputFormat
  | "json" => some .json
  | "table" => some .table
  | "pretty" => some .pretty
  | _ => none

/-- A value as it stands outside JSON: strings bare, nothing as a dash, all else as in JSON. -/
def Json.Value.display : Json.Value → String
  | .string text => text
  | .null => "-"
  | value => value.compact

def fill (c : Char) (count : Nat) : String := String.ofList (List.replicate count c)

/-- A cell: the text between a blank on each side, filled up to the width of its column. -/
def cell (width : Nat) (text : String) : String :=
  " " ++ text ++ fill ' ' (width - text.length) ++ " "

def rule (left line crossing right : Char) (first second : Nat) : String :=
  left.toString ++ fill line (first + 2) ++ crossing.toString ++ fill line (second + 2) ++
    right.toString

/-- A table of two columns, each as wide as its widest cell. A double line stands below the head and
a dotted one between rows. -/
def table (head : String × String) (rows : List (String × String)) : List String :=
  let first := ((head :: rows).map (·.1.length)).foldl max 0
  let second := ((head :: rows).map (·.2.length)).foldl max 0
  let line (row : String × String) := "│" ++ cell first row.1 ++ "┆" ++ cell second row.2 ++ "│"
  [rule '┌' '─' '┬' '┐' first second, line head, rule '╞' '═' '╪' '╡' first second] ++
    (rows.map line).intersperse (rule '├' '╌' '┼' '┤' first second) ++
    [rule '└' '─' '┴' '┘' first second]

/-- The lines of an answer. Only records have more than one layout. -/
def Report.layOut (format : OutputFormat) : Report → List String
  | .lines texts => texts
  | .record fields =>
    match format with
    | .json => [(Json.Value.object fields).compact]
    | .pretty => fields.map fun (name, value) => name ++ ": " ++ value.display
    | .table =>
      table ("FIELD", "VALUE") (fields.map fun (name, value) => (name, value.display))

def unlines (lines : List String) : String := String.join (lines.map (· ++ "\n"))

end OnboardLink
