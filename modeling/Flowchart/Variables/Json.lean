import Flowchart.Json.Decoder
import Flowchart.Variables.Store

/-!
# Variables in documents

The Json form of the variables of a run. Names are kept as they are written.
-/

namespace Flowchart.Store

open Json Json.Decoder

/-- The field of a store. -/
def record : Record Store where
  title := "struct VariableStore"
  start := empty
  fields := [required "values" (dictionary Decoder.string) fun v _ => ⟨v⟩]

/-- Stores in documents. -/
def decoder : Decoder Store := record.decoder

/-- A store as a document. -/
def toJson (store : Store) : Value := .object [
  ("values", .object (store.values.map fun (name, value) => (name, .string value)))]

end Flowchart.Store
