import Flowchart.Handler.Basic
import Flowchart.Text.Case

/-!
# Settings of blocks

Settings are Json documents. The names of members are compared in lower case and without `_` and
`-`, at every depth. Text fields accept any scalar. Settings that cannot be decoded are replaced by
the defaults, with a warning.
-/

namespace Flowchart

open Json Json.Decoder

namespace Settings

/-- The normal form of the name of a member. -/
def normalName (name : String) : String :=
  String.ofList ((Text.lower name).toList.filter fun c => c ≠ '_' && c ≠ '-')

mutual
/-- A document with all names of members in normal form; of members that coincide the last one, in
the order of the names as written, is kept. -/
def normalize : Value → Value
  | .object members => .object (Dictionary.ofList (normalizeMembers members))
  | .array elements => .array (normalizeElements elements)
  | .null => .null
  | .bool b => .bool b
  | .number n => .number n
  | .string s => .string s

/-- Normalizes the elements of an array. -/
def normalizeElements : List Value → List Value
  | [] => []
  | v :: rest => normalize v :: normalizeElements rest

/-- Normalizes the members of an object. -/
def normalizeMembers : List (String × Value) → List (String × Value)
  | [] => []
  | (name, v) :: rest => (normalName name, normalize v) :: normalizeMembers rest
end

/-- A text written as any scalar. -/
def lenientText : Decoder String := Decoder.document.map Value.scalarText

/-- A document as a truth value: numbers other than zero and the texts `true`, `1` and `yes` are
true. -/
def truth : Value → Bool
  | .bool b => b
  | .number (.integer n) => n ≠ 0
  | .number (.double x) => !x.isZero
  | .string s => ["true", "1", "yes"].contains (Text.asciiLower (Text.trim s))
  | _ => false

/-- A truth value written as any scalar. -/
def lenientTruth : Decoder Bool := Decoder.document.map truth

/-- A text field that may be absent. -/
def text {σ : Type} (name : String) (set : String → σ → σ) (aliases : List String := []) :
    RecordField σ :=
  defaulted name lenientText set aliases

/-- Decodes settings; an error says why they cannot be. -/
def decode {σ : Type} (record : Record σ) (text : String) : Except String σ :=
  match Value.ofText text with
  | .error e => .error e.message
  | .ok v =>
      match record.decoder.ofValue (normalize v) with
      | .error fault => .error fault.message
      | .ok s => .ok s

/-- The settings of a block, with a warning in the scene if they had to be replaced. -/
def read {σ : Type} (record : Record σ) (context : Context) (scene : Scene) : σ × Scene :=
  match context.settings? with
  | none => (record.start, scene)
  | some text =>
      match decode record text with
      | .ok s => (s, scene)
      | .error reason =>
          (record.start, scene.warn
            s!"Block '{context.block.name}' has an invalid config ({reason}); using defaults")

end Settings
end Flowchart
