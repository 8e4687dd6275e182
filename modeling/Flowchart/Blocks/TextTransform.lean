import Flowchart.Handler.Settings

/-!
# TextTransform

Trims a text or changes its case. The text comes from a variable if one is named, else from the
settings. An operation that does not exist keeps the text and fails.
-/

namespace Flowchart.Blocks

open Json.Decoder

/-- The text to work on: the value of the variable named, or that of a token. -/
def inputText (store : Store) (input inputVariable : String) : String :=
  if Text.isBlankText inputVariable then store.resolve input else store.getD inputVariable

/-- The settings of a transformation. -/
structure TransformSettings where
  input : String := ""
  inputVariable : String := ""
  operation : String := ""
  resultVariable : String := ""
  deriving DecidableEq, Inhabited

/-- The fields of the settings of a transformation. -/
def TransformSettings.record : Record TransformSettings where
  title := "struct TextTransformConfig"
  start := {}
  fields := [
    Settings.text "input" fun v s => { s with input := v },
    Settings.text "inputvariable" fun v s => { s with inputVariable := v },
    Settings.text "operation" fun v s => { s with operation := v },
    Settings.text "resultvariable" fun v s => { s with resultVariable := v }]

/-- The operations by name, in lower case. -/
def transformations : List (String × (String → String)) := [
  ("trim", Text.trim),
  ("lower", Text.lower), ("lowercase", Text.lower), ("tolower", Text.lower),
  ("upper", Text.upper), ("uppercase", Text.upper), ("toupper", Text.upper)]

/-- Executes a transformation. -/
def runTransform (context : Context) (scene : Scene) : StepResult × Scene :=
  let (settings, scene) := Settings.read TransformSettings.record context scene
  let input := inputText scene.store settings.input settings.inputVariable
  match transformations.lookup (Text.asciiLower (Text.trim settings.operation)) with
  | some transformation =>
      let output := transformation input
      (.success s!"TextTransform {settings.operation}: '{input}' -> '{output}'",
        scene.setNamed settings.resultVariable output)
  | none =>
      let refusal := s!"unsupported operation '{settings.operation}', input kept"
      (.failure s!"TextTransform '{context.displayName}': {refusal}",
        scene.setNamed settings.resultVariable input)

/-- The handler of transformations. -/
def textTransform : Handler :=
  .named "TextTransform" ⟨"Trim, lowercase or uppercase text", "text"⟩ runTransform

end Flowchart.Blocks
