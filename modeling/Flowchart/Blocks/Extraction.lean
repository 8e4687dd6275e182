import Flowchart.Handler.Settings
import Flowchart.Json.Path
import Flowchart.Xml.Path

/-!
# Parser

Takes values out of a Json or Xml document that a variable holds and puts them into other
variables. Paths that select nothing are skipped with a warning.
-/

namespace Flowchart.Blocks

open Json.Decoder

/-- The formats of documents. -/
inductive Format where
  | json
  | xml
  deriving DecidableEq, Repr

namespace Format

/-- The name of a format. -/
def name : Format → String
  | json => "json"
  | xml => "xml"

/-- The format with a name in lower case; no name stands for Json. -/
def ofName? (name : String) : Option Format :=
  [("", json), ("json", json), ("xml", xml)].lookup name

end Format

/-- A document of either format. -/
inductive SourceDocument where
  | json (root : Json.Value)
  | xml (root : Xml.Element)

namespace SourceDocument

/-- Reads a document. -/
def ofText (format : Format) (source : String) : Except String SourceDocument :=
  match format with
  | .json => ((Json.Value.ofText source).map json).mapError (·.message)
  | .xml => ((Xml.Element.ofText source).map xml).mapError (·.message)

/-- The text that a path selects. -/
def select (document : SourceDocument) (path : String) : Option String :=
  match document with
  | json root => (root.select path).map (·.scalarText)
  | xml root => root.select path

end SourceDocument

/-- A path and the variable for what it selects. -/
structure Mapping where
  path : String := ""
  target : String := ""
  deriving DecidableEq, Inhabited

/-- The fields of a mapping. -/
def Mapping.record : Record Mapping where
  title := "struct Mapping"
  start := {}
  fields := [
    Settings.text "path" fun v m => { m with path := v },
    Settings.text "variable" fun v m => { m with target := v }]

/-- The settings of an extraction. -/
structure ExtractionSettings where
  format : String := ""
  sourceVariable : String := ""
  mappings : List Mapping := []
  deriving DecidableEq, Inhabited

/-- The fields of the settings of an extraction. -/
def ExtractionSettings.record : Record ExtractionSettings where
  title := "struct ParserConfig"
  start := {}
  fields := [
    Settings.text "format" fun v s => { s with format := v },
    Settings.text "sourcevariable" fun v s => { s with sourceVariable := v },
    defaulted "mappings" Mapping.record.decoder.list fun v s => { s with mappings := v }]

/-- Carries out one mapping and counts it if its path selects something. -/
def applyMapping (displayName : String) (document : SourceDocument) (state : Nat × Scene)
    (m : Mapping) : Nat × Scene :=
  let (mapped, scene) := state
  if Text.isBlankText m.target then state
  else match document.select m.path with
    | some value => (mapped + 1, scene.set m.target value)
    | none =>
        (mapped, scene.warn s!"Parser '{displayName}': path '{m.path}' not found, skipped")

/-- Executes an extraction. -/
def runExtraction (context : Context) (scene : Scene) : StepResult × Scene :=
  let (settings, scene) := Settings.read ExtractionSettings.record context scene
  let formatName := Text.asciiLower (Text.trim settings.format)
  match Format.ofName? formatName with
  | none =>
      (.failure s!"Parser '{context.displayName}': unsupported format '{formatName}'", scene)
  | some format =>
      let source := settings.sourceVariable
      match SourceDocument.ofText format (scene.store.getD source) with
      | .error reason =>
          (.failure s!"Parser ({format.name}): cannot parse '{source}': {reason}", scene)
      | .ok document =>
          let (mapped, scene) :=
            settings.mappings.foldl (applyMapping context.displayName document) (0, scene)
          let count := settings.mappings.length
          (.success s!"Parser ({format.name}): mapped {mapped} of {count} paths from '{source}'",
           scene)

/-- The handler of extractions. -/
def extraction : Handler :=
  .named "Parser" ⟨"Extract values from JSON or XML into variables", "transform"⟩ runExtraction

end Flowchart.Blocks
