import Flowchart.Blocks.TextTransform
import Flowchart.Limits
import Flowchart.Pattern.Basic

/-!
# TextReplace

Replaces texts or matches of patterns, rule by rule. A rule that cannot be applied is skipped with
a warning, and the others still are.
-/

namespace Flowchart.Blocks

open Json.Decoder

/-- A rule of a replacement. -/
structure ReplacementRule where
  source : String := ""
  target : String := ""
  isPattern : Bool := false
  ignoreCase : Bool := false
  deriving DecidableEq, Inhabited

/-- The fields of a rule. -/
def ReplacementRule.record : Record ReplacementRule where
  title := "struct ReplacementRule"
  start := {}
  fields := [
    Settings.text "from" fun v s => { s with source := v },
    Settings.text "to" fun v s => { s with target := v },
    defaulted "useregex" Settings.lenientTruth fun v s => { s with isPattern := v },
    defaulted "ignorecase" Settings.lenientTruth fun v s => { s with ignoreCase := v }]

/-- The settings of a replacement. -/
structure ReplacementSettings where
  input : String := ""
  inputVariable : String := ""
  rules : List ReplacementRule := []
  resultVariable : String := ""
  deriving DecidableEq, Inhabited

/-- The fields of the settings of a replacement. -/
def ReplacementSettings.record : Record ReplacementSettings where
  title := "struct TextReplaceConfig"
  start := {}
  fields := [
    Settings.text "input" fun v s => { s with input := v },
    Settings.text "inputvariable" fun v s => { s with inputVariable := v },
    defaulted "replacements" (list ReplacementRule.record.decoder)
      (fun v s => { s with rules := v }) ["rules"],
    Settings.text "resultvariable" fun v s => { s with resultVariable := v }]

/-- The pattern of a rule. A text is escaped, so that it obeys the same limits. -/
def ReplacementRule.pattern (limits : Limits) (rule : ReplacementRule) :
    Except String Pattern :=
  let text := if rule.isPattern then rule.source else Pattern.escapeText rule.source
  if limits.patternLength < text.utf8ByteSize then
    .error s!"pattern longer than {limits.patternLength} characters"
  else (Pattern.ofText text rule.ignoreCase limits.patternSize).mapError (·.message)

/-- A text after a rule, or why the rule cannot be applied. -/
def ReplacementRule.apply (limits : Limits) (rule : ReplacementRule) (text : String) :
    Except String String :=
  if rule.isPattern then
    (rule.pattern limits).map fun p => p.replaceWithTemplate rule.target text
  else if rule.ignoreCase then
    (rule.pattern limits).map fun p => p.replaceWithText rule.target text
  else .ok (Text.replaceAll text rule.source rule.target)

/-- A text after rules, which are counted from `number`, and why some were skipped. -/
def applyRules (limits : Limits) (number : Nat) (text : String) :
    List ReplacementRule → String × List String
  | [] => (text, [])
  | rule :: rest =>
      if rule.source.isEmpty then
        let (text, skipped) := applyRules limits (number + 1) text rest
        (text, s!"rule {number}: empty pattern" :: skipped)
      else
        match rule.apply limits text with
        | .ok text => applyRules limits (number + 1) text rest
        | .error reason =>
            let (text, skipped) := applyRules limits (number + 1) text rest
            (text, s!"rule {number} ('{rule.source}'): {reason}" :: skipped)

/-- Executes a replacement. -/
def runReplacement (limits : Limits) (context : Context) (scene : Scene) :
    StepResult × Scene :=
  let (settings, scene) := Settings.read ReplacementSettings.record context scene
  let input := inputText scene.store settings.input settings.inputVariable
  let (output, skipped) := applyRules limits 1 input settings.rules
  let scene := skipped.foldl
    (fun scene reason => scene.warn s!"TextReplace '{context.displayName}': skipped {reason}") scene
  let total := settings.rules.length
  let note := if skipped.isEmpty then "" else " (skipped " ++ "; ".intercalate skipped ++ ")"
  (.success (s!"TextReplace: applied {total - skipped.length} of {total} rules: " ++
      s!"'{input}' -> '{output}'{note}"),
    scene.setNamed settings.resultVariable output)

/-- The handler of replacements. -/
def textReplace (limits : Limits) : Handler :=
  .named "TextReplace" ⟨"Apply literal or regex replacements in order", "text"⟩
    (runReplacement limits)

end Flowchart.Blocks
