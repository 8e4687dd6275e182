import Flowchart.Handler.Settings

/-!
# If

Compares two values, as numbers or as texts, and fails if the comparison does not hold. Texts are
ordered by code points. A comparison of numbers does not hold if one operand is no number; whether
one text contains, starts or ends with another is asked of the texts in either mode.
-/

namespace Flowchart.Blocks

open Json.Decoder

/-- The comparisons. -/
inductive Comparison where
  | equals
  | notEquals
  | greater
  | greaterOrEqual
  | less
  | lessOrEqual
  | contains
  | startsWith
  | endsWith
  deriving DecidableEq, Repr

namespace Comparison

/-- The names of the comparisons, in lower case; no name stands for equality. -/
def names : List (String × Comparison) := [
  ("", equals), ("equals", equals), ("equal", equals), ("eq", equals), ("==", equals),
  ("=", equals),
  ("notequals", notEquals), ("notequal", notEquals), ("ne", notEquals), ("!=", notEquals),
  ("<>", notEquals),
  ("greater", greater), ("greaterthan", greater), ("gt", greater), (">", greater),
  ("greaterorequal", greaterOrEqual), ("greaterthanorequal", greaterOrEqual),
  ("gte", greaterOrEqual), ("ge", greaterOrEqual), (">=", greaterOrEqual),
  ("less", less), ("lessthan", less), ("lt", less), ("<", less),
  ("lessorequal", lessOrEqual), ("lessthanorequal", lessOrEqual), ("lte", lessOrEqual),
  ("le", lessOrEqual), ("<=", lessOrEqual),
  ("contains", contains), ("startswith", startsWith), ("endswith", endsWith)]

/-- The comparison with a name. -/
def ofName? (name : String) : Option Comparison :=
  names.lookup (Text.asciiLower (Text.trim name))

/-- The sign of a comparison in descriptions. -/
def symbol : Comparison → String
  | equals => "=="
  | notEquals => "!="
  | greater => ">"
  | greaterOrEqual => ">="
  | less => "<"
  | lessOrEqual => "<="
  | contains => "contains"
  | startsWith => "starts with"
  | endsWith => "ends with"

/-- Whether a comparison of order holds for operands in the given order. -/
def holds : Comparison → Ordering → Bool
  | equals, o => o == .eq
  | notEquals, o => o != .eq
  | greater, o => o == .gt
  | greaterOrEqual, o => o != .lt
  | less, o => o == .lt
  | lessOrEqual, o => o != .gt
  | contains, _ => false
  | startsWith, _ => false
  | endsWith, _ => false

end Comparison

/-- The order of two texts by code points. -/
def textOrder (a b : String) : Ordering :=
  if a = b then .eq else if a < b then .lt else .gt

/-- Whether a comparison holds between two texts; none if one of them is no number but should be. -/
def evaluate (comparison : Comparison) (numeric : Bool) (first second : String) : Option Bool :=
  match comparison with
  | .contains => some (Text.contains first second)
  | .startsWith => some (Text.startsWith first second)
  | .endsWith => some (Text.endsWith first second)
  | _ =>
      if numeric then
        match parseNumber first, parseNumber second with
        | some a, some b => some (comparison.holds (a.order b))
        | _, _ => none
      else some (comparison.holds (textOrder first second))

/-- The settings of a condition. -/
structure ConditionSettings where
  first : String := ""
  second : String := ""
  dataType : String := ""
  operator : String := ""
  deriving DecidableEq, Inhabited

/-- The fields of the settings of a condition. -/
def ConditionSettings.record : Record ConditionSettings where
  title := "struct ConditionConfig"
  start := {}
  fields := [
    Settings.text "first" fun v s => { s with first := v },
    Settings.text "second" fun v s => { s with second := v },
    Settings.text "datatype" fun v s => { s with dataType := v },
    Settings.text "operator" (fun v s => { s with operator := v }) ["comparison", "condition"]]

/-- Executes a condition. -/
def runCondition (context : Context) (scene : Scene) : StepResult × Scene :=
  let (settings, scene) := Settings.read ConditionSettings.record context scene
  match Comparison.ofName? settings.operator with
  | none =>
      (.failure s!"IF '{context.displayName}': unsupported operator '{settings.operator}'", scene)
  | some comparison =>
      let numeric := Text.equalAsciiCase (Text.trim settings.dataType) "number"
      let first := scene.store.resolve settings.first
      let second := scene.store.resolve settings.second
      let mode := if numeric then "Number" else "String"
      let question := s!"IF {first} {comparison.symbol} {second} ({mode}) => "
      match evaluate comparison numeric first second with
      | some true => (.success (question ++ "true"), scene)
      | some false => (.failure (question ++ "false"), scene)
      | none =>
          (.failure (question ++ s!"false ('{first}' or '{second}' is not a number)"), scene)

/-- The handler of conditions. -/
def condition : Handler :=
  .named "If" ⟨"Compare two values; false follows the Error connection", "control"⟩ runCondition

end Flowchart.Blocks
