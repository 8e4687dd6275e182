import Flowchart.Handler.Settings

/-!
# Calculation

Arithmetic or concatenation on two operands. A calculation always gives a result: where the
operands are no numbers, addition joins their texts and the other operations keep the first one, as
does a division by zero.
-/

namespace Flowchart.Blocks

open Json.Decoder

/-- The operations of a calculation. -/
inductive Operation where
  | add
  | subtract
  | multiply
  | divide
  | concat
  deriving DecidableEq, Repr

namespace Operation

/-- The names of the operations, in lower case. -/
def names : List (String × Operation) := [
  ("add", .add), ("+", .add), ("subtract", .subtract), ("-", .subtract),
  ("multiply", .multiply), ("*", .multiply), ("divide", .divide), ("/", .divide),
  ("concat", .concat), ("concatenate", .concat)]

/-- The operation with a name. -/
def ofName? (name : String) : Option Operation :=
  names.lookup (Text.asciiLower (Text.trim name))

/-- The sign of an operation in descriptions. -/
def symbol : Operation → String
  | add => "+"
  | subtract => "-"
  | multiply => "*"
  | divide => "/"
  | concat => "&"

end Operation

/-- Why a calculation did not compute what was asked for. -/
inductive CalculationNote where
  | divisionByZero
  | joined
  | firstKept
  deriving DecidableEq, Repr

/-- The wording of a note. -/
def CalculationNote.message : CalculationNote → String
  | .divisionByZero => "division by zero, first operand kept"
  | .joined => "non-numeric operands, concatenated"
  | .firstKept => "non-numeric operands, first operand kept"

/-- The result of an operation on two numbers. -/
def compute (operation : Operation) (a b : Binary64) : String × Option CalculationNote :=
  match operation with
  | .add => (formatNumber (a.add b), none)
  | .subtract => (formatNumber (a.subtract b), none)
  | .multiply => (formatNumber (a.multiply b), none)
  | .divide =>
      if b.isZero then (formatNumber a, some .divisionByZero) else (formatNumber (a.divide b), none)
  | .concat => (formatNumber a ++ formatNumber b, none)

/-- The result of an operation on two texts. -/
def calculate (operation : Operation) (first second : String) :
    String × Option CalculationNote :=
  match operation, parseNumber first, parseNumber second with
  | .concat, _, _ => (first ++ second, none)
  | _, some a, some b => compute operation a b
  | .add, _, _ => (first ++ second, some .joined)
  | _, _, _ => (first, some .firstKept)

/-- The settings of a calculation. -/
structure CalculationSettings where
  operation : String := ""
  firstVariable : String := ""
  secondVariable : String := ""
  resultVariable : String := ""
  deriving DecidableEq, Inhabited

/-- The fields of the settings of a calculation. -/
def CalculationSettings.record : Record CalculationSettings where
  title := "struct CalculationConfig"
  start := {}
  fields := [
    Settings.text "operation" fun v s => { s with operation := v },
    Settings.text "firstvariable" fun v s => { s with firstVariable := v },
    Settings.text "secondvariable" fun v s => { s with secondVariable := v },
    Settings.text "resultvariable" fun v s => { s with resultVariable := v }]

/-- Executes a calculation. -/
def runCalculation (context : Context) (scene : Scene) : StepResult × Scene :=
  let (settings, scene) := Settings.read CalculationSettings.record context scene
  match Operation.ofName? settings.operation with
  | none =>
      (.failure
        s!"Calculation '{context.displayName}': unsupported operation '{settings.operation}'",
        scene)
  | some operation =>
      let first := scene.store.resolve settings.firstVariable
      let second := scene.store.resolve settings.secondVariable
      let (result, note) := calculate operation first second
      let description := s!"Calculation: {first} {operation.symbol} {second} = {result}"
      let (description, scene) := match note with
        | none => (description, scene)
        | some note => (s!"{description} ({note.message})",
            scene.warn s!"Calculation '{context.displayName}': {note.message}")
      if Text.isBlankText settings.resultVariable then
        (.success (description ++ " (no result variable)"), scene)
      else (.success description, scene.set settings.resultVariable result)

/-- The handler of calculations. -/
def calculation : Handler :=
  .named "Calculation"
    ⟨"Add, subtract, multiply, divide or concatenate two values", "data"⟩ runCalculation

end Flowchart.Blocks
