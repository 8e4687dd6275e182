import Flowchart.Binary64.Basic
import Flowchart.Decimal.Layout
import Flowchart.Decimal.Read
import Flowchart.Dictionary
import Flowchart.Text.Blank
import Flowchart.Text.Search

/-!
# Variables

The variables of a run, all of them texts. A token that starts with `$` refers to a variable, and
`$x` and `x` name the same one. Numbers are read from texts and written to them on demand:
`parseNumber` accepts finite decimal numbers only, `formatNumber` writes all places of the shortest
digits. `Store.expand` fills free text with the values of variables.
-/

namespace Flowchart

/-- The character that marks a reference to a variable. -/
def sigil : Char := '$'

/-- The name that a text gives to a variable: without the sigil and blanks around it. -/
def variableName (s : String) : String :=
  let name := Text.trimList s.toList
  match name with
  | [] => ""
  | c :: rest => String.ofList (if c = sigil then Text.trimList rest else name)

/-- A text as a finite number. -/
def parseNumber (s : String) : Option Binary64 :=
  match Decimal.read (Text.trimList s.toList) with
  | none => none
  | some v => if v.toBinary64.isFinite then some v.toBinary64 else none

/-- A number as a text; zeros of both signs are `0`. -/
def formatNumber (x : Binary64) : String :=
  if x.isZero then "0" else Decimal.Layout.plain.write x

/-- The variables of a run. -/
structure Store where
  values : Dictionary String
  deriving DecidableEq, Inhabited

namespace Store

/-- The store without variables. -/
def empty : Store := ⟨[]⟩

/-- The value of the variable that a text names. -/
def get? (store : Store) (name : String) : Option String :=
  store.values.get? (variableName name)

/-- The value of a variable, or nothing if it does not exist. -/
def getD (store : Store) (name : String) : String :=
  (store.get? name).getD ""

/-- Gives the variable that a text names a value. A text that names none changes nothing. -/
def set (store : Store) (name value : String) : Store :=
  if variableName name = "" then store else ⟨store.values.insert (variableName name) value⟩

/-- Whether a variable exists. -/
def contains (store : Store) (name : String) : Bool :=
  (store.get? name).isSome

/-- The value of a token: that of a variable if it starts with the sigil, else the token itself. -/
def resolve (store : Store) (token : String) : String :=
  match Text.trimList token.toList with
  | c :: rest => if c = sigil then store.getD (String.ofList rest) else token
  | [] => token

/-- The value of a token as a number. -/
def resolveNumber (store : Store) (token : String) : Option Binary64 :=
  parseNumber (store.resolve token)

/-- Replaces each name between double braces by the value of the variable, from left to right and
without looking at what was put in. The first argument bounds the number of replacements. -/
def fillPlaceholders (store : Store) : Nat → List Char → List Char
  | 0, cs => cs
  | fuel + 1, cs =>
      match Text.cut? ['\x7b', '\x7b'] cs with
      | none => cs
      | some (before, after) =>
          match Text.cut? ['\x7d', '\x7d'] after with
          | none => cs
          | some (name, rest) =>
              before ++ (store.getD (String.ofList (Text.trimList name))).toList ++
                fillPlaceholders store fuel rest

/-- Fills free text: a text that is one token with the sigil is resolved, in any other the
placeholders are replaced. -/
def expand (store : Store) (text : String) : String :=
  let trimmed := Text.trimList text.toList
  if trimmed.head? = some sigil && !trimmed.any Text.isBlank then
    store.resolve (String.ofList trimmed)
  else String.ofList (store.fillPlaceholders text.length text.toList)

/-- The variables with their values, ordered by name. -/
def snapshot (store : Store) : Dictionary String := store.values

/-- The number of variables. -/
def size (store : Store) : Nat := store.values.length

/-- The store that results from setting variables in order. -/
def ofList (pairs : List (String × String)) : Store :=
  pairs.foldl (fun store (name, value) => store.set name value) empty

end Store
end Flowchart
