import Flowchart.Pattern.Reader
import Flowchart.Text.Search

/-!
# Escapes

What a backslash and the characters after it stand for, in a class or outside.
-/

namespace Flowchart.Pattern

open Reader

/-- The characters that have a meaning of their own in patterns. -/
def isMeta (c : Char) : Bool :=
  ['\\', '.', '+', '*', '?', '(', ')', '|', '[', ']', '\x7b', '\x7d', '^', '$', '#', '&', '-',
    '~'].contains c

/-- A pattern that matches a text and nothing else. -/
def escapeText (s : String) : String :=
  String.ofList (s.toList.flatMap fun c => if isMeta c then ['\\', c] else [c])

/-- Whether a backslash may stand before a character that stands for itself. -/
def mayBeEscaped (c : Char) : Bool :=
  isMeta c || (c.toNat < 128 && !c.isAlphanum && c ≠ '<' && c ≠ '>')

/-- Controls with a one letter escape. -/
def controlEscapes : List (Char × Char) := [
  ('a', '\x07'), ('f', '\x0c'), ('t', '\t'), ('n', '\n'), ('r', '\r'), ('v', '\x0b')]

/-- A hexadecimal number as a character. -/
def hexChar? (digits : List Char) : Option Char :=
  let n := numeral 16 digits
  if n.isValidChar then some (Char.ofNat n) else none

/-- Reads exactly as many hexadecimal digits as asked for. -/
def hexDigits (first : Bool) : Nat → Reader (List Char)
  | 0 => return []
  | n + 1 => do
      if !first then
        if !(← step) then fail .escapeUnfinished (.empty (← here))
      match ← current? with
      | none => fail .escapeUnfinished (.empty (← here))
      | some c =>
          if !isHexDigit c then fail .hexDigitInvalid (← spanHere)
          return c :: (← hexDigits false n)

/-- Reads a character given by its code; the cursor is at the letter that says how many digits the
code has. `start` is the place of the backslash. -/
def hexEscape (start : Position) (letter : Char) : Reader Literal := do
  if !(← step) then fail .escapeUnfinished (.empty (← here))
  let brace ← here
  if (← current?) = some '\x7b' then
    let inner := brace.after '\x7b'
    let _ ← step
    let digits ← gather isHexDigit
    match ← current? with
    | none => fail .escapeUnfinished (← spanFrom brace)
    | some c =>
        if c ≠ '\x7d' then fail .hexDigitInvalid (← spanHere)
        let past ← here
        let _ ← step
        if digits.isEmpty then fail .hexEmpty (← spanFrom brace)
        match hexChar? digits with
        | none => fail .hexInvalid ⟨inner, past⟩
        | some char => return ⟨← spanFrom start, char, false⟩
  else
    let count := if letter = 'x' then 2 else if letter = 'u' then 4 else 8
    let digits ← hexDigits true count
    let _ ← step
    match hexChar? digits with
    | none => fail .hexInvalid (← spanFrom brace)
    | some char => return ⟨← spanFrom start, char, letter = 'x'⟩

/-- What the text between braces asks for: a name, or a property with a value. -/
def propertyQuery (text : List Char) : PropertyQuery :=
  match [['!', '='], [':'], ['=']].findSome? (Text.cut? · text) with
  | some (property, value) => .value (String.ofList property) (String.ofList value)
  | none => .name (String.ofList text)

/-- Reads a property; the cursor is at the `p` or `P` after the backslash at `start`. -/
def propertyEscape (start : Position) (negated : Bool) : Reader Tree := do
  if !(← step) then fail .escapeUnfinished (.empty (← here))
  match ← current? with
  | none => fail .escapeUnfinished (.empty (← here))
  | some '\x7b' =>
      let _ ← step
      let text ← gather (· ≠ '\x7d')
      if ← atEnd then fail .escapeUnfinished (.empty (← here))
      advance
      return .property (← spanFrom start) (propertyQuery text) negated
  | some '\\' => fail .propertyInvalid (← spanHere)
  | some c =>
      let _ ← step
      return .property (← spanFrom start) (.name (String.singleton c)) negated

/-- The boundaries of words by name. -/
def boundaryNames : List (String × Assertion) := [
  ("start", .wordStart), ("end", .wordEnd), ("start-half", .wordStartHalf),
  ("end-half", .wordEndHalf)]

/-- Reads the name of a boundary between braces after `\b`. What does not begin like a name is left
alone, as the count of a repetition. -/
def boundaryName (start : Position) : Reader Assertion := do
  let before ← get
  let brace ← here
  if !(← step) then fail .boundaryOrCountUnfinished (← spanFrom start)
  let inner ← here
  let accepts := fun (c : Char) => c.isAlpha || c = '-'
  match ← current? with
  | none => fail .boundaryOrCountUnfinished (← spanFrom start)
  | some c =>
      if !accepts c then
        set before
        return .wordBoundary
      let name ← gather accepts
      if (← current?) ≠ some '\x7d' then fail .boundaryUnclosed (← spanFrom brace)
      let past ← here
      advance
      match boundaryNames.lookup (String.ofList name) with
      | some kind => return kind
      | none => fail .boundaryUnknown ⟨inner, past⟩

/-- The classes with a one letter escape, and whether they are negated. -/
def shortClasses : List (Char × ShortClass × Bool) := [
  ('d', .digit, false), ('s', .space, false), ('w', .word, false),
  ('D', .digit, true), ('S', .space, true), ('W', .word, true)]

/-- The places with a one letter escape. -/
def assertionEscapes : List (Char × Assertion) := [
  ('A', .textStart), ('z', .textEnd), ('B', .noWordBoundary), ('<', .wordStart), ('>', .wordEnd)]

/-- Reads an escape; the cursor is at the backslash. -/
def readEscape : Reader Tree := do
  let start ← here
  advance
  match ← current? with
  | none => fail .escapeUnfinished (← spanFrom start)
  | some c =>
      if c.isDigit then fail .backReference ⟨start, (← spanHere).past⟩
      if c = 'x' ∨ c = 'u' ∨ c = 'U' then return .literal (← hexEscape start c)
      if c = 'p' ∨ c = 'P' then return ← propertyEscape start (c = 'P')
      advance
      let span ← spanFrom start
      match shortClasses.lookup c with
      | some (kind, negated) => return .short span kind negated
      | none =>
          if mayBeEscaped c then return .literal ⟨span, c, false⟩
          match controlEscapes.lookup c with
          | some control => return .literal ⟨span, control, false⟩
          | none =>
              match assertionEscapes.lookup c with
              | some kind => return .assertion span kind
              | none =>
                  if c = 'b' then
                    if (← current?) = some '\x7b' then
                      let kind ← boundaryName start
                      let named ← spanFrom start
                      return .assertion (if kind = .wordBoundary then span else named) kind
                    return .assertion span .wordBoundary
                  fail .escapeUnknown span

end Flowchart.Pattern
