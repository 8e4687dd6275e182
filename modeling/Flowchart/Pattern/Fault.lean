/-!
# Faults of patterns

What can be wrong with the text of a pattern, where in the text, and the report of it: the pattern
with carets under the place, then the reason.
-/

namespace Flowchart.Pattern

/-- A place in the text of a pattern; lines and columns count from one. -/
structure Position where
  offset : Nat
  line : Nat
  column : Nat
  deriving DecidableEq, Inhabited, Repr

/-- The place where a text starts. -/
def Position.start : Position := ⟨0, 1, 1⟩

/-- The place after a character. -/
def Position.after (p : Position) (c : Char) : Position :=
  if c = '\n' then ⟨p.offset + 1, p.line + 1, 1⟩ else ⟨p.offset + 1, p.line, p.column + 1⟩

/-- A part of the text of a pattern. -/
structure Span where
  first : Position
  past : Position
  deriving DecidableEq, Inhabited, Repr

/-- The empty part at a place. -/
def Span.empty (p : Position) : Span := ⟨p, p⟩

/-- The greatest depth to which the parts of a pattern may be nested. -/
def depthLimit : Nat := 250

/-- What can be wrong with a pattern. The causes that name an earlier part hold it. -/
inductive Cause where
  | classEscapeInvalid
  | classRangeInvalid
  | classRangeLiteral
  | classUnclosed
  | decimalInvalid
  | hexEmpty
  | hexInvalid
  | hexDigitInvalid
  | escapeUnfinished
  | escapeUnknown
  | flagNegationDangling
  | flagDuplicate (earlier : Span)
  | flagNegationRepeated (earlier : Span)
  | flagUnfinished
  | flagUnknown
  | groupNameDuplicate (earlier : Span)
  | groupNameEmpty
  | groupNameInvalid
  | groupNameUnfinished
  | groupUnclosed
  | groupUnopened
  | tooDeep
  | countInvalid
  | countEmpty
  | countUnclosed
  | repetitionOfNothing
  | boundaryUnclosed
  | boundaryUnknown
  | boundaryOrCountUnfinished
  | propertyInvalid
  | backReference
  | lookAround
  | unicodeNotAllowed
  | invalidEncoding
  | propertyUnknown
  | propertyValueUnknown
  deriving DecidableEq, Repr

/-- The wording of a cause. -/
def Cause.message : Cause → String
  | .classEscapeInvalid => "invalid escape sequence found in character class"
  | .classRangeInvalid => "invalid character class range, the start must be <= the end"
  | .classRangeLiteral => "invalid range boundary, must be a literal"
  | .classUnclosed => "unclosed character class"
  | .decimalInvalid => "decimal literal invalid"
  | .hexEmpty => "hexadecimal literal empty"
  | .hexInvalid => "hexadecimal literal is not a Unicode scalar value"
  | .hexDigitInvalid => "invalid hexadecimal digit"
  | .escapeUnfinished => "incomplete escape sequence, reached end of pattern prematurely"
  | .escapeUnknown => "unrecognized escape sequence"
  | .flagNegationDangling => "dangling flag negation operator"
  | .flagDuplicate _ => "duplicate flag"
  | .flagNegationRepeated _ => "flag negation operator repeated"
  | .flagUnfinished => "expected flag but got end of regex"
  | .flagUnknown => "unrecognized flag"
  | .groupNameDuplicate _ => "duplicate capture group name"
  | .groupNameEmpty => "empty capture group name"
  | .groupNameInvalid => "invalid capture group character"
  | .groupNameUnfinished => "unclosed capture group name"
  | .groupUnclosed => "unclosed group"
  | .groupUnopened => "unopened group"
  | .tooDeep => s!"exceed the maximum number of nested parentheses/brackets ({depthLimit})"
  | .countInvalid => "invalid repetition count range, the start must be <= the end"
  | .countEmpty => "repetition quantifier expects a valid decimal"
  | .countUnclosed => "unclosed counted repetition"
  | .repetitionOfNothing => "repetition operator missing expression"
  | .boundaryUnclosed =>
      "special word boundary assertion is either unclosed or contains an invalid character"
  | .boundaryUnknown =>
      "unrecognized special word boundary assertion, valid choices are: " ++
        "start, end, start-half or end-half"
  | .boundaryOrCountUnfinished =>
      "found either the beginning of a special word boundary or a bounded repetition " ++
        "on a \\b with an opening brace, but no closing brace"
  | .propertyInvalid => "invalid Unicode character class"
  | .backReference => "backreferences are not supported"
  | .lookAround => "look-around, including look-ahead and look-behind, is not supported"
  | .unicodeNotAllowed => "Unicode not allowed here"
  | .invalidEncoding => "pattern can match invalid UTF-8"
  | .propertyUnknown => "Unicode property not found"
  | .propertyValueUnknown => "Unicode property value not found"

/-- The earlier part of the pattern that a cause names. -/
def Cause.earlier? : Cause → Option Span
  | .flagDuplicate s | .flagNegationRepeated s | .groupNameDuplicate s => some s
  | _ => none

/-- What is wrong with a pattern, and where. -/
structure Fault where
  cause : Cause
  span : Span
  deriving DecidableEq, Repr

/-! ## The report of a fault -/

/-- The lines of a text, without their ends; a line end that ends the text starts no line. The
first argument holds the line so far, in reverse. -/
def linesFrom : List Char → List Char → List (List Char)
  | [], [] => []
  | line, [] => [line.reverse]
  | line, '\n' :: rest =>
      (match line with
        | '\r' :: before => before.reverse
        | _ => line.reverse) :: linesFrom [] rest
  | line, c :: rest => linesFrom (c :: line) rest

/-- Carets under spans of a line, given in ascending order, starting at a column. -/
def carets (column : Nat) : List Span → List Char
  | [] => []
  | s :: rest =>
      let width := max 1 (s.past.column - s.first.column)
      let start := max column s.first.column
      List.replicate (s.first.column - column) ' ' ++ List.replicate width '^' ++
        carets (start + width) rest

/-- Spans in the order of their starts. -/
def sortSpans (spans : List Span) : List Span :=
  spans.mergeSort fun s t =>
    s.first.offset < t.first.offset ∨
      (s.first.offset = t.first.offset ∧ s.past.offset ≤ t.past.offset)

/-- The lines of a pattern, each after `label`, with carets under the spans of the line. -/
def annotate (label : Nat → List Char) (margin : Nat) (spans : List Span) :
    Nat → List (List Char) → List Char
  | _, [] => []
  | number, line :: rest =>
      let marks := spans.filter fun s => s.first.line = number
      let notes :=
        if marks.isEmpty then [] else List.replicate margin ' ' ++ carets 1 marks ++ ['\n']
      label number ++ line ++ ['\n'] ++ notes ++ annotate label margin spans (number + 1) rest

/-- The decimal digits of a number, with blanks before them up to a width. -/
def padded (width number : Nat) : List Char :=
  let digits := Nat.toDigits 10 number
  List.replicate (width - digits.length) ' ' ++ digits

/-- How a span of several lines is described. -/
def describeSpan (s : Span) : String :=
  s!"on line {s.first.line} (column {s.first.column}) through " ++
    s!"line {s.past.line} (column {s.past.column - 1})"

/-- The rule above and below a pattern of several lines. -/
def rule : String := String.ofList (List.replicate 79 '~') ++ "\n"

/-- The report of a fault of a pattern. -/
def Fault.report (pattern : String) (fault : Fault) : String :=
  let text := pattern.toList
  let lines := linesFrom [] text
  let count := lines.length + (if text.getLast? = some '\n' then 1 else 0)
  let spans := sortSpans (fault.span :: fault.cause.earlier?.toList)
  let (short, long) := spans.partition fun s => s.first.line = s.past.line
  let reason := "error: " ++ fault.cause.message
  if text.contains '\n' then
    let width := if count ≤ 1 then 0 else (Nat.toDigits 10 count).length
    let label := fun number =>
      if width = 0 then List.replicate 4 ' ' else padded width number ++ [':', ' ']
    let margin := if width = 0 then 4 else width + 2
    let notes := if long.isEmpty then "" else "\n".intercalate (long.map describeSpan) ++ "\n"
    "regex parse error:\n" ++ rule ++ String.ofList (annotate label margin short 1 lines) ++ rule ++
      notes ++ reason
  else
    "regex parse error:\n" ++
      String.ofList (annotate (fun _ => List.replicate 4 ' ') 4 short 1 lines) ++ reason

end Flowchart.Pattern
