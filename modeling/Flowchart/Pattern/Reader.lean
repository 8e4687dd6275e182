import Flowchart.Pattern.Tree
import Flowchart.Text.Blank

/-!
# Reading the text of a pattern

A cursor over the text that knows its place, and what has to be known about the text before it:
whether blanks count, and which groups were opened.
-/

namespace Flowchart.Pattern

/-- How far a pattern has been read. -/
structure Cursor where
  rest : List Char
  position : Position
  ignoreBlanks : Bool
  /-- The number of groups that capture. -/
  groups : Nat
  /-- The names of groups, and where they stand. -/
  names : List (String × Span)

/-- Steps of reading that may find a fault. -/
abbrev Reader := StateT Cursor (Except Fault)

/-- Passes over blanks and over comments, which run from `#` to the end of the line. -/
def passBlanks (inComment : Bool) : Position → List Char → Position × List Char
  | p, [] => (p, [])
  | p, c :: rest =>
      if inComment then passBlanks (c ≠ '\n') (p.after c) rest
      else if Text.isBlank c then passBlanks false (p.after c) rest
      else if c = '#' then passBlanks true (p.after c) rest
      else (p, c :: rest)

/-- The first character that counts in a text in which blanks do not. After a `#` the first
character that is not blank is taken; where there is none, the very first one. -/
def firstCounting (text : List Char) : Option Char :=
  let behind := text.dropWhile Text.isBlank
  let found := match behind with
    | '#' :: comment => comment.dropWhile Text.isBlank
    | other => other
  match found with
  | c :: _ => some c
  | [] => text.head?

namespace Reader

/-- Reports a fault. -/
def fail {α : Type} (cause : Cause) (span : Span) : Reader α :=
  throw ⟨cause, span⟩

/-- The character at the cursor. -/
def current? : Reader (Option Char) := return (← get).rest.head?

/-- Whether the text is at its end. -/
def atEnd : Reader Bool := return (← get).rest.isEmpty

/-- The place of the cursor. -/
def here : Reader Position := return (← get).position

/-- The text from a place to the cursor. -/
def spanFrom (first : Position) : Reader Span := return ⟨first, ← here⟩

/-- The character at the cursor as a part of the text. -/
def spanHere : Reader Span := do
  let c ← get
  match c.rest with
  | [] => return .empty c.position
  | char :: _ => return ⟨c.position, c.position.after char⟩

/-- Moves past the character at the cursor. -/
def advance : Reader Unit :=
  modify fun c => match c.rest with
    | [] => c
    | char :: rest => { c with rest := rest, position := c.position.after char }

/-- Moves past blanks if they do not count. -/
def skipBlanks : Reader Unit :=
  modify fun c =>
    if c.ignoreBlanks then
      let (position, rest) := passBlanks false c.position c.rest
      { c with rest := rest, position := position }
    else c

/-- Moves past a character and the blanks after it; tells whether there is more. -/
def step : Reader Bool := do
  advance
  skipBlanks
  return !(← atEnd)

/-- Moves past a text if it stands at the cursor. -/
def passes (text : List Char) : Reader Bool := do
  if text.isPrefixOf (← get).rest then
    for _ in text do advance
    return true
  else return false

/-- The character after the one at the cursor. -/
def next? : Reader (Option Char) := return (← get).rest.tail.head?

/-- The character after the one at the cursor, blanks left out if they do not count. -/
def nextCounting? : Reader (Option Char) := do
  let c ← get
  if c.ignoreBlanks then return firstCounting c.rest.tail else return c.rest.tail.head?

/-- The characters at the cursor that meet a condition, read by `step`, at most as many as the
first argument says. -/
def gatherUpTo (accepts : Char → Bool) : Nat → Reader (List Char)
  | 0 => return []
  | n + 1 => do
      match ← current? with
      | none => return []
      | some c =>
          if accepts c then
            let _ ← step
            return c :: (← gatherUpTo accepts n)
          else return []

/-- The characters at the cursor that meet a condition. -/
def gather (accepts : Char → Bool) : Reader (List Char) := do
  gatherUpTo accepts (← get).rest.length

/-- A new group that captures; its number. -/
def openGroup : Reader Nat := do
  let c ← get
  set { c with groups := c.groups + 1 }
  return c.groups + 1

end Reader

/-- The value of a numeral in a base up to 16. -/
def numeral (base : Nat) (digits : List Char) : Nat :=
  digits.foldl (fun n c =>
    n * base + (if c.isDigit then c.toNat - 48 else c.toLower.toNat - 87)) 0

/-- Whether a character is a hexadecimal digit. -/
def isHexDigit (c : Char) : Bool :=
  c.isDigit || ('a' ≤ c && c ≤ 'f') || ('A' ≤ c && c ≤ 'F')

end Flowchart.Pattern
