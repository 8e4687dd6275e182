import Flowchart.Pattern.Escape

/-!
# Classes between brackets

A class lists characters, ranges and other classes. Classes may be nested and combined by `&&`,
`--` and `~~`, which bind to the left and weaker than a list.
-/

namespace Flowchart.Pattern

open Reader

/-- The classes with a name between `[:` and `:]`. -/
def asciiClassNames : List (String × AsciiClass) := [
  ("alnum", .alnum), ("alpha", .alpha), ("ascii", .ascii), ("blank", .blank), ("cntrl", .cntrl),
  ("digit", .digit), ("graph", .graph), ("lower", .lower), ("print", .print), ("punct", .punct),
  ("space", .space), ("upper", .upper), ("word", .word), ("xdigit", .xdigit)]

/-- The items of a list so far, last one first, and the part of the text they were read from. -/
structure ItemList where
  span : Span
  items : List ClassTree

/-- The list without items at a place. -/
def ItemList.start (p : Position) : ItemList := ⟨.empty p, []⟩

/-- A list with one more item. -/
def ItemList.push (list : ItemList) (item : ClassTree) : ItemList :=
  ⟨⟨if list.items.isEmpty then item.span.first else list.span.first, item.span.past⟩,
    item :: list.items⟩

/-- A list as a class of its own. -/
def ItemList.toTree (list : ItemList) : ClassTree :=
  match list.items with
  | [] => .nothing list.span
  | [item] => item
  | items => .either list.span items.reverse

/-- A class that waits for the right side of its operation. -/
abbrev Pending := Option (ClassOperation × ClassTree)

/-- The class with the right side in place. -/
def Pending.complete (pending : Pending) (right : ClassTree) : ClassTree :=
  match pending with
  | none => right
  | some (kind, left) => .operation ⟨left.span.first, right.span.past⟩ kind left right

/-- Reads one character, or an escape, of a class. -/
def classAtom : Reader Tree := do
  match ← current? with
  | some '\\' => readEscape
  | some c =>
      let span ← spanHere
      advance
      return .literal ⟨span, c, false⟩
  | none => return .nothing (.empty (← here))

/-- An atom as an item of a class. -/
def classItem : Tree → Reader ClassTree
  | .literal c => return .literal c
  | .property span query negated => return .property span query negated
  | .short span kind negated => return .short span kind negated
  | other => fail .classEscapeInvalid other.span

/-- An atom as an end of a range. -/
def rangeEnd : Tree → Reader Literal
  | .literal c => return c
  | other => fail .classRangeLiteral other.span

/-- Reads an atom or a range; `header` is the opening of the class, for the report that it is not
closed. A `-` before `]` or `-` makes no range. -/
def classRange (header : Span) : Reader ClassTree := do
  let low ← classAtom
  skipBlanks
  match ← current? with
  | none => fail .classUnclosed header
  | some c =>
      let following ← nextCounting?
      if c ≠ '-' ∨ following = some ']' ∨ following = some '-' then return ← classItem low
      if !(← step) then fail .classUnclosed header
      let high ← classAtom
      let span : Span := ⟨low.span.first, high.span.past⟩
      let first ← rangeEnd low
      let last ← rangeEnd high
      if last.char < first.char then fail .classRangeInvalid span
      return .range span first last

/-- Reads the signs `-` at the start of a class, at most as many as the last argument says. -/
def leadingHyphens (start : Position) (list : ItemList) : Nat → Reader ItemList
  | 0 => return list
  | n + 1 => do
      if (← current?) ≠ some '-' then return list
      let list := list.push (.literal ⟨← spanHere, '-', false⟩)
      if !(← step) then fail .classUnclosed (.empty start)
      leadingHyphens start list n

/-- The opening of a class. -/
structure Opening where
  header : Span
  negated : Bool
  list : ItemList

/-- Reads the opening of a class: the bracket, a `^`, and hyphens or a first `]`, which stand for
themselves. -/
def openClass : Reader Opening := do
  let start ← here
  if !(← step) then fail .classUnclosed (← spanFrom start)
  let negated := (← current?) = some '^'
  if negated then
    if !(← step) then fail .classUnclosed (← spanFrom start)
  let list ← leadingHyphens start (.start (← here)) (← get).rest.length
  let closing := list.items.isEmpty && (← current?) = some ']'
  if closing then
    let list := list.push (.literal ⟨← spanHere, ']', false⟩)
    if !(← step) then fail .classUnclosed (← spanFrom start)
    return ⟨← spanFrom start, negated, list⟩
  return ⟨← spanFrom start, negated, list⟩

/-- Reads a class such as `[:alpha:]`; what does not have that form is left alone. -/
def asciiClass? : Reader (Option ClassTree) := do
  let start ← here
  match (← get).rest with
  | '[' :: ':' :: inner =>
      let negated := inner.head? = some '^'
      let name := (if negated then inner.tail else inner).takeWhile (· ≠ ':')
      let whole := ['[', ':'] ++ (if negated then ['^'] else []) ++ name ++ [':', ']']
      match asciiClassNames.lookup (String.ofList name) with
      | none => return none
      | some kind =>
          if ← passes whole then return some (.ascii (← spanFrom start) kind negated)
          else return none
  | _ => return none

/-- The operation that stands at the cursor. -/
def classOperation? : Reader (Option ClassOperation) := do
  let c ← current?
  if c ≠ (← next?) then return none
  match c with
  | some '&' => return some .intersection
  | some '-' => return some .difference
  | some '~' => return some .symmetricDifference
  | _ => return none

/-- A class whose opening has been read. -/
structure OpenClass where
  opening : Opening
  start : Position
  list : ItemList
  pending : Pending

/-- Reads classes up to the end of the outermost one. `outer` holds the classes around the one
being read; each round reads at least one character, and at most as many rounds are made as the
last argument says. -/
def classRounds (inner : OpenClass) (outer : List OpenClass) :
    Nat → Reader (Span × Bool × ClassTree)
  | 0 => fail .classUnclosed inner.opening.header
  | n + 1 => do
      skipBlanks
      match ← current? with
      | none => fail .classUnclosed inner.opening.header
      | some '[' =>
          match ← asciiClass? with
          | some item => classRounds { inner with list := inner.list.push item } outer n
          | none =>
              let start ← here
              let opening ← openClass
              classRounds ⟨opening, start, opening.list, none⟩ (inner :: outer) n
      | some ']' =>
          advance
          let span ← spanFrom inner.start
          let content := inner.pending.complete inner.list.toTree
          match outer with
          | [] => return (span, inner.opening.negated, content)
          | next :: outer =>
              let item := .bracket span inner.opening.negated content
              classRounds { next with list := next.list.push item } outer n
      | some _ =>
          match ← classOperation? with
          | some kind =>
              let left := inner.pending.complete inner.list.toTree
              advance
              advance
              classRounds { inner with list := .start (← here), pending := some (kind, left) }
                outer n
          | none =>
              let item ← classRange inner.opening.header
              classRounds { inner with list := inner.list.push item } outer n

/-- Reads a class; the cursor is at its opening bracket. -/
def readBracket : Reader Tree := do
  let length := (← get).rest.length
  let start ← here
  let opening ← openClass
  let (span, negated, content) ← classRounds ⟨opening, start, opening.list, none⟩ [] (length + 1)
  return .bracket span negated content

end Flowchart.Pattern
