import Flowchart.Pattern.Bracket
import Flowchart.Unicode.Property

/-!
# From text to tree

Reads a whole pattern: branches of sequences, groups, flags and repetitions. The text is read from
left to right and the first fault found is reported.
-/

namespace Flowchart.Pattern

open Reader

/-! ## Repetitions -/

/-- Reads a decimal number and the blanks around it. -/
def decimal : Reader (Except Fault Nat) := do
  modify fun c =>
    let rest := c.rest.dropWhile Text.isBlank
    { c with rest := rest, position := (c.rest.takeWhile Text.isBlank).foldl .after c.position }
  let start ← here
  let digits ← gather Char.isDigit
  let span ← spanFrom start
  let _ ← gather Text.isBlank
  if digits.isEmpty then return .error ⟨.countEmpty, span⟩
  let n := numeral 10 digits
  if n < 0x100000000 then return .ok n else return .error ⟨.decimalInvalid, span⟩

/-- A number, or its fault as the fault of the pattern. -/
def demand : Except Fault Nat → Reader Nat
  | .ok n => return n
  | .error fault => throw fault

/-- Reads the numbers between the braces of a count; the cursor is at the opening brace at
`start`. -/
def countBetweenBraces (start : Position) : Reader Count := do
  if !(← step) then fail .countUnclosed (← spanFrom start)
  let least ← decimal
  match ← current? with
  | none => fail .countUnclosed (← spanFrom start)
  | some ',' =>
      if !(← step) then fail .countUnclosed (← spanFrom start)
      if (← current?) = some '\x7d' then return ⟨← demand least, none⟩
      let least ← demand least
      let most ← demand (← decimal)
      return ⟨least, some most⟩
  | some _ =>
      let n ← demand least
      return ⟨n, some n⟩

/-- Whether the bounds of a count are in order. -/
def Count.inOrder (count : Count) : Bool :=
  count.most.all (count.least ≤ ·)

/-- What a repetition sign is applied to: the last part read. Flags cannot be repeated. -/
def repeated (parts : List Tree) : Reader (Tree × List Tree) := do
  match parts with
  | [] => fail .repetitionOfNothing (.empty (← here))
  | .nothing _ :: _ | .flags _ _ :: _ => fail .repetitionOfNothing (.empty (← here))
  | part :: before => return (part, before)

/-- Reads a repetition sign. `parts` are the parts before it, last one first. -/
def repetition (parts : List Tree) (sign : Char) : Reader (List Tree) := do
  let start ← here
  let (body, before) ← repeated parts
  if sign = '\x7b' then
    let count ← countBetweenBraces start
    if (← current?) ≠ some '\x7d' then fail .countUnclosed (← spanFrom start)
    let _ ← step
    let lazy := (← current?) = some '?'
    if lazy then advance
    if !count.inOrder then fail .countInvalid (← spanFrom start)
    return .repetition ⟨body.span.first, ← here⟩ count (!lazy) body :: before
  else
    let count : Count :=
      if sign = '?' then ⟨0, some 1⟩ else if sign = '*' then ⟨0, none⟩ else ⟨1, none⟩
    advance
    let lazy := (← current?) = some '?'
    if lazy then advance
    return .repetition ⟨body.span.first, ← here⟩ count (!lazy) body :: before

/-! ## Flags and names of groups -/

/-- The flags by letter. -/
def flagLetters : List (Char × Flag) := [
  ('i', .ignoreCase), ('m', .multiLine), ('s', .dotMatchesNewLine), ('U', .swapGreed),
  ('u', .unicode), ('R', .carriageReturn), ('x', .ignoreBlanks)]

/-- Reads flags up to `:` or `)`, at most as many as the last argument says. `read` holds those
already read, last one first, with their places. -/
def flagItems (read : List (FlagItem × Span)) : Nat → Reader (List FlagItem)
  | 0 => return []
  | n + 1 => do
      match ← current? with
      | none => fail .flagUnfinished (.empty (← here))
      | some c =>
          if c = ':' ∨ c = ')' then
            match read with
            | (.negation, span) :: _ => fail .flagNegationDangling span
            | _ => return read.reverse.map (·.1)
          let span ← spanHere
          let item ←
            if c = '-' then pure FlagItem.negation
            else match flagLetters.lookup c with
              | some f => pure (FlagItem.flag f)
              | none => fail .flagUnknown span
          match read.find? (·.1 = item) with
          | some (.negation, earlier) => fail (.flagNegationRepeated earlier) span
          | some (_, earlier) => fail (.flagDuplicate earlier) span
          | none =>
              advance
              flagItems ((item, span) :: read) n

/-- Whether a character may stand in the name of a group. -/
def isNameChar (first : Bool) (c : Char) : Bool :=
  if first then c = '_' || Unicode.alphabetic.contains c
  else ['_', '.', '[', ']'].contains c || Unicode.alphanumeric.contains c

/-- Reads the characters of a name up to `>`, at most as many as the last argument says. -/
def nameChars (first : Bool) : Nat → Reader (List Char)
  | 0 => return []
  | n + 1 => do
      match ← current? with
      | none => fail .groupNameUnfinished (.empty (← here))
      | some c =>
          if c = '>' then return []
          if !isNameChar first c then fail .groupNameInvalid (← spanHere)
          advance
          return c :: (← nameChars false n)

/-- Reads the name of a group and the `>` after it. -/
def groupName : Reader String := do
  let start ← here
  let name ← nameChars true ((← get).rest.length + 1)
  let span ← spanFrom start
  advance
  if name.isEmpty then fail .groupNameEmpty (.empty start)
  let name := String.ofList name
  match (← get).names.lookup name with
  | some earlier => fail (.groupNameDuplicate earlier) span
  | none =>
      modify fun c => { c with names := (name, span) :: c.names }
      return name

/-- The ways to look around, none of which is supported. -/
def lookAroundSigns : List (List Char) := [['?', '='], ['?', '!'], ['?', '<', '='], ['?', '<', '!']]

/-- Moves past the first of several texts that stands at the cursor. -/
def passesAny : List (List Char) → Reader Bool
  | [] => return false
  | text :: rest => do
      if ← passes text then return true else passesAny rest

/-- What an opening parenthesis begins. -/
inductive Parenthesis where
  | flags (tree : Tree) (items : List FlagItem)
  | group (kind : GroupKind)

/-- Reads an opening parenthesis and the signs after it. -/
def parenthesis : Reader Parenthesis := do
  let parenthesis ← spanHere
  let start := parenthesis.first
  advance
  skipBlanks
  if ← passesAny lookAroundSigns then fail .lookAround (← spanFrom start)
  let inner ← here
  if ← passesAny [['?', 'P', '<'], ['?', '<']] then
    let index ← openGroup
    return .group (.named index (← groupName))
  if ← passes ['?'] then
    if ← atEnd then fail .groupUnclosed parenthesis
    let items ← flagItems [] ((← get).rest.length + 1)
    let closing := (← current?) = some ')'
    advance
    if !closing then return .group (.flags items)
    if items.isEmpty then fail .repetitionOfNothing (.empty inner)
    return .flags (.flags (← spanFrom start) items) items
  return .group (.numbered (← openGroup))

/-! ## Sequences, branches and groups -/

/-- The branches of a group, or of the whole pattern, while they are read: where they begin, the
finished ones, where the current one begins, and its parts; all last one first. -/
structure Branches where
  start : Position
  finished : List Tree
  branchStart : Position
  parts : List Tree

/-- Branches of which nothing has been read. -/
def Branches.begin (p : Position) : Branches := ⟨p, [], p, []⟩

/-- The current branch, which ends at a place. -/
def Branches.branch (b : Branches) (past : Position) : Tree :=
  match b.parts with
  | [] => .nothing ⟨b.branchStart, past⟩
  | [part] => part
  | parts => .sequence ⟨b.branchStart, past⟩ parts.reverse

/-- All branches, of which the last one ends at a place. -/
def Branches.finish (b : Branches) (past : Position) : Tree :=
  let last := b.branch past
  if b.finished.isEmpty then last
  else .alternation ⟨b.start, past⟩ (last :: b.finished).reverse

/-- A group that has been opened: its parenthesis, its kind, whether blanks count around it, and
the branches around it. -/
structure OpenGroup where
  parenthesis : Span
  kind : GroupKind
  ignoreBlanks : Bool
  around : Branches

/-- Reads a pattern to its end, with the groups that are open. Each round reads at least one
character, and at most as many rounds are made as the last argument says. -/
def rounds (branches : Branches) (groups : List OpenGroup) : Nat → Reader Tree
  | 0 => return .nothing (.empty branches.start)
  | n + 1 => do
      skipBlanks
      let push := fun (part : Tree) => { branches with parts := part :: branches.parts }
      match ← current? with
      | none =>
          match groups with
          | group :: _ => fail .groupUnclosed group.parenthesis
          | [] => return branches.finish (← here)
      | some '(' =>
          let opening ← spanHere
          match ← parenthesis with
          | .flags tree items =>
              modify fun c =>
                { c with ignoreBlanks := (flagState? .ignoreBlanks true items).getD c.ignoreBlanks }
              rounds (push tree) groups n
          | .group kind =>
              let before := (← get).ignoreBlanks
              let items := match kind with
                | .flags items => items
                | _ => []
              modify fun c =>
                { c with ignoreBlanks := (flagState? .ignoreBlanks true items).getD c.ignoreBlanks }
              rounds (.begin (← here)) (⟨opening, kind, before, branches⟩ :: groups) n
      | some ')' =>
          match groups with
          | [] => fail .groupUnopened (← spanHere)
          | group :: groups =>
              let body := branches.finish (← here)
              modify fun c => { c with ignoreBlanks := group.ignoreBlanks }
              advance
              let tree := .group (← spanFrom group.parenthesis.first) group.kind body
              rounds { group.around with parts := tree :: group.around.parts } groups n
      | some '|' =>
          let branch := branches.branch (← here)
          advance
          rounds ⟨branches.start, branch :: branches.finished, ← here, []⟩ groups n
      | some '[' =>
          let tree ← readBracket
          rounds (push tree) groups n
      | some '\\' =>
          let tree ← readEscape
          rounds (push tree) groups n
      | some c =>
          if ['?', '*', '+', '\x7b'].contains c then
            let parts ← repetition branches.parts c
            rounds { branches with parts := parts } groups n
          else
            let span ← spanHere
            advance
            let tree := match c with
              | '.' => .dot span
              | '^' => .assertion span .lineStart
              | '$' => .assertion span .lineEnd
              | _ => .literal ⟨span, c, false⟩
            rounds (push tree) groups n

/-- The tree of a pattern, which must not be nested too deep. -/
def Tree.ofText (text : String) : Except Fault Tree := do
  let cs := text.toList
  let cursor : Cursor := ⟨cs, .start, false, 0, []⟩
  let tree ← (rounds (.begin .start) [] (cs.length + 1)).run' cursor
  match tree.tooDeep? 0 with
  | some span => throw ⟨.tooDeep, span⟩
  | none => return tree

end Flowchart.Pattern
