import Flowchart.Decimal.Read
import Flowchart.Text.Blank
import Flowchart.Xml.Element

/-!
# Paths into Xml documents

A path like `/a/b[2]/@k` selects a text. Each step keeps the children of the elements selected so
far that have its name, and a position keeps one of them all; `//` looks for the first name at any
depth. A last step `@k` or `text()` selects an attribute or the text of the first element.
-/

namespace Flowchart.Xml

/-- A step to elements by name, and possibly the one of them to keep, counted from one. -/
structure Step where
  name : String
  position : Option Nat
  deriving DecidableEq, Repr

namespace Step

/-- Reads a step. -/
def parse? (cs : List Char) : Option Step :=
  match Text.cut? ['['] cs with
  | none => some ⟨String.ofList cs, none⟩
  | some (name, predicate) =>
      if predicate.getLast? = some ']' then
        match Decimal.index? (Text.trimList predicate.dropLast) with
        | some n => if 1 ≤ n then some ⟨String.ofList name, some n⟩ else none
        | none => none
      else none

/-- Keeps the element at the position of a step, or all of them. -/
def pick (step : Step) (elements : List Element) : List Element :=
  match step.position with
  | none => elements
  | some n => (elements.drop (n - 1)).take 1

/-- Goes on from elements to their children. -/
def descend (step : Step) (elements : List Element) : List Element :=
  step.pick (elements.flatMap fun e => e.children.filter (·.isNamed step.name))

end Step

/-- What a path selects of the first element it leads to. -/
inductive Target where
  | attribute (name : String)
  | ownText
  | wholeText
  deriving DecidableEq, Repr

/-- A path: whether its first step looks at all depths, its steps to elements, and what it selects
there. -/
structure Path where
  anyDepth : Bool
  first : Step
  others : List Step
  target : Target
  deriving DecidableEq, Repr

namespace Path

/-- Splits off a last step that selects part of an element. -/
def splitTarget (steps : List (List Char)) : List (List Char) × Target :=
  match steps.getLast? with
  | some ('@' :: name) => (steps.dropLast, .attribute (String.ofList name))
  | some ['t', 'e', 'x', 't', '(', ')'] => (steps.dropLast, .ownText)
  | _ => (steps, .wholeText)

/-- Reads a path. -/
def parse? (s : String) : Option Path := do
  let (anyDepth, rest) := match Text.trimList s.toList with
    | '/' :: '/' :: rest => (true, rest)
    | '/' :: rest => (false, rest)
    | rest => (false, rest)
  let pieces := (Text.splitList (· == '/') rest).filter (!·.isEmpty)
  let (steps, target) := splitTarget pieces
  match ← steps.mapM Step.parse? with
  | [] => none
  | first :: others => some { anyDepth, first, others, target }

/-- The elements that a path leads to. Each step goes through the children of one element after the
other. -/
def elements (path : Path) (root : Element) : List Element :=
  let found :=
    if path.anyDepth then root.named path.first.name
    else if root.isNamed path.first.name then [root] else []
  path.others.foldl (fun es step => step.descend es) (path.first.pick found)

/-- What a target is in an element. -/
def Target.of (e : Element) : Target → Option String
  | .attribute name => e.attributes.lookup name
  | .ownText => some e.text
  | .wholeText => some e.stringValue

/-- The text that a path selects in a document. -/
def select (path : Path) (root : Element) : Option String :=
  (path.elements root).head?.bind fun e => Target.of e path.target

end Path

/-- The text that a written path selects in a document. -/
def Element.select (root : Element) (path : String) : Option String :=
  (Path.parse? path).bind (·.select root)

end Flowchart.Xml
