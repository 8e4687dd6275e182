import Flowchart.Decimal.Read
import Flowchart.Json.Print
import Flowchart.Text.Blank
import Flowchart.Text.Search

/-!
# Paths into Json documents

A path like `$.a['b'][0]` selects a part of a document, one segment after another. A name selects a
member of an object or, if it is a number, an element of an array.
-/

namespace Flowchart.Json

/-- A segment of a path. -/
inductive Segment where
  | key (name : String)
  | index (n : Nat)
  deriving DecidableEq, Repr

/-- What stands between two quotes of a kind. -/
def betweenQuotes? (quote : Char) (cs : List Char) : Option (List Char) :=
  match cs with
  | [] => none
  | c :: rest => if c = quote && rest.getLast? = some quote then some rest.dropLast else none

/-- Reads what stands between brackets: a quoted name or a number. -/
def Segment.ofBrackets? (inside : List Char) : Option Segment :=
  let inside := Text.trimList inside
  match (betweenQuotes? '\'' inside).or (betweenQuotes? '"' inside) with
  | some name => some (.key (String.ofList name))
  | none => (Decimal.index? inside).map .index

/-- Reads segments, at most so many. -/
def segmentsFrom? : Nat → List Char → Option (List Segment)
  | 0, _ => some []
  | _, [] => some []
  | fuel + 1, c :: cs =>
      if c = '[' then
        match Text.cut? [']'] cs with
        | none => none
        | some (inside, rest) => do
            return (← Segment.ofBrackets? inside) :: (← segmentsFrom? fuel rest)
      else
        let after := if c = '.' then cs else c :: cs
        let name := after.takeWhile fun c => c ≠ '.' && c ≠ '['
        let rest := after.drop name.length
        do
          let more ← segmentsFrom? fuel rest
          return if name.isEmpty then more else .key (String.ofList name) :: more

/-- Reads a path. -/
def Segment.parsePath? (path : String) : Option (List Segment) :=
  let cs := Text.trimList path.toList
  let cs := match cs with
    | '$' :: rest => rest
    | _ => cs
  segmentsFrom? (cs.length + 1) cs

/-- The part of a document that a segment selects. -/
def Value.step? (v : Value) (segment : Segment) : Option Value :=
  match segment, v with
  | .key name, .object members => members.lookup name
  | .key name, .array elements => (Decimal.index? name.toList).bind (elements[·]?)
  | .index n, .array elements => elements[n]?
  | _, _ => none

/-- The part of a document that segments select, one after another. -/
def Value.follow? (v : Value) (segments : List Segment) : Option Value :=
  segments.foldlM Value.step? v

/-- The part of a document that a written path selects. -/
def Value.select (v : Value) (path : String) : Option Value :=
  (Segment.parsePath? path).bind v.follow?

end Flowchart.Json
