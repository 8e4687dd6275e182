/-!
# Sets of characters

A set of code points as an ascending list of ranges. Ranges of a normal form do not touch, so a set
has one normal form; `ofRanges` produces it, and union, intersection and complement keep it.
Large sets of the Unicode character database are written as texts and read by `ofCode`.

The database names sets of code points: general categories, scripts, properties. A table of such
sets is searched by any of their names; a query is compared without regard to case, spaces, hyphens,
underscores and a leading `is`.
-/

namespace Flowchart.Text

/-- A set of code points, as ascending ranges with both ends included. -/
structure CharSet where
  ranges : List (Nat × Nat)
  deriving DecidableEq, Inhabited, Repr

namespace CharSet

/-- The greatest code point. -/
def maxCode : Nat := 0x10FFFF

/-- Membership in an ascending list of ranges. -/
def inRanges (n : Nat) : List (Nat × Nat) → Bool
  | [] => false
  | (low, high) :: rest => if n < low then false else n ≤ high || inRanges n rest

/-- Whether a character belongs to a set. -/
def contains (s : CharSet) (c : Char) : Bool :=
  inRanges c.toNat s.ranges

/-- The empty set. -/
def empty : CharSet := ⟨[]⟩

/-- Merges neighbours of a list sorted by lower ends that overlap or touch. -/
def merge : Nat × Nat → List (Nat × Nat) → List (Nat × Nat)
  | current, [] => [current]
  | (low, high), (low', high') :: rest =>
      if low' ≤ high + 1 then merge (low, max high high') rest
      else (low, high) :: merge (low', high') rest

/-- The normal form of any list of ranges. -/
def ofRanges (ranges : List (Nat × Nat)) : CharSet :=
  match ranges.mergeSort (fun a b => a.1 ≤ b.1) with
  | [] => empty
  | r :: rest => ⟨merge r rest⟩

/-- The set of one range. -/
def range (low high : Nat) : CharSet := ⟨[(low, high)]⟩

/-- The set of one character. -/
def singleton (c : Char) : CharSet := range c.toNat c.toNat

/-- The code points in either set. -/
def union (s t : CharSet) : CharSet :=
  ofRanges (s.ranges ++ t.ranges)

/-- The code points in any of several sets. -/
def unionAll (sets : List CharSet) : CharSet :=
  ofRanges (sets.flatMap (·.ranges))

/-- The set of the characters of a list. -/
def ofList (cs : List Char) : CharSet :=
  ofRanges (cs.map fun c => (c.toNat, c.toNat))

/-- The gaps of an ascending list of ranges, from the code point `start` on. -/
def gaps (start : Nat) : List (Nat × Nat) → List (Nat × Nat)
  | [] => if start ≤ maxCode then [(start, maxCode)] else []
  | (low, high) :: rest =>
      if start < low then (start, low - 1) :: gaps (high + 1) rest else gaps (high + 1) rest

/-- The code points outside a set. -/
def complement (s : CharSet) : CharSet :=
  ⟨gaps 0 s.ranges⟩

/-- The code points in both sets. -/
def intersect (s t : CharSet) : CharSet :=
  complement (union (complement s) (complement t))

/-- The code points of the first set that are not in the second. -/
def difference (s t : CharSet) : CharSet :=
  intersect s (complement t)

/-- The code points in exactly one of two sets. -/
def symmetricDifference (s t : CharSet) : CharSet :=
  difference (union s t) (intersect s t)

/-- The number of code points in a set. -/
def size (s : CharSet) : Nat :=
  s.ranges.foldl (fun total (low, high) => total + (high + 1 - low)) 0

/-- The digits of a coded table: `0` to `9`, then `a` to `z`. -/
def codeDigit (c : Char) : Nat :=
  if c.isDigit then c.toNat - 48 else c.toNat - 87

/-- Reads the numbers of a coded table, written in base 36 and separated by spaces and line ends;
the first argument is the number whose digits are being read. -/
def codeNumbers : Option Nat → List Char → List Nat
  | none, [] => []
  | some n, [] => [n]
  | none, c :: cs =>
      if c = ' ' || c = '\n' then codeNumbers none cs else codeNumbers (some (codeDigit c)) cs
  | some n, c :: cs =>
      if c = ' ' || c = '\n' then n :: codeNumbers none cs
      else codeNumbers (some (n * 36 + codeDigit c)) cs

/-- Turns the gaps and lengths of a coded table into ranges: each range starts the first number
after the end of the one before and covers one more code point than the second number. -/
def codeRanges (start : Nat) : List Nat → List (Nat × Nat)
  | gap :: extent :: rest => (start + gap, start + gap + extent) ::
      codeRanges (start + gap + extent + 1) rest
  | _ => []

/-- Reads a coded table: for each range the gap before it and its length less one, in base 36. -/
def ofCode (code : String) : CharSet :=
  ⟨codeRanges 0 (codeNumbers none code.toList)⟩

end CharSet
end Flowchart.Text

/-! ## Sets with names -/

namespace Flowchart.Unicode

open Text (CharSet)

/-- A set of code points and its names; the set is written as a code of `Text.CharSet`. -/
structure NamedSet where
  names : List String
  code : String
  deriving Inhabited

/-- The set of code points of a named set. -/
def NamedSet.members (s : NamedSet) : CharSet :=
  .ofCode s.code

/-- A name without the characters that do not count, in lower case. -/
def bareName (name : List Char) : List Char :=
  (name.filter fun c => c.toNat < 128 && c ≠ ' ' && c ≠ '_' && c ≠ '-').map Char.toLower

/-- The form in which names are compared. A leading `is` does not count, except in `isc`, which is
a name itself. -/
def looseName (name : String) : String :=
  match name.toList with
  | i :: s :: rest =>
      if i.toLower = 'i' ∧ s.toLower = 's' then
        if bareName rest = ['c'] then "isc" else String.ofList (bareName rest)
      else String.ofList (bareName (i :: s :: rest))
  | short => String.ofList (bareName short)

/-- The named set of a table that bears a name, given in its loose form. -/
def NamedSet.find? (table : List NamedSet) (loose : String) : Option NamedSet :=
  table.find? fun s => s.names.any fun name => String.ofList (bareName name.toList) == loose

/-- The code points of the set of a table with a name; no code points if there is none. -/
def NamedSet.get (table : List NamedSet) (name : String) : CharSet :=
  match table.find? fun s => s.names.contains name with
  | some s => s.members
  | none => .empty

end Flowchart.Unicode
