import Flowchart.Pattern.Expression

/-!
# The texts a match begins with

Many expressions match one of a few texts. This module lists the texts, as bytes, with which every
match must begin, as long as there are few; a text is exact if it is a whole match. An expression
whose texts are all exact can be searched for by its texts alone, without a program.
-/

namespace Flowchart.Pattern

open Text (CharSet)

/-- Bytes that a match may begin with. -/
structure Candidate where
  bytes : List Nat
  exact : Bool
  deriving DecidableEq, Repr

/-- The texts that a match may begin with, in order of preference; `none` if there are too many. -/
abbrev Candidates := Option (List Candidate)

namespace Candidates

/-- The largest set of characters whose members are listed. -/
def setLimit : Nat := 10

/-- The greatest number of rounds of a repetition that are listed. -/
def roundLimit : Nat := 10

/-- The greatest number of bytes of a text. -/
def byteLimit : Nat := 100

/-- The greatest number of texts. -/
def countLimit : Nat := 250

/-- The empty text as a whole match. -/
def nothing : Candidates := some [⟨[], true⟩]

/-- Marks all texts as not exact. -/
def inexact (cs : Candidates) : Candidates :=
  cs.map fun list => list.map fun c => { c with exact := false }

/-- Whether no text is exact. -/
def isInexact (cs : Candidates) : Bool :=
  cs.all fun list => list.all fun c => !c.exact

/-- A text cut after a number of bytes. -/
def cut (n : Nat) (c : Candidate) : Candidate :=
  if c.bytes.length ≤ n then c else ⟨c.bytes.take n, false⟩

/-- Drops a text that equals its neighbour; what is left is exact if both were. -/
def dropRepeats : List Candidate → List Candidate
  | a :: b :: rest =>
      if a.bytes = b.bytes then
        dropRepeats (⟨a.bytes, a.exact && b.exact⟩ :: rest)
      else a :: dropRepeats (b :: rest)
  | short => short
  termination_by list => list.length

/-- The number of texts, where it is known. -/
def count? (cs : Candidates) : Option Nat := cs.map List.length

/-- Texts, or nothing if their number would exceed the limit. -/
def within (count : Option Nat) (cs : Candidates) : Candidates :=
  if count.any (countLimit < ·) then none else cs

/-- The texts of a sequence of two parts. -/
def cross (first second : Candidates) : Candidates :=
  let product := do return (← count? first) * (← count? second)
  match within product second, first with
  | none, some list =>
      if list.any (·.bytes.isEmpty) then none else inexact (some list)
  | _, none => none
  | some tails, some list =>
      let joined := list.flatMap fun c =>
        if c.exact then tails.map fun t => ⟨c.bytes ++ t.bytes, t.exact⟩ else [c]
      some ((dropRepeats joined).map (cut byteLimit))

/-- The texts of two alternatives. Where there are too many, they are cut to four bytes first. -/
def union (first second : Candidates) : Candidates :=
  let total := fun (a b : Candidates) => do return (← count? a) + (← count? b)
  let crowded := (total first second).any (countLimit < ·)
  let shorten := fun (cs : Candidates) =>
    if crowded then cs.map fun list => dropRepeats (list.map (cut 4)) else cs
  let first := shorten first
  let second := shorten second
  match first, within (total first second) second with
  | some a, some b => some (dropRepeats (a ++ b))
  | _, _ => none

/-- The texts of a number of rounds of an expression with the given texts. -/
def rounds (body : Candidates) : Nat → Candidates → Candidates
  | 0, cs => cs
  | n + 1, cs => if isInexact cs then cs else rounds body n (cross cs body)

/-- The texts of the members of a set. -/
def ofSet (set : CharSet) : Candidates :=
  if setLimit < set.size then none
  else some (set.ranges.flatMap fun (low, high) =>
    (List.range (high + 1 - low)).map fun i => ⟨Text.utf8Bytes (low + i), true⟩)

end Candidates

open Candidates

mutual
/-- The texts that the matches of an expression begin with. -/
def Expression.candidates : Expression → Candidates
  | .empty | .place _ => nothing
  | .text chars => some [cut byteLimit ⟨chars.flatMap fun c => Text.utf8Bytes c.toNat, true⟩]
  | .oneOf set => ofSet set
  | .capture _ _ body => body.candidates
  | .inOrder parts => sequenceCandidates nothing parts
  | .anyOf branches => branchCandidates (some []) branches
  | .repeated least most greedy body =>
      let once := body.candidates
      if least = 0 then
        let more := if most = some 1 then once else inexact once
        if greedy then union more nothing else union nothing more
      else
        let all := Candidates.rounds once (min least roundLimit) nothing
        if most = some least ∧ least ≤ roundLimit then all else inexact all

/-- The texts of a sequence whose first parts have the given ones. -/
def sequenceCandidates (before : Candidates) : List Expression → Candidates
  | [] => before
  | e :: rest =>
      if isInexact before then before else sequenceCandidates (cross before e.candidates) rest

/-- The texts of alternatives of which the first have the given ones. -/
def branchCandidates (before : Candidates) : List Expression → Candidates
  | [] => before
  | e :: rest =>
      if before.isNone then none else branchCandidates (union before e.candidates) rest
end

namespace Candidates

/-- Drops the texts that begin with a text before them, which is preferred to them. -/
def dropExtensions (kept : List Candidate) : List Candidate → List Candidate
  | [] => kept.reverse
  | c :: rest =>
      if kept.any (·.bytes.isPrefixOf c.bytes) then dropExtensions kept rest
      else dropExtensions (c :: kept) rest

/-- The bytes that two texts begin with. -/
def sharedBytes : List Nat → List Nat → List Nat
  | a :: as, b :: bs => if a = b then a :: sharedBytes as bs else []
  | _, _ => []

/-- The bytes that all texts begin with. -/
def commonBytes : List Candidate → List Nat
  | [] => []
  | c :: rest => rest.foldl (fun shared d => sharedBytes shared d.bytes) c.bytes

/-- Whether a byte is rare in texts. -/
def isRare (byte : Nat) : Bool :=
  byte < 0x80 && !("\n\r (),-./0129:_abcdefghilmnoprstuvxy|".toList.contains (Char.ofNat byte))

/-- Attempts to shorten a list that is too long: the number of bytes that are kept of each text,
and the number of texts up to which nothing is done. -/
def attempts : List (Nat × Nat) := [(5, 10), (4, 10), (3, 64), (2, 64), (1, 10)]

/-- Makes the attempts in order, up to the first that is not needed. -/
def shorten : List (Nat × Nat) → List Candidate → List Candidate
  | [], list => list
  | (keep, limit) :: rest, list =>
      if list.length ≤ limit then list
      else shorten rest (dropExtensions [] (list.map (cut keep)))

/-- The list that is searched for: short texts that are found fast, unless the whole texts are few
or short already. -/
def searched (all : List Candidate) : List Candidate :=
  let list := dropExtensions [] all
  let shared := commonBytes list
  if 1 < all.length ∧ 1 ≤ shared.length ∧ shared.length ≤ 3 ∧ isRare (shared.headD 0) then
    dropRepeats (list.map (cut 1))
  else
    let few := list.all (·.exact) && list.length ≤ 16
    let list :=
      if 4 < shared.length ∨ (1 < shared.length ∧ !few) then
        dropRepeats (list.map (cut shared.length))
      else list
    let short := shorten attempts list
    if list.all (·.exact) ∧ (short.any (·.bytes.length ≤ 2) ∨ 64 < short.length) then list
    else short

end Candidates

/-- Whether an expression can be searched for by a list of texts alone. -/
def Expression.isListOfTexts (e : Expression) : Bool :=
  !e.startsAtTextStart && e.isPlain &&
    match e.candidates with
    | none => false
    | some list =>
        !list.isEmpty && list.all (fun c => !c.bytes.isEmpty) && (searched list).all (·.exact)

end Flowchart.Pattern
