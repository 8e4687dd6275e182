import Flowchart.Pattern.Program
import Std.Data.HashSet

/-!
# Searching a text

Runs a program over a text. Of all matches the leftmost is found, and of those that start there the
one preferred by the choices of the program. A pair of address and position that has failed once is
not tried again, so the work is bounded by the product of the lengths of program and text.
-/

namespace Flowchart.Pattern

open Text (CharSet)

/-- A text with its characters at hand. -/
abbrev Subject := Array Char

/-- Whether a character at a position belongs to a set; there is none outside the text. -/
def holdsAt (s : Subject) (accepts : Char → Bool) (i : Nat) : Bool :=
  s[i]?.any accepts

/-- Whether the character before a position meets a condition. -/
def holdsBefore (s : Subject) (accepts : Char → Bool) : Nat → Bool
  | 0 => false
  | i + 1 => holdsAt s accepts i

/-- The characters of words of Ascii. -/
def isAsciiWord (c : Char) : Bool := c.isAlphanum || c = '_'

/-- Whether a position is a place. A carriage return and the line feed after it end a line
together where carriage returns count. -/
def Place.holds (words : CharSet) (s : Subject) (i : Nat) : Place → Bool
  | textStart => i = 0
  | textEnd => i = s.size
  | lineStart cr =>
      i = 0 || holdsBefore s (· = '\n') i ||
        (cr && holdsBefore s (· = '\r') i && !holdsAt s (· = '\n') i)
  | lineEnd cr =>
      i = s.size || (cr && holdsAt s (· = '\r') i) ||
        (holdsAt s (· = '\n') i && !(cr && holdsBefore s (· = '\r') i))
  | boundary u => before u != after u
  | noBoundary u => before u == after u
  | wordStart u => !before u && after u
  | wordEnd u => before u && !after u
  | wordStartHalf u => !before u
  | wordEndHalf u => !after u
where
  isWord (u : Bool) (c : Char) : Bool := if u then words.contains c else isAsciiWord c
  before (u : Bool) : Bool := holdsBefore s (isWord u) i
  after (u : Bool) : Bool := holdsAt s (isWord u) i

/-- The positions that were noted, last one first. -/
abbrev Slots := List (Nat × Nat)

/-- A way to go on: an address, a position, and what was noted on the way. -/
structure Thread where
  address : Nat
  position : Nat
  slots : Slots

/-- What an instruction makes of a thread. -/
inductive Outcome where
  | accepted
  | goOn (threads : List Thread)

/-- One step of a thread. -/
def Program.step (p : Program) (s : Subject) (t : Thread) : Outcome :=
  let next := t.address + 1
  match p.code[t.address]? with
  | none => .goOn []
  | some .accept => .accepted
  | some (.char c) =>
      .goOn (if holdsAt s (· = c) t.position then [⟨next, t.position + 1, t.slots⟩] else [])
  | some (.oneOf set) =>
      .goOn (if holdsAt s set.contains t.position then [⟨next, t.position + 1, t.slots⟩] else [])
  | some (.place place) =>
      .goOn (if place.holds p.words s t.position then [⟨next, t.position, t.slots⟩] else [])
  | some (.split preferred other) =>
      .goOn [⟨preferred, t.position, t.slots⟩, ⟨other, t.position, t.slots⟩]
  | some (.jump target) => .goOn [⟨target, t.position, t.slots⟩]
  | some (.note slot) => .goOn [⟨next, t.position, (slot, t.position) :: t.slots⟩]

/-- Pairs of address and position, as numbers. -/
abbrev Tried := Std.HashSet Nat

/-- Follows threads, the first one to its end before the next; what was tried before fails. The
last argument bounds the number of steps. -/
def Program.follow (p : Program) (s : Subject) : List Thread → Tried → Nat → Option Slots × Tried
  | [], tried, _ | _, tried, 0 => (none, tried)
  | t :: rest, tried, n + 1 =>
      let key := t.address * (s.size + 1) + t.position
      if tried.contains key then p.follow s rest tried n
      else
        match p.step s t with
        | .accepted => (some t.slots, tried)
        | .goOn threads => p.follow s (threads ++ rest) (tried.insert key) n

/-- Searches at a position and at so many after it. -/
def Program.searchFrom (p : Program) (s : Subject) (steps : Nat) (tried : Tried) (position : Nat) :
    Nat → Option Slots
  | 0 => none
  | n + 1 =>
      match p.follow s [⟨0, position, []⟩] tried steps with
      | (some slots, _) => some slots
      | (none, tried) => p.searchFrom s steps tried (position + 1) n

/-- The number of steps that is enough for a search: each pair of address and position is tried
once, and brings at most two threads. -/
def Program.enoughSteps (p : Program) (s : Subject) : Nat :=
  2 * p.code.size * (s.size + 1) + 1

/-- The first match that starts at a position or after it. -/
def Program.search (p : Program) (s : Subject) (position : Nat) : Option Slots :=
  p.searchFrom s (p.enoughSteps s) ∅ position (s.size + 1 - position)

/-- A match: where it starts and ends, and what the groups hold. -/
structure Match where
  first : Nat
  past : Nat
  slots : Slots

/-- A match by its slots. -/
def Match.ofSlots (slots : Slots) : Match :=
  ⟨(slots.lookup 0).getD 0, (slots.lookup 1).getD 0, slots⟩

/-- The part of the text that a group holds. A group that took no part holds nothing. -/
def Match.group (m : Match) (s : Subject) (index : Nat) : List Char :=
  match m.slots.lookup (2 * index), m.slots.lookup (2 * index + 1) with
  | some first, some past => (s.extract first past).toList
  | _, _ => []

/-- The matches from a position on, none of which overlap. An empty match where the last one ended
does not count. -/
def Program.matchesFrom (p : Program) (s : Subject) (position : Nat) (lastEnd : Option Nat) :
    Nat → List Match
  | 0 => []
  | n + 1 =>
      let found := match (p.search s position).map Match.ofSlots with
        | none => none
        | some m =>
            if m.first = m.past ∧ lastEnd = some m.past then
              (p.search s (position + 1)).map Match.ofSlots
            else some m
      match found with
      | none => []
      | some m => m :: p.matchesFrom s m.past (some m.past) n

/-- All matches in a text. -/
def Program.matchesIn (p : Program) (s : Subject) : List Match :=
  p.matchesFrom s 0 none (s.size + 1)

end Flowchart.Pattern
