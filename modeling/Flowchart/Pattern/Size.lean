import Flowchart.Pattern.Candidates

/-!
# The size of a pattern

The number of bytes that an automaton for a pattern would take, over the bytes of Utf-8. A pattern
is searched forward to find the end of a match and backward to find its start, and both automata
must stay within the limit.
-/

namespace Flowchart.Pattern

open Text (CharSet)

namespace Size

/-- The size of a state. -/
def state : Nat := 32

/-- The size of a state with several ways out, chosen by ranges of bytes. -/
def branching (ways : Nat) : Nat := state + 8 * ways

/-- The size of a state with several ways out that are tried in order. -/
def choice (ways : Nat) : Nat := state + 4 * ways

/-! ## Sets of characters as ranges of bytes -/

/-- Splits a range of code points of one width where the bytes before the last ones change; the
first argument lists the sizes of blocks of code points that share those bytes. -/
def splitBlocks : List Nat → Nat → Nat → List (Nat × Nat)
  | [], low, high => [(low, high)]
  | size :: sizes, low, high =>
      if low / size = high / size then [(low, high)]
      else
        let inner := if low % size = 0 then low else (low / size + 1) * size
        let past := if high % size = size - 1 then high + 1 else high / size * size
        (if low < inner then [(low, inner - 1)] else []) ++
          (if inner < past then splitBlocks sizes inner (past - 1) else []) ++
          (if past ≤ high then [(past, high)] else [])

/-- The ranges of characters of equal width. -/
def widthRanges : List (Nat × Nat) :=
  [(0, 0x7F), (0x80, 0x7FF), (0x800, 0xD7FF), (0xE000, 0xFFFF), (0x10000, 0x10FFFF)]

/-- A range of code points as sequences of ranges of bytes. -/
def byteSequences (low high : Nat) : List (List (Nat × Nat)) :=
  widthRanges.flatMap fun (first, last) =>
    let low := max low first
    let high := min high last
    if high < low then []
    else (splitBlocks [64, 4096, 262144] low high).map fun (a, b) =>
      (Text.utf8Bytes a).zip (Text.utf8Bytes b)

/-- A state that reads one byte: the ranges of bytes, each with the number of the state behind
it. -/
abbrev Node := List ((Nat × Nat) × Nat)

/-- Sequences that begin with the same range, as the rests behind it. -/
def groupByFirst : List (List (Nat × Nat)) → List ((Nat × Nat) × List (List (Nat × Nat)))
  | [] => []
  | [] :: rest => groupByFirst rest
  | (first :: tail) :: rest =>
      match groupByFirst rest with
      | (range, tails) :: groups =>
          if range = first then (range, (tail :: tails)) :: groups
          else (first, [tail]) :: (range, tails) :: groups
      | [] => [(first, [tail])]

/-- Adds the states that read sequences of at most `depth` bytes; equal states are shared. The
state behind the last byte has the number 0. -/
def addNodes : Nat → List (List (Nat × Nat)) → Array Node → Nat × Array Node
  | 0, _, table => (0, table)
  | depth + 1, sequences, table =>
      if sequences.all List.isEmpty then (0, table)
      else
        let (node, table) := (groupByFirst sequences).foldl (fun (node, table) (range, tails) =>
          let (target, table) := addNodes depth tails table
          ((range, target) :: node, table)) ([], table)
        match table.idxOf? node with
        | some i => (i + 1, table)
        | none => (table.size + 1, table.push node)

/-- The number of ranges of sequences that are not shared with the sequence before. -/
def unshared (before : List (Nat × Nat)) : List (List (Nat × Nat)) → Nat
  | [] => 0
  | s :: rest =>
      let shared := ((before.zip s).takeWhile fun (a, b) => a = b).length
      s.length - shared + unshared s rest

/-- The size of the states for a set of characters. -/
def ofSet (backward : Bool) (set : CharSet) : Nat :=
  if set.ranges.all fun r => r.2 < 0x80 then state + branching set.ranges.length
  else
    let sequences := set.ranges.flatMap fun (low, high) => byteSequences low high
    if backward then
      state + choice sequences.length + state * unshared [] sequences
    else
      let (_, table) := addNodes 4 sequences #[]
      table.foldl (fun size node => size + branching node.length) state

/-! ## Alternatives of texts as a tree of bytes -/

/-- Texts up to one that ends here, and those after it; where none ends, all of them. -/
def splitAtEnd : List (List Nat) → List (List Nat) × Option (List (List Nat))
  | [] => ([], none)
  | [] :: rest => ([], some rest)
  | text :: rest =>
      let (before, after) := splitAtEnd rest
      (text :: before, after)

/-- The texts that may follow a byte, in order, for each byte. -/
def followers (texts : List (List Nat)) : List (List (List Nat)) :=
  (texts.filterMap List.head?).eraseDups.map fun byte =>
    texts.filterMap fun text => match text with
      | b :: tail => if b = byte then some tail else none
      | [] => none

/-- The pieces between the ends of texts. An end before which nothing can be read counts once. -/
def pieces : Nat → Bool → List (List Nat) → List (List (List Nat))
  | 0, _, _ => []
  | n + 1, fresh, texts =>
      match splitAtEnd texts with
      | (piece, none) => [piece]
      | (piece, some rest) =>
          if fresh && piece.isEmpty then [] :: pieces n false (rest.dropWhile List.isEmpty)
          else piece :: pieces n false rest

/-- The size of the states that tell texts apart, byte by byte, up to a number of bytes. -/
def ofTexts : Nat → List (List Nat) → Nat
  | 0, _ => 0
  | depth + 1, texts =>
      if texts.all List.isEmpty then 0
      else
        let pieces := pieces (texts.length + 1) true texts
        let sizes := pieces.map fun piece =>
          let next := followers piece
          (if next.isEmpty then 0 else if next.length = 1 then state else branching next.length) +
            (next.map (ofTexts depth)).sum
        let full := (pieces.filter fun piece => !piece.isEmpty).length
        choice (full + (pieces.length - 1)) + sizes.sum

end Size

open Size

/-- The characters of a text. -/
def Expression.chars? : Expression → Option (List Char)
  | .text chars => some chars
  | _ => none

/-- The size of the states for alternatives that are all texts. -/
def Size.ofAlternatives (backward : Bool) (texts : List (List Char)) : Nat :=
  let bytes := texts.map fun chars => chars.flatMap fun c => Text.utf8Bytes c.toNat
  let bytes := if backward then bytes.map List.reverse else bytes
  state + ofTexts ((bytes.map List.length).foldl max 0 + 1) bytes

/-- The size of the states for several rounds of a body. -/
def Size.ofRepetition (least : Nat) (most : Option Nat) (mayBeEmpty : Bool) (body : Nat) : Nat :=
  match most with
  | none =>
      if least = 0 then (if mayBeEmpty then 2 * choice 2 + state else choice 2) + body
      else least * body + choice 2
  | some most =>
      if least = 0 ∧ most = 1 then choice 2 + state + body
      else
        let fixed := if least = 0 then state else least * body
        if most = least then fixed else fixed + state + (most - least) * (choice 2 + body)

mutual
/-- The size of the states for an expression, backward or forward. -/
def Expression.size (backward : Bool) : Expression → Nat
  | .empty | .place _ => state
  | .text chars => state * Text.utf8Length chars
  | .oneOf set => Size.ofSet backward set
  | .capture _ _ body => (if backward then 0 else 2 * state) + body.size backward
  | .inOrder parts => sizeSum backward parts
  | .anyOf branches =>
      match branches.mapM Expression.chars? with
      | some texts => Size.ofAlternatives backward texts
      | none => state + choice branches.length + sizeSum backward branches
  | .repeated least most _ body =>
      Size.ofRepetition least most (!body.leastLength.any (0 < ·)) (body.size backward)

/-- The sizes of several expressions together. -/
def sizeSum (backward : Bool) : List Expression → Nat
  | [] => 0
  | e :: rest => e.size backward + sizeSum backward rest
end

/-- The size of the automaton for an expression. Unless every match stands at the end where the
search begins, it passes over any bytes first. -/
def Expression.automatonSize (e : Expression) (backward : Bool) : Nat :=
  let fixed := if backward then e.endsAtTextEnd else e.startsAtTextStart
  let lead := if fixed then state else choice 2 + state + branching 1
  let whole := if backward then 0 else 2 * state
  lead + state + whole + e.size backward

/-- Whether an expression is within a limit. -/
def Expression.fits (e : Expression) (limit : Nat) : Bool :=
  e.isListOfTexts || (e.automatonSize false ≤ limit && e.automatonSize true ≤ limit)

end Flowchart.Pattern
