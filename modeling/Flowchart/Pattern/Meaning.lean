import Flowchart.Pattern.Expression
import Flowchart.Pattern.Tree
import Flowchart.Unicode.Property

/-!
# From tree to expression

What the parts of a pattern mean under the flags that are in force where they stand. Faults that
need the meaning are found here: properties that do not exist, and what could match parts of a
character.
-/

namespace Flowchart.Pattern

open Text (CharSet)

/-- The flags in force. -/
structure Flags where
  ignoreCase : Bool := false
  multiLine : Bool := false
  dotMatchesNewLine : Bool := false
  swapGreed : Bool := false
  unicode : Bool := true
  carriageReturn : Bool := false
  deriving DecidableEq, Repr

/-- The flags after a list of flags. -/
def Flags.apply (flags : Flags) (items : List FlagItem) : Flags :=
  let state := fun f current => (flagState? f true items).getD current
  { ignoreCase := state .ignoreCase flags.ignoreCase
    multiLine := state .multiLine flags.multiLine
    dotMatchesNewLine := state .dotMatchesNewLine flags.dotMatchesNewLine
    swapGreed := state .swapGreed flags.swapGreed
    unicode := state .unicode flags.unicode
    carriageReturn := state .carriageReturn flags.carriageReturn }

/-! ## Sets of characters -/

/-- The code points and their folded forms that simple case folding moves. -/
def foldPairs : List (Nat × Nat) :=
  Unicode.foldRuns.flatMap fun run =>
    run.sources.flatMap fun (low, high) =>
      (List.range (high + 1 - low)).map fun i => (low + i, ((low + i : Nat) + run.shift).toNat)

/-- A set with all characters that differ from one of its members in case only. -/
def foldCase (set : CharSet) : CharSet :=
  let holds := fun (s : CharSet) n => CharSet.inRanges n s.ranges
  let folded := set.union (.ofRanges ((foldPairs.filter fun (n, _) => holds set n).map
    fun (_, m) => (m, m)))
  folded.union (.ofRanges ((foldPairs.filter fun (_, m) => holds folded m).map
    fun (n, _) => (n, n)))

/-- A set with the other case of its Ascii letters. -/
def foldAsciiCase (set : CharSet) : CharSet :=
  let shifted (first other : Nat) : List (Nat × Nat) :=
    (set.intersect (.range first (first + 25))).ranges.map fun (low, high) =>
      (low + other - first, high + other - first)
  set.union (.ofRanges (shifted 0x41 0x61 ++ shifted 0x61 0x41))

/-- The characters outside a set. -/
def outside (set : CharSet) : CharSet :=
  Unicode.scalars.difference set

/-- Whether a set holds Ascii characters only. -/
def isAsciiSet (set : CharSet) : Bool :=
  set.ranges.all fun r => r.2 < 0x80

/-- The members of a class named between `[:` and `:]`. -/
def AsciiClass.members : AsciiClass → CharSet
  | .alnum => .ofRanges [(0x30, 0x39), (0x41, 0x5A), (0x61, 0x7A)]
  | .alpha => .ofRanges [(0x41, 0x5A), (0x61, 0x7A)]
  | .ascii => .range 0 0x7F
  | .blank => .ofList ['\t', ' ']
  | .cntrl => .ofRanges [(0, 0x1F), (0x7F, 0x7F)]
  | .digit => .range 0x30 0x39
  | .graph => .range 0x21 0x7E
  | .lower => .range 0x61 0x7A
  | .print => .range 0x20 0x7E
  | .punct => .ofRanges [(0x21, 0x2F), (0x3A, 0x40), (0x5B, 0x60), (0x7B, 0x7E)]
  | .space => .ofRanges [(0x09, 0x0D), (0x20, 0x20)]
  | .upper => .range 0x41 0x5A
  | .word => .ofRanges [(0x30, 0x39), (0x41, 0x5A), (0x5F, 0x5F), (0x61, 0x7A)]
  | .xdigit => .ofRanges [(0x30, 0x39), (0x41, 0x46), (0x61, 0x66)]

/-- The members of a class with a one letter escape. -/
def ShortClass.members (unicode : Bool) : ShortClass → CharSet
  | .digit => if unicode then Unicode.digit else AsciiClass.digit.members
  | .space => if unicode then Unicode.space else AsciiClass.space.members
  | .word => if unicode then Unicode.word else AsciiClass.word.members

/-- Folds a set if case does not count, then negates it if asked to. Where characters are bytes, no
set may hold parts of a longer character. -/
def adjust (flags : Flags) (span : Span) (negated : Bool) (set : CharSet) :
    Except Fault CharSet := do
  if flags.unicode then
    let set := if flags.ignoreCase then foldCase set else set
    return if negated then outside set else set
  else
    let set := if flags.ignoreCase then foldAsciiCase set else set
    if negated || !isAsciiSet set then throw ⟨.invalidEncoding, span⟩
    return set

/-- The set of a class with a one letter escape; case makes no difference to it. -/
def shortSet (flags : Flags) (span : Span) (kind : ShortClass) (negated : Bool) :
    Except Fault CharSet := do
  let set := kind.members flags.unicode
  if !negated then return set
  if flags.unicode then return outside set
  throw ⟨.invalidEncoding, span⟩

/-- The set of a property. -/
def propertySet (flags : Flags) (span : Span) (query : PropertyQuery) (negated : Bool) :
    Except Fault CharSet := do
  if !flags.unicode then throw ⟨.unicodeNotAllowed, span⟩
  let answer := match query with
    | .name name => Unicode.ofName name
    | .value property value => Unicode.ofValue property value
  match answer with
  | .ok set => adjust flags span negated set
  | .error .unknownProperty => throw ⟨.propertyUnknown, span⟩
  | .error .unknownValue => throw ⟨.propertyValueUnknown, span⟩

/-- The character of a literal. Where characters are bytes, one that is given as a byte must be
Ascii. -/
def Literal.meaning (flags : Flags) (c : Literal) : Except Fault Char := do
  if !flags.unicode && c.mayBeByte && 0x7F < c.char.toNat then throw ⟨.invalidEncoding, c.span⟩
  return c.char

/-- The character of a literal in a class, which must be Ascii where characters are bytes. -/
def Literal.member (flags : Flags) (c : Literal) : Except Fault Char := do
  let char ← c.meaning flags
  if !flags.unicode && 0x7F < char.toNat then throw ⟨.unicodeNotAllowed, c.span⟩
  return char

/-- Two sets joined by an operation. -/
def ClassOperation.apply : ClassOperation → CharSet → CharSet → CharSet
  | .intersection, s, t => s.intersect t
  | .difference, s, t => s.difference t
  | .symmetricDifference, s, t => s.symmetricDifference t

mutual
/-- The set of what stands between the brackets of a class. -/
def ClassTree.meaning (flags : Flags) : ClassTree → Except Fault CharSet
  | nothing _ => return .empty
  | literal c => return .singleton (← c.member flags)
  | range _ first last => do
      return .range (← first.member flags).toNat (← last.member flags).toNat
  | ascii span kind negated => adjust flags span negated kind.members
  | property span query negated => propertySet flags span query negated
  | short span kind negated => shortSet flags span kind negated
  | bracket span negated content => do adjust flags span negated (← content.meaning flags)
  | either _ items => itemsMeaning flags items
  | operation _ kind left right => do
      let left ← left.meaning flags
      let right ← right.meaning flags
      if !flags.ignoreCase then return kind.apply left right
      let fold := if flags.unicode then foldCase else foldAsciiCase
      return kind.apply (fold left) (fold right)

/-- The set of several items of a class. -/
def ClassTree.itemsMeaning (flags : Flags) : List ClassTree → Except Fault CharSet
  | [] => return .empty
  | item :: rest => do return (← item.meaning flags).union (← itemsMeaning flags rest)
end

/-! ## Expressions -/

/-- What a place asks for. -/
def Assertion.meaning (flags : Flags) : Assertion → Place
  | .lineStart => if flags.multiLine then .lineStart flags.carriageReturn else .textStart
  | .lineEnd => if flags.multiLine then .lineEnd flags.carriageReturn else .textEnd
  | .textStart => .textStart
  | .textEnd => .textEnd
  | .wordBoundary => .boundary flags.unicode
  | .noWordBoundary => .noBoundary flags.unicode
  | .wordStart => .wordStart flags.unicode
  | .wordEnd => .wordEnd flags.unicode
  | .wordStartHalf => .wordStartHalf flags.unicode
  | .wordEndHalf => .wordEndHalf flags.unicode

/-- The characters that a dot matches. -/
def dotSet (flags : Flags) : CharSet :=
  if flags.dotMatchesNewLine then Unicode.scalars
  else if flags.carriageReturn then outside (.ofList ['\n', '\r'])
  else outside (.singleton '\n')

/-- A literal, with its other cases where case does not count. -/
def Literal.expression (flags : Flags) (c : Literal) : Except Fault Expression := do
  let char ← c.meaning flags
  if !flags.ignoreCase then return .text [char]
  let fold := if flags.unicode then foldCase else foldAsciiCase
  return .ofSet (fold (.singleton char))

mutual
/-- The expression that a tree means under flags, and the flags in force behind it. -/
def Tree.meaning (flags : Flags) : Tree → Except Fault (Expression × Flags)
  | nothing _ => return (.empty, flags)
  | Tree.flags _ items => return (.empty, flags.apply items)
  | literal c => return (← c.expression flags, flags)
  | dot span => do
      if !flags.unicode then throw ⟨.invalidEncoding, span⟩
      return (.ofSet (dotSet flags), flags)
  | assertion _ kind => return (.place (kind.meaning flags), flags)
  | property span query negated => do
      return (.ofSet (← propertySet flags span query negated), flags)
  | short span kind negated => do return (.ofSet (← shortSet flags span kind negated), flags)
  | bracket span negated content => do
      return (.ofSet (← adjust flags span negated (← content.meaning flags)), flags)
  | repetition _ count greedy body => do
      let (e, _) ← body.meaning flags
      return (.repetition count.least count.most (greedy != flags.swapGreed) e, flags)
  | group _ kind body => do
      let inner := match kind with
        | .flags items => flags.apply items
        | _ => flags
      let (e, _) ← body.meaning inner
      match kind with
      | .numbered index => return (.capture index none e, flags)
      | .named index name => return (.capture index (some name) e, flags)
      | .flags _ => return (e, flags)
  | alternation _ branches => do
      let (es, behind) ← partsMeaning flags branches
      return (.alternatives es, behind)
  | sequence _ parts => do
      let (es, behind) ← partsMeaning flags parts
      return (.sequence es, behind)

/-- The expressions of several trees in order. -/
def Tree.partsMeaning (flags : Flags) : List Tree → Except Fault (List Expression × Flags)
  | [] => return ([], flags)
  | part :: rest => do
      let (e, flags) ← part.meaning flags
      let (es, flags) ← partsMeaning flags rest
      return (e :: es, flags)
end

end Flowchart.Pattern
