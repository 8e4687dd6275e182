import Flowchart.Pattern.Fault

/-!
# Patterns as written

The tree of a pattern as its text spells it out. Every node knows the part of the text it was read
from, for the reports of faults that are found later.
-/

namespace Flowchart.Pattern

/-- A character of a pattern. One written as `\x` and two digits may stand for a byte. -/
structure Literal where
  span : Span
  char : Char
  mayBeByte : Bool := false
  deriving Repr

/-- The classes with a one letter escape. -/
inductive ShortClass where
  | digit
  | space
  | word
  deriving DecidableEq, Repr

/-- The classes with a name between `[:` and `:]`. -/
inductive AsciiClass where
  | alnum | alpha | ascii | blank | cntrl | digit | graph | lower | print | punct | space | upper
  | word | xdigit
  deriving DecidableEq, Repr

/-- How a property of characters is asked for. -/
inductive PropertyQuery where
  | name (name : String)
  | value (property value : String)
  deriving DecidableEq, Repr

/-- The operations on classes. -/
inductive ClassOperation where
  | intersection
  | difference
  | symmetricDifference
  deriving DecidableEq, Repr

/-- What stands between the brackets of a class. -/
inductive ClassTree where
  | nothing (span : Span)
  | literal (c : Literal)
  | range (span : Span) (first last : Literal)
  | ascii (span : Span) (kind : AsciiClass) (negated : Bool)
  | property (span : Span) (query : PropertyQuery) (negated : Bool)
  | short (span : Span) (kind : ShortClass) (negated : Bool)
  | bracket (span : Span) (negated : Bool) (content : ClassTree)
  | either (span : Span) (items : List ClassTree)
  | operation (span : Span) (kind : ClassOperation) (left right : ClassTree)
  deriving Inhabited

/-- The part of the text a class was read from. -/
def ClassTree.span : ClassTree → Span
  | nothing s | range s _ _ | ascii s _ _ | property s _ _ | short s _ _ | bracket s _ _
  | either s _ | operation s _ _ _ => s
  | literal c => c.span

/-- The places that a pattern can ask for. -/
inductive Assertion where
  | lineStart
  | lineEnd
  | textStart
  | textEnd
  | wordBoundary
  | noWordBoundary
  | wordStart
  | wordEnd
  | wordStartHalf
  | wordEndHalf
  deriving DecidableEq, Repr

/-- The flags of a pattern. -/
inductive Flag where
  | ignoreCase
  | multiLine
  | dotMatchesNewLine
  | swapGreed
  | unicode
  | carriageReturn
  | ignoreBlanks
  deriving DecidableEq, Repr

/-- An item of a list of flags: a flag, or the sign that the flags after it are cleared. -/
inductive FlagItem where
  | flag (f : Flag)
  | negation
  deriving DecidableEq, Repr

/-- Whether a list of flags sets or clears a flag, if it mentions it. -/
def flagState? (f : Flag) : Bool → List FlagItem → Option Bool
  | _, [] => none
  | state, .flag g :: rest => if f = g then some state else flagState? f state rest
  | _, .negation :: rest => flagState? f false rest

/-- How often a part of a pattern may be repeated. -/
structure Count where
  least : Nat
  most : Option Nat
  deriving DecidableEq, Repr

/-- What a pair of parentheses is for. -/
inductive GroupKind where
  | numbered (index : Nat)
  | named (index : Nat) (name : String)
  | flags (items : List FlagItem)
  deriving Repr

/-- A pattern as written. -/
inductive Tree where
  | nothing (span : Span)
  | flags (span : Span) (items : List FlagItem)
  | literal (c : Literal)
  | dot (span : Span)
  | assertion (span : Span) (kind : Assertion)
  | property (span : Span) (query : PropertyQuery) (negated : Bool)
  | short (span : Span) (kind : ShortClass) (negated : Bool)
  | bracket (span : Span) (negated : Bool) (content : ClassTree)
  | repetition (span : Span) (count : Count) (greedy : Bool) (body : Tree)
  | group (span : Span) (kind : GroupKind) (body : Tree)
  | alternation (span : Span) (branches : List Tree)
  | sequence (span : Span) (parts : List Tree)
  deriving Inhabited

/-- The part of the text a pattern was read from. -/
def Tree.span : Tree → Span
  | nothing s | flags s _ | dot s | assertion s _ | property s _ _ | short s _ _ | bracket s _ _
  | repetition s _ _ _ | group s _ _ | alternation s _ | sequence s _ => s
  | literal c => c.span

/-! ## Nesting -/

mutual
/-- The part of a class at which it is nested too deep, if there is one. -/
def ClassTree.tooDeep? (depth : Nat) : ClassTree → Option Span
  | bracket s _ content =>
      if depthLimit ≤ depth then some s else content.tooDeep? (depth + 1)
  | either s items => if depthLimit ≤ depth then some s else tooDeepItems? (depth + 1) items
  | operation s _ left right =>
      if depthLimit ≤ depth then some s
      else (left.tooDeep? (depth + 1)).or (right.tooDeep? (depth + 1))
  | _ => none

/-- The first too deep part of several classes. -/
def ClassTree.tooDeepItems? (depth : Nat) : List ClassTree → Option Span
  | [] => none
  | item :: rest => (item.tooDeep? depth).or (tooDeepItems? depth rest)
end

mutual
/-- The part of a pattern at which it is nested too deep, if there is one. -/
def Tree.tooDeep? (depth : Nat) : Tree → Option Span
  | bracket s _ content => if depthLimit ≤ depth then some s else content.tooDeep? (depth + 1)
  | repetition s _ _ body | group s _ body =>
      if depthLimit ≤ depth then some s else body.tooDeep? (depth + 1)
  | alternation s parts | sequence s parts =>
      if depthLimit ≤ depth then some s else tooDeepParts? (depth + 1) parts
  | _ => none

/-- The first too deep part of several patterns. -/
def Tree.tooDeepParts? (depth : Nat) : List Tree → Option Span
  | [] => none
  | part :: rest => (part.tooDeep? depth).or (tooDeepParts? depth rest)
end

end Flowchart.Pattern
