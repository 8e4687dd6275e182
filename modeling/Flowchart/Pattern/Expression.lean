import Flowchart.Encoding.Utf
import Flowchart.Text.CharSet

/-!
# Expressions

What a pattern means: an expression over literals, sets of characters, places, repetitions, groups,
sequences and alternatives. The functions `literal`, `ofSet`, `sequence`, `alternatives` and
`repetition` build expressions in simplified form: literals side by side become one, nested
sequences and alternatives are flattened, alternatives of single characters become a set, and a
beginning that all alternatives share is written once.
-/

namespace Flowchart.Pattern

open Text (CharSet)

/-- Places in a text at which nothing is consumed. Those of words come in two kinds, for all
characters of words and for those of Ascii only. -/
inductive Place where
  | textStart
  | textEnd
  | lineStart (carriageReturn : Bool)
  | lineEnd (carriageReturn : Bool)
  | boundary (unicode : Bool)
  | noBoundary (unicode : Bool)
  | wordStart (unicode : Bool)
  | wordEnd (unicode : Bool)
  | wordStartHalf (unicode : Bool)
  | wordEndHalf (unicode : Bool)
  deriving DecidableEq, Repr

/-- What a pattern matches. -/
inductive Expression where
  | empty
  | text (chars : List Char)
  | oneOf (set : CharSet)
  | place (p : Place)
  | repeated (least : Nat) (most : Option Nat) (greedy : Bool) (body : Expression)
  | capture (index : Nat) (name : Option String) (body : Expression)
  | inOrder (parts : List Expression)
  | anyOf (branches : List Expression)
  deriving Inhabited, BEq

namespace Expression

/-! ## Measures -/

/-- The sum of two bounds; `none` stands for no bound. -/
def addBounds (a b : Option Nat) : Option Nat :=
  match a, b with
  | some m, some n => some (m + n)
  | _, _ => none

mutual
/-- The least number of bytes of a match; `none` if there is no match. -/
def leastLength : Expression → Option Nat
  | empty | place _ => some 0
  | text chars => some (Text.utf8Length chars)
  | oneOf set => set.ranges.head?.map fun r => Text.utf8Width r.1
  | repeated least _ _ body => body.leastLength.map (least * ·)
  | capture _ _ body => body.leastLength
  | inOrder parts => leastLengthSum parts
  | anyOf branches => (leastLengths branches).map fun lengths => lengths.foldl min (lengths.headD 0)

/-- The sum of the least lengths of several expressions. -/
def leastLengthSum : List Expression → Option Nat
  | [] => some 0
  | e :: rest => addBounds e.leastLength (leastLengthSum rest)

/-- The least lengths of several expressions, if all of them can match. -/
def leastLengths : List Expression → Option (List Nat)
  | [] => some []
  | e :: rest => do return (← e.leastLength) :: (← leastLengths rest)
end

mutual
/-- The greatest number of bytes of a match; `none` if there is no match or no bound. -/
def mostLength : Expression → Option Nat
  | empty | place _ => some 0
  | text chars => some (Text.utf8Length chars)
  | oneOf set => set.ranges.getLast?.map fun r => Text.utf8Width r.2
  | repeated _ most _ body => do return (← most) * (← body.mostLength)
  | capture _ _ body => body.mostLength
  | inOrder parts => mostLengthSum parts
  | anyOf branches => (mostLengths branches).map fun lengths => lengths.foldl max 0

/-- The sum of the greatest lengths of several expressions. -/
def mostLengthSum : List Expression → Option Nat
  | [] => some 0
  | e :: rest => addBounds e.mostLength (mostLengthSum rest)

/-- The greatest lengths of several expressions, if all of them have one. -/
def mostLengths : List Expression → Option (List Nat)
  | [] => some []
  | e :: rest => do return (← e.mostLength) :: (← mostLengths rest)
end

/-- Whether a match may consume something. -/
def mayConsume (e : Expression) : Bool :=
  e.mostLength.all (0 < ·)

mutual
/-- Whether every match begins at the start of the text. -/
def startsAtTextStart : Expression → Bool
  | place p => p = .textStart
  | repeated least _ _ body => 0 < least && body.startsAtTextStart
  | capture _ _ body => body.startsAtTextStart
  | inOrder parts => someStartsAtTextStart parts
  | anyOf branches => !branches.isEmpty && allStartAtTextStart branches
  | _ => false

/-- Whether one of the parts of a sequence that are reached without consuming anything stands at
the start of the text. -/
def someStartsAtTextStart : List Expression → Bool
  | [] => false
  | e :: rest => e.startsAtTextStart || (!e.mayConsume && someStartsAtTextStart rest)

/-- Whether all branches stand at the start of the text. -/
def allStartAtTextStart : List Expression → Bool
  | [] => true
  | e :: rest => e.startsAtTextStart && allStartAtTextStart rest
end

mutual
/-- Whether every match ends at the end of the text. -/
def endsAtTextEnd : Expression → Bool
  | place p => p = .textEnd
  | repeated least _ _ body => 0 < least && body.endsAtTextEnd
  | capture _ _ body => body.endsAtTextEnd
  | inOrder parts => someEndsAtTextEnd parts
  | anyOf branches => !branches.isEmpty && allEndAtTextEnd branches
  | _ => false

/-- Whether one of the parts of a sequence after which nothing more is consumed stands at the end
of the text. -/
def someEndsAtTextEnd : List Expression → Bool
  | [] => false
  | e :: rest => someEndsAtTextEnd rest || (!mayConsumeAny rest && e.endsAtTextEnd)

/-- Whether one of several parts may consume something. -/
def mayConsumeAny : List Expression → Bool
  | [] => false
  | e :: rest => e.mayConsume || mayConsumeAny rest

/-- Whether all branches stand at the end of the text. -/
def allEndAtTextEnd : List Expression → Bool
  | [] => true
  | e :: rest => e.endsAtTextEnd && allEndAtTextEnd rest
end

mutual
/-- Whether nothing is asked about places and no group captures. -/
def isPlain : Expression → Bool
  | empty | text _ | oneOf _ => true
  | place _ | capture _ _ _ => false
  | repeated _ _ _ body => body.isPlain
  | inOrder parts => allPlain parts
  | anyOf branches => allPlain branches

/-- Whether all of several expressions are plain. -/
def allPlain : List Expression → Bool
  | [] => true
  | e :: rest => e.isPlain && allPlain rest
end

/-! ## Building expressions -/

/-- The expression for one character out of a set. -/
def ofSet (set : CharSet) : Expression :=
  match set.ranges with
  | [(n, m)] => if n = m then text [Char.ofNat n] else oneOf set
  | _ => oneOf set

/-- Joins neighbouring texts of flattened parts; `waiting` holds the text before the parts. -/
def joinTexts (waiting : List Char) : List Expression → List Expression
  | [] => if waiting.isEmpty then [] else [text waiting]
  | text chars :: rest => joinTexts (waiting ++ chars) rest
  | empty :: rest => joinTexts waiting rest
  | e :: rest =>
      if waiting.isEmpty then e :: joinTexts [] rest else text waiting :: e :: joinTexts [] rest

/-- The parts of a sequence; any other expression is its own only part. -/
def parts : Expression → List Expression
  | inOrder parts => parts
  | e => [e]

/-- The branches of alternatives; any other expression is its own only branch. -/
def branches : Expression → List Expression
  | anyOf branches => branches
  | e => [e]

/-- The expression for several ones in order. -/
def sequence (es : List Expression) : Expression :=
  match joinTexts [] (es.flatMap parts) with
  | [] => empty
  | [e] => e
  | es => inOrder es

/-- The character of a text of one character. -/
def singleChar? : Expression → Option Char
  | text [c] => some c
  | _ => none

/-- The set of an expression for one character out of a set. -/
def set? : Expression → Option CharSet
  | oneOf set => some set
  | _ => none

/-- The parts that two lists begin with. -/
def sharedStart : List Expression → List Expression → List Expression
  | a :: as, b :: bs => if a == b then a :: sharedStart as bs else []
  | _, _ => []

/-- The parts of a sequence proper. -/
def parts? : Expression → Option (List Expression)
  | inOrder parts => some parts
  | _ => none

/-- The parts that all of several sequences begin with, if all of them are sequences. -/
def commonStart : List Expression → List Expression
  | [] => []
  | e :: rest =>
      match e.parts?, rest.mapM parts? with
      | some first, some others => others.foldl sharedStart first
      | _, _ => []

/-- Alternatives that are flattened already; those of single characters, and those of sets, become
one set. -/
def anyOfBranches (flat : List Expression) : Expression :=
  match flat with
  | [] => oneOf .empty
  | [e] => e
  | flat =>
      match flat.mapM singleChar?, flat.mapM set? with
      | some chars, _ => ofSet (.ofList chars)
      | none, some sets => ofSet (.unionAll sets)
      | none, none => anyOf flat

/-- The expression for one out of several ones, the first that matches. -/
def alternatives (es : List Expression) : Expression :=
  let flat := es.flatMap branches
  match anyOfBranches flat with
  | anyOf flat =>
      let start := commonStart flat
      if start.isEmpty then anyOf flat
      else
        let rests := flat.map fun e => sequence (e.parts.drop start.length)
        sequence (start ++ [anyOfBranches (rests.flatMap branches)])
  | e => e

/-- The expression for a repetition. What consumes nothing is tried once at most. -/
def repetition (least : Nat) (most : Option Nat) (greedy : Bool) (body : Expression) :
    Expression :=
  let idle := body.mostLength = some 0
  let least := if idle then min least 1 else least
  let most := if idle then some (min (most.getD 1) 1) else most
  if most = some 0 then empty
  else if least = 1 ∧ most = some 1 then body
  else repeated least most greedy body

end Expression
end Flowchart.Pattern
