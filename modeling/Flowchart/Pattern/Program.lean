import Flowchart.Pattern.Expression
import Flowchart.Unicode.Property

/-!
# Programs for expressions

An expression as a list of instructions over characters. Where an instruction has two ways out, the
first one is preferred.
-/

namespace Flowchart.Pattern

open Text (CharSet)

/-- An instruction; addresses are counted from the start of the program. -/
inductive Instruction where
  /-- Consume this character. -/
  | char (c : Char)
  /-- Consume a character of a set. -/
  | oneOf (set : CharSet)
  /-- Go on only at a place. -/
  | place (p : Place)
  /-- Try one address, then another. -/
  | split (preferred other : Nat)
  /-- Go on at an address. -/
  | jump (target : Nat)
  /-- Note the position: the start of group `i` is slot `2 i`, its end slot `2 i + 1`. -/
  | note (slot : Nat)
  /-- The whole expression has matched. -/
  | accept
  deriving Inhabited

/-- A choice between two addresses; the first is preferred if the repetition is greedy. -/
def Instruction.choose (greedy : Bool) (again past : Nat) : Instruction :=
  if greedy then split again past else split past again

/-- The number of instructions of a repetition whose body has so many. -/
def repetitionLength (least : Nat) (most : Option Nat) (body : Nat) : Nat :=
  match most with
  | none => if least = 0 then body + 2 else least * body + 1
  | some most => least * body + (most - least) * (body + 1)

mutual
/-- The number of instructions of an expression. -/
def Expression.codeLength : Expression → Nat
  | .empty => 0
  | .text chars => chars.length
  | .oneOf _ | .place _ => 1
  | .capture _ _ body => body.codeLength + 2
  | .inOrder parts => codeLengthSum 0 parts
  | .anyOf branches => codeLengthSum 2 branches
  | .repeated least most _ body => repetitionLength least most body.codeLength

/-- The number of instructions of several expressions, with some more for each. -/
def codeLengthSum (more : Nat) : List Expression → Nat
  | [] => 0
  | e :: rest => e.codeLength + more + codeLengthSum more rest
end

/-- Several copies of code, one behind the other; `code` gives it for an address. -/
def copies (length : Nat) (code : Nat → List Instruction) : Nat → Nat → List Instruction
  | _, 0 => []
  | address, n + 1 => code address ++ copies length code (address + length) n

/-- Several copies of code, each of which may be left out with all behind it. -/
def optionalCopies (greedy : Bool) (past length : Nat) (code : Nat → List Instruction) :
    Nat → Nat → List Instruction
  | _, 0 => []
  | address, n + 1 =>
      .choose greedy (address + 1) past :: code (address + 1) ++
        optionalCopies greedy past length code (address + 1 + length) n

/-- The code of a repetition. What may match nothing is tried before it is decided whether to try
it again, so that an empty round counts. -/
def repetitionCode (least : Nat) (most : Option Nat) (greedy mayBeEmpty : Bool) (length : Nat)
    (code : Nat → List Instruction) (address : Nat) : List Instruction :=
  match most with
  | some most =>
      let start := address + least * length
      copies length code address least ++
        optionalCopies greedy (start + (most - least) * (length + 1)) length code start
          (most - least)
  | none =>
      if least = 0 then
        let past := address + length + 2
        .choose greedy (address + 1) past :: code (address + 1) ++
          [if mayBeEmpty then .choose greedy (address + 1) past else .jump address]
      else
        let last := address + (least - 1) * length
        copies length code address least ++ [.choose greedy last (last + length + 1)]

mutual
/-- The instructions of an expression that start at an address. -/
def Expression.code : Expression → Nat → List Instruction
  | .empty, _ => []
  | .text chars, _ => chars.map .char
  | .oneOf set, _ => [.oneOf set]
  | .place p, _ => [.place p]
  | .capture index _ body, address =>
      .note (2 * index) :: body.code (address + 1) ++ [.note (2 * index + 1)]
  | .inOrder parts, address => sequenceCode parts address
  | .anyOf branches, address =>
      branchCode (address + codeLengthSum 2 branches) branches address
  | .repeated least most greedy body, address =>
      repetitionCode least most greedy (!body.leastLength.any (0 < ·)) body.codeLength body.code
        address

/-- The instructions of expressions in order. -/
def sequenceCode : List Expression → Nat → List Instruction
  | [], _ => []
  | e :: rest, address => e.code address ++ sequenceCode rest (address + e.codeLength)

/-- The instructions of alternatives that go on at `past`. -/
def branchCode (past : Nat) : List Expression → Nat → List Instruction
  | [], _ => []
  | e :: rest, address =>
      let next := address + e.codeLength + 2
      let first := if rest.isEmpty then .jump (address + 1) else .split (address + 1) next
      first :: e.code (address + 1) ++ .jump past :: branchCode past rest next
end

mutual
/-- Whether a place asks for all characters of words. -/
def Expression.asksForWords : Expression → Bool
  | .place (.boundary u) | .place (.noBoundary u) | .place (.wordStart u) | .place (.wordEnd u)
  | .place (.wordStartHalf u) | .place (.wordEndHalf u) => u
  | .capture _ _ body | .repeated _ _ _ body => body.asksForWords
  | .inOrder parts | .anyOf parts => anyAsksForWords parts
  | _ => false

/-- Whether one of several expressions asks for all characters of words. -/
def anyAsksForWords : List Expression → Bool
  | [] => false
  | e :: rest => e.asksForWords || anyAsksForWords rest
end

mutual
/-- The names of the groups of an expression with their numbers. -/
def Expression.groupNames : Expression → List (String × Nat)
  | .capture index name body => (name.toList.map (·, index)) ++ body.groupNames
  | .repeated _ _ _ body => body.groupNames
  | .inOrder parts | .anyOf parts => allGroupNames parts
  | _ => []

/-- The names of the groups of several expressions. -/
def allGroupNames : List Expression → List (String × Nat)
  | [] => []
  | e :: rest => e.groupNames ++ allGroupNames rest
end

/-- A program: its instructions, the characters of words where a place asks for them, and the names
of groups. -/
structure Program where
  code : Array Instruction
  words : CharSet
  names : List (String × Nat)

/-- The program of an expression; group 0 is the whole match. -/
def Program.ofExpression (e : Expression) : Program where
  code := ((Expression.capture 0 none e).code 0 ++ [Instruction.accept]).toArray
  words := if e.asksForWords then Unicode.word else .empty
  names := e.groupNames

end Flowchart.Pattern
