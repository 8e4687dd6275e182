import Flowchart.Decimal.Read
import Flowchart.Pattern.Meaning
import Flowchart.Pattern.Parser
import Flowchart.Pattern.Search
import Flowchart.Pattern.Size

/-!
# Patterns

A pattern is read from a text, must stay within a limit of size, and replaces its matches in other
texts by a template.

A template is a text in which `$1`, `$name` and `${name}` stand for what a group holds, and `$$`
for a dollar sign. A dollar sign that begins nothing of that kind stands for itself.
-/

namespace Flowchart

namespace Pattern

/-! ## Templates of replacements -/

/-- A part of a template. -/
inductive TemplatePart where
  | text (c : Char)
  | group (index : Nat)
  | named (name : String)
  deriving DecidableEq, Repr

/-- Characters of references without braces. -/
def isReferenceChar (c : Char) : Bool := c.isAlphanum || c = '_'

/-- A reference to a group by number or by name. -/
def TemplatePart.reference (name : List Char) : TemplatePart :=
  match Decimal.index? name with
  | some index => .group index
  | none => .named (String.ofList name)

/-- The reference that follows a dollar sign, and the text after it. -/
def reference? : List Char → Option (TemplatePart × List Char)
  | '\x7b' :: rest =>
      match rest.dropWhile (· ≠ '\x7d') with
      | [] => none
      | _ :: after => some (.reference (rest.takeWhile (· ≠ '\x7d')), after)
  | text =>
      let name := text.takeWhile isReferenceChar
      if name.isEmpty then none
      else some (.reference name, text.dropWhile isReferenceChar)

/-- The parts of a template, at most as many as the first argument says. -/
def templateParts : Nat → List Char → List TemplatePart
  | 0, _ | _, [] => []
  | n + 1, '$' :: rest =>
      match rest with
      | '$' :: rest => .text '$' :: templateParts n rest
      | rest =>
          match reference? rest with
          | some (part, after) => part :: templateParts n after
          | none => .text '$' :: templateParts n rest
  | n + 1, c :: rest => .text c :: templateParts n rest

/-- The parts of a template. -/
def template (s : String) : List TemplatePart :=
  templateParts s.toList.length s.toList

end Pattern

/-! ## Patterns -/

/-- A pattern that is ready to search. -/
structure Pattern where
  program : Pattern.Program

namespace Pattern

/-- Why a text is no pattern. -/
inductive Refusal where
  | fault (text : String) (f : Fault)
  | tooLarge (limit : Nat)

/-- The report of a refusal. -/
def Refusal.message : Refusal → String
  | .fault text f => f.report text
  | .tooLarge limit => s!"Compiled regex exceeds size limit of {limit} bytes."

/-- Reads a pattern. Case counts unless `ignoreCase` or the text says otherwise; the automata for
the pattern may take `limit` bytes. -/
def ofText (text : String) (ignoreCase : Bool) (limit : Nat) : Except Refusal Pattern := do
  let tree ← (Tree.ofText text).mapError (.fault text)
  let flags : Flags := { ignoreCase := ignoreCase }
  let (expression, _) ← (tree.meaning flags).mapError (.fault text)
  if expression.fits limit then return ⟨.ofExpression expression⟩
  else throw (.tooLarge limit)

/-- Writes a text anew with its matches replaced; `position` is where the last match ended. -/
def substitute (s : Subject) (replacement : Match → List Char) (position : Nat) :
    List Match → List Char
  | [] => (s.extract position s.size).toList
  | m :: rest =>
      (s.extract position m.first).toList ++ replacement m ++ substitute s replacement m.past rest

/-- The text with every match replaced. -/
def replaceAll (pattern : Pattern) (replacement : Subject → Match → List Char) (text : String) :
    String :=
  let s := text.toList.toArray
  String.ofList (substitute s (replacement s) 0 (pattern.program.matchesIn s))

/-- What a part of a template stands for at a match. -/
def expandPart (pattern : Pattern) (s : Subject) (m : Match) : TemplatePart → List Char
  | .text c => [c]
  | .group index => m.group s index
  | .named name =>
      match pattern.program.names.lookup name with
      | some index => m.group s index
      | none => []

/-- The text with every match replaced by a template. -/
def replaceWithTemplate (pattern : Pattern) (templateText text : String) : String :=
  let parts := template templateText
  pattern.replaceAll (fun s m => parts.flatMap (pattern.expandPart s m)) text

/-- The text with every match replaced by another text. -/
def replaceWithText (pattern : Pattern) (replacement text : String) : String :=
  pattern.replaceAll (fun _ _ => replacement.toList) text

end Pattern
end Flowchart
