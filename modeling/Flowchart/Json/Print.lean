import Flowchart.Decimal.Layout
import Flowchart.Json.Value

/-!
# Json documents as text

Two written forms: `compact`, without any blank, and `pretty`, with one element or member a line
and two spaces of indentation a level. Members are written in the order in which they stand.
-/

namespace Flowchart.Json

/-- A control character as four hexadecimal digits. -/
def unicodeEscape (c : Char) : List Char :=
  let ds := Nat.toDigits 16 c.toNat
  ['\\', 'u'] ++ List.replicate (4 - ds.length) '0' ++ ds

/-- A character inside a Json string. -/
def escapeChar (c : Char) : List Char :=
  if c = '"' then ['\\', '"']
  else if c = '\\' then ['\\', '\\']
  else if c = '\x08' then ['\\', 'b']
  else if c = '\x0c' then ['\\', 'f']
  else if c = '\n' then ['\\', 'n']
  else if c = '\r' then ['\\', 'r']
  else if c = '\t' then ['\\', 't']
  else if c.toNat < 32 then unicodeEscape c
  else [c]

/-- A Json string. -/
def stringText (s : String) : List Char :=
  '"' :: s.toList.flatMap escapeChar ++ ['"']

/-- A number of a document. -/
def Number.text : Number → String
  | .integer n => toString n
  | .double x => Decimal.Layout.document.write x

mutual
/-- The characters of a document without blanks. -/
def Value.compactChars : Value → List Char
  | .null => ['n', 'u', 'l', 'l']
  | .bool true => ['t', 'r', 'u', 'e']
  | .bool false => ['f', 'a', 'l', 's', 'e']
  | .number n => n.text.toList
  | .string s => stringText s
  | .array elements => '[' :: compactElements elements ++ [']']
  | .object members => '\x7b' :: compactMembers members ++ ['\x7d']

/-- The elements of an array, separated by commas. -/
def compactElements : List Value → List Char
  | [] => []
  | [v] => v.compactChars
  | v :: w :: rest => v.compactChars ++ ',' :: compactElements (w :: rest)

/-- The members of an object, separated by commas. -/
def compactMembers : List (String × Value) → List Char
  | [] => []
  | [(name, v)] => stringText name ++ ':' :: v.compactChars
  | (name, v) :: m :: rest =>
      stringText name ++ ':' :: (v.compactChars ++ ',' :: compactMembers (m :: rest))
end

/-- A document without blanks. -/
def Value.compact (v : Value) : String := String.ofList v.compactChars

/-- A new line with its indentation. -/
def newLine (level : Nat) : List Char := '\n' :: List.replicate (2 * level) ' '

mutual
/-- The characters of a document with indentation from a level on. -/
def Value.prettyChars (level : Nat) : Value → List Char
  | .array [] => ['[', ']']
  | .array (v :: rest) => '[' :: prettyElements (level + 1) (v :: rest) ++ newLine level ++ [']']
  | .object [] => ['\x7b', '\x7d']
  | .object (m :: rest) =>
      '\x7b' :: prettyMembers (level + 1) (m :: rest) ++ newLine level ++ ['\x7d']
  | .null => ['n', 'u', 'l', 'l']
  | .bool b => if b then ['t', 'r', 'u', 'e'] else ['f', 'a', 'l', 's', 'e']
  | .number n => n.text.toList
  | .string s => stringText s

/-- The elements of an array, one a line. -/
def prettyElements (level : Nat) : List Value → List Char
  | [] => []
  | [v] => newLine level ++ v.prettyChars level
  | v :: w :: rest =>
      newLine level ++ v.prettyChars level ++ ',' :: prettyElements level (w :: rest)

/-- The members of an object, one a line. -/
def prettyMembers (level : Nat) : List (String × Value) → List Char
  | [] => []
  | [(name, v)] => newLine level ++ stringText name ++ ':' :: ' ' :: v.prettyChars level
  | (name, v) :: m :: rest =>
      newLine level ++ stringText name ++ ':' :: ' ' ::
        (v.prettyChars level ++ ',' :: prettyMembers level (m :: rest))
end

/-- A document with indentation. -/
def Value.pretty (v : Value) : String := String.ofList (v.prettyChars 0)

/-- A document as the text of a scalar: texts as they are, null as nothing, and numbers, truth
values and containers in their compact form. -/
def Value.scalarText : Value → String
  | .null => ""
  | .string s => s
  | .bool b => if b then "true" else "false"
  | .number n => n.text
  | v => v.compact

end Flowchart.Json
