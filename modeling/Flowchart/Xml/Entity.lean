import Flowchart.Json.Token
import Flowchart.Text.Search
import Flowchart.Xml.Fault

/-!
# Entities

Text and attribute values write some characters as entities: `&lt;` and four others by name, and
any character but zero by its number, as in `&#65;` and `&#x41;`.
-/

namespace Flowchart.Xml

/-- The characters with a name. -/
def namedCharacters : List (String × Char) :=
  [("lt", '<'), ("gt", '>'), ("amp", '&'), ("apos", '\''), ("quot", '"')]

/-- The value of a digit in base 16 or less. -/
def digitIn? (base : Nat) (c : Char) : Option Nat :=
  (Json.hexDigit? c).filter (· < base)

/-- Reads a number below `2 ^ 32`. -/
def readCode (base n : Nat) : List Char → Except CharacterFault Nat
  | [] => .ok n
  | c :: cs =>
      match digitIn? base c with
      | none => .error .digit
      | some d =>
          if 0x100000000 ≤ n * base + d then .error .tooLarge else readCode base (n * base + d) cs

/-- Reads an unsigned number that is not empty. -/
def readUnsigned (base : Nat) (cs : List Char) : Except CharacterFault Nat :=
  match cs with
  | [] => .error .empty
  | c :: _ => if c = '+' || c = '-' then .error .sign else readCode base 0 cs

/-- The character that a number denotes, which follows `#` in an entity. -/
def numberedCharacter (cs : List Char) : Except CharacterFault Char := do
  let code ← match cs with
    | 'x' :: digits => readUnsigned 16 digits
    | digits => readUnsigned 10 digits
  if code = 0 then throw .zero
  else if code.isValidChar then return Char.ofNat code
  else throw (.noCharacter code)

/-- The character of an entity that stands between two positions. -/
def entity (first last : Nat) (name : List Char) : Except Fault Char :=
  match name with
  | '#' :: number =>
      match numberedCharacter number with
      | .ok c => .ok c
      | .error fault => .error (.character fault)
  | _ =>
      match namedCharacters.lookup (String.ofList name) with
      | some c => .ok c
      | none => .error (.unknownEntity first last (String.ofList name))

/-- The name of an entity up to its semicolon, and what follows. -/
def entityName? : List Char → Option (List Char × List Char)
  | [] => none
  | c :: cs =>
      if c = ';' then some ([], cs)
      else if c = '&' then none
      else (entityName? cs).map fun (name, rest) => (c :: name, rest)

/-- Replaces the entities of a text that ends at a position. The first argument bounds the number
of characters, the second is the position of the first one. -/
def unescapeFrom (last : Nat) : Nat → Nat → List Char → Except Fault (List Char)
  | 0, _, _ => .ok []
  | _, _, [] => .ok []
  | fuel + 1, position, c :: cs =>
      if c = '&' then
        match entityName? cs with
        | none => .error (.unfinishedEntity position last)
        | some (name, rest) => do
            let nameEnd := position + 1 + Json.byteCount name
            let image ← entity (position + 1) nameEnd name
            return image :: (← unescapeFrom last fuel (nameEnd + 1) rest)
      else do
        return c :: (← unescapeFrom last fuel (position + c.utf8Size) cs)

/-- Replaces the entities of a text. -/
def unescape (cs : List Char) : Except Fault (List Char) :=
  unescapeFrom (Json.byteCount cs) cs.length 0 cs

end Flowchart.Xml
