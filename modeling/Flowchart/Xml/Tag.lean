import Flowchart.Xml.Entity

/-!
# Tags

What stands between `<` and `>` in a tag: a name and attributes. Of names with a colon only the part
after the first one counts. Attributes of one tag must have distinct full names.
-/

namespace Flowchart.Xml

/-- The characters that separate the parts of a tag and are trimmed from text. -/
def isSpace (c : Char) : Bool :=
  c = ' ' || c = '\t' || c = '\n' || c = '\r'

/-- A name without what stands before its first colon. -/
def localName (name : List Char) : String :=
  match name.dropWhile (· ≠ ':') with
  | ':' :: rest => String.ofList rest
  | _ => String.ofList name

/-- A place inside a tag: what is left and the bytes before it. -/
structure Place where
  rest : List Char
  position : Nat

namespace Place

/-- Splits off the characters that satisfy a condition. -/
def takeWhile (p : Char → Bool) (place : Place) : List Char × Place :=
  let taken := place.rest.takeWhile p
  (taken, ⟨place.rest.drop taken.length, place.position + Json.byteCount taken⟩)

/-- Passes over spaces. -/
def skipSpaces (place : Place) : Place := (place.takeWhile isSpace).2

/-- The place after the next character. -/
def next (place : Place) : Place :=
  match place.rest with
  | [] => place
  | c :: cs => ⟨cs, place.position + c.utf8Size⟩

end Place

/-- Reads the name of an attribute and passes to its equals sign. -/
def attributeName (start : Place) : Except AttributeFault (List Char × Place) :=
  match start.rest with
  | [] => .error (.expectedEquals start.position)
  | c :: _ =>
      let (more, place) := start.next.takeWhile fun c => c ≠ '=' && !isSpace c
      let after := place.skipSpaces
      if after.rest.head? = some '=' then .ok (c :: more, after)
      else .error (.expectedEquals after.position)

/-- Reads the value of an attribute after its equals sign. -/
def attributeValue (place : Place) : Except AttributeFault (List Char × Place) :=
  let start := place.skipSpaces
  match start.rest with
  | [] => .error (.expectedValue start.position)
  | quote :: _ =>
      if quote = '"' || quote = '\'' then
        let (value, closing) := start.next.takeWhile (· ≠ quote)
        if closing.rest.isEmpty then .error (.openQuote closing.position quote)
        else .ok (value, closing.next)
      else .error (.unquoted start.position)

/-- Attributes by local name, in order. -/
abbrev Attributes := List (String × String)

/-- Reads attributes, at most so many; `seen` holds the full names read so far and where they
stand. -/
def attributesFrom : Nat → List (List Char × Nat) → Place → Except Fault Attributes
  | 0, _, _ => .ok []
  | fuel + 1, seen, place =>
      let start := place.skipSpaces
      if start.rest.isEmpty then .ok []
      else do
        let (name, equals) ← (attributeName start).mapError .attribute
        if let some previous := seen.lookup name then
          throw (.attribute (.duplicate start.position previous))
        let (raw, after) ← (attributeValue equals.next).mapError .attribute
        let value ← unescape raw
        let more ← attributesFrom fuel (seen ++ [(name, start.position)]) after
        return (localName name, String.ofList value) :: more

/-- The full name of a tag. -/
def tagName (content : List Char) : List Char :=
  content.takeWhile fun c => !isSpace c

/-- The attributes of a tag. -/
def tagAttributes (content : List Char) : Except Fault Attributes :=
  let name := tagName content
  attributesFrom content.length [] ⟨content.drop name.length, Json.byteCount name⟩

end Flowchart.Xml
