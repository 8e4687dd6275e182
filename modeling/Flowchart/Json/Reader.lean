import Flowchart.Json.Fault

/-!
# Reading a text character by character

A reader moves a cursor over a text and fails with a located error. Faults are located at the
cursor, one byte further, or after a number of bytes; columns count bytes, so a fault inside a
character of several bytes is located inside it.
-/

namespace Flowchart.Json

/-- What is left of a text and where it starts. -/
structure Cursor where
  rest : List Char
  position : Position

/-- The cursor at the start of a text. -/
def Cursor.start (s : String) : Cursor := ⟨s.toList, ⟨1, 0⟩⟩

/-- The position so many bytes further. -/
def positionAfter : Nat → List Char → Position → Position
  | 0, _, p => p
  | _, [], p => p
  | n, c :: cs, p =>
      if c = '\n' then positionAfter (n - 1) cs ⟨p.line + 1, 0⟩
      else if n < c.utf8Size then ⟨p.line, p.column + n⟩
      else positionAfter (n - c.utf8Size) cs ⟨p.line, p.column + c.utf8Size⟩

/-- The cursor after the next character. -/
def Cursor.next (cursor : Cursor) : Cursor :=
  match cursor.rest with
  | [] => cursor
  | c :: cs => ⟨cs, positionAfter c.utf8Size [c] cursor.position⟩

/-- A reader: it moves the cursor and gives a result or an error. -/
abbrev Reader (α : Type) := ExceptT Error (StateM Cursor) α

namespace Reader

/-- Fails at the cursor. -/
def fail {α : Type} (cause : SyntaxFault) : Reader α := do
  throw ⟨.malformed cause, some (← get).position⟩

/-- Fails so many bytes after the cursor. -/
def failAfter {α : Type} (bytes : Nat) (cause : SyntaxFault) : Reader α := do
  let cursor ← get
  throw ⟨.malformed cause, some (positionAfter bytes cursor.rest cursor.position)⟩

/-- Fails at the character under the cursor, which counts as seen. -/
def failAtNext {α : Type} (cause : SyntaxFault) : Reader α := failAfter 1 cause

/-- Fails without a place. -/
def refuse {α : Type} (fault : Fault) : Reader α := throw ⟨fault, none⟩

/-- Gives an error without a place the place where the reader stopped. -/
def located {α : Type} (reader : Reader α) : Reader α :=
  tryCatch reader fun e => do
    match e.position with
    | some _ => throw e
    | none => throw ⟨e.fault, some (← get).position⟩

/-- The character under the cursor. -/
def peek? : Reader (Option Char) := do
  return (← get).rest.head?

/-- Moves past the next character. -/
def skip : Reader Unit := modify Cursor.next

/-- Moves past blanks, which are spaces, tabs and line ends, and gives the character there. -/
def nextToken? : Reader (Option Char) := do
  let cursor ← get
  set (skipBlanks cursor.rest cursor.position)
  peek?
where
  /-- The cursor at the first character that is no blank. -/
  skipBlanks : List Char → Position → Cursor
    | [], p => ⟨[], p⟩
    | c :: cs, p =>
        if c = ' ' || c = '\t' || c = '\r' then skipBlanks cs ⟨p.line, p.column + 1⟩
        else if c = '\n' then skipBlanks cs ⟨p.line + 1, 0⟩
        else ⟨c :: cs, p⟩

/-- Reads the rest of a literal whose first character has been seen. -/
def literal : List Char → Reader Unit
  | [] => pure ()
  | expected :: more => do
      match ← peek? with
      | none => fail .endInValue
      | some c => if c = expected then do skip; literal more else failAtNext .expectedLiteral

/-- Reads the longest run of digits. -/
def digits : Reader (List Char) := do
  let cursor ← get
  let ds := cursor.rest.takeWhile Char.isDigit
  set (⟨cursor.rest.drop ds.length,
    ⟨cursor.position.line, cursor.position.column + ds.length⟩⟩ : Cursor)
  return ds

/-- A count of the characters left, enough for any loop that reads one a turn. -/
def fuel : Reader Nat := do
  return 2 * (← get).rest.length + 2

/-- Runs a reader over a whole text, which must end after what it reads. -/
def readAll {α : Type} (reader : Reader α) (s : String) : Except Error α :=
  let whole : Reader α := do
    let a ← reader
    match ← nextToken? with
    | none => return a
    | some _ => failAtNext .trailingCharacters
  (whole.run (Cursor.start s)).1

end Reader
end Flowchart.Json
