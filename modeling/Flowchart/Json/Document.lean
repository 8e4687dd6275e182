import Flowchart.Json.Token

/-!
# Reading whole documents

The readers for arrays, objects and documents of any shape, and the one that passes over a document
that is not wanted. Arrays and objects may be nested `depthLimit - 1` deep, except where they are
passed over. An object read as a document has its members ordered, and of several members of one
name the last one counts. `Value.ofText` reads a document that fills a text.
-/

namespace Flowchart.Json

/-- The depth at which arrays and objects are refused. -/
def depthLimit : Nat := 128

namespace Reader

/-- Reads `null` from its first character on. -/
def nullLiteral : Reader Unit := do skip; literal ['u', 'l', 'l']

/-- Reads `true` from its first character on. -/
def trueLiteral : Reader Unit := do skip; literal ['r', 'u', 'e']

/-- Reads `false` from its first character on. -/
def falseLiteral : Reader Unit := do skip; literal ['a', 'l', 's', 'e']

/-- Whether an array goes on; `first` says that no element has been read. -/
def hasElement (first : Bool) : Reader Bool := do
  match ← nextToken? with
  | none => failAtNext .endInList
  | some ']' => return false
  | some c =>
      if first then return true
      else if c = ',' then
        skip
        match ← nextToken? with
        | none => failAtNext .endInValue
        | some ']' => failAtNext .trailingComma
        | some _ => return true
      else failAtNext .expectedElementEnd

/-- Whether an object goes on; if so the cursor is at the quote of a name. -/
def hasMember (first : Bool) : Reader Bool := do
  match ← nextToken? with
  | none => failAtNext .endInObject
  | some '\x7d' => return false
  | some c =>
      if first then
        if c = '"' then return true else failAtNext .keyNotString
      else if c = ',' then
        skip
        match ← nextToken? with
        | none => failAtNext .endInValue
        | some '"' => return true
        | some '\x7d' => failAtNext .trailingComma
        | some _ => failAtNext .keyNotString
      else failAtNext .expectedMemberEnd

/-- Reads the end of an array. -/
def endArray : Reader Unit := do
  match ← nextToken? with
  | none => failAtNext .endInList
  | some ']' => skip
  | some ',' =>
      skip
      match ← nextToken? with
      | some ']' => failAtNext .trailingComma
      | _ => failAtNext .trailingCharacters
  | some _ => failAtNext .trailingCharacters

/-- Reads the end of an object. -/
def endObject : Reader Unit := do
  match ← nextToken? with
  | none => failAtNext .endInObject
  | some '\x7d' => skip
  | some ',' => failAtNext .trailingComma
  | some _ => failAtNext .trailingCharacters

/-- Reads the colon after a name. -/
def colon : Reader Unit := do
  match ← nextToken? with
  | none => failAtNext .endInObject
  | some ':' => skip
  | some _ => failAtNext .expectedColon

/-- Reads a name, whose quote is under the cursor. -/
def name : Reader String := do skip; string

/-- Runs a reader for the inside of an array or object and then one for its end. An error of the
first is reported, but located where the second stopped if it has no place. -/
def enclosed {α : Type} (inside : Reader α) (closing : Reader Unit) : Reader α := do
  let result ← tryCatch (do return Except.ok (← inside)) (fun e => return Except.error e)
  match result with
  | .ok a => closing; return a
  | .error e => tryCatch closing (fun _ => pure ()); throw e

/-- Reads the elements of an array, at most so many. -/
def elements {α : Type} (element : Reader α) : Nat → Bool → Reader (List α)
  | 0, _ => return []
  | fuel + 1, first => do
      if ← hasElement first then
        let a ← element
        return a :: (← elements element fuel false)
      else return []

/-- Reads the members of an object, at most so many. -/
def members {α : Type} (value : Reader α) : Nat → Bool → Reader (List (String × α))
  | 0, _ => return []
  | fuel + 1, first => do
      if ← hasMember first then
        let key ← name
        colon
        let a ← value
        return (key, a) :: (← members value fuel false)
      else return []

/-- Reads a document of any shape; `assemble` says what becomes of the members of an object. The
first number is the depth still allowed. -/
def document (assemble : List (String × Value) → List (String × Value)) : Nat → Reader Value
  | 0 => failAtNext .tooDeep
  | depth + 1 => do
      match ← nextToken? with
      | none => failAtNext .endInValue
      | some 'n' => nullLiteral; return .null
      | some 't' => trueLiteral; return .bool true
      | some 'f' => falseLiteral; return .bool false
      | some '"' => return .string (← name)
      | some '-' => skip; return .number (← number true)
      | some '[' =>
          if depth = 0 then failAtNext .tooDeep
          else
            skip
            let turns ← fuel
            return .array (← enclosed (elements (document assemble depth) turns true) endArray)
      | some '\x7b' =>
          if depth = 0 then failAtNext .tooDeep
          else
            skip
            let turns ← fuel
            let ms ← enclosed (members (document assemble depth) turns true) endObject
            return .object (assemble ms)
      | some c => if c.isDigit then return .number (← number false) else failAtNext .expectedValue

/-- Reads a document with ordered members. -/
def value (depth : Nat) : Reader Value := document Dictionary.ofList depth

mutual
/-- Passes over a document of any shape and depth. -/
def skipValue : Nat → Reader Unit
  | 0 => fail .endInValue
  | fuel + 1 => do
      match ← nextToken? with
      | none => failAtNext .endInValue
      | some 'n' => nullLiteral
      | some 't' => trueLiteral
      | some 'f' => falseLiteral
      | some '"' => skip; skipString
      | some '-' => skip; skipNumber
      | some '[' => skip; skipElements fuel true
      | some '\x7b' => skip; skipMembers fuel true
      | some c => if c.isDigit then skipNumber else failAtNext .expectedValue

/-- Passes over the elements of an array and its end. -/
def skipElements : Nat → Bool → Reader Unit
  | 0, _ => fail .endInList
  | fuel + 1, first => do
      match ← nextToken? with
      | none => failAtNext .endInList
      | some ']' => skip
      | some c =>
          if first then
            skipValue fuel
            skipElements fuel false
          else if c = ',' then
            skip
            skipValue fuel
            skipElements fuel false
          else failAtNext .expectedElementEnd

/-- Passes over the members of an object and its end. -/
def skipMembers : Nat → Bool → Reader Unit
  | 0, _ => fail .endInObject
  | fuel + 1, first => do
      match ← nextToken? with
      | none => failAtNext .endInObject
      | some '\x7d' => skip
      | some c =>
          if first then skipMember fuel
          else if c = ',' then
            skip
            skipMember fuel
          else failAtNext .expectedMemberEnd

/-- Passes over a member and all that follows it in its object. -/
def skipMember : Nat → Reader Unit
  | 0 => fail .endInObject
  | fuel + 1 => do
      match ← nextToken? with
      | none => failAtNext .endInObject
      | some '"' =>
          skip
          skipString
          colon
          skipValue fuel
          skipMembers fuel false
      | some _ => failAtNext .keyNotString
end

/-- Passes over the document under the cursor. -/
def skipDocument : Reader Unit := do
  skipValue (2 * (← fuel))

end Reader

/-- Reads a document that fills a text. -/
def Value.ofText (s : String) : Except Error Value :=
  Reader.readAll (Reader.value depthLimit) s

end Flowchart.Json
