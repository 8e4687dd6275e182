import Flowchart.Json.Document

/-!
# Decoding documents to types

A decoder reads a type of this library in two ways: from a text, as it goes, with located errors
(`read`), and from a document (`ofValue`), with errors that have no place. Both ways share the
description of the type: its fields with their names, which may be absent, and the wording of what
was expected. Records may also be written as arrays of their fields in order.
-/

namespace Flowchart.Json

/-- The two ways of reading a type. The number given to `read` is the depth still allowed. -/
structure Decoder (α : Type) where
  read : Nat → Reader α
  ofValue : Value → Except Fault α

namespace Reader

/-- Reads whatever is under the cursor, only to say that something else was expected. -/
def unexpected {α : Type} (expected : String) : Reader α := located do
  let found : Unexpected ← match ← peek? with
    | some 'n' => nullLiteral; pure .null
    | some 't' => trueLiteral; pure (.bool true)
    | some 'f' => falseLiteral; pure (.bool false)
    | some '"' => pure (.string (← name))
    | some '-' => skip; pure (.number (← number true))
    | some '[' => pure .sequence
    | some '\x7b' => pure .map
    | some c => if c.isDigit then pure (.number (← number false)) else failAtNext .expectedValue
    | none => failAtNext .expectedValue
  refuse (.invalidType found expected)

/-- The character of the next token, which must exist. -/
def token : Reader Char := do
  match ← nextToken? with
  | none => failAtNext .endInValue
  | some c => return c

/-- A result or a fault without a place. -/
def ofExcept {α : Type} : Except Fault α → Reader α
  | .ok a => return a
  | .error fault => refuse fault

/-- Goes one level deeper for an array or object whose opening is under the cursor. -/
def deeper {α : Type} (depth : Nat) (inside : Nat → Reader α) : Reader α :=
  match depth with
  | 0 | 1 => failAtNext .tooDeep
  | depth + 1 => do skip; inside depth

end Reader

namespace Decoder

/-- The fault of a document of the wrong kind. -/
def wrongKind {α : Type} (expected : String) (v : Value) : Except Fault α :=
  .error (.invalidType v.unexpected expected)

/-- Decodes a text in full. -/
def ofText {α : Type} (d : Decoder α) (s : String) : Except Error α :=
  Reader.readAll (d.read depthLimit) s

/-- Applies a function to what is decoded. -/
def map {α β : Type} (f : α → β) (d : Decoder α) : Decoder β where
  read depth := f <$> d.read depth
  ofValue v := f <$> d.ofValue v

/-- Texts that a function interprets. -/
def parsed {α : Type} (expected : String) (parse : String → Except Fault α) : Decoder α where
  read _ := do
    if (← Reader.token) = '"' then
      Reader.located do Reader.ofExcept (parse (← Reader.name))
    else Reader.unexpected expected
  ofValue
    | .string s => parse s
    | v => wrongKind expected v

/-- Texts. -/
def string : Decoder String := parsed "a string" .ok

/-- Truth values. -/
def bool : Decoder Bool where
  read _ := do
    match ← Reader.token with
    | 't' => Reader.trueLiteral; return true
    | 'f' => Reader.falseLiteral; return false
    | _ => Reader.unexpected "a boolean"
  ofValue
    | .bool b => .ok b
    | v => wrongKind "a boolean" v

/-- A number as a whole number of a range. -/
def inRange (low high : Int) (expected : String) : Number → Except Fault Int
  | .integer n =>
      if low ≤ n && n ≤ high then .ok n
      else .error (.invalidValue (.number (.integer n)) expected)
  | x => .error (.invalidType (.number x) expected)

/-- Whole numbers of a range. -/
def integer (low high : Int) (expected : String) : Decoder Int where
  read _ := do
    let c ← Reader.token
    if c = '-' then
      Reader.skip
      Reader.located do Reader.ofExcept (inRange low high expected (← Reader.number true))
    else if c.isDigit then
      Reader.located do Reader.ofExcept (inRange low high expected (← Reader.number false))
    else Reader.unexpected expected
  ofValue
    | .number n => inRange low high expected n
    | v => wrongKind expected v

/-- Natural numbers below `2 ^ 64`, under the name of their range. -/
def word (expected : String) : Decoder Nat :=
  (integer 0 maxWord expected).map Int.toNat

/-- Whole numbers from `-2 ^ 63` to `2 ^ 63 - 1`. -/
def signedWord : Decoder Int :=
  integer (-0x8000000000000000) (0x7FFFFFFFFFFFFFFF) "i64"

/-- A value or null. -/
def option {α : Type} (d : Decoder α) : Decoder (Option α) where
  read depth := do
    match ← Reader.nextToken? with
    | some 'n' => Reader.nullLiteral; return none
    | _ => return some (← d.read depth)
  ofValue
    | .null => .ok none
    | v => some <$> d.ofValue v

/-- Lists. -/
def list {α : Type} (d : Decoder α) : Decoder (List α) where
  read depth := do
    if (← Reader.token) = '[' then
      Reader.located <| Reader.deeper depth fun inner => do
        let turns ← Reader.fuel
        Reader.enclosed (Reader.elements (d.read inner) turns true) Reader.endArray
    else Reader.unexpected "a sequence"
  ofValue
    | .array vs => vs.mapM d.ofValue
    | v => wrongKind "a sequence" v

/-- Objects of values of one type, ordered by name. -/
def dictionary {α : Type} (d : Decoder α) : Decoder (Dictionary α) where
  read depth := do
    if (← Reader.token) = '\x7b' then
      Reader.located <| Reader.deeper depth fun inner => do
        let turns ← Reader.fuel
        let ms ← Reader.enclosed (Reader.members (d.read inner) turns true) Reader.endObject
        return Dictionary.ofList ms
    else Reader.unexpected "a map"
  ofValue
    | .object ms => do
        let decoded ← ms.mapM fun (name, v) => do return (name, ← d.ofValue v)
        return Dictionary.ofList decoded
    | v => wrongKind "a map" v

/-- Documents of any shape. -/
def document : Decoder Value where
  read := Reader.value
  ofValue := .ok

/-- The constant that a name stands for. -/
def variant {α : Type} (variants : List (String × α)) (name : String) : Except Fault α :=
  match variants.lookup name with
  | some a => .ok a
  | none => .error (.unknownVariant name (variants.map (·.1)))

/-- Constants by name: a text, or an object with one member of that name that is null. -/
def enumeration {α : Type} (variants : List (String × α)) : Decoder α where
  read depth := do
    match ← Reader.nextToken? with
    | none => Reader.failAtNext .endInValue
    | some '"' => (parsed "variant identifier" (variant variants)).read depth
    | some '\x7b' => Reader.deeper depth fun inner => do
        let a ← (parsed "variant identifier" (variant variants)).read inner
        Reader.colon
        if (← Reader.token) = 'n' then Reader.nullLiteral else Reader.unexpected "unit"
        match ← Reader.nextToken? with
        | some '\x7d' => Reader.skip; return a
        | some _ => Reader.fail .expectedValue
        | none => Reader.fail .endInObject
    | some _ => Reader.failAtNext .expectedValue
  ofValue
    | .string s => variant variants s
    | .object [(name, v)] => do
        let a ← variant variants name
        match v with
        | .null => return a
        | v => wrongKind "unit" v
    | .object _ => .error (.invalidValue .map "map with a single key")
    | v => wrongKind "string or map" v

/-- A field of a record: its name, other names for it, how it is decoded into the record, and
whether it may be absent from an object and from an array. -/
structure RecordField (σ : Type) where
  name : String
  aliases : List String
  assign : Decoder (σ → σ)
  optional : Bool
  optionalInArray : Bool

/-- A field that must be present. -/
def required {σ α : Type} (name : String) (d : Decoder α) (set : α → σ → σ) : RecordField σ where
  name := name
  aliases := []
  assign := d.map set
  optional := false
  optionalInArray := false

/-- A field that keeps its default if it is absent. -/
def defaulted {σ α : Type} (name : String) (d : Decoder α) (set : α → σ → σ)
    (aliases : List String := []) : RecordField σ where
  name := name
  aliases := aliases
  assign := d.map set
  optional := true
  optionalInArray := true

/-- A field that is none if it is absent from an object, and must be present in an array. -/
def nullable {σ α : Type} (name : String) (d : Decoder α) (set : Option α → σ → σ) :
    RecordField σ where
  name := name
  aliases := []
  assign := d.option.map set
  optional := true
  optionalInArray := false

/-- What a record is called in messages, and its fields. The record under construction starts as
`start`, which holds the defaults. -/
structure Record (σ : Type) where
  title : String
  fields : List (RecordField σ)
  start : σ

namespace Record

variable {σ : Type}

/-- The field that a name addresses. -/
def field? (r : Record σ) (name : String) : Option (RecordField σ) :=
  r.fields.find? fun f => f.name = name || f.aliases.contains name

/-- A number of elements as a message words it. -/
def elementCount (n : Nat) : String := if n = 1 then "1 element" else s!"{n} elements"

/-- The fault of an array that is too short for a record. -/
def tooShort (r : Record σ) (length : Nat) : Fault :=
  .invalidLength length s!"{r.title} with {elementCount r.fields.length}"

/-- Checks that no field that must be present is missing from an object. -/
def checkPresent (r : Record σ) (seen : List String) : Except Fault Unit :=
  match r.fields.find? fun f => !f.optional && !seen.contains f.name with
  | some f => .error (.missingField f.name)
  | none => .ok ()

/-- Reads the members of an object into a record. -/
def readMembers (r : Record σ) (depth : Nat) : Nat → Bool → List String → σ → Reader σ
  | 0, _, _, s => return s
  | fuel + 1, first, seen, s => do
      if ← Reader.hasMember first then
        let name ← Reader.name
        match r.field? name with
        | some f =>
            if seen.contains f.name then Reader.refuse (.duplicateField f.name)
            else
              Reader.colon
              let set ← f.assign.read depth
              r.readMembers depth fuel false (f.name :: seen) (set s)
        | none =>
            Reader.colon
            Reader.skipDocument
            r.readMembers depth fuel false seen s
      else
        Reader.ofExcept (r.checkPresent seen)
        return s

/-- Reads the elements of an array into the fields of a record; `count` fields have been read. -/
def readElements (r : Record σ) (depth : Nat) : List (RecordField σ) → Nat → σ → Reader σ
  | [], _, s => return s
  | f :: rest, count, s => do
      if ← Reader.hasElement (count == 0) then
        let set ← f.assign.read depth
        r.readElements depth rest (count + 1) (set s)
      else if f.optionalInArray then r.readElements depth rest count s
      else Reader.refuse (r.tooShort count)

/-- The record in the members of an object. -/
def ofMembers (r : Record σ) (seen : List String) (s : σ) :
    List (String × Value) → Except Fault σ
  | [] => do
      r.checkPresent seen
      return s
  | (name, v) :: rest =>
      match r.field? name with
      | some f => do
          if seen.contains f.name then throw (.duplicateField f.name)
          let set ← f.assign.ofValue v
          r.ofMembers (f.name :: seen) (set s) rest
      | none => r.ofMembers seen s rest

/-- The record in the elements of an array, with the elements left over. -/
def ofElements (r : Record σ) (count : Nat) (s : σ) :
    List (RecordField σ) → List Value → Except Fault (σ × List Value)
  | [], vs => .ok (s, vs)
  | f :: rest, [] =>
      if f.optionalInArray then r.ofElements count s rest [] else .error (r.tooShort count)
  | f :: rest, v :: vs => do
      let set ← f.assign.ofValue v
      r.ofElements (count + 1) (set s) rest vs

/-- The record as a decoder. -/
def decoder (r : Record σ) : Decoder σ where
  read depth := do
    match ← Reader.token with
    | '[' => Reader.located <| Reader.deeper depth fun inner =>
        Reader.enclosed (r.readElements inner r.fields 0 r.start) Reader.endArray
    | '\x7b' => Reader.located <| Reader.deeper depth fun inner => do
        let turns ← Reader.fuel
        Reader.enclosed (r.readMembers inner turns true [] r.start) Reader.endObject
    | _ => Reader.unexpected r.title
  ofValue
    | .array vs => do
        let (s, left) ← r.ofElements 0 r.start r.fields vs
        if left.isEmpty then return s
        else throw (.invalidLength vs.length "fewer elements in array")
    | .object ms => r.ofMembers [] r.start ms
    | v => wrongKind r.title v

end Record

/-- A sum of records told apart by a member that holds the name of one of them. -/
structure Tagged (α : Type) where
  title : String
  tag : String
  variants : List (String × (Value → Except Fault α))

namespace Tagged

variable {α : Type}

/-- Makes one variant of a sum from a record. Its fields are the members other than the tag, or the
elements after the first. -/
def variantOf {σ : Type} (r : Record σ) (wrap : σ → α) : Value → Except Fault α
  | .array vs => do
      let (s, left) ← r.ofElements 0 r.start r.fields vs
      let taken := vs.length - left.length
      if left.isEmpty then return wrap s
      else throw (.invalidLength vs.length s!"{Record.elementCount taken} in sequence")
  | .object ms => wrap <$> r.ofMembers [] r.start ms
  | v => wrongKind r.title v

/-- Splits the members of an object into the tag and the others. -/
def splitTag (t : Tagged α) (decode : Option (Value → Except Fault α)) :
    List (String × Value) → Except Fault ((Value → Except Fault α) × List (String × Value))
  | [] => match decode with
    | some d => .ok (d, [])
    | none => .error (.missingField t.tag)
  | (name, v) :: rest =>
      if name = t.tag then
        match decode, v with
        | some _, _ => .error (.duplicateField t.tag)
        | none, .string s => do t.splitTag (some (← variant t.variants s)) rest
        | none, v => wrongKind "variant identifier" v
      else do
        let (d, others) ← t.splitTag decode rest
        return (d, (name, v) :: others)

/-- Reads the members of an object: the tag by name, all others as documents. -/
def readMembers (t : Tagged α) (depth : Nat) :
    Nat → Bool → Option (Value → Except Fault α) → List (String × Value) →
      Reader ((Value → Except Fault α) × List (String × Value))
  | 0, _, _, _ => Reader.refuse (.missingField t.tag)
  | fuel + 1, first, decode, others => do
      if ← Reader.hasMember first then
        let name ← Reader.name
        if name = t.tag then
          match decode with
          | some _ => Reader.refuse (.duplicateField t.tag)
          | none =>
              Reader.colon
              let d ← (parsed "variant identifier" (variant t.variants)).read depth
              t.readMembers depth fuel false (some d) others
        else
          Reader.colon
          let v ← Reader.document id depth
          t.readMembers depth fuel false decode ((name, v) :: others)
      else match decode with
        | some d => return (d, others.reverse)
        | none => Reader.refuse (.missingField t.tag)

/-- Reads the elements of an array: the tag first. -/
def readElements (t : Tagged α) (depth : Nat) :
    Reader ((Value → Except Fault α) × List Value) := do
  if ← Reader.hasElement true then
    let d ← (parsed "variant identifier" (variant t.variants)).read depth
    let turns ← Reader.fuel
    return (d, ← Reader.elements (Reader.document id depth) turns false)
  else Reader.refuse (.missingField t.tag)

/-- The sum as a decoder. -/
def decoder (t : Tagged α) : Decoder α where
  read depth := do
    match ← Reader.token with
    | '[' =>
        let (d, vs) ← Reader.located <| Reader.deeper depth fun inner =>
          Reader.enclosed (t.readElements inner) Reader.endArray
        Reader.ofExcept (d (.array vs))
    | '\x7b' =>
        let (d, ms) ← Reader.located <| Reader.deeper depth fun inner => do
          let turns ← Reader.fuel
          Reader.enclosed (t.readMembers inner turns true none []) Reader.endObject
        Reader.ofExcept (d (.object ms))
    | _ => Reader.unexpected t.title
  ofValue
    | .array [] => .error (.missingField t.tag)
    | .array (.string s :: vs) => do (← variant t.variants s) (.array vs)
    | .array (v :: _) => wrongKind "variant identifier" v
    | .object ms => do
        let (d, others) ← t.splitTag none ms
        d (.object others)
    | v => wrongKind t.title v

end Tagged

end Decoder
end Flowchart.Json
