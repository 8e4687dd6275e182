import Flowchart.Http.Message
import Flowchart.Text.Blank

/-!
# Names and values of header fields

What may stand in a method, in the name of a field and in its value, and the parameters of a media
type.
-/

namespace Flowchart.Http

/-- Characters of names: letters, numerals and some signs. -/
def isTokenChar (c : Char) : Bool :=
  c.isAlphanum || "!#$%&'*+-.^_\x60|~".toList.contains c

/-- Whether a text is a name. -/
def isToken (s : String) : Bool :=
  !s.isEmpty && s.toList.all isTokenChar

/-- Whether a text may be the value of a field: it holds no controls but tabs. -/
def isFieldValue (s : String) : Bool :=
  s.toList.all fun c => (0x20 ≤ c.toNat && c.toNat ≠ 0x7F) || c = '\t'

/-- A field as it is sent: the name in lower case. -/
def field? (name value : String) : Option (String × String) :=
  if isToken name && name.length < 32768 && isFieldValue value then
    some (Text.asciiLower name, value)
  else none

/-- Headers without the fields of some names. -/
def Headers.without (headers : Headers) (names : List String) : Headers :=
  headers.filter fun (name, _) => !names.contains name

/-- Headers in which a field has a single value, in the place of its first one. -/
def Headers.replace (headers : Headers) (name value : String) : Headers :=
  if headers.any fun (other, _) => other = name then
    let before := headers.takeWhile fun (other, _) => other ≠ name
    before ++ (name, value) :: Headers.without (headers.drop before.length) [name]
  else headers ++ [(name, value)]

/-! ## Media types -/

/-- Characters between quotes in a parameter. -/
def isQuotedChar (c : Char) : Bool :=
  (0x20 ≤ c.toNat && c.toNat < 0x7F && c ≠ '"' && c ≠ '\\')

/-- The parameters of a media type after its `;`, at most as many as the first argument says. -/
def parameters? : Nat → List Char → Option (List (String × String))
  | 0, _ | _, [] => some []
  | n + 1, cs =>
      let cs := cs.dropWhile (· = ' ')
      if cs.isEmpty then some []
      else
        let name := cs.takeWhile isTokenChar
        match cs.drop name.length with
        | '=' :: '"' :: rest =>
            let value := rest.takeWhile isQuotedChar
            match rest.drop value.length with
            | '"' :: rest =>
                if name.isEmpty then none
                else
                  let more := match rest.dropWhile (· = ' ') with
                    | [] => some []
                    | ';' :: rest => parameters? n rest
                    | _ => none
                  more.map ((String.ofList name, String.ofList value) :: ·)
            | _ => none
        | '=' :: rest =>
            if name.isEmpty then none
            else
              let value := rest.takeWhile isTokenChar
              let entry := (String.ofList name, String.ofList value)
              match rest.drop value.length with
              | [] => some [entry]
              | ';' :: rest =>
                  if value.isEmpty then none else (parameters? n rest).map (entry :: ·)
              | _ => none
        | _ => none

/-- The parameters of a media type, if it is one. -/
def mediaParameters? (s : String) : Option (List (String × String)) :=
  let cs := s.toList
  let type := cs.takeWhile isTokenChar
  match cs.drop type.length with
  | '/' :: rest =>
      let subtype := rest.takeWhile isTokenChar
      match rest.drop subtype.length with
      | [] => if type.isEmpty then none else some []
      | ';' :: rest => if type.isEmpty || subtype.isEmpty then none else parameters? cs.length rest
      | _ => none
  | _ => none

/-- The label of the encoding that a media type tells. -/
def charset? (mediaType : String) : Option String := do
  let parameters ← mediaParameters? mediaType
  let (_, label) ← parameters.find? fun (name, _) => Text.equalAsciiCase name "charset"
  return label

end Flowchart.Http
