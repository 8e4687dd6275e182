import Flowchart.Text.Search
import Flowchart.Url.Basic

/-!
# Reading urls

Reads a url, absolute or relative to another one. Blank characters around it and line ends within
it do not count; in special urls a backslash is as good as a slash, and slashes may be missing or
too many before the host.
-/

namespace Flowchart.Url

/-- Characters that are cut off the ends of a url. -/
def isEdgeBlank (c : Char) : Bool := c.toNat ≤ 0x20

/-- A text without what does not count in urls. -/
def cleaned (cs : List Char) : List Char :=
  let trimmed := ((cs.dropWhile isEdgeBlank).reverse.dropWhile isEdgeBlank).reverse
  trimmed.filter fun c => c ≠ '\t' && c ≠ '\n' && c ≠ '\r'

/-- The scheme at the start of a text, in lower case, and the text after its colon. -/
def scheme? (cs : List Char) : Option (List Char × List Char) :=
  match cs with
  | [] => none
  | c :: _ =>
      if !c.isAlpha then none
      else
        let name := cs.takeWhile fun c => c.isAlphanum || c = '+' || c = '-' || c = '.'
        match cs.drop name.length with
        | ':' :: rest => some (name.map Char.toLower, rest)
        | _ => none

/-- Whether a character is a slash, or a backslash where that is as good. -/
def isSlash (special : Bool) (c : Char) : Bool := c = '/' || (special && c = '\\')

/-- The fragment and what stands before it. -/
def splitFragment (cs : List Char) : List Char × Option (List Char) :=
  match cs.dropWhile (· ≠ '#') with
  | [] => (cs, none)
  | _ :: fragment => (cs.takeWhile (· ≠ '#'), some (encodeText fragmentSet fragment))

/-- The query of a text without fragment, and what stands before it. -/
def splitQuery (special : Bool) (cs : List Char) : List Char × Option (List Char) :=
  match cs.dropWhile (· ≠ '?') with
  | [] => (cs, none)
  | _ :: query => (cs.takeWhile (· ≠ '?'), some (encodeText (querySet special) query))

/-- The path, query and fragment of a text. -/
structure Tail where
  path : List Char
  query : Option (List Char)
  fragment : Option (List Char)

/-- Splits a text into path, query and fragment. -/
def splitTail (special : Bool) (cs : List Char) : Tail :=
  let (before, fragment) := splitFragment cs
  let (path, query) := splitQuery special before
  ⟨path, query, fragment⟩

/-- A segment with its encoded dots read as dots. -/
def plainDots : List Char → List Char
  | '%' :: '2' :: e :: rest =>
      if e = 'e' ∨ e = 'E' then '.' :: plainDots rest else '%' :: plainDots ('2' :: e :: rest)
  | c :: rest => c :: plainDots rest
  | [] => []

/-- Whether a segment is a letter of a drive. -/
def isDrive (segment : List Char) : Bool :=
  match segment with
  | [c, d] => c.isAlpha && (d = ':' || d = '|')
  | _ => false

/-- A path without its last segment; the drive of a file stays. -/
def shorten (isFile : Bool) (segments : List (List Char)) : List (List Char) :=
  match segments with
  | [only] => if isFile && isDrive only then segments else []
  | _ => segments.dropLast

/-- Adds segments to a path: `.` stands for nothing and `..` takes the last segment away. -/
def addSegments (isFile : Bool) : List (List Char) → List (List Char) → List (List Char)
  | path, [] => path
  | path, segment :: rest =>
      let isLast := rest.isEmpty
      let dots := plainDots segment
      let path :=
        if dots = ['.', '.'] then
          let path := shorten isFile path
          if isLast then path ++ [[]] else path
        else if dots = ['.'] then if isLast then path ++ [[]] else path
        else
          let encoded := encodeText pathSet segment
          let encoded := if isFile && path.isEmpty && isDrive encoded then
            encoded.map fun c => if c = '|' then ':' else c else encoded
          path ++ [encoded]
      addSegments isFile path rest

/-- The pieces of a path between slashes. -/
def pathPieces (special : Bool) (path : List Char) : List (List Char) :=
  Text.splitList (isSlash special) path

/-- A path that is read after the segments of another. -/
def pathAfter (scheme : List Char) (before : List (List Char)) (path : List Char) :
    List (List Char) :=
  let special := isSpecialScheme scheme
  let isFile := scheme = fileScheme
  match path with
  | [] => if special ∧ before.isEmpty then [[]] else before
  | c :: rest =>
      addSegments isFile before (pathPieces special (if isSlash special c then rest else path))

/-- User name and password of the text before an `@`. A password that is empty is none. -/
def readUser (cs : List Char) : List Char × Option (List Char) :=
  let user := encodeText userSet (cs.takeWhile (· ≠ ':'))
  match cs.dropWhile (· ≠ ':') with
  | [] | [_] => (user, none)
  | _ :: password => (user, some (encodeText userSet password))

/-- The text after the last `@`, and the text before it. -/
def splitUser (cs : List Char) : List Char × Option (List Char) :=
  match cs.reverse.dropWhile (· ≠ '@') with
  | [] => (cs, none)
  | _ :: before => ((cs.reverse.takeWhile (· ≠ '@')).reverse, some before.reverse)

/-- Splits host and port at the colon that stands outside brackets. -/
def splitPort (inBrackets : Bool) : List Char → List Char × Option (List Char)
  | [] => ([], none)
  | c :: rest =>
      if c = ':' ∧ !inBrackets then ([], some rest)
      else
        let inBrackets := if c = '[' then true else if c = ']' then false else inBrackets
        let (host, port) := splitPort inBrackets rest
        (c :: host, port)

/-- The port of a scheme: `some none` if it goes without saying. -/
def readPort? (scheme : List Char) (digits : List Char) : Option (Option Nat) :=
  if digits.isEmpty then some none
  else if !digits.all Char.isDigit then none
  else
    let n := digits.foldl (fun n c => n * 10 + (c.toNat - 48)) 0
    if 65535 < n then none else some (if defaultPort? scheme = some n then none else some n)

/-- Reads user, host, port and what follows them. -/
def readAuthority? (scheme : List Char) (cs : List Char) : Option Url := do
  let special := isSpecialScheme scheme
  let ends := fun (c : Char) => isSlash special c || c = '?' || c = '#'
  let authority := cs.takeWhile (!ends ·)
  let tail := splitTail special (cs.dropWhile (!ends ·))
  let (hostAndPort, userText) := splitUser authority
  let (user, password) := (userText.map readUser).getD ([], none)
  let (hostText, portText) := splitPort false hostAndPort
  if hostText.isEmpty ∧ (special ∨ portText.isSome ∨ userText.isSome) then none
  let host ← if hostText.isEmpty then some [] else host? special hostText
  let port ← readPort? scheme (portText.getD [])
  return { scheme, user, password, host := some host, port,
           path := .inr (pathAfter scheme [] tail.path), query := tail.query,
           fragment := tail.fragment }

/-- Reads what follows the scheme of files. -/
def readFile? (cs : List Char) : Option Url := do
  let tail := splitTail true cs
  let finish := fun (host : List Char) (path : List Char) =>
    { scheme := fileScheme, host := some host, path := .inr (pathAfter fileScheme [] path),
      query := tail.query, fragment := tail.fragment : Url }
  match tail.path with
  | a :: b :: rest =>
      if isSlash true a ∧ isSlash true b then
        let hostText := rest.takeWhile (!isSlash true ·)
        let path := rest.dropWhile (!isSlash true ·)
        if isDrive hostText then return finish [] rest
        let host ← if hostText.isEmpty then some [] else host? true hostText
        let isLocal := host = ['l', 'o', 'c', 'a', 'l', 'h', 'o', 's', 't']
        return finish (if isLocal then [] else host) path
      else return finish [] tail.path
  | path => return finish [] path

/-- Reads a url without scheme, relative to another. -/
def readRelative? (base : Url) (cs : List Char) : Option Url :=
  let special := base.isSpecial
  match cs with
  | a :: b :: rest =>
      if isSlash special a ∧ isSlash special b then
        readAuthority? base.scheme
          (if special then rest.dropWhile (isSlash true) else rest)
      else some (relativePath special)
  | _ => some (relativePath special)
where
  relativePath (special : Bool) : Url :=
    let tail := splitTail special cs
    let segments := match base.path with
      | .inr segments => segments
      | .inl _ => []
    match tail.path with
    | [] =>
        { base with query := if tail.query.isSome then tail.query else
                      if cs.head? = some '#' ∨ cs.isEmpty then base.query else none
                    fragment := tail.fragment }
    | c :: rest =>
        let path :=
          if isSlash special c then pathAfter base.scheme [] (c :: rest)
          else addSegments (base.scheme = fileScheme) (shorten (base.scheme = fileScheme) segments)
            (pathPieces special (c :: rest))
        { base with path := .inr path, query := tail.query, fragment := tail.fragment }

/-- Reads what follows the scheme of a url that is not special. -/
def readPlain? (scheme : List Char) (cs : List Char) : Option Url :=
  match cs with
  | '/' :: '/' :: rest => readAuthority? scheme rest
  | '/' :: _ =>
      let tail := splitTail false cs
      some { scheme, path := .inr (pathAfter scheme [] tail.path), query := tail.query,
             fragment := tail.fragment }
  | _ =>
      let tail := splitTail false cs
      some { scheme, path := .inl (encodeText isControl tail.path), query := tail.query,
             fragment := tail.fragment }

/-- Reads a url, relative to another if one is given. -/
def read? (base : Option Url) (input : String) : Option Url :=
  let cs := cleaned input.toList
  match scheme? cs with
  | some (scheme, rest) =>
      if scheme = fileScheme then readFile? rest
      else if isSpecialScheme scheme then
        let startsWithSlashes := match rest with
          | '/' :: '/' :: _ => true
          | _ => false
        match base with
        | some base =>
            if base.scheme = scheme ∧ !startsWithSlashes then readRelative? base rest
            else readAuthority? scheme (rest.dropWhile (isSlash true))
        | none => readAuthority? scheme (rest.dropWhile (isSlash true))
      else readPlain? scheme rest
  | none => base.bind (readRelative? · cs)

/-- Reads an absolute url. -/
def ofText? (input : String) : Option Url := read? none input

/-- The url that a text stands for in a document with this url. -/
def join? (base : Url) (input : String) : Option Url := read? (some base) input

end Flowchart.Url
