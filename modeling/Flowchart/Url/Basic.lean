import Flowchart.Url.Domain

/-!
# Urls

A url in its parts, and its text. The schemes of the web are special: their urls always have a host
and a path that starts with a slash, and a port that goes without saying.
-/

namespace Flowchart

/-- A url. A path that is `opaque` does not consist of segments. -/
structure Url where
  scheme : List Char
  user : List Char := []
  password : Option (List Char) := none
  host : Option (List Char) := none
  port : Option Nat := none
  /-- The segments of the path, or the text of an opaque path. -/
  path : List Char ⊕ List (List Char) := .inr []
  query : Option (List Char) := none
  fragment : Option (List Char) := none
  deriving DecidableEq, Inhabited

namespace Url

/-- The schemes that are special, with the ports that go without saying. -/
def specialSchemes : List (List Char × Option Nat) := [
  (['h', 't', 't', 'p'], some 80), (['h', 't', 't', 'p', 's'], some 443),
  (['w', 's'], some 80), (['w', 's', 's'], some 443), (['f', 't', 'p'], some 21),
  (['f', 'i', 'l', 'e'], none)]

/-- The scheme of files. -/
def fileScheme : List Char := ['f', 'i', 'l', 'e']

/-- Whether a scheme is special. -/
def isSpecialScheme (scheme : List Char) : Bool :=
  (specialSchemes.lookup scheme).isSome

/-- The port of a scheme that goes without saying. -/
def defaultPort? (scheme : List Char) : Option Nat :=
  (specialSchemes.lookup scheme).join

/-- Whether the scheme of a url is special. -/
def isSpecial (u : Url) : Bool := isSpecialScheme u.scheme

/-- The port that a url leads to, if known. -/
def effectivePort? (u : Url) : Option Nat := u.port.or (defaultPort? u.scheme)

/-- Whether a url is one of the web. -/
def isWeb (u : Url) : Bool :=
  u.scheme = ['h', 't', 't', 'p'] || u.scheme = ['h', 't', 't', 'p', 's']

/-- A url without user name and password. -/
def withoutUser (u : Url) : Url := { u with user := [], password := none }

/-- A url without fragment. -/
def withoutFragment (u : Url) : Url := { u with fragment := none }

/-- The text of the path. -/
def pathText (u : Url) : List Char :=
  match u.path with
  | .inl text => text
  | .inr segments => segments.flatMap fun s => '/' :: s

/-- The text of the host with what stands around it. -/
def authorityText (u : Url) : List Char :=
  match u.host with
  | none =>
      -- without a host, a path that starts with two slashes must not be taken for one
      match u.path with
      | .inr ([] :: _ :: _) => ['/', '.']
      | _ => []
  | some host =>
      let user := if u.user.isEmpty ∧ u.password.isNone then []
        else u.user ++ (u.password.map (':' :: ·)).getD [] ++ ['@']
      ['/', '/'] ++ user ++ host ++ (u.port.map fun n => ':' :: Nat.toDigits 10 n).getD []

/-- The text of a url. -/
def text (u : Url) : String :=
  String.ofList (u.scheme ++ ':' :: u.authorityText ++ u.pathText ++
    (u.query.map ('?' :: ·)).getD [] ++ (u.fragment.map ('#' :: ·)).getD [])

end Url
end Flowchart
