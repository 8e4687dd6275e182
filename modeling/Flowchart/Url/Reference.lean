import Flowchart.Url.Parser

/-!
# Well-formed references

A url can be read from nearly any text. A reference is well-formed if nothing in it had to be
encoded or guessed: each part holds only the characters that it may hold, and a `%` is always
followed by two hexadecimal digits.
-/

namespace Flowchart.Url

/-- Characters that may stand in all parts, by themselves or to separate pieces of a part. -/
def isPlain (c : Char) : Bool :=
  c.isAlphanum || "-._~!$&'()*+,;=".toList.contains c

/-- Whether a text holds allowed characters and encoded bytes only. -/
def isWritten (allowed : Char → Bool) : List Char → Bool
  | [] => true
  | '%' :: a :: b :: rest =>
      (hexValue? a).isSome && (hexValue? b).isSome && isWritten allowed rest
  | c :: rest => allowed c && isWritten allowed rest

/-- Characters of a path, slashes included. -/
def isPathChar (c : Char) : Bool := isPlain c || c = ':' || c = '@' || c = '/'

/-- Characters of a query or fragment. -/
def isQueryChar (c : Char) : Bool := isPathChar c || c = '?'

/-- Whether a host is well-formed: a name, or an address in brackets. -/
def isWrittenHost (host : List Char) : Bool :=
  match host with
  | '[' :: rest =>
      rest.getLast? = some ']' && rest.dropLast.all fun c => isPlain c || c = ':'
  | _ => isWritten isPlain host

/-- Whether user, host and port are well-formed. -/
def isWrittenAuthority (authority : List Char) : Bool :=
  let (hostAndPort, user) := splitUser authority
  let (host, port) := splitPort false hostAndPort
  isWritten (fun c => isPlain c || c = ':') (user.getD []) && isWrittenHost host &&
    (port.getD []).all Char.isDigit

/-- Whether the text between scheme and query is well-formed. Without a scheme, a colon in the first
segment would make it one. -/
def isWrittenPlace (hasScheme : Bool) (cs : List Char) : Bool :=
  match cs with
  | '/' :: '/' :: rest =>
      isWrittenAuthority (rest.takeWhile (· ≠ '/')) &&
        isWritten isPathChar (rest.dropWhile (· ≠ '/'))
  | _ => isWritten isPathChar cs && (hasScheme || !(cs.takeWhile (· ≠ '/')).contains ':')

/-- Whether a text is a well-formed reference. -/
def isReference (text : String) : Bool :=
  let cs := text.toList
  let before := cs.takeWhile (· ≠ '#')
  let fragment := (cs.drop before.length).drop 1
  let place := before.takeWhile (· ≠ '?')
  let query := (before.drop place.length).drop 1
  let located := match scheme? place with
    | some (_, rest) => isWrittenPlace true rest
    | none => isWrittenPlace false place
  located && isWritten isQueryChar query && isWritten isQueryChar fragment

end Flowchart.Url
