import Flowchart.Text.Case
import Flowchart.Url.Address
import Flowchart.Url.Punycode

/-!
# Names of hosts

The host of a url in its final form: names in lower case and in Ascii, addresses in their shortest
form. A host that names nothing is refused.
-/

namespace Flowchart.Url

/-- Characters that may not stand in a name. -/
def isForbiddenInName (c : Char) : Bool :=
  c.toNat ≤ 0x20 || c.toNat = 0x7F ||
    ['#', '%', '/', ':', '<', '>', '?', '@', '[', '\\', ']', '^', '|'].contains c

/-- Characters that separate labels as dots do. -/
def isDot (c : Char) : Bool := ['.', '\u3002', '\uff0e', '\uff61'].contains c

/-- Characters that are left out of names. -/
def isSkipped (c : Char) : Bool :=
  Unicode.defaultIgnorable.contains c

/-- The characters that a character of a name counts as. Fullwidth forms count as the plain ones,
capital letters as small ones. -/
def mapNameChar (c : Char) : List Char :=
  if isDot c then ['.']
  else if isSkipped c then []
  else if '\uff01' ≤ c ∧ c ≤ '\uff5e' then Text.lowerChar (Char.ofNat (c.toNat - 0xFEE0))
  else Text.lowerChar c

/-- Whether a character may stand in a name once it has been mapped. -/
def mayStandInName (c : Char) : Bool :=
  if c.toNat < 128 then !isForbiddenInName c
  else !Unicode.invisible.contains c && !Unicode.space.contains c

/-- A label in Ascii. One that claims to be an Ascii form must be one. -/
def asciiLabel? (label : List Char) : Option (List Char) :=
  if label.all (·.toNat < 128) then
    match label with
    | 'x' :: 'n' :: '-' :: '-' :: code => do
        let decoded ← Punycode.decode? code
        if decoded.all (·.toNat < 128) ∨ !decoded.all mayStandInName ∨
          Punycode.encode decoded ≠ code ∨ decoded.flatMap mapNameChar ≠ decoded then none
        else some label
    | label => some label
  else some (['x', 'n', '-', '-'] ++ Punycode.encode label)

/-- A name in Ascii, if all its characters may stand in a name. -/
def asciiName? (name : List Char) : Option (List Char) := do
  let mapped := name.flatMap mapNameChar
  if !mapped.all mayStandInName then none
  let labels ← (mapped.splitOn '.').mapM asciiLabel?
  return ['.'].intercalate labels

/-- The host of a url of a special scheme. -/
def specialHost? (host : List Char) : Option (List Char) := do
  let name ← decodeText? host
  let name ← asciiName? name.toList
  if name.isEmpty then none
  else if endsInNumber name then address4? name
  else some name

/-- Characters that may not stand in the host of a url of another scheme. -/
def isForbiddenInHost (c : Char) : Bool :=
  ['\x00', '\t', '\n', '\r', ' ', '#', '/', ':', '<', '>', '?', '@', '[', '\\', ']', '^',
    '|'].contains c

/-- The host of a url in its final form. -/
def host? (special : Bool) (host : List Char) : Option (List Char) :=
  match host with
  | '[' :: inner =>
      if inner.getLast? = some ']' then
        (address6? inner.dropLast).map fun pieces => '[' :: address6Text pieces ++ [']']
      else none
  | host =>
      if special then specialHost? host
      else if host.any isForbiddenInHost then none
      else some (encodeText isControl host)

end Flowchart.Url
