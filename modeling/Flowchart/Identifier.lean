import Flowchart.Json.Decoder
import Flowchart.Text.Search

/-!
# Identifiers

Workflows, blocks, connections and runs are named by 128-bit identifiers. They are written as 32
hexadecimal digits in five groups; read they may also be without hyphens, in braces, or after
`urn:uuid:`, with letters of either case.
-/

namespace Flowchart

/-- A 128-bit identifier. -/
structure Identifier where
  value : Fin 0x100000000000000000000000000000000
  deriving DecidableEq, Inhabited

namespace Identifier

/-- The identifier with a number, which is cut to 128 bits. -/
def ofNat (n : Nat) : Identifier := ⟨Fin.ofNat 0x100000000000000000000000000000000 n⟩

/-- The identifier whose digits are all zero. -/
def nil : Identifier := ofNat 0

/-- The last `count` hexadecimal digits of a number, leading zeros included. -/
def hexDigits (count n : Nat) : List Char :=
  let ds := Nat.toDigits 16 (n % Nat.pow 16 count)
  List.replicate (count - ds.length) '0' ++ ds

/-- The numbers of digits in the groups of the written form. -/
def groupLengths : List Nat := [8, 4, 4, 4, 12]

/-- Characters in groups of some lengths, with a hyphen between groups. -/
def hyphenated : List Nat → List Char → List Char
  | [], _ => []
  | [n], cs => cs.take n
  | n :: ns, cs => cs.take n ++ '-' :: hyphenated ns (cs.drop n)

/-- The written form of an identifier. -/
def text (id : Identifier) : String :=
  String.ofList (hyphenated groupLengths (hexDigits 32 id.value))

/-- The causes for which a text is no identifier. Indices count the bytes before. -/
inductive ParseFault where
  | character (c : Char) (index : Nat)
  | length (found : Nat)
  | groupCount (found : Nat)
  | groupLength (group expected found : Nat)

/-- The wording of a cause. -/
def ParseFault.message : ParseFault → String
  | .character c index => s!"invalid character: found `{c}` at {index}"
  | .length found => s!"invalid length: found {found}"
  | .groupCount found => s!"invalid group count: expected 5, found {found}"
  | .groupLength group expected found =>
      s!"invalid group length in group {group}: expected {expected}, found {found}"

/-- The number that hexadecimal digits denote. -/
def ofHexDigits? (cs : List Char) : Option Nat :=
  cs.foldlM (fun n c => (Json.hexDigit? c).map (n * 16 + ·)) 0

/-- The number in five groups between hyphens. -/
def ofGroups? (cs : List Char) : Option Nat :=
  let groups := Text.splitList (· == '-') cs
  if groups.map List.length = groupLengths then ofHexDigits? groups.flatten else none

/-- The start of the written form as a name of a resource. -/
def resourceMark : List Char := "urn:uuid:".toList

/-- What stands between braces. -/
def betweenBraces? : List Char → Option (List Char)
  | '\x7b' :: cs => if cs.getLast? = some '\x7d' then some cs.dropLast else none
  | _ => none

/-- The number that a text in one of the accepted forms denotes. -/
def read? (cs : List Char) : Option Nat :=
  if cs.length = 32 then ofHexDigits? cs
  else if cs.length = 36 then ofGroups? cs
  else if cs.length = 38 then (betweenBraces? cs).bind ofGroups?
  else if cs.length = 45 then (Text.afterPrefix? resourceMark cs).bind ofGroups?
  else none

/-- The first group whose length is not as expected, with that of the whole last group counted to
the end of the text. -/
def wrongGroup (group : Nat) : List Nat → List Nat → ParseFault
  | expected :: more, found :: rest =>
      if more.isEmpty || expected ≠ found then .groupLength group expected found
      else wrongGroup (group + 1) more rest
  | _, _ => .groupCount 0

/-- Why a text is no identifier. -/
def diagnose (cs : List Char) : ParseFault :=
  let (inner, offset, plain) :=
    match betweenBraces? cs, Text.afterPrefix? resourceMark cs with
    | some inner, _ => (inner, 1, false)
    | none, some inner => (inner, resourceMark.length, false)
    | none, none => (cs, 0, true)
  let allowed := inner.takeWhile fun c => c = '-' || (Json.hexDigit? c).isSome
  match inner.drop allowed.length with
  | c :: _ => .character c (offset + allowed.length)
  | [] =>
      let groups := (Text.splitList (· == '-') inner).map List.length
      if groups.length = 1 && plain then .length cs.length
      else if groups.length ≠ 5 then .groupCount groups.length
      else wrongGroup 0 groupLengths groups

/-- Reads an identifier. -/
def parse (s : String) : Except ParseFault Identifier :=
  match read? s.toList with
  | some n => .ok (ofNat n)
  | none => .error (diagnose s.toList)

/-- Identifiers in documents. -/
def decoder : Json.Decoder Identifier :=
  .parsed "a formatted UUID string" fun s =>
    match parse s with
    | .ok id => .ok id
    | .error fault => .error (.refused s!"UUID parsing failed: {fault.message}")

/-- An identifier as a document. -/
def toJson (id : Identifier) : Json.Value := .string id.text

end Identifier
end Flowchart
