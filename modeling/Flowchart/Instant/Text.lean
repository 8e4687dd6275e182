import Flowchart.Decimal.Read
import Flowchart.Instant.Basic
import Flowchart.Json.Decoder
import Flowchart.Text.Blank

/-!
# Instants as text

The written form is `2024-03-01T09:00:00Z`, with a fraction of three, six or nine digits if the
second is not whole and a sign before years outside 0 to 9999. Two readers accept it: `parseStrict`
for the standard form with any offset, and `parse`, which also allows blanks between the parts and
fields without leading zeros.
-/

namespace Flowchart.Instant

/-- A natural number with leading zeros up to a width. -/
def padded (width n : Nat) : List Char :=
  let ds := Nat.toDigits 10 n
  List.replicate (width - ds.length) '0' ++ ds

/-- A year: four digits, or a sign and at least four digits outside 0 to 9999. -/
def yearText (year : Int) : List Char :=
  if 0 ≤ year && year ≤ 9999 then padded 4 year.toNat
  else (if year < 0 then '-' else '+') :: padded 4 year.natAbs

/-- The fraction of a second, in as few groups of three digits as show it all. -/
def fractionText (nanos : Nat) : List Char :=
  if nanos = 0 then []
  else if nanos % 1000000 = 0 then '.' :: padded 3 (nanos / 1000000)
  else if nanos % 1000 = 0 then '.' :: padded 6 (nanos / 1000)
  else '.' :: padded 9 nanos

/-- An instant up to its fraction; the sixtieth second shows a leap second. -/
def localText (t : Instant) : List Char :=
  let date := Date.ofDays t.day
  let leap := secondNanos ≤ t.nano
  let second := t.second % 60 + (if leap then 1 else 0)
  let nanos := if leap then t.nano - secondNanos else t.nano
  yearText date.year ++ '-' :: padded 2 date.month ++ '-' :: padded 2 date.day ++
    'T' :: padded 2 (t.second / 3600) ++ ':' :: padded 2 (t.second / 60 % 60) ++
    ':' :: padded 2 second ++ fractionText nanos

/-- The written form of an instant. -/
def text (t : Instant) : String :=
  String.ofList (t.localText ++ ['Z'])

/-- The written form with the offset as numbers. -/
def offsetText (t : Instant) : String :=
  String.ofList (t.localText ++ ['+', '0', '0', ':', '0', '0'])

/-- The causes for which a text is no instant. -/
inductive ParseFault where
  | outOfRange
  | impossible
  | invalid
  | tooShort
  | tooLong
  deriving DecidableEq, Repr

/-- The wording of a cause. -/
def ParseFault.message : ParseFault → String
  | .outOfRange => "input is out of range"
  | .impossible => "no possible date and time matching input"
  | .invalid => "input contains invalid characters"
  | .tooShort => "premature end of input"
  | .tooLong => "trailing input"

/-- A reader of a part of an instant: what it reads and what is left. -/
abbrev Scan (α : Type) := List Char → Except ParseFault (α × List Char)

/-- Reads from `least` to `most` digits. -/
def scanNumber (least most : Nat) : Scan Nat := fun cs =>
  let ds := (cs.takeWhile Char.isDigit).take most
  if ds.length < least then
    .error (if Json.byteCount cs < least then .tooShort else .invalid)
  else .ok (Decimal.ofDigits ds, cs.drop ds.length)

/-- Reads one character. -/
def scanChar (expected : Char) : Scan Unit
  | [] => .error .tooShort
  | c :: cs => if c = expected then .ok ((), cs) else .error .invalid

/-- A number that must lie in a range. -/
def within (low high n : Nat) : Except ParseFault Unit :=
  if low ≤ n && n ≤ high then .ok () else .error .outOfRange

/-- Reads the fraction of a second after its point, in nanoseconds; digits after the ninth are
passed over. -/
def scanFraction : Scan Nat := fun cs => do
  let (n, rest) ← scanNumber 1 9 cs
  return (n * Nat.pow 10 (9 - (cs.length - rest.length)), rest.dropWhile Char.isDigit)

/-- The fields of an instant as written. -/
structure Fields where
  year : Int
  month : Nat
  day : Nat
  hour : Nat
  minute : Nat
  second : Nat
  nano : Nat
  offset : Int

/-- The instant that fields denote. -/
def ofFields (f : Fields) : Except ParseFault Instant :=
  let date : Date := ⟨f.year, f.month, f.day⟩
  if !date.isValid || date.toDays < firstDay || lastDay < date.toDays then .error .outOfRange
  else if (daySeconds : Int) ≤ f.offset.natAbs then .error .outOfRange
  else
    let leap := f.second = 60
    let local_ : Int := f.hour * 3600 + f.minute * 60 + (if leap then 59 else f.second)
    let total := local_ - f.offset
    let t : Instant := {
      day := date.toDays + total / daySeconds
      second := (total % daySeconds).toNat
      nano := f.nano + (if leap then secondNanos else 0) }
    match t.inRange? with
    | some t => .ok t
    | none => .error .impossible

/-- Reads an offset after its sign: two digits for the hours, what `separator` allows, and two
digits for the minutes, which may be missing if `short` says so. -/
def scanOffsetParts (separator : Scan Unit) (short : Bool) : Scan Int := fun cs => do
  let (h1, h2, rest) ← match cs with
    | a :: b :: rest => pure (a, b, rest)
    | [c] => throw (if c.utf8Size < 2 then .tooShort else .invalid)
    | [] => throw .tooShort
  unless h1.isDigit && h2.isDigit do throw .invalid
  let hours := Decimal.ofDigits [h1, h2]
  let ((), rest) ← separator rest
  match rest with
  | m1 :: m2 :: rest =>
      if m1.isDigit && m2.isDigit then
        if '5' < m1 then throw .outOfRange
        return ((hours * 3600 + Decimal.ofDigits [m1, m2] * 60 : Nat), rest)
      else throw .invalid
  | [] => if short then return ((hours * 3600 : Nat), []) else throw .tooShort
  | [c] => throw (if c.utf8Size < 2 then .tooShort else .invalid)

/-- Reads an offset: `Z`, or a sign with hours and minutes. -/
def scanOffset (separator : Scan Unit) (short : Bool) : Scan Int
  | [] => .error .tooShort
  | 'Z' :: cs => .ok (0, cs)
  | 'z' :: cs => .ok (0, cs)
  | '+' :: cs => scanOffsetParts separator short cs
  | '-' :: cs => do
      let (n, rest) ← scanOffsetParts separator short cs
      return (-n, rest)
  | '−' :: cs => do
      let (n, rest) ← scanOffsetParts separator short cs
      return (-n, rest)
  | _ :: _ => .error .invalid

/-- Reads the mark between date and time. -/
def scanMiddle : Scan Unit
  | [] => .error .tooShort
  | 'T' :: cs => .ok ((), cs)
  | 't' :: cs => .ok ((), cs)
  | ' ' :: cs => .ok ((), cs)
  | _ :: _ => .error .invalid

/-- Reads the fraction of a second with its point, if there is one. -/
def scanOptionalFraction : Scan Nat
  | '.' :: cs => scanFraction cs
  | cs => .ok (0, cs)

/-- Reads an instant in the standard form, which must fill the text. -/
def parseStrict (s : String) : Except ParseFault Instant := do
  let (year, cs) ← scanNumber 4 4 s.toList
  let ((), cs) ← scanChar '-' cs
  let (month, cs) ← scanNumber 2 2 cs
  within 1 12 month
  let ((), cs) ← scanChar '-' cs
  let (day, cs) ← scanNumber 2 2 cs
  within 1 31 day
  let ((), cs) ← scanMiddle cs
  let (hour, cs) ← scanNumber 2 2 cs
  within 0 23 hour
  let ((), cs) ← scanChar ':' cs
  let (minute, cs) ← scanNumber 2 2 cs
  within 0 59 minute
  let ((), cs) ← scanChar ':' cs
  let (second, cs) ← scanNumber 2 2 cs
  within 0 60 second
  let (nano, cs) ← scanOptionalFraction cs
  let (offset, cs) ← scanOffset (scanChar ':') false cs
  unless offset.natAbs < daySeconds do throw .outOfRange
  unless cs.isEmpty do throw .tooLong
  ofFields { year, month, day, hour, minute, second, nano, offset }

/-- Drops blanks. -/
def dropBlanks (cs : List Char) : List Char := cs.dropWhile Text.isBlank

/-- Reads a year: at most four digits, or a sign and any number of them. -/
def scanYear : Scan Int := fun cs =>
  match dropBlanks cs with
  | '-' :: rest => do
      let (n, rest) ← scanNumber 1 rest.length rest
      if 0x80000000 < n then throw .outOfRange
      return (-(n : Int), rest)
  | '+' :: rest => do
      let (n, rest) ← scanNumber 1 rest.length rest
      if 0x80000000 ≤ n then throw .outOfRange
      return (n, rest)
  | rest => do
      let (n, rest) ← scanNumber 1 4 rest
      return (n, rest)

/-- Reads one or two digits after blanks, as a number of a range. -/
def scanPart (low high : Nat) : Scan Nat := fun cs => do
  let (n, rest) ← scanNumber 1 2 (dropBlanks cs)
  within low high n
  return (n, rest)

/-- Passes over blanks and colons. -/
def scanSeparator : Scan Unit := fun cs =>
  .ok ((), cs.dropWhile fun c => c = ':' || Text.isBlank c)

/-- Reads an offset, or `UTC` in letters of either case. -/
def scanZone : Scan Int
  | u :: t :: c :: cs =>
      if u.toUpper = 'U' && t.toUpper = 'T' && c.toUpper = 'C' then .ok (0, cs)
      else scanOffset scanSeparator true (u :: t :: c :: cs)
  | cs => scanOffset scanSeparator true cs

/-- Reads an instant in the relaxed form, which must fill the text. -/
def parse (s : String) : Except ParseFault Instant := do
  let (year, cs) ← scanYear s.toList
  let ((), cs) ← scanChar '-' (dropBlanks cs)
  let (month, cs) ← scanPart 1 12 cs
  let ((), cs) ← scanChar '-' (dropBlanks cs)
  let (day, cs) ← scanPart 1 31 cs
  let ((), cs) ← scanMiddle cs
  let (hour, cs) ← scanPart 0 23 cs
  let ((), cs) ← scanChar ':' (dropBlanks cs)
  let (minute, cs) ← scanPart 0 59 cs
  let ((), cs) ← scanChar ':' (dropBlanks cs)
  let (second, cs) ← scanPart 0 60 cs
  let (nano, cs) ← scanOptionalFraction cs
  let (offset, cs) ← scanZone (dropBlanks cs)
  unless (dropBlanks cs).isEmpty do throw .tooLong
  ofFields { year, month, day, hour, minute, second, nano, offset }

/-- Instants in documents. -/
def decoder : Json.Decoder Instant :=
  .parsed "an RFC 3339 formatted date and time string" fun s =>
    match parse s with
    | .ok t => .ok t
    | .error fault => .error (.refused fault.message)

/-- An instant as a document. -/
def toJson (t : Instant) : Json.Value := .string t.text

end Flowchart.Instant
