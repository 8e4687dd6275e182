import Flowchart.Binary64.Basic
import Flowchart.Decimal.Read
import Flowchart.Json.Reader

/-!
# Numbers and strings of a document

The two tokens with an inner structure. A number that is no whole number within range is computed
from its leading digits, as many as fit into 64 bits, converted to binary64 and scaled by one power
of ten; that is fast but not always the nearest number. Strings may escape any character.
-/

namespace Flowchart.Json

/-- The greatest significand. -/
def maxWord : Nat := 0xFFFFFFFFFFFFFFFF

/-- Extends a significand by digits as long as it fits; gives the digits left over. -/
def extendSignificand (significand : Nat) : List Char → Nat × List Char
  | [] => (significand, [])
  | d :: ds =>
      let longer := significand * 10 + Decimal.digitValue d
      if longer ≤ maxWord then extendSignificand longer ds else (significand, d :: ds)

/-- The binary64 number nearest to a power of ten. -/
def powerOfTen (n : Nat) : Binary64 := .ofNat (Nat.pow 10 n)

/-- Scales a number by a power of ten, by `10 ^ 308` at a time when the exponent is below that;
none if the result is too large. The first argument bounds the number of such turns. -/
def scale? : Nat → Binary64 → Int → Option Binary64
  | _, x, .ofNat e =>
      if e ≤ 308 then
        let y := x.multiply (powerOfTen e)
        if y.isInfinite then none else some y
      else if x.isZero then some x else none
  | fuel, x, .negSucc e =>
      if e + 1 ≤ 308 then some (x.divide (powerOfTen (e + 1)))
      else if x.isZero then some x
      else match fuel with
        | 0 => some x
        | fuel + 1 => scale? fuel (x.divide (powerOfTen 308)) (.negSucc e + 308)

namespace Reader

/-- A number given by sign, significand and decimal exponent. -/
def scaled (negative : Bool) (significand : Nat) (exponent : Int) : Reader Number := do
  match scale? 4 (.ofNat significand) exponent with
  | none => fail .numberOutOfRange
  | some x => return .double (if negative then x.negate else x)

/-- Reads an exponent after its mark and scales the number by it. Exponents are kept below
`2 ^ 31`; a greater one makes the number zero or too large. -/
def exponentPart (negative : Bool) (significand : Nat) (exponent : Int) : Reader Number := do
  skip
  let down ← match ← peek? with
    | some '+' => do skip; pure false
    | some '-' => do skip; pure true
    | _ => pure false
  match ← peek? with
  | none => fail .endInValue
  | some c =>
      if !c.isDigit then failAtNext .invalidNumber
      else
        let start ← get
        let ds ← digits
        match overflowAt? 0 1 ds with
        | some n =>
            if significand != 0 && !down then do
              set start
              failAfter n .numberOutOfRange
            else return .double (.ofCode negative 0)
        | none =>
            let e : Int := Decimal.ofDigits ds
            scaled negative significand (if down then exponent - e else exponent + e)
where
  /-- The number of digits up to the one that takes the exponent out of its range. -/
  overflowAt? (n count : Nat) : List Char → Option Nat
    | [] => none
    | d :: ds =>
        let longer := n * 10 + Decimal.digitValue d
        if 0x80000000 ≤ longer then some count else overflowAt? longer (count + 1) ds

/-- Goes on after the digits of a number with an exponent, if there is one. -/
def afterDigits (negative : Bool) (significand : Nat) (exponent : Int) : Reader Number := do
  match ← peek? with
  | some 'e' | some 'E' => exponentPart negative significand exponent
  | _ => scaled negative significand exponent

/-- Reads the digits after the point. Digits that do not fit into the significand are dropped. -/
def fractionPart (negative : Bool) (significand : Nat) (exponent : Int) : Reader Number := do
  skip
  let ds ← digits
  if ds.isEmpty then
    match ← peek? with
    | some _ => failAtNext .invalidNumber
    | none => fail .endInValue
  else
    let (longer, dropped) := extendSignificand significand ds
    afterDigits negative longer (exponent - ((ds.length - dropped.length : Nat) : Int))

/-- A whole number with a sign: exact if it is in range, and a double if not or for `-0`. -/
def wholeNumber (negative : Bool) (significand : Nat) : Number :=
  if !negative then .integer significand
  else if significand = 0 || 0x8000000000000000 < significand then
    .double (Binary64.ofNat significand).negate
  else .integer (-(significand : Int))

/-- Refuses a digit after a leading zero. -/
def noDigitNext : Reader Unit := do
  match ← peek? with
  | some d => if d.isDigit then failAtNext .invalidNumber else pure ()
  | none => pure ()

/-- Goes on after the digits before the point, the last `dropped` of which did not fit into the
significand. -/
def afterWhole (negative : Bool) (significand dropped : Nat) : Reader Number := do
  match ← peek? with
  | some '.' => fractionPart negative significand dropped
  | some 'e' | some 'E' => exponentPart negative significand dropped
  | _ =>
      if dropped = 0 then return wholeNumber negative significand
      else scaled negative significand dropped

/-- Reads a number whose sign has been read. -/
def number (negative : Bool) : Reader Number := do
  match ← peek? with
  | none => fail .endInValue
  | some '0' =>
      skip
      noDigitNext
      afterWhole negative 0 0
  | some c =>
      if c.isDigit then
        let ds ← digits
        let (significand, dropped) := extendSignificand 0 ds
        afterWhole negative significand dropped.length
      else failAtNext .invalidNumber

/-- Passes over the exponent of a number, if there is one. -/
def skipExponent : Reader Unit := do
  match ← peek? with
  | some 'e' | some 'E' =>
      skip
      match ← peek? with
      | some '+' | some '-' => skip
      | _ => pure ()
      match ← peek? with
      | none => fail .invalidNumber
      | some d => if d.isDigit then discard digits else failAtNext .invalidNumber
  | _ => pure ()

/-- Passes over what follows the digits before the point of a number. -/
def skipFraction : Reader Unit := do
  match ← peek? with
  | some '.' =>
      skip
      let ds ← digits
      if ds.isEmpty then failAtNext .invalidNumber else skipExponent
  | _ => skipExponent

/-- Passes over a number whose sign has been read, without computing it. -/
def skipNumber : Reader Unit := do
  match ← peek? with
  | none => fail .invalidNumber
  | some '0' =>
      skip
      noDigitNext
      skipFraction
  | some c =>
      if c.isDigit then
        discard digits
        skipFraction
      else failAtNext .invalidNumber

end Reader

/-- The value of a hexadecimal digit. -/
def hexDigit? (c : Char) : Option Nat :=
  if c.isDigit then some (c.toNat - 48)
  else if 'a' ≤ c && c ≤ 'f' then some (c.toNat - 87)
  else if 'A' ≤ c && c ≤ 'F' then some (c.toNat - 55)
  else none

/-- What a scan of the characters of a string comes to: the text up to the closing quote with the
number of bytes up to and including it and what follows, or a fault after a number of bytes. -/
inductive StringScan where
  | closed (text : List Char) (bytes : Nat) (rest : List Char)
  | fault (cause : SyntaxFault) (bytes : Nat)

/-- Adds a character and a number of bytes in front of a scan. -/
def StringScan.add (scan : StringScan) (text : List Char) (bytes : Nat) : StringScan :=
  match scan with
  | .closed t b rest => .closed (text ++ t) (bytes + b) rest
  | .fault cause b => .fault cause (bytes + b)

/-- The number of bytes of a list of characters. -/
def byteCount (cs : List Char) : Nat :=
  cs.foldl (fun n c => n + c.utf8Size) 0

/-- The character of a one-letter escape. -/
def simpleEscape? : Char → Option Char
  | '"' => some '"'
  | '\\' => some '\\'
  | '/' => some '/'
  | 'b' => some '\x08'
  | 'f' => some '\x0c'
  | 'n' => some '\n'
  | 'r' => some '\r'
  | 't' => some '\t'
  | _ => none

/-- The number that four hexadecimal digits denote. -/
def hexUnit? (a b c d : Char) : Option Nat := do
  return (((← hexDigit? a) * 16 + (← hexDigit? b)) * 16 + (← hexDigit? c)) * 16 + (← hexDigit? d)

/-- The fault of a hexadecimal escape that does not have four digits. -/
def hexFault (cs : List Char) : StringScan :=
  if byteCount cs < 4 then .fault .endInString (byteCount cs) else .fault .invalidEscape 4

/-- Whether a unit is the first half of a pair. -/
def isLeading (n : Nat) : Bool := 0xD800 ≤ n && n ≤ 0xDBFF

/-- Whether a unit is the second half of a pair. -/
def isTrailing (n : Nat) : Bool := 0xDC00 ≤ n && n ≤ 0xDFFF

/-- The fault of a first half that no second half follows; `cs` is what follows it. -/
def pairFault (cs : List Char) : StringScan :=
  match cs with
  | [] => .fault .endInString 0
  | '\\' :: [] => .fault .endInString 1
  | '\\' :: 'u' :: more =>
      match more with
      | a :: b :: c :: d :: _ =>
          match hexUnit? a b c d with
          | some _ => .fault .loneSurrogate 6
          | none => (hexFault more).add [] 2
      | _ => (hexFault more).add [] 2
  | '\\' :: _ => .fault .unfinishedPair 2
  | _ => .fault .unfinishedPair 1

/-- Scans the characters of a string after its opening quote. -/
def scanString : List Char → StringScan
  | [] => .fault .endInString 0
  | '"' :: rest => .closed [] 1 rest
  | '\\' :: [] => .fault .endInString 1
  | '\\' :: 'u' :: a :: b :: c :: d :: rest =>
      match hexUnit? a b c d with
      | none => (hexFault (a :: b :: c :: d :: rest)).add [] 2
      | some n =>
          if isTrailing n then .fault .loneSurrogate 6
          else if isLeading n then
            match rest with
            | '\\' :: 'u' :: e :: f :: g :: h :: rest' =>
                match hexUnit? e f g h with
                | some m =>
                    if isTrailing m then
                      (scanString rest').add
                        [Char.ofNat (0x10000 + (n - 0xD800) * 0x400 + (m - 0xDC00))] 12
                    else (pairFault rest).add [] 6
                | none => (pairFault rest).add [] 6
            | _ => (pairFault rest).add [] 6
          else (scanString rest).add [Char.ofNat n] 6
  | '\\' :: 'u' :: rest => (hexFault rest).add [] 2
  | '\\' :: c :: rest =>
      match simpleEscape? c with
      | some image => (scanString rest).add [image] 2
      | none => .fault .invalidEscape 2
  | c :: rest =>
      if c.toNat < 32 then .fault .controlCharacter 1 else (scanString rest).add [c] c.utf8Size

/-- Scans the characters of a string that is not wanted: units need not form pairs. -/
def scanSkippedString : List Char → StringScan
  | [] => .fault .endInString 0
  | '"' :: rest => .closed [] 1 rest
  | '\\' :: [] => .fault .endInString 1
  | '\\' :: 'u' :: a :: b :: c :: d :: rest =>
      match hexUnit? a b c d with
      | none => (hexFault (a :: b :: c :: d :: rest)).add [] 2
      | some _ => (scanSkippedString rest).add [] 6
  | '\\' :: 'u' :: rest => (hexFault rest).add [] 2
  | '\\' :: c :: rest =>
      match simpleEscape? c with
      | some _ => (scanSkippedString rest).add [] 2
      | none => .fault .invalidEscape 2
  | c :: rest =>
      if c.toNat < 32 then .fault .controlCharacter 0
      else (scanSkippedString rest).add [] c.utf8Size

namespace Reader

/-- Takes over the result of a scan of a string. -/
def finishString (scan : List Char → StringScan) : Reader String := do
  let cursor ← get
  match scan cursor.rest with
  | .fault cause bytes => failAfter bytes cause
  | .closed text bytes rest =>
      set (⟨rest, ⟨cursor.position.line, cursor.position.column + bytes⟩⟩ : Cursor)
      return String.ofList text

/-- Reads a string after its opening quote. -/
def string : Reader String := finishString scanString

/-- Passes over a string after its opening quote. -/
def skipString : Reader Unit := discard (finishString scanSkippedString)

end Reader
end Flowchart.Json
