import Flowchart.Binary64.Basic

/-!
# Reading decimal numbers

The grammar of a decimal number is an optional sign, digits with an optional point among them (one
digit at least), and an optional exponent. The number read is the binary64 number nearest to the
decimal value.
-/

namespace Flowchart.Decimal

/-- An exact decimal value: `digits * 10 ^ exponent`, negated if `negative`. -/
structure Value where
  negative : Bool
  digits : Nat
  exponent : Int

/-- The value of a decimal digit. -/
def digitValue (c : Char) : Nat := c.toNat - 48

/-- The natural number that a list of decimal digits denotes. -/
def ofDigits (cs : List Char) : Nat :=
  cs.foldl (fun n c => n * 10 + digitValue c) 0

/-- Splits off an optional sign. -/
def takeSign : List Char → Bool × List Char
  | '-' :: cs => (true, cs)
  | '+' :: cs => (false, cs)
  | cs => (false, cs)

/-- Reads an exponent after its mark: an optional sign and digits to the end. -/
def readExponent (cs : List Char) : Option Int :=
  let (negative, ds) := takeSign cs
  if ds.isEmpty || !ds.all Char.isDigit then none
  else some (if negative then -(ofDigits ds : Int) else ofDigits ds)

/-- Reads a decimal number that fills the whole list. -/
def read (cs : List Char) : Option Value :=
  let (negative, rest) := takeSign cs
  let whole := rest.takeWhile Char.isDigit
  let rest := rest.dropWhile Char.isDigit
  let (fraction, rest) := match rest with
    | '.' :: after => (after.takeWhile Char.isDigit, after.dropWhile Char.isDigit)
    | _ => ([], rest)
  if whole.isEmpty && fraction.isEmpty then none
  else
    let scale : Int := -(fraction.length : Int)
    let digits := ofDigits (whole ++ fraction)
    match rest with
    | [] => some ⟨negative, digits, scale⟩
    | mark :: after =>
        if mark = 'e' || mark = 'E' then
          (readExponent after).map fun e => ⟨negative, digits, scale + e⟩
        else none

/-- Reads a whole number below `2 ^ 64` that fills the whole list, with an optional plus sign. -/
def index? (cs : List Char) : Option Nat :=
  let ds := match cs with
    | '+' :: rest => rest
    | _ => cs
  if ds.isEmpty || !ds.all Char.isDigit then none
  else if ofDigits ds < 0x10000000000000000 then some (ofDigits ds) else none

/-- The number of decimal digits of a natural number; none for zero. -/
def digitCount (n : Nat) : Nat :=
  if n = 0 then 0 else (Nat.toDigits 10 n).length

/-- The binary64 number nearest to a decimal value. Values beyond every finite number, or too small
for any but zero, are told by the place of their first digit. -/
def Value.toBinary64 (v : Value) : Binary64 :=
  let top : Int := digitCount v.digits + v.exponent
  if v.digits = 0 || top < -330 then .ofCode v.negative 0
  else if 320 < top then .infinity v.negative
  else match v.exponent with
    | .ofNat e => .round v.negative (v.digits * Nat.pow 10 e * Binary64.unitsPerOne) 1
    | .negSucc e => .round v.negative (v.digits * Binary64.unitsPerOne) (Nat.pow 10 (e + 1))

end Flowchart.Decimal
