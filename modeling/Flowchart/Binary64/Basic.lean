/-!
# Binary64 numbers

A number is a sign and a code: the low 63 bits of its 64-bit pattern. Codes below `infinityCode`
stand for finite magnitudes and are ordered as those are; `units` gives the magnitude as a multiple
of the least positive number, `2 ^ -1074`. All arithmetic is exact arithmetic on units followed by
one rounding, `round`, to the nearest code, a tie going to the even one. A sum or product too large
for a finite number is an infinity.
-/

namespace Flowchart

/-- A binary64 number: its sign and the low 63 bits of its pattern. -/
structure Binary64 where
  negative : Bool
  code : Fin 0x8000000000000000
  deriving DecidableEq, Inhabited

namespace Binary64

/-- The number of codes that share an exponent. -/
def fractionCount : Nat := 0x10000000000000

/-- The code of infinity; greater codes are no numbers. -/
def infinityCode : Nat := 0x7FF0000000000000

/-- The multiple of `2 ^ -1074` that a code stands for; that of infinity counts as `2 ^ 1024`. -/
def units (code : Nat) : Nat :=
  if code < fractionCount then code
  else (fractionCount + code % fractionCount) * Nat.pow 2 (code / fractionCount - 1)

/-- The number of units in one. -/
def unitsPerOne : Nat := Nat.pow 2 1074

/-- The greatest code whose magnitude is at most `n` units, infinity included. -/
def floorCode (n : Nat) : Nat :=
  if n < 2 * fractionCount then n
  else
    let exponent := Nat.log2 n - 52
    min infinityCode (n / Nat.pow 2 exponent + exponent * fractionCount)

/-- The code nearest to `numerator / denominator` units; a tie goes to the even code. -/
def roundCode (numerator denominator : Nat) : Nat :=
  let low := floorCode (numerator / denominator)
  if infinityCode ≤ low then infinityCode
  else
    let middle := (units low + units (low + 1)) * denominator
    if 2 * numerator < middle then low
    else if middle < 2 * numerator then low + 1
    else if low % 2 = 0 then low else low + 1

/-- The number with a sign and a code, which is cut to 63 bits. -/
def ofCode (negative : Bool) (code : Nat) : Binary64 :=
  ⟨negative, Fin.ofNat 0x8000000000000000 code⟩

/-- The number nearest to a fraction of units with a sign. -/
def round (negative : Bool) (numerator denominator : Nat) : Binary64 :=
  ofCode negative (roundCode numerator denominator)

/-- The number with a 64-bit pattern. -/
def ofBits (bits : Nat) : Binary64 :=
  ofCode (bits / 0x8000000000000000 % 2 == 1) (bits % 0x8000000000000000)

/-- The 64-bit pattern of a number. -/
def toBits (x : Binary64) : Nat :=
  (if x.negative then 0x8000000000000000 else 0) + x.code

/-- Positive zero. -/
def zero : Binary64 := ofCode false 0

/-- Infinity with a sign. -/
def infinity (negative : Bool) : Binary64 := ofCode negative infinityCode

/-- Whether a number is finite. -/
def isFinite (x : Binary64) : Bool := x.code < infinityCode

/-- Whether a number is an infinity. -/
def isInfinite (x : Binary64) : Bool := x.code = infinityCode

/-- Whether a number is zero, of either sign. -/
def isZero (x : Binary64) : Bool := x.code = 0

/-- The magnitude of a number in units. -/
def magnitude (x : Binary64) : Nat := units x.code

/-- The value of a finite number in units, with its sign. -/
def value (x : Binary64) : Int :=
  if x.negative then -(x.magnitude : Int) else x.magnitude

/-- The number nearest to a natural number. -/
def ofNat (n : Nat) : Binary64 :=
  round false (n * unitsPerOne) 1

/-! ## Arithmetic, order and conversions to whole numbers -/

/-- The number with the opposite sign. -/
def negate (x : Binary64) : Binary64 :=
  ⟨!x.negative, x.code⟩

/-- The number nearest to a whole number of units; `zeroSign` is the sign of a zero result. -/
def ofUnits (zeroSign : Bool) (n : Int) : Binary64 :=
  if n = 0 then ofCode zeroSign 0 else round (n < 0) n.natAbs 1

/-- The sum of finite numbers. Opposite numbers add up to positive zero. -/
def add (x y : Binary64) : Binary64 :=
  ofUnits (x.negative && y.negative) (x.value + y.value)

/-- The difference of finite numbers. -/
def subtract (x y : Binary64) : Binary64 :=
  add x y.negate

/-- The product of finite numbers. -/
def multiply (x y : Binary64) : Binary64 :=
  round (x.negative != y.negative) (x.magnitude * y.magnitude) unitsPerOne

/-- The quotient of a finite number by a finite number other than zero. -/
def divide (x y : Binary64) : Binary64 :=
  round (x.negative != y.negative) (x.magnitude * unitsPerOne) y.magnitude

/-- The numerical order of finite numbers, in which the zeros of both signs are equal. -/
def order (x y : Binary64) : Ordering :=
  compare x.value y.value

/-- Whether one finite number is less than another. -/
def less (x y : Binary64) : Bool :=
  x.value < y.value

/-- The greatest whole number that is at most a finite number. -/
def floor (x : Binary64) : Binary64 :=
  let whole := x.value.fdiv unitsPerOne
  ofUnits x.negative (whole * unitsPerOne)

/-- A finite number cut to a natural number below `2 ^ 64`: the fraction is dropped, negative
numbers become zero and greater ones the greatest such number. -/
def toWord (x : Binary64) : Nat :=
  if x.negative then 0 else min (x.magnitude / unitsPerOne) (0xFFFFFFFFFFFFFFFF)

end Binary64
end Flowchart
