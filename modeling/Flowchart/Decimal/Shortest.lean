import Flowchart.Binary64.Basic

/-!
# Shortest decimal digits

The fewest decimal digits that read back as a given binary64 number, and of those the ones nearest
to it. The numbers that round to a code form an interval between two midpoints, ends included if
the code is even. For one digit, two digits, and so on, the two neighbours of the number on that
decimal grid are tried; the first grid with a neighbour inside the interval gives the digits.
-/

namespace Flowchart.Decimal

/-- Which neighbour is taken when a number lies exactly between two. -/
inductive Tie where
  | up
  | even
  deriving DecidableEq

/-- A positive decimal number: `digits * 10 ^ exponent`. -/
structure Digits where
  digits : Nat
  exponent : Int
  deriving DecidableEq, Repr

/-- The rounding interval of a code and the number itself, in half units. -/
structure Interval where
  low : Nat
  middle : Nat
  high : Nat
  closed : Bool

/-- The rounding interval of a finite code other than zero. -/
def Interval.ofCode (code : Nat) : Interval where
  low := Binary64.units (code - 1) + Binary64.units code
  middle := 2 * Binary64.units code
  high := Binary64.units code + Binary64.units (code + 1)
  closed := code % 2 = 0

/-- The number of half units in one. -/
def halfUnitsPerOne : Nat := Nat.pow 2 1075

/-- Whether `numerator / denominator` half units lie in an interval. -/
def Interval.contains (i : Interval) (numerator denominator : Nat) : Bool :=
  if i.closed then i.low * denominator ≤ numerator && numerator ≤ i.high * denominator
  else i.low * denominator < numerator && numerator < i.high * denominator

/-- The numerator and denominator of `10 ^ exponent` counted in half units. -/
def gridStep : Int → Nat × Nat
  | .ofNat e => (Nat.pow 10 e * halfUnitsPerOne, 1)
  | .negSucc e => (halfUnitsPerOne, Nat.pow 10 (e + 1))

/-- Tries the two neighbours of a number on the grid of multiples of `10 ^ exponent`. -/
def onGrid? (tie : Tie) (i : Interval) (exponent : Int) : Option Digits :=
  let (step, denominator) := gridStep exponent
  let below := i.middle * denominator / step
  let lowFits := below != 0 && i.contains (below * step) denominator
  let highFits := i.contains ((below + 1) * step) denominator
  let twice := 2 * i.middle * denominator
  let between := (2 * below + 1) * step
  let upper := between < twice || (between == twice && (tie == .up || below % 2 == 1))
  if lowFits && (!highFits || !upper) then some ⟨below, exponent⟩
  else if highFits then some ⟨below + 1, exponent⟩
  else none

/-- The first of a list of grids that has a neighbour inside the interval. -/
def firstGrid? (tie : Tie) (i : Interval) (exponents : List Int) : Option Digits :=
  exponents.findSome? (onGrid? tie i)

/-- The least `e` with `numerator < 10 ^ e * denominator`, searched upwards from `start`. -/
def placeFrom (numerator denominator : Nat) (start : Int) : Nat → Int
  | 0 => start
  | fuel + 1 =>
      let below : Bool := match start with
        | .ofNat e => numerator < Nat.pow 10 e * denominator
        | .negSucc e => numerator * Nat.pow 10 (e + 1) < denominator
      if below then start else placeFrom numerator denominator (start + 1) fuel

/-- The place of the first digit: the least `e` such that a code's magnitude is below `10 ^ e`. The
search starts just below an estimate from the number of binary digits. -/
def placeOf (code : Nat) : Int :=
  let magnitude := Binary64.units code
  let binary : Int := (Nat.log2 magnitude : Int) - 1074
  placeFrom magnitude Binary64.unitsPerOne ((binary * 30103).fdiv 100000 - 1) 5

/-- Drops the zeros at the end of the digits. -/
def Digits.dropZeros (d : Digits) : Digits :=
  go 20 d
where
  /-- Drops at most so many zeros. -/
  go : Nat → Digits → Digits
    | 0, d => d
    | fuel + 1, d =>
        if d.digits % 10 = 0 && d.digits != 0 then go fuel ⟨d.digits / 10, d.exponent + 1⟩ else d

/-- The shortest digits that read back as a finite code other than zero. -/
def shortest (tie : Tie) (code : Nat) : Digits :=
  let place := placeOf code
  let i := Interval.ofCode code
  let grids := (List.range 17).map fun (n : Nat) => place - 1 - n
  ((firstGrid? tie i grids).getD ⟨0, 0⟩).dropZeros

end Flowchart.Decimal
