import Mathlib.Algebra.Order.Field.Basic
import Mathlib.Algebra.Order.Field.Rat
import Mathlib.Algebra.Order.Floor.Semifield
import Mathlib.Data.Rat.Cast.Order
import Mathlib.Data.Rat.Floor
import Mathlib.Tactic.FieldSimp
import Mathlib.Tactic.Linarith
import Flowchart.Proofs.Binary64.Rounding

/-!
# Overflow and casts

The results of arithmetic are rounded to infinity just if they are too great: from the midpoint
between the greatest finite number and `2 ^ 1024` on, which is `overflowBound`. The sum, the
difference, the product and the quotient of two numbers are finite if and only if the exact result
is below it in magnitude (`isFinite_add_iff`, `isFinite_subtract_iff`, `isFinite_multiply_iff`,
`isFinite_divide_iff`).

A natural number is cast to the number nearest to it, which may be less or greater, but never passes
a number that is there already (`toRat_ofNat_le`, `le_toRat_ofNat`). A number is cast to a natural
number below `2 ^ 64` by dropping the fraction (`toWord_eq`).
-/

namespace Flowchart.Binary64

variable {n d : Nat} {x y : Binary64}

/-- The rational number that a finite number stands for. -/
def toRat (x : Binary64) : ℚ := x.value / unitsPerOne

/-- The least magnitude that is rounded to infinity. -/
def overflowBound : Nat := 2 ^ 1024 - 2 ^ 970

/-! ## Rounding to infinity -/

/-- The bound is the midpoint between the greatest finite number and the next one. -/
theorem midpoint_eq : units (infinityCode - 1) + units infinityCode =
    2 * (overflowBound * unitsPerOne) := by
  decide +kernel

/-- The bound lies above the greatest finite number. -/
theorem units_lt_bound : units (infinityCode - 1) < overflowBound * unitsPerOne ∧
    overflowBound * unitsPerOne < units infinityCode := by
  have hmiddle := midpoint_eq
  have hlast : units (infinityCode - 1) < units infinityCode := units_strictMono (by decide)
  omega

theorem overflowBound_pos : 0 < overflowBound :=
  Nat.pos_of_mul_pos_right ((Nat.zero_le _).trans_lt units_lt_bound.1)

/-- The midpoint itself is rounded to infinity, which is the even one of the two. -/
theorem roundCode_bound : roundCode (overflowBound * unitsPerOne) 1 = infinityCode := by
  obtain ⟨hlower, hupper⟩ := units_lt_bound
  have hsucc : infinityCode - 1 + 1 = infinityCode := by decide
  have hfloor : floorCode (overflowBound * unitsPerOne) = infinityCode - 1 :=
    floorCode_eq (by decide) hlower.le (hsucc.symm ▸ hupper)
  simp only [roundCode, Nat.div_one, Nat.mul_one, hfloor, hsucc, midpoint_eq, lt_irrefl, if_false]
  decide

/-- A fraction of units is rounded to a finite code if it is below the bound. -/
theorem roundCode_lt_infinityCode_iff (hd : 0 < d) :
    roundCode n d < infinityCode ↔ n < overflowBound * unitsPerOne * d := by
  constructor
  · contrapose!
    intro hle
    rw [← roundCode_bound]
    refine roundCode_mono Nat.one_pos hd ?_
    rwa [Nat.mul_one]
  · intro hlt
    have hfloor : floorCode (n / d) < infinityCode := by
      refine lt_of_le_of_ne (floorCode_le_infinityCode _) fun hinfinite => ?_
      have hunits := units_floorCode_le (n / d)
      rw [hinfinite, Nat.le_div_iff_mul_le hd] at hunits
      exact absurd (hunits.trans_lt hlt)
        (Nat.not_lt.mpr (Nat.mul_le_mul_right d units_lt_bound.2.le))
    rcases Nat.lt_or_ge (floorCode (n / d) + 1) infinityCode with hnext | hnext
    · exact ((floorCode_le_roundCode n d).2 hfloor).trans_lt hnext
    · -- Above the greatest finite number there is only the midpoint to stay below.
      have hgreatest : floorCode (n / d) = infinityCode - 1 := by omega
      have hbelow : 2 * n < (units (infinityCode - 1) + units infinityCode) * d := by
        rw [midpoint_eq, Nat.mul_assoc]
        omega
      have hsucc : infinityCode - 1 + 1 = infinityCode := by decide
      simp only [roundCode, hgreatest, hsucc]
      rw [if_neg (by decide), if_pos hbelow]
      decide

/-- A fraction of units is rounded to a finite number if it is below the bound in magnitude. -/
theorem isFinite_round_iff {negative : Bool} {q : ℚ} (hd : 0 < d)
    (hq : |q| * unitsPerOne = n / d) :
    (round negative n d).isFinite = true ↔ |q| < overflowBound := by
  have hd' : (0 : ℚ) < d := Nat.cast_pos.mpr hd
  have hone : (0 : ℚ) < unitsPerOne := Nat.cast_pos.mpr unitsPerOne_pos
  rw [isFinite_iff, code_round, roundCode_lt_infinityCode_iff hd, ← mul_lt_mul_iff_left₀ hone, hq,
    div_lt_iff₀ hd']
  exact_mod_cast Iff.rfl

/-! ## The operations -/

/-- The magnitude of a number counts units. -/
theorem abs_toRat (x : Binary64) : |x.toRat| = x.magnitude / unitsPerOne := by
  have hone : (0 : ℚ) < unitsPerOne := Nat.cast_pos.mpr unitsPerOne_pos
  have hvalue : |x.value| = x.magnitude := by
    unfold value
    split <;> simp
  rw [toRat, abs_div, abs_of_pos hone, ← Int.cast_abs, hvalue, Int.cast_natCast]

theorem toRat_eq_zero_iff : x.toRat = 0 ↔ x.isZero = true := by
  have hone : (unitsPerOne : ℚ) ≠ 0 := Nat.cast_ne_zero.mpr unitsPerOne_pos.ne'
  rw [toRat, div_eq_zero_iff, or_iff_left hone, Int.cast_eq_zero, value_eq_zero_iff]

theorem toRat_negate (x : Binary64) : x.negate.toRat = -x.toRat := by
  have hvalue : x.negate.value = -x.value := by
    cases hsign : x.negative <;> simp [value, negate, magnitude, hsign]
  rw [toRat, hvalue, toRat, Int.cast_neg, neg_div]

/-- A sum is finite if it is below the bound. -/
theorem isFinite_add_iff (x y : Binary64) :
    (x.add y).isFinite = true ↔ |x.toRat + y.toRat| < overflowBound := by
  have hone : (0 : ℚ) < unitsPerOne := Nat.cast_pos.mpr unitsPerOne_pos
  have hsum : |x.toRat + y.toRat| * unitsPerOne = (x.value + y.value).natAbs := by
    rw [toRat, toRat, ← add_div, abs_div, abs_of_pos hone, div_mul_cancel₀ _ hone.ne',
      ← Int.cast_add, ← Int.cast_abs, Int.abs_eq_natAbs, Int.cast_natCast]
  rw [add, ofUnits]
  split
  case isTrue hzero =>
    rw [hzero, Int.natAbs_zero, Nat.cast_zero, mul_eq_zero, or_iff_left hone.ne'] at hsum
    rw [hsum]
    exact iff_of_true rfl (Nat.cast_pos.mpr overflowBound_pos)
  case isFalse => exact isFinite_round_iff Nat.one_pos (by rw [hsum, Nat.cast_one, div_one])

/-- A difference is finite if it is below the bound. -/
theorem isFinite_subtract_iff (x y : Binary64) :
    (x.subtract y).isFinite = true ↔ |x.toRat - y.toRat| < overflowBound := by
  rw [subtract, isFinite_add_iff, toRat_negate, ← sub_eq_add_neg]

/-- A product is finite if it is below the bound. -/
theorem isFinite_multiply_iff (x y : Binary64) :
    (x.multiply y).isFinite = true ↔ |x.toRat * y.toRat| < overflowBound := by
  have hone : (unitsPerOne : ℚ) ≠ 0 := Nat.cast_ne_zero.mpr unitsPerOne_pos.ne'
  refine isFinite_round_iff unitsPerOne_pos ?_
  rw [abs_mul, abs_toRat, abs_toRat]
  push_cast
  field_simp

/-- A quotient by a number other than zero is finite if it is below the bound. -/
theorem isFinite_divide_iff (x : Binary64) (hy : y.isZero = false) :
    (x.divide y).isFinite = true ↔ |x.toRat / y.toRat| < overflowBound := by
  have hone : (unitsPerOne : ℚ) ≠ 0 := Nat.cast_ne_zero.mpr unitsPerOne_pos.ne'
  have hmagnitude : y.magnitude ≠ 0 := fun hzero => by
    simp [magnitude_eq_zero_iff.mp hzero] at hy
  have hmagnitude' : (y.magnitude : ℚ) ≠ 0 := Nat.cast_ne_zero.mpr hmagnitude
  refine isFinite_round_iff (Nat.pos_of_ne_zero hmagnitude) ?_
  rw [abs_div, abs_toRat, abs_toRat]
  push_cast
  field_simp

/-! ## Values and their order -/

/-- A number without a negative sign counts its units. -/
theorem toRat_of_not_negative (h : x.negative = false) : x.toRat = x.magnitude / unitsPerOne := by
  simp only [toRat, value, h, Bool.false_eq_true, if_false, Int.cast_natCast]

/-- A number with a negative sign is at most zero. -/
theorem toRat_nonpos (h : x.negative = true) : x.toRat ≤ 0 := by
  have hvalue : x.value ≤ 0 := by
    simp only [value, h, if_true]
    omega
  exact div_nonpos_of_nonpos_of_nonneg (Int.cast_nonpos.mpr hvalue) (Nat.cast_nonneg _)

theorem toRat_nonneg (h : x.negative = false) : 0 ≤ x.toRat := by
  rw [toRat_of_not_negative h]
  positivity

/-- Numbers are compared as the rational numbers that they stand for. -/
theorem less_iff : x.less y = true ↔ x.toRat < y.toRat := by
  have hone : (0 : ℚ) < unitsPerOne := Nat.cast_pos.mpr unitsPerOne_pos
  rw [less, decide_eq_true_iff, toRat, toRat, div_lt_div_iff_of_pos_right hone, Int.cast_lt]

/-! ## Casts from natural numbers -/

/-- The code that a natural number is cast to. -/
theorem code_ofNat (n : Nat) : ((ofNat n).code : Nat) = roundCode (n * unitsPerOne) 1 :=
  code_round _ _ _

/-- A finite code is what its own units are rounded to. -/
theorem roundCode_magnitude (hx : x.isFinite = true) : roundCode x.magnitude 1 = x.code :=
  roundCode_units (isFinite_iff.mp hx)

/-- Of two numbers without a negative sign the one with the greater code is greater. -/
theorem toRat_mono (hx : x.negative = false) (hy : y.negative = false)
    (h : (x.code : Nat) ≤ y.code) : x.toRat ≤ y.toRat := by
  have hunits : x.magnitude ≤ y.magnitude := units_strictMono.monotone h
  rw [toRat_of_not_negative hx, toRat_of_not_negative hy]
  exact div_le_div_of_nonneg_right (Nat.cast_le.mpr hunits) (Nat.cast_nonneg _)

/-- A natural number that is at most a finite number is cast to at most that number. -/
theorem toRat_ofNat_le (hx : x.isFinite = true) (hsign : x.negative = false) (h : n ≤ x.toRat) :
    (ofNat n).toRat ≤ x.toRat := by
  have hone : (0 : ℚ) < unitsPerOne := Nat.cast_pos.mpr unitsPerOne_pos
  rw [toRat_of_not_negative hsign, le_div_iff₀ hone] at h
  have hunits : n * unitsPerOne ≤ x.magnitude := by exact_mod_cast h
  refine toRat_mono rfl hsign ?_
  rw [code_ofNat, ← roundCode_magnitude hx]
  refine roundCode_mono Nat.one_pos Nat.one_pos ?_
  rwa [Nat.mul_one, Nat.mul_one]

/-- A natural number that is at least a finite number is cast to at least that number. -/
theorem le_toRat_ofNat (hx : x.isFinite = true) (hsign : x.negative = false) (h : x.toRat ≤ n) :
    x.toRat ≤ (ofNat n).toRat := by
  have hone : (0 : ℚ) < unitsPerOne := Nat.cast_pos.mpr unitsPerOne_pos
  rw [toRat_of_not_negative hsign, div_le_iff₀ hone] at h
  have hunits : x.magnitude ≤ n * unitsPerOne := by exact_mod_cast h
  refine toRat_mono hsign rfl ?_
  rw [code_ofNat, ← roundCode_magnitude hx]
  refine roundCode_mono Nat.one_pos Nat.one_pos ?_
  rwa [Nat.mul_one, Nat.mul_one]

/-- A natural number below `2 ^ 53` is cast to itself. -/
theorem toRat_ofNat (h : n < 2 ^ 53) : (ofNat n).toRat = n := by
  have hone : (unitsPerOne : ℚ) ≠ 0 := Nat.cast_ne_zero.mpr unitsPerOne_pos.ne'
  rw [toRat, value_ofNat h, Int.cast_natCast, Nat.cast_mul, mul_div_cancel_right₀ _ hone]

/-! ## Casts to natural numbers -/

/-- The fraction is dropped, and what is out of range becomes the nearest number within it. -/
theorem toWord_eq (x : Binary64) : x.toWord = min ⌊x.toRat⌋₊ (2 ^ 64 - 1) := by
  rw [toWord]
  cases hsign : x.negative with
  | true =>
      rw [if_pos rfl, Nat.floor_of_nonpos (toRat_nonpos hsign), Nat.zero_min]
  | false =>
      rw [if_neg Bool.false_ne_true, toRat_of_not_negative hsign, Nat.floor_div_eq_div]
      rfl

end Flowchart.Binary64
