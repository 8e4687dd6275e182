import Flowchart.Proofs.Decimal.Interval
import Flowchart.Variables.Store

/-!
# Spellings of a number

One number can be spelled in many ways. Reading looks at nothing but the number that a decimal value
denotes: a value that denotes no less is read as no less (`code_toBinary64_mono`), however many
digits it has, and all spellings of one number are read as numbers of one value
(`Spells.value_parseNumber_eq`). Only the sign of a zero can tell two of them apart.
-/

namespace Flowchart

namespace Decimal

open Binary64 (unitsPerOne infinityCode roundCode)

variable {v w : Value}

/-- The fraction of units that a decimal value is rounded from: numerator and denominator. -/
def Value.fraction (v : Value) : Nat × Nat :=
  match v.exponent with
  | .ofNat e => (v.digits * 10 ^ e * unitsPerOne, 1)
  | .negSucc e => (v.digits * unitsPerOne, 10 ^ (e + 1))

theorem Value.fraction_spec (v : Value) : 0 < v.fraction.2 ∧
    v.magnitude * unitsPerOne = v.fraction.1 / v.fraction.2 := by
  obtain ⟨negative, digits, exponent⟩ := v
  cases exponent with
  | ofNat e =>
      refine ⟨Nat.one_pos, ?_⟩
      simp only [fraction, magnitude, Int.ofNat_eq_natCast, zpow_natCast]
      push_cast
      ring
  | negSucc e =>
      refine ⟨Nat.pow_pos (by decide), ?_⟩
      simp only [fraction, magnitude, zpow_negSucc]
      push_cast
      ring

/-- The place after the first digit of a decimal value. -/
def Value.top (v : Value) : Int := digitCount v.digits + v.exponent

/-- The sign is read as it is written. -/
theorem negative_toBinary64 (v : Value) : v.toBinary64.negative = v.negative := by
  simp only [Value.toBinary64]
  split
  · rfl
  · split
    · rfl
    · split <;> rfl

/-- The code that a decimal value is read as. -/
theorem code_toBinary64 (v : Value) : (v.toBinary64.code : Nat) =
    if v.digits = 0 ∨ v.top < -330 then 0
    else if 320 < v.top then infinityCode
    else roundCode v.fraction.1 v.fraction.2 := by
  have htop : (digitCount v.digits : Int) + v.exponent = v.top := rfl
  by_cases hsmall : v.digits = 0 ∨ v.top < -330
  · rw [if_pos hsmall]
    simp only [Value.toBinary64, htop, Bool.or_eq_true, decide_eq_true_eq, if_pos hsmall]
    rfl
  · rw [if_neg hsmall]
    simp only [Value.toBinary64, htop, Bool.or_eq_true, decide_eq_true_eq, if_neg hsmall]
    by_cases hgreat : 320 < v.top
    · rw [if_pos hgreat, if_pos hgreat]
      rfl
    · rw [if_neg hgreat, if_neg hgreat, Value.fraction]
      cases v.exponent with
      | ofNat e => exact Binary64.code_round _ _ _
      | negSucc e => exact Binary64.code_round _ _ _

/-- A decimal value without digits other than zero denotes nothing but zero. -/
theorem Value.magnitude_eq_zero_iff : v.magnitude = 0 ↔ v.digits = 0 := by
  rw [magnitude, mul_eq_zero, or_iff_left (by positivity), Nat.cast_eq_zero]

theorem Value.magnitude_nonneg (v : Value) : 0 ≤ v.magnitude := by
  unfold magnitude
  positivity

/-- The first digit of a greater value stands no lower. -/
theorem Value.top_mono (h : v.magnitude ≤ w.magnitude) (hv : v.digits ≠ 0) (hw : w.digits ≠ 0) :
    v.top ≤ w.top := by
  have hlower : (10 : ℚ) ^ (v.top - 1) ≤ v.magnitude := (magnitude_bounds hv).1
  have hupper : w.magnitude < 10 ^ w.top := (magnitude_bounds hw).2
  have hless := (zpow_lt_zpow_iff_right₀ (by norm_num)).mp ((hlower.trans h).trans_lt hupper)
  omega

/-- A decimal value that denotes no less is read as a number with no smaller code. -/
theorem code_toBinary64_mono (h : v.magnitude ≤ w.magnitude) :
    (v.toBinary64.code : Nat) ≤ w.toBinary64.code := by
  rw [code_toBinary64, code_toBinary64]
  by_cases hv : v.digits = 0
  · rw [if_pos (Or.inl hv)]
    exact Nat.zero_le _
  · have hw : w.digits ≠ 0 := fun hzero => by
      rw [Value.magnitude_eq_zero_iff.mpr hzero] at h
      exact hv (Value.magnitude_eq_zero_iff.mp (le_antisymm h v.magnitude_nonneg))
    have htop := Value.top_mono h hv hw
    obtain ⟨hposv, hfractionv⟩ := v.fraction_spec
    obtain ⟨hposw, hfractionw⟩ := w.fraction_spec
    have hround : roundCode v.fraction.1 v.fraction.2 ≤ roundCode w.fraction.1 w.fraction.2 := by
      refine Binary64.roundCode_mono hposv hposw ?_
      have hunits : v.magnitude * unitsPerOne ≤ w.magnitude * unitsPerOne :=
        mul_le_mul_of_nonneg_right h (Nat.cast_nonneg _)
      rw [hfractionv, hfractionw,
        div_le_div_iff₀ (Nat.cast_pos.mpr hposv) (Nat.cast_pos.mpr hposw)] at hunits
      exact_mod_cast hunits
    have hmost := Binary64.roundCode_le_infinityCode v.fraction.1 v.fraction.2
    simp only [hv, hw, false_or]
    split_ifs <;> omega

/-- The number that a decimal value denotes. -/
def Value.toRat (v : Value) : ℚ := if v.negative then -v.magnitude else v.magnitude

theorem Value.abs_toRat (v : Value) : |v.toRat| = v.magnitude := by
  unfold toRat
  split
  · rw [abs_neg, abs_of_nonneg v.magnitude_nonneg]
  · rw [abs_of_nonneg v.magnitude_nonneg]

theorem Value.magnitude_congr (h : v.toRat = w.toRat) : v.magnitude = w.magnitude := by
  rw [← v.abs_toRat, h, w.abs_toRat]

/-- The only number that is its own opposite is zero. -/
theorem Value.magnitude_eq_zero_of_sign_ne (h : v.toRat = w.toRat)
    (hsign : v.negative ≠ w.negative) : w.magnitude = 0 := by
  have hsame := magnitude_congr h
  rw [toRat, toRat, Bool.eq_not.mpr hsign, hsame] at h
  cases hw : w.negative with
  | false =>
      rw [hw] at h
      simp only [Bool.not_false, if_true, Bool.false_eq_true, if_false] at h
      linarith
  | true =>
      rw [hw] at h
      simp only [Bool.not_true, if_true, Bool.false_eq_true, if_false] at h
      linarith

/-- Decimal values that denote one number are read as numbers with one code. -/
theorem code_toBinary64_congr (h : v.toRat = w.toRat) : v.toBinary64.code = w.toBinary64.code := by
  have hmagnitude := Value.magnitude_congr h
  exact Fin.ext (le_antisymm (code_toBinary64_mono hmagnitude.le)
    (code_toBinary64_mono hmagnitude.ge))

/-- Decimal values that denote one number are read as numbers of one value. -/
theorem value_toBinary64_congr (h : v.toRat = w.toRat) :
    v.toBinary64.value = w.toBinary64.value := by
  have hunits : v.toBinary64.magnitude = w.toBinary64.magnitude := by
    rw [Binary64.magnitude, Binary64.magnitude, code_toBinary64_congr h]
  simp only [Binary64.value, negative_toBinary64, hunits]
  by_cases hsign : v.negative = w.negative
  · rw [hsign]
  · -- Spellings of zero may differ in the sign, but a zero has no units.
    have hdigits := Value.magnitude_eq_zero_iff.mp (Value.magnitude_eq_zero_of_sign_ne h hsign)
    have hnone : w.toBinary64.magnitude = 0 := by
      rw [Binary64.magnitude, code_toBinary64, if_pos (Or.inl hdigits)]
      rfl
    rw [hnone]
    split_ifs <;> rfl

end Decimal

/-- A text spells a number: but for blanks around it, it is a decimal value that denotes it. -/
def Spells (s : String) (q : ℚ) : Prop :=
  ∃ v, Decimal.read (Text.trimList s.toList) = some v ∧ v.toRat = q

/-- All spellings of a number are read as numbers of one value, or none of them is read. -/
theorem Spells.value_parseNumber_eq {s t : String} {q : ℚ} (hs : Spells s q) (ht : Spells t q) :
    (parseNumber s).map Binary64.value = (parseNumber t).map Binary64.value := by
  obtain ⟨v, hv, rfl⟩ := hs
  obtain ⟨w, hw, hsame⟩ := ht
  have hfinite : v.toBinary64.isFinite = w.toBinary64.isFinite := by
    rw [Binary64.isFinite, Binary64.isFinite, Decimal.code_toBinary64_congr hsame]
  simp only [parseNumber, hv, hw, hfinite]
  split
  · rw [Option.map_some, Option.map_some, Decimal.value_toBinary64_congr hsame]
  · rfl

end Flowchart
