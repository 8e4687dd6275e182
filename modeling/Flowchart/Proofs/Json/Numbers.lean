import Flowchart.Proofs.Binary64.Rounding
import Flowchart.Proofs.Json.Outcome

/-!
# Numbers that are read

Numbers with a point or an exponent are scaled by powers of ten. Scaling a finite number up may fail
but gives a finite number if it does not (`isFinite_of_scale?`), and it does not fail for the digits
that a finite number is printed with (`isSome_scale?`). All numbers that are read are finite, or
whole and in range (`Reader.number_yields`).
-/

namespace Flowchart.Json

open Binary64 (unitsPerOne infinityCode)

variable {x y : Binary64} {n e fuel : Nat}

/-! ## Scaling -/

theorem magnitude_powerOfTen_mono {m : Nat} (h : m ≤ n) :
    (powerOfTen m).magnitude ≤ (powerOfTen n).magnitude :=
  Binary64.magnitude_ofNat_mono (Nat.pow_le_pow_right (by decide) h)

/-- A power of ten is at least one. -/
theorem unitsPerOne_le_powerOfTen (n : Nat) : unitsPerOne ≤ (powerOfTen n).magnitude := by
  have hone : powerOfTen 0 = .ofNat 1 := rfl
  have hle := magnitude_powerOfTen_mono (Nat.zero_le n)
  rwa [hone, (Binary64.ofNat_spec (by decide)).2.2, Nat.one_mul] at hle

/-- Scaling down always succeeds. -/
theorem isSome_scale?_of_neg {e : Int} (h : e < 0) : (scale? fuel x e).isSome = true := by
  fun_induction scale? fuel x e with
  | case1 | case2 | case3 | case4 => exact absurd h (by simp)
  | case5 | case6 | case7 => rfl
  | case8 x e hfar _ fuel ih => exact ih (by omega)

/-- What a finite number is scaled to is finite. -/
theorem isFinite_of_scale? {e : Int} (hx : x.isFinite = true) (h : scale? fuel x e = some y) :
    y.isFinite = true := by
  have hdivide (n : Nat) {x : Binary64} (hx : x.isFinite = true) :
      (x.divide (powerOfTen n)).isFinite = true :=
    Binary64.isFinite_divide hx (unitsPerOne_le_powerOfTen n)
  fun_induction scale? fuel x e with
  | case1 | case4 => cases h
  | case2 _ x e _ product hinfinite =>
      obtain rfl := Option.some.inj h
      exact Binary64.isFinite_round (Bool.eq_false_iff.mpr hinfinite)
  | case3 | case6 | case7 => exact Option.some.inj h ▸ hx
  | case5 => exact Option.some.inj h ▸ hdivide _ hx
  | case8 x e _ _ fuel ih => exact ih (hdivide _ hx) h

/-- The greatest significand below the greatest finite number, for an exponent. -/
def greatestSignificand (e : Nat) : Nat :=
  Binary64.units (infinityCode - 1) / (10 ^ e * unitsPerOne)

theorem greatestSignificand_antitone {m : Nat} (h : m ≤ n) :
    greatestSignificand n ≤ greatestSignificand m := by
  have hpow : 10 ^ m ≤ 10 ^ n := Nat.pow_le_pow_right (by decide) h
  exact Nat.div_le_div_left (Nat.mul_le_mul_right _ hpow)
    (Nat.mul_pos (Nat.pow_pos (by decide)) Binary64.unitsPerOne_pos)

/-- A number that is not above the greatest finite one has no greater significand. -/
theorem le_greatestSignificand (h : n * 10 ^ e * unitsPerOne ≤ Binary64.units (infinityCode - 1)) :
    n ≤ greatestSignificand e := by
  rw [greatestSignificand, Nat.le_div_iff_mul_le
    (Nat.mul_pos (Nat.pow_pos (by decide)) Binary64.unitsPerOne_pos), ← Nat.mul_assoc]
  exact h

/-- The digits of a finite number times the power of ten are finite. -/
theorem isFinite_multiply_powerOfTen (hn : n ≤ 10 ^ 17) (he : e ≤ 308)
    (h : n ≤ greatestSignificand e) :
    ((Binary64.ofNat n).multiply (powerOfTen e)).isFinite = true := by
  rcases Nat.lt_or_ge e 292 with hsmall | hlarge
  · -- All products are below the one of the greatest factors.
    have hgreatest : ((Binary64.ofNat (10 ^ 17)).multiply (powerOfTen 291)).isFinite = true := by
      decide +kernel
    exact Binary64.isFinite_multiply (Binary64.magnitude_ofNat_mono hn)
      (magnitude_powerOfTen_mono (by omega)) hgreatest
  · have hall : ∀ k < 17, ((Binary64.ofNat (greatestSignificand (292 + k))).multiply
        (powerOfTen (292 + k))).isFinite = true := by
      decide +kernel
    obtain ⟨k, rfl⟩ := Nat.exists_eq_add_of_le hlarge
    exact Binary64.isFinite_multiply (Binary64.magnitude_ofNat_mono h) le_rfl (hall k (by omega))

/-- The digits of a finite number can be scaled by their exponent. -/
theorem isSome_scale? (hn : n ≤ 10 ^ 17)
    (h : n * 10 ^ e * unitsPerOne ≤ Binary64.units (infinityCode - 1)) :
    (scale? fuel (.ofNat n) (.ofNat e)).isSome = true := by
  rw [scale?.eq_def]
  dsimp only
  split
  case isTrue he =>
    have hfinite := Binary64.isFinite_iff.mp
      (isFinite_multiply_powerOfTen hn he (le_greatestSignificand h))
    rw [if_neg]
    · rfl
    · simp only [Binary64.isInfinite, decide_eq_true_eq]
      exact hfinite.ne
  case isFalse he =>
    have hnone : greatestSignificand 309 = 0 := by decide +kernel
    have hle : n ≤ greatestSignificand 309 :=
      (le_greatestSignificand h).trans (greatestSignificand_antitone (Nat.not_le.mp he))
    obtain rfl : n = 0 := Nat.le_zero.mp (hle.trans_eq hnone)
    have hzero : (Binary64.ofNat 0).isZero = true := by decide +kernel
    rw [if_pos hzero]
    rfl

/-! ## Reading numbers -/

/-- A number with a sign. -/
def withSign (negative : Bool) (x : Binary64) : Number :=
  .double (if negative then x.negate else x)

/-- A number that a document may have which was read. -/
def Number.IsValid : Number → Prop
  | .integer n => (Number.integer n).IsWhole
  | .double x => x.isFinite = true

namespace Reader

variable {significand : Nat}

theorem isFinite_ofNat_of_le (h : n ≤ maxWord) : (Binary64.ofNat n).isFinite = true := by
  have hmax : ((Binary64.ofNat maxWord).code : Nat) < infinityCode := by decide +kernel
  exact Binary64.isFinite_iff.mpr ((Binary64.code_ofNat_mono h).trans_lt hmax)

theorem isValid_withSign (negative : Bool) (h : y.isFinite = true) :
    (withSign negative y).IsValid := by
  cases negative <;> exact h

theorem isValid_wholeNumber (negative : Bool) (h : n ≤ maxWord) :
    (wholeNumber negative n).IsValid := by
  unfold wholeNumber
  split
  case isTrue => exact ⟨by omega, Int.ofNat_le.mpr h⟩
  case isFalse =>
    split
    case isTrue => exact isFinite_ofNat_of_le h
    case isFalse hrange =>
      simp only [Bool.or_eq_true, decide_eq_true_eq, not_or, Nat.not_lt] at hrange
      exact ⟨by omega, by omega⟩

/-- What digits are added to a significand, it stays in its range. -/
theorem extendSignificand_le (h : significand ≤ maxWord) (ds : List Char) :
    (extendSignificand significand ds).1 ≤ maxWord := by
  induction ds generalizing significand with
  | nil => exact h
  | cons d ds ih =>
      simp only [extendSignificand]
      split
      case isTrue hlonger => exact ih hlonger
      case isFalse => exact h

theorem scaled_yields (negative : Bool) (h : significand ≤ maxWord) (e : Int) :
    (scaled negative significand e).Yields Number.IsValid := by
  unfold scaled
  split
  case h_1 => exact .fail _
  case h_2 y hy =>
    exact .pure (isValid_withSign negative (isFinite_of_scale? (isFinite_ofNat_of_le h) hy))

theorem exponentPart_yields (negative : Bool) (h : significand ≤ maxWord) (e : Int) :
    (exponentPart negative significand e).Yields Number.IsValid := by
  refine Yields.trivial.bind fun _ _ => Yields.trivial.bind fun sign _ => ?_
  extract_lets afterSign
  have hafter (down : Bool) : (afterSign down).Yields Number.IsValid := by
    refine Yields.trivial.bind fun next _ => ?_
    split
    case h_1 => exact .fail _
    case h_2 =>
      split
      case isTrue => exact .failAtNext _
      case isFalse =>
        refine Yields.trivial.bind fun start _ => Yields.trivial.bind fun ds _ => ?_
        split
        case h_1 =>
          split
          case isTrue => exact Yields.trivial.bind fun _ _ => .failAfter _ _
          case isFalse =>
            have hzero : (Binary64.ofCode negative 0).isFinite = true := by
              cases negative <;> decide
            exact .pure hzero
        case h_2 => exact scaled_yields negative h _
  split
  case h_1 | h_2 => exact Yields.trivial.bind fun _ _ => hafter _
  case h_3 => exact hafter _

theorem afterDigits_yields (negative : Bool) (h : significand ≤ maxWord) (e : Int) :
    (afterDigits negative significand e).Yields Number.IsValid := by
  refine Yields.trivial.bind fun next _ => ?_
  split
  case h_1 | h_2 => exact exponentPart_yields negative h e
  case h_3 => exact scaled_yields negative h e

theorem fractionPart_yields (negative : Bool) (h : significand ≤ maxWord) (e : Int) :
    (fractionPart negative significand e).Yields Number.IsValid := by
  refine Yields.trivial.bind fun _ _ => Yields.trivial.bind fun ds _ => ?_
  split
  case isTrue =>
    refine Yields.trivial.bind fun next _ => ?_
    split
    case h_1 => exact .failAtNext _
    case h_2 => exact .fail _
  case isFalse => exact afterDigits_yields negative (extendSignificand_le h ds) _

theorem afterWhole_yields (negative : Bool) (h : significand ≤ maxWord) (dropped : Nat) :
    (afterWhole negative significand dropped).Yields Number.IsValid := by
  refine Yields.trivial.bind fun next _ => ?_
  split
  case h_1 => exact fractionPart_yields negative h _
  case h_2 | h_3 => exact exponentPart_yields negative h _
  case h_4 =>
    split
    case isTrue => exact .pure (isValid_wholeNumber negative h)
    case isFalse => exact scaled_yields negative h _

/-- A number that is read is finite, or whole and in range. -/
theorem number_yields (negative : Bool) : (number negative).Yields Number.IsValid := by
  refine Yields.trivial.bind fun next _ => ?_
  split
  case h_1 => exact .fail _
  case h_2 =>
    exact Yields.trivial.bind fun _ _ => Yields.trivial.bind fun _ _ =>
      afterWhole_yields negative (Nat.zero_le _) 0
  case h_3 =>
    split
    case isTrue =>
      exact Yields.trivial.bind fun ds _ =>
        afterWhole_yields negative (extendSignificand_le (Nat.zero_le _) ds) _
    case isFalse => exact .failAtNext _

end Reader
end Flowchart.Json
