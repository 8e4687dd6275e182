import Mathlib.Algebra.Order.Field.Power
import Mathlib.Data.Rat.Cast.Order
import Mathlib.Tactic.Linarith
import Mathlib.Tactic.NormNum
import Flowchart.Decimal.Shortest
import Flowchart.Proofs.Binary64.Rounding

/-!
# The size of shortest digits

The shortest digits of a finite number are at most `10 ^ 17` (`digits_shortest_le`), their exponent
is small (`exponent_shortest_bounds`), and they denote no more than the greatest finite number
(`value_shortest_le`). The place of the first digit is estimated from the binary logarithm; the
estimate is close because powers of two and of ten are (`two_zpow_le_ten_zpow`).
-/

namespace Flowchart.Decimal

open Binary64 (units unitsPerOne infinityCode log2_units_lt)

variable {tie : Tie} {i : Interval} {d : Digits} {code : Nat} {e : Int}

/-- The number that digits denote. -/
def Digits.value (d : Digits) : ℚ := d.digits * 10 ^ d.exponent

/-- Digits with zeros after them denote a natural number. -/
theorem value_natCast (digits e : Nat) :
    (Digits.mk digits e).value = ((digits * 10 ^ e : Nat) : ℚ) := by
  rw [Digits.value, zpow_natCast]
  push_cast
  rfl

/-! ## The place of the first digit -/

/-- A fraction is below a power of ten. -/
def isBelowPower (numerator denominator : Nat) : Int → Bool
  | .ofNat e => numerator < 10 ^ e * denominator
  | .negSucc e => numerator * 10 ^ (e + 1) < denominator

theorem isBelowPower_iff {numerator denominator : Nat} :
    isBelowPower numerator denominator e = true ↔ (numerator : ℚ) < 10 ^ e * denominator := by
  cases e with
  | ofNat e =>
      rw [isBelowPower, decide_eq_true_iff, Int.ofNat_eq_natCast, zpow_natCast]
      exact_mod_cast Iff.rfl
  | negSucc e =>
      have hpow : (0 : ℚ) < 10 ^ (e + 1) := by positivity
      rw [isBelowPower, decide_eq_true_iff, zpow_negSucc, ← div_eq_inv_mul, lt_div_iff₀ hpow]
      exact_mod_cast Iff.rfl

/-- The search for the place goes on as long as it fails. -/
theorem placeFrom_succ (numerator denominator : Nat) (start : Int) (fuel : Nat) :
    placeFrom numerator denominator start (fuel + 1) =
      if isBelowPower numerator denominator start then start
      else placeFrom numerator denominator (start + 1) fuel := by
  cases start <;> rfl

/-- A search that reaches far enough finds a power of ten that is greater, within its reach. -/
theorem placeFrom_spec {numerator denominator : Nat} {start : Int} {fuel : Nat}
    (h : (numerator : ℚ) < 10 ^ (start + fuel) * denominator) :
    (numerator : ℚ) < 10 ^ placeFrom numerator denominator start fuel * denominator ∧
      start ≤ placeFrom numerator denominator start fuel ∧
      placeFrom numerator denominator start fuel ≤ start + fuel := by
  induction fuel generalizing start with
  | zero => simpa [placeFrom] using h
  | succ fuel ih =>
      rw [placeFrom_succ]
      split
      case isTrue hbelow => exact ⟨isBelowPower_iff.mp hbelow, le_rfl, by omega⟩
      case isFalse =>
        have hsum : start + 1 + fuel = start + (fuel + 1 : Nat) := by omega
        rw [← hsum] at h ⊢
        obtain ⟨hplace, hle, hge⟩ := ih h
        exact ⟨hplace, by omega, hge⟩

/-- The search for the place stops at its start, or at a power of which the one before was not
greater. -/
theorem placeFrom_eq_or_le (numerator denominator : Nat) (start : Int) (fuel : Nat) :
    placeFrom numerator denominator start fuel = start ∨
      (10 : ℚ) ^ (placeFrom numerator denominator start fuel - 1) * denominator ≤ numerator := by
  induction fuel generalizing start with
  | zero => exact Or.inl rfl
  | succ fuel ih =>
      rw [placeFrom_succ]
      split
      case isTrue => exact Or.inl rfl
      case isFalse hbelow =>
        rcases ih (start + 1) with hstart | hle
        · refine Or.inr ?_
          rw [hstart, add_sub_cancel_right]
          exact not_lt.mp (isBelowPower_iff.not.mp hbelow)
        · exact Or.inr hle

/-- A power of two is at most a power of ten if its exponent is smaller by the binary logarithm of
ten, which is between `93 / 28` and `196 / 59`. -/
theorem two_zpow_le_ten_zpow {m k : Int} (h : 28 * m ≤ 93 * k) (h' : 59 * m ≤ 196 * k) :
    (2 : ℚ) ^ m ≤ 10 ^ k := by
  rcases Int.le_total 0 m with hm | hm
  · have hpower : ((2 : ℚ) ^ m) ^ 93 ≤ (10 ^ k) ^ 93 := calc
      ((2 : ℚ) ^ m) ^ 93 = (2 ^ 93) ^ m := by rw [← zpow_natCast, ← zpow_natCast, zpow_comm]
      _ ≤ (10 ^ 28) ^ m := zpow_le_zpow_left₀ hm (by norm_num) (by norm_num)
      _ = 10 ^ (28 * m) := by rw [← zpow_natCast, ← zpow_mul]; rfl
      _ ≤ 10 ^ (93 * k) := zpow_le_zpow_right₀ (by norm_num) h
      _ = (10 ^ k) ^ 93 := by rw [← zpow_natCast, ← zpow_mul, mul_comm]; rfl
    exact (pow_le_pow_iff_left₀ (by positivity) (by positivity) (by decide)).mp hpower
  · -- The powers with negative exponents are compared by their inverses.
    have hpower : ((10 : ℚ) ^ (-k)) ^ 196 ≤ (2 ^ (-m)) ^ 196 := calc
      ((10 : ℚ) ^ (-k)) ^ 196 = 10 ^ (-k * 196) := by rw [← zpow_natCast, ← zpow_mul]; rfl
      _ ≤ 10 ^ (59 * -m) := zpow_le_zpow_right₀ (by norm_num) (by omega)
      _ = (10 ^ 59) ^ (-m) := by rw [zpow_mul]; rfl
      _ ≤ (2 ^ 196) ^ (-m) := zpow_le_zpow_left₀ (by omega) (by norm_num) (by norm_num)
      _ = (2 ^ (-m)) ^ 196 := by rw [← zpow_natCast, ← zpow_natCast, zpow_comm]
    have hle := (pow_le_pow_iff_left₀ (by positivity) (by positivity) (by decide)).mp hpower
    rw [zpow_neg, zpow_neg] at hle
    exact (inv_le_inv₀ (by positivity) (by positivity)).mp hle

/-- The number of units in one is a power of two. -/
theorem unitsPerOne_cast : (unitsPerOne : ℚ) = 2 ^ (1074 : Int) := by
  rw [Binary64.unitsPerOne_eq, Nat.cast_pow]
  rfl

/-- The place from which the search for numbers with a binary logarithm starts. -/
def placeEstimate (log : Nat) : Int := (((log : Int) - 1074) * 30103).fdiv 100000 - 1

theorem placeEstimate_bounds (log : Nat) :
    100000 * (placeEstimate log + 1) ≤ ((log : Int) - 1074) * 30103 ∧
      ((log : Int) - 1074) * 30103 < 100000 * (placeEstimate log + 2) := by
  rw [placeEstimate, Int.fdiv_eq_ediv_of_nonneg _ (by decide)]
  omega

/-- The estimate is never too small by more than the reach of the search. -/
theorem lt_place_estimate {log : Nat} (h : log < 2099) :
    (2 : ℚ) ^ (log + 1) ≤ 10 ^ (placeEstimate log + 5) * unitsPerOne := by
  obtain ⟨hlower, hupper⟩ := placeEstimate_bounds log
  have hle : (2 : ℚ) ^ ((log : Int) - 1073) ≤ 10 ^ (placeEstimate log + 5) :=
    two_zpow_le_ten_zpow (by omega) (by omega)
  calc (2 : ℚ) ^ (log + 1) = 2 ^ ((log : Int) - 1073) * unitsPerOne := by
        rw [unitsPerOne_cast, ← zpow_add₀ two_ne_zero, ← zpow_natCast]
        congr 1
        omega
    _ ≤ 10 ^ (placeEstimate log + 5) * unitsPerOne :=
        mul_le_mul_of_nonneg_right hle (Nat.cast_nonneg _)

/-- The estimate is not too great. -/
theorem place_estimate_le {log : Nat} (h : log < 2099) :
    10 ^ (placeEstimate log - 1) * (unitsPerOne : ℚ) ≤ 2 ^ log := by
  obtain ⟨hlower, hupper⟩ := placeEstimate_bounds log
  have hinverse : (2 : ℚ) ^ (-((log : Int) - 1074)) ≤ 10 ^ (-(placeEstimate log - 1)) :=
    two_zpow_le_ten_zpow (by omega) (by omega)
  have hle : (10 : ℚ) ^ (placeEstimate log - 1) ≤ 2 ^ ((log : Int) - 1074) := by
    rw [zpow_neg, zpow_neg] at hinverse
    exact (inv_le_inv₀ (by positivity) (by positivity)).mp hinverse
  calc 10 ^ (placeEstimate log - 1) * (unitsPerOne : ℚ)
      ≤ 2 ^ ((log : Int) - 1074) * unitsPerOne :=
        mul_le_mul_of_nonneg_right hle (Nat.cast_nonneg _)
    _ = 2 ^ log := by
        rw [unitsPerOne_cast, ← zpow_add₀ two_ne_zero, ← zpow_natCast, Int.sub_add_cancel]

/-- The place of the first digit of a number is found. -/
theorem placeOf_spec (h : code ≤ infinityCode) :
    (units code : ℚ) < 10 ^ placeOf code * unitsPerOne ∧
      -325 ≤ placeOf code ∧ placeOf code ≤ 312 := by
  have hlog := log2_units_lt h
  have hlt : (units code : ℚ) < 2 ^ ((units code).log2 + 1) := by
    exact_mod_cast Nat.lt_log2_self (n := units code)
  have hreach : (units code : ℚ) <
      10 ^ (placeEstimate (units code).log2 + (5 : Nat)) * unitsPerOne :=
    hlt.trans_le (lt_place_estimate hlog)
  obtain ⟨hplace, hlower, hupper⟩ := placeFrom_spec hreach
  have hestimate := placeEstimate_bounds (units code).log2
  exact ⟨hplace, le_trans (by omega) hlower, hupper.trans (by omega)⟩

/-- Below its place a finite number has a digit. -/
theorem le_units_of_placeOf (hpos : 0 < code) (h : code < infinityCode) :
    (10 : ℚ) ^ (placeOf code - 1) * unitsPerOne ≤ units code := by
  have hunits : 0 < units code := (Nat.zero_le _).trans_lt (Binary64.units_strictMono hpos)
  rcases placeFrom_eq_or_le (units code) unitsPerOne (placeEstimate (units code).log2) 5 with
    hstart | hle
  · have hplace : placeOf code = placeEstimate (units code).log2 := hstart
    have hpower : ((2 ^ (units code).log2 : Nat) : ℚ) ≤ units code :=
      Nat.cast_le.mpr (Nat.log2_self_le hunits.ne')
    rw [Nat.cast_pow] at hpower
    rw [hplace]
    exact (place_estimate_le (log2_units_lt h.le)).trans hpower
  · exact hle

/-! ## Digits on a grid -/

/-- There are two half units in each unit. -/
theorem halfUnitsPerOne_eq : halfUnitsPerOne = 2 * unitsPerOne := by decide +kernel

theorem halfUnitsPerOne_pos : 0 < halfUnitsPerOne := by
  have hpos := Binary64.unitsPerOne_pos
  rw [halfUnitsPerOne_eq]
  omega

/-- A grid has steps of a power of ten. -/
theorem gridStep_spec (e : Int) : 0 < (gridStep e).1 ∧ 0 < (gridStep e).2 ∧
    ((gridStep e).1 : ℚ) = 10 ^ e * halfUnitsPerOne * (gridStep e).2 := by
  have hhalf := halfUnitsPerOne_pos
  cases e with
  | ofNat e =>
      have hstep : gridStep (.ofNat e) = (10 ^ e * halfUnitsPerOne, 1) := rfl
      rw [hstep]
      refine ⟨Nat.mul_pos (Nat.pow_pos (by decide)) hhalf, Nat.one_pos, ?_⟩
      rw [Int.ofNat_eq_natCast, zpow_natCast]
      push_cast
      ring
  | negSucc e =>
      have hstep : gridStep (.negSucc e) = (halfUnitsPerOne, 10 ^ (e + 1)) := rfl
      rw [hstep]
      dsimp only
      refine ⟨hhalf, Nat.pow_pos (by decide), ?_⟩
      have hpow : (10 : ℚ) ^ (e + 1) ≠ 0 := by positivity
      rw [zpow_negSucc]
      push_cast
      rw [mul_right_comm, inv_mul_cancel₀ hpow, one_mul]

/-- The digits on a grid are next to the number, and inside its interval. -/
theorem onGrid?_eq_some (h : onGrid? tie i e = some d) : d.exponent = e ∧ 0 < d.digits ∧
    d.digits ≤ i.middle * (gridStep e).2 / (gridStep e).1 + 1 ∧
    i.contains (d.digits * (gridStep e).1) (gridStep e).2 = true := by
  simp only [onGrid?] at h
  split at h
  case isTrue hlow =>
    obtain rfl := Option.some.inj h
    simp only [Bool.and_eq_true, bne_iff_ne] at hlow
    exact ⟨rfl, Nat.pos_of_ne_zero hlow.1.1, Nat.le_succ _, hlow.1.2⟩
  case isFalse =>
    obtain ⟨hhigh, h⟩ := Option.ite_none_right_eq_some.mp h
    obtain rfl := Option.some.inj h
    exact ⟨rfl, Nat.succ_pos _, le_rfl, hhigh⟩

/-- Digits on a grid denote no more than the end of the interval. -/
theorem value_le_of_onGrid? (h : onGrid? tie i e = some d) :
    d.value * halfUnitsPerOne ≤ i.high := by
  obtain ⟨rfl, -, -, hcontains⟩ := onGrid?_eq_some h
  obtain ⟨-, hdenominator, hstep⟩ := gridStep_spec d.exponent
  have hle : d.digits * (gridStep d.exponent).1 ≤ i.high * (gridStep d.exponent).2 := by
    unfold Interval.contains at hcontains
    split at hcontains
    all_goals
      simp only [Bool.and_eq_true, decide_eq_true_eq] at hcontains
      omega
  have hle : (d.digits : ℚ) * (gridStep d.exponent).1 ≤ i.high * (gridStep d.exponent).2 := by
    exact_mod_cast hle
  rw [hstep] at hle
  have hpos : (0 : ℚ) < (gridStep d.exponent).2 := Nat.cast_pos.mpr hdenominator
  refine le_of_mul_le_mul_right ?_ hpos
  calc d.value * halfUnitsPerOne * (gridStep d.exponent).2
      = d.digits * (10 ^ d.exponent * halfUnitsPerOne * (gridStep d.exponent).2) := by
        rw [Digits.value]
        ring
    _ ≤ i.high * (gridStep d.exponent).2 := hle

/-- A number with its first digit at a place has no more digits on a grid than lie between. -/
theorem digits_le_of_onGrid? {place : Int} {n : Nat} (h : onGrid? tie i (place - n) = some d)
    (hplace : (i.middle : ℚ) < 10 ^ place * halfUnitsPerOne) : d.digits ≤ 10 ^ n := by
  obtain ⟨-, -, hdigits, -⟩ := onGrid?_eq_some h
  obtain ⟨hpositive, hdenominator, hstep⟩ := gridStep_spec (place - n)
  have hsplit : (10 : ℚ) ^ place = 10 ^ n * 10 ^ (place - n) := by
    rw [← zpow_natCast, ← zpow_add₀ (by norm_num), add_sub_cancel]
  have hlt : i.middle * (gridStep (place - n)).2 < 10 ^ n * (gridStep (place - n)).1 := by
    have hpos : (0 : ℚ) < (gridStep (place - n)).2 := Nat.cast_pos.mpr hdenominator
    have hscaled := mul_lt_mul_of_pos_right hplace hpos
    rw [hsplit, mul_assoc, mul_assoc, ← mul_assoc (10 ^ (place - n) : ℚ), ← hstep] at hscaled
    exact_mod_cast hscaled
  exact hdigits.trans ((Nat.div_lt_iff_lt_mul hpositive).mpr hlt)

/-! ## Zeros at the end -/

/-- Dropping zeros keeps the number. -/
theorem dropZeros_go_spec (fuel : Nat) (d : Digits) :
    (Digits.dropZeros.go fuel d).value = d.value ∧
      (Digits.dropZeros.go fuel d).digits ≤ d.digits ∧
      (0 < d.digits → 0 < (Digits.dropZeros.go fuel d).digits) ∧
      d.exponent ≤ (Digits.dropZeros.go fuel d).exponent ∧
      (Digits.dropZeros.go fuel d).exponent ≤ d.exponent + fuel := by
  induction fuel generalizing d with
  | zero => simp [Digits.dropZeros.go]
  | succ fuel ih =>
      rw [Digits.dropZeros.go]
      split
      case isFalse => simp; omega
      case isTrue hzero =>
        simp only [Bool.and_eq_true, decide_eq_true_eq, bne_iff_ne] at hzero
        obtain ⟨hvalue, hdigits, hpositive, hlower, hupper⟩ := ih ⟨d.digits / 10, d.exponent + 1⟩
        have hten : d.digits = 10 * (d.digits / 10) := by omega
        refine ⟨?_, ?_, fun h => hpositive ?_, ?_, ?_⟩
        · rw [hvalue, Digits.value, Digits.value, zpow_add_one₀ (by norm_num)]
          nth_rewrite 2 [hten]
          push_cast
          ring
        · exact hdigits.trans (Nat.div_le_self _ _)
        · show 0 < d.digits / 10
          omega
        · exact le_trans (by simp) hlower
        · simp only at hupper
          omega

/-- Dropping enough zeros leaves none at the end. -/
theorem dropZeros_go_mod_ne_zero {fuel : Nat} {d : Digits} (hpos : 0 < d.digits)
    (hfuel : d.digits < 10 ^ fuel) : (Digits.dropZeros.go fuel d).digits % 10 ≠ 0 := by
  induction fuel generalizing d with
  | zero =>
      rw [Nat.pow_zero] at hfuel
      omega
  | succ fuel ih =>
      rw [Digits.dropZeros.go]
      split
      case isTrue hzero =>
        simp only [Bool.and_eq_true, decide_eq_true_eq] at hzero
        rw [Nat.pow_succ] at hfuel
        exact ih (d := ⟨d.digits / 10, d.exponent + 1⟩) (by simp only; omega) (by simp only; omega)
      case isFalse hlast =>
        simpa [hpos.ne'] using hlast

/-! ## Shortest digits -/

/-- The first grid with a neighbour in the interval is one of seventeen. -/
theorem exists_grid_of_firstGrid? {place : Int}
    (h : firstGrid? tie i ((List.range 17).map fun (n : Nat) => place - 1 - n) = some d) :
    ∃ n, n ≤ 17 ∧ onGrid? tie i (place - (n : Nat)) = some d := by
  obtain ⟨e, he, hgrid⟩ := List.exists_of_findSome?_eq_some h
  obtain ⟨n, hn, rfl⟩ := List.mem_map.mp he
  refine ⟨n + 1, List.mem_range.mp hn, ?_⟩
  rwa [Nat.cast_add_one, add_comm (n : Int), ← sub_sub]

/-- The shortest digits are those of some grid without the zeros at their end. -/
theorem shortest_cases (tie : Tie) (code : Nat) : shortest tie code = ⟨0, 0⟩ ∨
    ∃ n d, n ≤ 17 ∧ onGrid? tie (Interval.ofCode code) (placeOf code - (n : Nat)) = some d ∧
      shortest tie code = d.dropZeros := by
  unfold shortest
  extract_lets place i grids
  cases hfirst : firstGrid? tie i grids with
  | none => exact Or.inl rfl
  | some d =>
      obtain ⟨n, hn, hgrid⟩ := exists_grid_of_firstGrid? hfirst
      exact Or.inr ⟨n, d, hn, hgrid, rfl⟩

/-- The shortest digits are positive, unless there are none. -/
theorem shortest_eq_zero_or_pos (tie : Tie) (code : Nat) :
    shortest tie code = ⟨0, 0⟩ ∨ 0 < (shortest tie code).digits := by
  refine (shortest_cases tie code).imp_right ?_
  rintro ⟨n, d, -, hgrid, hshortest⟩
  rw [hshortest]
  exact (dropZeros_go_spec 20 d).2.2.1 (onGrid?_eq_some hgrid).2.1

/-- Digits on one of the grids for a finite number are few. -/
theorem digits_le_of_grid {n : Nat} (h : code < infinityCode)
    (hgrid : onGrid? tie (Interval.ofCode code) (placeOf code - (n : Nat)) = some d) :
    d.digits ≤ 10 ^ n := by
  refine digits_le_of_onGrid? hgrid ?_
  rw [halfUnitsPerOne_eq, Interval.ofCode]
  push_cast
  linarith [(placeOf_spec h.le).1]

/-- There are no more than seventeen digits, or a one with zeros. -/
theorem digits_shortest_le (h : code < infinityCode) :
    (shortest tie code).digits ≤ 10 ^ 17 := by
  rcases shortest_cases tie code with hzero | ⟨n, d, hn, hgrid, hshortest⟩
  · rw [hzero]
    exact Nat.zero_le _
  · rw [hshortest]
    exact ((dropZeros_go_spec 20 d).2.1.trans (digits_le_of_grid h hgrid)).trans
      (Nat.pow_le_pow_right (by decide) hn)

/-- The exponent of the shortest digits is small. -/
theorem exponent_shortest_bounds (tie : Tie) (h : code < infinityCode) :
    -342 ≤ (shortest tie code).exponent ∧ (shortest tie code).exponent ≤ 332 := by
  rcases shortest_cases tie code with hzero | ⟨n, d, hn, hgrid, hshortest⟩
  · rw [hzero]
    decide
  · obtain ⟨-, hlower, hupper⟩ := placeOf_spec h.le
    have hexponent := (onGrid?_eq_some hgrid).1
    obtain ⟨-, -, -, hgo, hgo'⟩ := dropZeros_go_spec 20 d
    rw [hshortest]
    show -342 ≤ (Digits.dropZeros.go 20 d).exponent ∧ (Digits.dropZeros.go 20 d).exponent ≤ 332
    omega

/-- The greatest finite number has seventeen digits, which denote no more than it. -/
theorem shortest_greatest : shortest .even (infinityCode - 1) = ⟨17976931348623157, 292⟩ ∧
    17976931348623157 * 10 ^ 292 * unitsPerOne ≤ units (infinityCode - 1) := by
  decide +kernel

/-- The shortest digits of a finite number denote no more than the greatest finite number. -/
theorem value_shortest_le (h : code < infinityCode) :
    (shortest .even code).value * unitsPerOne ≤ units (infinityCode - 1) := by
  rcases Nat.lt_or_ge (code + 1) infinityCode with hnext | hlast
  · rcases shortest_cases .even code with hzero | ⟨n, d, -, hgrid, hshortest⟩
    · rw [hzero, Digits.value, Nat.cast_zero, zero_mul, zero_mul]
      exact Nat.cast_nonneg _
    · -- The interval ends in the middle between two numbers that are not greater.
      have hvalue := value_le_of_onGrid? hgrid
      have hdrop : (shortest .even code).value = d.value := by
        rw [hshortest]
        exact (dropZeros_go_spec 20 d).1
      have hcode : (units code : ℚ) ≤ units (infinityCode - 1) :=
        Nat.cast_le.mpr (Binary64.units_strictMono.monotone (by omega))
      have hsucc : (units (code + 1) : ℚ) ≤ units (infinityCode - 1) :=
        Nat.cast_le.mpr (Binary64.units_strictMono.monotone (by omega))
      rw [halfUnitsPerOne_eq, Interval.ofCode] at hvalue
      push_cast at hvalue
      rw [hdrop]
      linarith
  · obtain rfl : code = infinityCode - 1 := by omega
    obtain ⟨hshortest, hle⟩ := shortest_greatest
    have hvalue : (Digits.mk 17976931348623157 292).value = _ := value_natCast _ 292
    rw [hshortest, hvalue, ← Nat.cast_mul]
    exact Nat.cast_le.mpr hle

end Flowchart.Decimal
