import Flowchart.Decimal.Read
import Flowchart.Proofs.Decimal.Shortest

/-!
# Rounding intervals

The decimal values in the rounding interval of a code are those that are read as the number with
that code (`toBinary64_of_holds`): between the midpoints on both sides a fraction is rounded to the
code, and no value in an interval is so great or so small that the place of its first digit decides.

The shortest digits of a finite number lie in its interval (`holds_shortest`), because the finest of
the grids that are tried always has a neighbour of the number in it (`exists_finest_grid`): its
steps are so small that one of the two neighbours is within half a gap. There is no zero at the end
of the digits (`shortest_mod_ne_zero`).
-/

namespace Flowchart.Decimal

open Binary64 (units unitsPerOne infinityCode)

variable {tie : Tie} {i : Interval} {d : Digits} {code : Nat} {e : Int}

/-! ## Membership -/

/-- A number of half units lies in an interval. -/
def Interval.Holds (i : Interval) (q : ℚ) : Prop :=
  if i.closed then i.low ≤ q ∧ q ≤ i.high else i.low < q ∧ q < i.high

theorem Interval.contains_iff {numerator denominator : Nat} (hpos : 0 < denominator) :
    i.contains numerator denominator = true ↔ i.Holds (numerator / denominator) := by
  have hpos' : (0 : ℚ) < denominator := Nat.cast_pos.mpr hpos
  unfold contains Holds
  split
  all_goals
    simp only [Bool.and_eq_true, decide_eq_true_eq, le_div_iff₀ hpos', div_le_iff₀ hpos',
      lt_div_iff₀ hpos', div_lt_iff₀ hpos']
    exact_mod_cast Iff.rfl

/-- Digits are in an interval on their grid if the number that they denote is. -/
theorem contains_gridStep_iff (d : Digits) :
    i.contains (d.digits * (gridStep d.exponent).1) (gridStep d.exponent).2 = true ↔
      i.Holds (d.value * halfUnitsPerOne) := by
  obtain ⟨-, hdenominator, hstep⟩ := gridStep_spec d.exponent
  have hne : ((gridStep d.exponent).2 : ℚ) ≠ 0 := Nat.cast_ne_zero.mpr hdenominator.ne'
  rw [Interval.contains_iff hdenominator]
  have hvalue : ((d.digits * (gridStep d.exponent).1 : Nat) : ℚ) / (gridStep d.exponent).2 =
      d.value * halfUnitsPerOne := by
    rw [div_eq_iff hne, Nat.cast_mul, hstep, Digits.value]
    ring
  rw [hvalue]

/-! ## Neighbours on a grid -/

/-- A grid is tried with success if one of the neighbours of the number is in the interval. -/
theorem exists_onGrid?_eq_some {below : Nat}
    (hbelow : i.middle * (gridStep e).2 / (gridStep e).1 = below) (hpos : 0 < below)
    (h : i.Holds ((Digits.mk below e).value * halfUnitsPerOne) ∨
      i.Holds ((Digits.mk (below + 1) e).value * halfUnitsPerOne)) :
    ∃ d, onGrid? tie i e = some d := by
  have hlow := contains_gridStep_iff (i := i) ⟨below, e⟩
  have hhigh := contains_gridStep_iff (i := i) ⟨below + 1, e⟩
  rw [← hlow, ← hhigh] at h
  simp only [onGrid?, hbelow]
  split_ifs with hfirst hsecond
  · exact ⟨_, rfl⟩
  · exact ⟨_, rfl⟩
  · rcases h with h | h
    · simp [h, hpos.ne', hsecond] at hfirst
    · exact absurd h hsecond

/-- On a grid that is fine enough, one of the neighbours of a number is in its interval. -/
theorem holds_neighbour {below : Nat} {step : ℚ} (hpos : 0 < code)
    (hfine : step * 10 ^ 16 ≤ (Interval.ofCode code).middle)
    (hlower : below * step ≤ (Interval.ofCode code).middle)
    (hupper : (Interval.ofCode code).middle < (below + 1) * step) :
    (Interval.ofCode code).Holds (below * step) ∨
      (Interval.ofCode code).Holds ((below + 1) * step) := by
  have hstrict {q : ℚ} (hlow : (Interval.ofCode code).low < q)
      (hhigh : q < (Interval.ofCode code).high) : (Interval.ofCode code).Holds q := by
    unfold Interval.Holds
    split
    exacts [⟨hlow.le, hhigh.le⟩, ⟨hlow, hhigh⟩]
  obtain ⟨gap, hnext, hsize, hbefore⟩ := Binary64.exists_gap hpos
  have hnext : (units (code + 1) : ℚ) = units code + gap := by exact_mod_cast hnext
  have hsize : (units code : ℚ) < 2 * 2 ^ 52 * gap := by exact_mod_cast hsize
  have hmiddle : ((Interval.ofCode code).middle : ℚ) = 2 * units code := by
    simp [Interval.ofCode]
  have hhigh : ((Interval.ofCode code).high : ℚ) = units code + units (code + 1) := by
    simp [Interval.ofCode]
  have hlow : ((Interval.ofCode code).low : ℚ) = units (code - 1) + units code := by
    simp [Interval.ofCode]
  have hbelow : (units (code - 1) : ℚ) < units code :=
    Nat.cast_lt.mpr (Binary64.units_strictMono (by omega))
  rw [hmiddle] at hfine hlower hupper
  rcases hbefore with hbefore | hfirst
  · have hbefore : (units (code - 1) : ℚ) + gap = units code := by exact_mod_cast hbefore
    rcases lt_or_ge (2 * (units code : ℚ) - below * step) gap with hnear | hfar
    · refine Or.inl (hstrict ?_ ?_) <;> linarith
    · refine Or.inr (hstrict ?_ ?_) <;> linarith
  · -- The gap below is narrower here, but the number above is near enough.
    have hfirst : (units code : ℚ) = 2 ^ 52 * gap := by exact_mod_cast hfirst
    refine Or.inr (hstrict ?_ ?_) <;> linarith

/-- The finest grid has a neighbour of the number in its interval. -/
theorem exists_finest_grid (tie : Tie) (hpos : 0 < code) (h : code < infinityCode) :
    ∃ d, onGrid? tie (Interval.ofCode code) (placeOf code - 17) = some d := by
  set e := placeOf code - 17 with he
  obtain ⟨hstepPos, hdenominator, hstep⟩ := gridStep_spec e
  have hdenominator' : (0 : ℚ) < (gridStep e).2 := Nat.cast_pos.mpr hdenominator
  set below := (Interval.ofCode code).middle * (gridStep e).2 / (gridStep e).1 with hbelow
  have hmiddle : ((Interval.ofCode code).middle : ℚ) = 2 * units code := by
    simp [Interval.ofCode]
  have hfine : (10 : ℚ) ^ e * halfUnitsPerOne * 10 ^ 16 ≤ (Interval.ofCode code).middle := by
    have hplace := le_units_of_placeOf hpos h
    have hsplit : (10 : ℚ) ^ (placeOf code - 1) = 10 ^ e * 10 ^ 16 := by
      rw [← zpow_natCast, ← zpow_add₀ (by norm_num), he]
      congr 1
      push_cast
      ring
    rw [hsplit] at hplace
    rw [hmiddle, halfUnitsPerOne_eq]
    push_cast
    linarith
  have hlower : below * (10 ^ e * halfUnitsPerOne) ≤ ((Interval.ofCode code).middle : ℚ) := by
    have hle : below * (gridStep e).1 ≤ (Interval.ofCode code).middle * (gridStep e).2 :=
      Nat.div_mul_le_self _ _
    have hle : (below : ℚ) * (gridStep e).1 ≤ (Interval.ofCode code).middle * (gridStep e).2 := by
      exact_mod_cast hle
    rw [hstep, ← mul_assoc] at hle
    exact le_of_mul_le_mul_right hle hdenominator'
  have hupper : ((Interval.ofCode code).middle : ℚ) < (below + 1) * (10 ^ e * halfUnitsPerOne) := by
    have hlt : (Interval.ofCode code).middle * (gridStep e).2 < (below + 1) * (gridStep e).1 :=
      Nat.lt_mul_of_div_lt (Nat.lt_succ_self _) hstepPos
    have hlt : ((Interval.ofCode code).middle : ℚ) * (gridStep e).2 <
        (below + 1) * (gridStep e).1 := by exact_mod_cast hlt
    rw [hstep, ← mul_assoc] at hlt
    exact lt_of_mul_lt_mul_right hlt hdenominator'.le
  have hbelowPos : 0 < below := by
    have hunits : 0 < units code := (Nat.zero_le _).trans_lt (Binary64.units_strictMono hpos)
    have hunits : (0 : ℚ) < units code := Nat.cast_pos.mpr hunits
    refine Nat.pos_of_ne_zero fun hzero => ?_
    rw [hzero] at hupper
    push_cast at hupper
    linarith
  refine exists_onGrid?_eq_some hbelow.symm hbelowPos ?_
  have hneighbour := holds_neighbour hpos hfine hlower hupper
  simpa only [Digits.value, mul_assoc, Nat.cast_add, Nat.cast_one] using hneighbour

/-! ## Shortest digits -/

/-- The shortest digits are those of a grid without the zeros at their end. -/
theorem exists_shortest_eq (tie : Tie) (hpos : 0 < code) (h : code < infinityCode) :
    ∃ n d, n ≤ 17 ∧ onGrid? tie (Interval.ofCode code) (placeOf code - (n : Nat)) = some d ∧
      shortest tie code = d.dropZeros := by
  unfold shortest
  extract_lets place i grids
  obtain ⟨finest, hfinest⟩ := exists_finest_grid tie hpos h
  have hmem : place - 1 - (16 : Nat) ∈ grids :=
    List.mem_map.mpr ⟨16, List.mem_range.mpr (by decide), rfl⟩
  have hplace : placeOf code - 17 = place - 1 - (16 : Nat) := by omega
  have hsome : (firstGrid? tie i grids).isSome = true :=
    List.findSome?_isSome_iff.mpr ⟨_, hmem, by rw [← hplace, hfinest]; rfl⟩
  obtain ⟨d, hfirst⟩ := Option.isSome_iff_exists.mp hsome
  obtain ⟨n, hn, hgrid⟩ := exists_grid_of_firstGrid? hfirst
  exact ⟨n, d, hn, hgrid, by rw [hfirst, Option.getD_some]⟩

/-- The shortest digits denote a number in the interval. -/
theorem holds_shortest (tie : Tie) (hpos : 0 < code) (h : code < infinityCode) :
    (Interval.ofCode code).Holds ((shortest tie code).value * halfUnitsPerOne) := by
  obtain ⟨n, d, -, hgrid, hshortest⟩ := exists_shortest_eq tie hpos h
  obtain ⟨hexponent, -, -, hcontains⟩ := onGrid?_eq_some hgrid
  rw [← hexponent, contains_gridStep_iff] at hcontains
  have hvalue : d.dropZeros.value = d.value := (dropZeros_go_spec 20 d).1
  rwa [hshortest, hvalue]

/-- The shortest digits do not end in a zero. -/
theorem shortest_mod_ne_zero (tie : Tie) (hpos : 0 < code) (h : code < infinityCode) :
    (shortest tie code).digits % 10 ≠ 0 := by
  obtain ⟨n, d, hn, hgrid, hshortest⟩ := exists_shortest_eq tie hpos h
  rw [hshortest]
  refine dropZeros_go_mod_ne_zero (onGrid?_eq_some hgrid).2.1 ?_
  exact (digits_le_of_grid h hgrid).trans_lt (Nat.pow_lt_pow_right (by decide) (by omega))

/-! ## Reading back -/

/-- A fraction in the interval of a code is rounded to that code. -/
theorem roundCode_of_contains {n denominator : Nat} (hpos : 0 < code) (h : code < infinityCode)
    (hdenominator : 0 < denominator)
    (hcontains : (Interval.ofCode code).contains (2 * n) denominator = true) :
    Binary64.roundCode n denominator = code := by
  unfold Interval.contains Interval.ofCode at hcontains
  split at hcontains
  case isTrue heven =>
    obtain ⟨hlow, hhigh⟩ := Bool.and_eq_true_iff.mp hcontains
    refine Binary64.roundCode_eq hpos h hdenominator (of_decide_eq_true hlow)
      (of_decide_eq_true hhigh) fun hodd => ?_
    have heven : code % 2 = 0 := of_decide_eq_true heven
    omega
  case isFalse =>
    obtain ⟨hlow, hhigh⟩ := Bool.and_eq_true_iff.mp hcontains
    have hlow := of_decide_eq_true hlow
    have hhigh := of_decide_eq_true hhigh
    exact Binary64.roundCode_eq hpos h hdenominator hlow.le hhigh.le fun _ => ⟨hlow, hhigh⟩

/-- A positive number has as many digits as it takes powers of ten to reach it. -/
theorem pow_digitCount_bounds {n : Nat} (h : 0 < n) :
    10 ^ (digitCount n - 1) ≤ n ∧ n < 10 ^ digitCount n := by
  rw [digitCount, if_neg h.ne']
  have hpos : 0 < (Nat.toDigits 10 n).length := List.length_pos_iff.mpr Nat.toDigits_ne_nil
  refine ⟨?_, (Nat.length_toDigits_le_iff (by decide) hpos).mp le_rfl⟩
  rcases Nat.eq_zero_or_pos ((Nat.toDigits 10 n).length - 1) with hzero | hmore
  · rw [hzero]
    exact h
  · refine Nat.not_lt.mp fun hlt => ?_
    have := (Nat.length_toDigits_le_iff (by decide) hmore).mpr hlt
    omega

/-- The number that a decimal value without its sign denotes. -/
def Value.magnitude (v : Value) : ℚ := v.digits * 10 ^ v.exponent

/-- A decimal value is between the powers of ten that the place of its first digit gives. -/
theorem Value.magnitude_bounds {v : Value} (hdigits : v.digits ≠ 0) :
    (10 : ℚ) ^ (digitCount v.digits + v.exponent - 1) ≤ v.magnitude ∧
      v.magnitude < 10 ^ (digitCount v.digits + v.exponent) := by
  obtain ⟨hfirst, hlast⟩ := pow_digitCount_bounds (Nat.pos_of_ne_zero hdigits)
  have hpower : (0 : ℚ) < 10 ^ v.exponent := by positivity
  have hcount : digitCount v.digits ≠ 0 := by
    intro hzero
    rw [hzero, Nat.pow_zero] at hlast
    omega
  constructor
  · calc (10 : ℚ) ^ (digitCount v.digits + v.exponent - 1)
        = 10 ^ (((digitCount v.digits - 1 : Nat) : Int) + v.exponent) := by
          congr 1
          omega
      _ = 10 ^ (digitCount v.digits - 1) * 10 ^ v.exponent := by
          rw [zpow_add₀ (by norm_num), zpow_natCast]
      _ ≤ v.magnitude := mul_le_mul_of_nonneg_right (by exact_mod_cast hfirst) hpower.le
  · calc v.magnitude < 10 ^ digitCount v.digits * 10 ^ v.exponent :=
          mul_lt_mul_of_pos_right (by exact_mod_cast hlast) hpower
      _ = 10 ^ (digitCount v.digits + v.exponent) := by
          rw [zpow_add₀ (by norm_num), zpow_natCast]

/-- The interval of a positive code lies between one half unit and twice what infinity counts as. -/
theorem Interval.ofCode_bounds (hpos : 0 < code) (h : code < infinityCode) :
    1 ≤ (Interval.ofCode code).low ∧ (Interval.ofCode code).high ≤ 2 * units infinityCode := by
  have hunits : 0 < units code := (Nat.zero_le _).trans_lt (Binary64.units_strictMono hpos)
  have hcode := Binary64.units_strictMono.monotone h.le
  have hnext : units (code + 1) ≤ units infinityCode :=
    Binary64.units_strictMono.monotone (Nat.succ_le_of_lt h)
  refine ⟨Nat.le_add_left_of_le hunits, ?_⟩
  simp only [Interval.ofCode]
  omega

/-- A number in the interval of a code is neither too small nor too great. -/
theorem bounds_of_holds {q : ℚ} (hpos : 0 < code) (h : code < infinityCode)
    (hholds : (Interval.ofCode code).Holds (q * halfUnitsPerOne)) :
    (10 : ℚ) ^ (-330 : Int) ≤ q ∧ q < 10 ^ (320 : Int) := by
  have hone : (0 : ℚ) < unitsPerOne := Nat.cast_pos.mpr Binary64.unitsPerOne_pos
  obtain ⟨hlower, hupper⟩ : 1 ≤ q * halfUnitsPerOne ∧
      q * halfUnitsPerOne ≤ 2 * units infinityCode := by
    obtain ⟨hlow, hhigh⟩ := Interval.ofCode_bounds hpos h
    have hlow : (1 : ℚ) ≤ (Interval.ofCode code).low := by exact_mod_cast hlow
    have hhigh : ((Interval.ofCode code).high : ℚ) ≤ 2 * units infinityCode := by
      exact_mod_cast hhigh
    unfold Interval.Holds at hholds
    split at hholds <;> exact ⟨by linarith, by linarith⟩
  have hhalf : (halfUnitsPerOne : ℚ) = 2 * unitsPerOne := by
    rw [halfUnitsPerOne_eq, Nat.cast_mul, Nat.cast_two]
  constructor
  · have hle : (halfUnitsPerOne : ℚ) ≤ 10 ^ (330 : Int) := calc
      (halfUnitsPerOne : ℚ) = 2 ^ (1 + 1074 : Int) := by
        rw [hhalf, unitsPerOne_cast, zpow_one_add₀ two_ne_zero]
      _ ≤ 10 ^ (330 : Int) := two_zpow_le_ten_zpow (by decide) (by decide)
    have hq : 0 < q := pos_of_mul_pos_left (one_pos.trans_le hlower) (Nat.cast_nonneg _)
    rw [zpow_neg, inv_le_iff_one_le_mul₀ (by positivity)]
    exact hlower.trans (mul_le_mul_of_nonneg_left hle hq.le)
  · obtain ⟨hplace, -, hle⟩ := placeOf_spec (le_refl infinityCode)
    have hpower : (10 : ℚ) ^ placeOf infinityCode ≤ 10 ^ (320 : Int) :=
      zpow_le_zpow_right₀ (by norm_num) (by omega)
    have hless := hplace.trans_le (mul_le_mul_of_nonneg_right hpower hone.le)
    rw [hhalf] at hupper
    exact lt_of_mul_lt_mul_right (by linarith) hone.le

/-- A decimal value in the interval of a code is neither too great nor too small to be read. -/
theorem top_bounds {v : Value} (hpos : 0 < code) (h : code < infinityCode)
    (hholds : (Interval.ofCode code).Holds (v.magnitude * halfUnitsPerOne)) :
    v.digits ≠ 0 ∧ -330 ≤ (digitCount v.digits : Int) + v.exponent ∧
      (digitCount v.digits : Int) + v.exponent ≤ 320 := by
  obtain ⟨hlower, hupper⟩ := bounds_of_holds hpos h hholds
  have hdigits : v.digits ≠ 0 := by
    intro hzero
    rw [Value.magnitude, hzero, Nat.cast_zero, zero_mul] at hlower
    exact absurd hlower (not_le.mpr (by positivity))
  obtain ⟨hfirst, hlast⟩ := Value.magnitude_bounds hdigits
  have hfew := (zpow_lt_zpow_iff_right₀ (by norm_num)).mp (hlower.trans_lt hlast)
  have hmany := (zpow_lt_zpow_iff_right₀ (by norm_num)).mp (hfirst.trans_lt hupper)
  exact ⟨hdigits, hfew.le, by omega⟩

/-- A decimal value in the interval of a code is read as the number with that code. -/
theorem toBinary64_of_holds {v : Value} (hpos : 0 < code) (h : code < infinityCode)
    (hholds : (Interval.ofCode code).Holds (v.magnitude * halfUnitsPerOne)) :
    v.toBinary64 = .ofCode v.negative code := by
  obtain ⟨negative, digits, exponent⟩ := v
  obtain ⟨hdigits, hlower, hupper⟩ := top_bounds hpos h hholds
  have hcontains := (contains_gridStep_iff ⟨digits, exponent⟩).mpr hholds
  simp only [Value.toBinary64]
  simp only at hdigits hlower hupper
  rw [if_neg (by simp; omega), if_neg (by omega)]
  cases exponent with
  | ofNat e =>
      have hstep : gridStep (.ofNat e) = (10 ^ e * halfUnitsPerOne, 1) := rfl
      have hdouble : digits * (10 ^ e * halfUnitsPerOne) = 2 * (digits * 10 ^ e * unitsPerOne) := by
        rw [halfUnitsPerOne_eq]
        ring
      simp only [hstep, hdouble] at hcontains
      exact congrArg (Binary64.ofCode negative) (roundCode_of_contains hpos h Nat.one_pos hcontains)
  | negSucc e =>
      have hstep : gridStep (.negSucc e) = (halfUnitsPerOne, 10 ^ (e + 1)) := rfl
      have hdouble : digits * halfUnitsPerOne = 2 * (digits * unitsPerOne) := by
        rw [halfUnitsPerOne_eq]
        ring
      simp only [hstep, hdouble] at hcontains
      exact congrArg (Binary64.ofCode negative)
        (roundCode_of_contains hpos h (Nat.pow_pos (by decide)) hcontains)

end Flowchart.Decimal
