import Mathlib.Order.Monotone.Basic
import Mathlib.Tactic.Ring
import Flowchart.Binary64.Basic

/-!
# Rounding to binary64 numbers

A number of units that a code stands for is rounded to that code (`roundCode_units`). The natural
numbers below `2 ^ 53` all have such a code (`exists_units_eq`), so that they are kept exactly. Any
number is compared with them by its whole part (`less_floor`).

Rounding keeps the order. The code of a number of units rounded down is the greatest one with no
more units (`units_floorCode_le`, `lt_units_floorCode_succ`), and a greater fraction is rounded to
no smaller code (`roundCode_mono`). So a finite number stays finite if it is divided by one or more
(`isFinite_divide`), and a product is finite if one with greater factors is (`isFinite_multiply`). A
fraction is rounded to a code if it lies between the midpoints on both sides of it (`roundCode_eq`).
-/

namespace Flowchart.Binary64

variable {code a b n d n' d' : Nat} {x y : Binary64}

/-! ## Codes and units -/

/-- Small codes stand for themselves. -/
theorem units_of_lt (h : code < fractionCount) : units code = code := if_pos h

/-- The units of a code with an exponent and a fraction. -/
theorem units_of_parts (exponent : Nat) {fraction : Nat} (h : fraction < fractionCount) :
    units ((exponent + 1) * fractionCount + fraction) =
      (fractionCount + fraction) * 2 ^ exponent := by
  have hdiv : ((exponent + 1) * fractionCount + fraction) / fractionCount = exponent + 1 := by
    rw [Nat.add_comm, Nat.add_mul_div_right _ _ (by decide), Nat.div_eq_of_lt h, Nat.zero_add]
  have hmod : ((exponent + 1) * fractionCount + fraction) % fractionCount = fraction := by
    rw [Nat.add_comm, Nat.add_mul_mod_self_right, Nat.mod_eq_of_lt h]
  have hle : fractionCount ≤ (exponent + 1) * fractionCount + fraction :=
    (Nat.le_mul_of_pos_left _ exponent.succ_pos).trans (Nat.le_add_right _ _)
  rw [units, if_neg (Nat.not_lt.mpr hle), hdiv, hmod, Nat.add_sub_cancel]
  rfl

/-- The same with a fraction that is carried to the next exponent. -/
theorem units_of_parts_le (exponent : Nat) {fraction : Nat} (h : fraction ≤ fractionCount) :
    units ((exponent + 1) * fractionCount + fraction) =
      (fractionCount + fraction) * 2 ^ exponent := by
  rcases h.lt_or_eq with hlt | rfl
  · exact units_of_parts exponent hlt
  · have hcode : (exponent + 1) * fractionCount + fractionCount =
        (exponent + 1 + 1) * fractionCount + 0 := by ring
    rw [hcode, units_of_parts (exponent + 1) (by decide), Nat.pow_succ]
    ring

/-- A code is small, or has an exponent and a fraction. -/
theorem lt_or_exists_parts (code : Nat) : code < fractionCount ∨ ∃ exponent fraction,
    fraction < fractionCount ∧ code = (exponent + 1) * fractionCount + fraction := by
  rcases Nat.lt_or_ge code fractionCount with hlt | hle
  · exact Or.inl hlt
  · refine Or.inr ⟨code / fractionCount - 1, code % fractionCount, Nat.mod_lt _ (by decide), ?_⟩
    rw [Nat.sub_add_cancel ((Nat.one_le_div_iff (by decide)).mpr hle), Nat.div_add_mod']

/-- Units with an exponent have as many binary digits as the fraction and the exponent give. -/
theorem pow_parts_bounds (exponent : Nat) {fraction : Nat} (h : fraction < fractionCount) :
    2 ^ (52 + exponent) ≤ (fractionCount + fraction) * 2 ^ exponent ∧
      (fractionCount + fraction) * 2 ^ exponent < 2 ^ (52 + exponent + 1) := by
  constructor
  · rw [Nat.pow_add]
    exact Nat.mul_le_mul_right _ (Nat.le_add_right fractionCount _)
  · rw [show 52 + exponent + 1 = 53 + exponent by omega, Nat.pow_add]
    refine Nat.mul_lt_mul_of_pos_right ?_ (Nat.two_pow_pos exponent)
    unfold fractionCount at h ⊢
    omega

theorem log2_parts (exponent : Nat) {fraction : Nat} (h : fraction < fractionCount) :
    Nat.log2 ((fractionCount + fraction) * 2 ^ exponent) = 52 + exponent := by
  have hbounds := pow_parts_bounds exponent h
  exact (Nat.log2_eq_iff (by have := Nat.two_pow_pos (52 + exponent); omega)).mpr hbounds

/-- Finite numbers, and what infinity counts as, have small binary logarithms. -/
theorem log2_units_lt (h : code ≤ infinityCode) : (units code).log2 < 2099 := by
  rcases lt_or_exists_parts code with hlt | ⟨exponent, fraction, hfraction, rfl⟩
  · rw [units_of_lt hlt]
    rcases Nat.eq_zero_or_pos code with rfl | hpos
    · decide
    · have hlog : code.log2 < 52 := (Nat.log2_lt hpos.ne').mpr hlt
      omega
  · rw [units_of_parts exponent hfraction, log2_parts exponent hfraction]
    unfold fractionCount infinityCode at h
    omega

/-- The greatest code for a number of units that a code stands for is that code. -/
theorem floorCode_units (h : code < infinityCode) : floorCode (units code) = code := by
  rcases lt_or_exists_parts code with hlt | ⟨exponent, fraction, hfraction, rfl⟩
  · rw [units_of_lt hlt, floorCode, if_pos (by omega)]
  · have hlog := log2_parts exponent hfraction
    rw [units_of_parts exponent hfraction, floorCode]
    split
    case isTrue hsmall =>
      -- Only the least exponent leaves the units below the second power.
      obtain rfl : exponent = 0 := by
        by_contra hne
        have hpow : 2 ^ 53 ≤ 2 ^ (52 + exponent) := Nat.pow_le_pow_right (by decide) (by omega)
        have := hpow.trans (pow_parts_bounds exponent hfraction).1
        unfold fractionCount at hsmall this
        omega
      omega
    case isFalse =>
      have hquotient : (fractionCount + fraction) * 2 ^ exponent / Nat.pow 2 exponent =
          fractionCount + fraction := Nat.mul_div_cancel _ (Nat.two_pow_pos exponent)
      simp only [hlog, Nat.add_sub_cancel_left, hquotient]
      have hcode : fractionCount + fraction + exponent * fractionCount =
          (exponent + 1) * fractionCount + fraction := by ring
      rw [hcode, Nat.min_eq_right (Nat.le_of_lt h)]

/-- Codes up to the first exponent stand for themselves. -/
theorem units_of_le (h : code ≤ 2 * fractionCount) : units code = code := by
  rcases Nat.lt_or_ge code fractionCount with hlt | hge
  · exact units_of_lt hlt
  · obtain ⟨fraction, rfl⟩ := Nat.exists_eq_add_of_le hge
    have hunits := units_of_parts_le 0 (show fraction ≤ fractionCount by omega)
    rwa [Nat.zero_add, Nat.one_mul, Nat.pow_zero, Nat.mul_one] at hunits

/-- The next code stands for more units. -/
theorem units_lt_units_succ (code : Nat) : units code < units (code + 1) := by
  rcases lt_or_exists_parts code with hlt | ⟨exponent, fraction, hfraction, rfl⟩
  · rw [units_of_lt hlt, units_of_le (by omega)]
    exact Nat.lt_succ_self code
  · rw [Nat.add_assoc, units_of_parts exponent hfraction, units_of_parts_le exponent hfraction]
    exact Nat.mul_lt_mul_of_pos_right (by omega) (Nat.two_pow_pos exponent)

/-- What a code stands for is rounded to that code. -/
theorem roundCode_units (h : code < infinityCode) : roundCode (units code) 1 = code := by
  have hnext := units_lt_units_succ code
  simp only [roundCode, Nat.div_one, floorCode_units h, Nat.mul_one]
  rw [if_neg (Nat.not_le.mpr h), if_pos (by omega)]

/-! ## Natural numbers -/

/-- The number of units in one is a power of two. -/
theorem unitsPerOne_eq : unitsPerOne = 2 ^ 1074 := by decide +kernel

/-- One holds some units. -/
theorem unitsPerOne_pos : 0 < unitsPerOne := by
  have hpow : ∀ n, 0 < Nat.pow 2 n := Nat.two_pow_pos
  unfold unitsPerOne
  exact hpow 1074

/-- A natural number below `2 ^ 53` is what some code stands for. -/
theorem exists_units_eq (h : n < 2 ^ 53) :
    ∃ code, code < infinityCode ∧ units code = n * unitsPerOne := by
  rcases Nat.eq_zero_or_pos n with rfl | hpos
  · exact ⟨0, by decide, by rw [Nat.zero_mul]; rfl⟩
  · -- The digits of the number are moved up until they fill the fraction.
    obtain ⟨hlower, hupper⟩ := (Nat.log2_eq_iff hpos.ne').mp rfl
    have hlog : n.log2 ≤ 52 := Nat.lt_succ_iff.mp ((Nat.log2_lt hpos.ne').mpr h)
    generalize n.log2 = log at hlower hupper hlog
    have hdigits : fractionCount ≤ n * 2 ^ (52 - log) := by
      have := Nat.mul_le_mul_right (2 ^ (52 - log)) hlower
      rwa [← Nat.pow_add, Nat.add_sub_cancel' hlog] at this
    have hfraction : n * 2 ^ (52 - log) < 2 * fractionCount := by
      have := Nat.mul_lt_mul_of_pos_right hupper (Nat.two_pow_pos (52 - log))
      rwa [← Nat.pow_add, show log + 1 + (52 - log) = 53 by omega] at this
    refine ⟨(1022 + log + 1) * fractionCount + (n * 2 ^ (52 - log) - fractionCount), ?_, ?_⟩
    · unfold infinityCode
      unfold fractionCount at hfraction hdigits ⊢
      omega
    · have hpow : 2 ^ (52 - log) * 2 ^ (1022 + log) = unitsPerOne := by
        rw [← Nat.pow_add, unitsPerOne_eq]
        congr 1
        omega
      rw [units_of_parts _ (by omega), Nat.add_sub_cancel' hdigits, Nat.mul_assoc, hpow]

/-- A natural number below `2 ^ 53` is kept exactly. -/
theorem ofNat_spec (h : n < 2 ^ 53) :
    (ofNat n).negative = false ∧ (ofNat n).code < infinityCode ∧
      (ofNat n).magnitude = n * unitsPerOne := by
  obtain ⟨code, hcode, hunits⟩ := exists_units_eq h
  have hround : ofNat n = ofCode false code := by
    rw [ofNat, ← hunits, round, roundCode_units hcode]
  have hfin : (Fin.ofNat 0x8000000000000000 code).val = code :=
    Nat.mod_eq_of_lt (hcode.trans (by decide))
  rw [hround]
  refine ⟨rfl, ?_, ?_⟩
  · show (Fin.ofNat 0x8000000000000000 code).val < infinityCode
    rwa [hfin]
  · show units (Fin.ofNat 0x8000000000000000 code).val = n * unitsPerOne
    rw [hfin, hunits]

/-- A natural number below `2 ^ 53` is a finite number. -/
theorem isFinite_ofNat (h : n < 2 ^ 53) : (ofNat n).isFinite = true :=
  decide_eq_true (ofNat_spec h).2.1

/-- The value of a natural number below `2 ^ 53` in units. -/
theorem value_ofNat (h : n < 2 ^ 53) : (ofNat n).value = ((n * unitsPerOne : Nat) : Int) := by
  obtain ⟨hsign, _, hmagnitude⟩ := ofNat_spec h
  rw [value, hsign, hmagnitude]
  rfl

/-! ## Whole parts -/

/-- The greatest whole number that is at most a finite number. -/
def wholePart (x : Binary64) : Int := x.value / unitsPerOne

/-- The whole part is what rounding down to a whole number starts from. -/
theorem fdiv_unitsPerOne (x : Binary64) : x.value.fdiv unitsPerOne = x.wholePart :=
  Int.fdiv_eq_ediv_of_nonneg _ (Int.natCast_nonneg _)

/-- The whole part of a number below zero is at most zero as a number. -/
theorem value_floor_nonpos {x : Binary64} (h : x.wholePart < 0) : x.floor.value ≤ 0 := by
  have hneg : x.wholePart * unitsPerOne < 0 :=
    Int.mul_neg_of_neg_of_pos h (Int.natCast_pos.mpr unitsPerOne_pos)
  simp only [floor, fdiv_unitsPerOne, ofUnits]
  rw [if_neg hneg.ne, decide_eq_true hneg, value, round, ofCode]
  exact Int.neg_nonpos_of_nonneg (Int.natCast_nonneg _)

/-- A whole part below `2 ^ 53` that is not negative is kept exactly. -/
theorem value_floor {x : Binary64} (h : 0 ≤ x.wholePart) (hx : x.wholePart < 2 ^ 53) :
    x.floor.value = x.wholePart * unitsPerOne := by
  obtain ⟨n, hn⟩ := Int.eq_ofNat_of_zero_le h
  have hlt : n < 2 ^ 53 := by omega
  simp only [floor, fdiv_unitsPerOne, hn]
  rw [← Int.natCast_mul, ofUnits]
  split
  case isTrue hzero =>
    rw [hzero, value, magnitude, ofCode]
    simp [units, fractionCount]
  case isFalse =>
    rw [decide_eq_false (Int.not_lt.mpr (Int.natCast_nonneg _)), Int.natAbs_natCast]
    exact value_ofNat hlt

/-- A natural number is less than a number exactly if it is less than its whole part. -/
theorem less_floor {x : Binary64} (hn : n < 2 ^ 53) (hx : x.wholePart < 2 ^ 53) :
    (ofNat n).less x.floor = decide (n < x.wholePart.toNat) := by
  rw [less, value_ofNat hn]
  refine decide_eq_decide.mpr ?_
  rcases lt_or_ge x.wholePart 0 with hneg | hnonneg
  · have hvalue := value_floor_nonpos hneg
    omega
  · rw [value_floor hnonneg hx, Int.natCast_mul]
    have hunits : (0 : Int) < unitsPerOne := Int.natCast_pos.mpr unitsPerOne_pos
    rw [Int.mul_lt_mul_right hunits]
    omega

/-! ## The order of codes -/

/-- More code, more units. -/
theorem units_strictMono : StrictMono units := strictMono_nat_of_lt_succ units_lt_units_succ

/-- The next code has more units by some gap, and the one before has fewer by the same gap, unless
the code is the first with its exponent. -/
theorem exists_gap (h : 0 < code) : ∃ gap, units (code + 1) = units code + gap ∧
    units code < 2 * fractionCount * gap ∧
    (units (code - 1) + gap = units code ∨ units code = fractionCount * gap) := by
  rcases lt_or_exists_parts code with hlt | ⟨exponent, fraction, hfraction, rfl⟩
  · refine ⟨1, ?_, ?_, Or.inl ?_⟩
    · rw [units_of_lt hlt, units_of_le (by omega)]
    · rw [units_of_lt hlt]
      omega
    · rw [units_of_lt hlt, units_of_lt (by omega)]
      omega
  · refine ⟨2 ^ exponent, ?_, ?_, ?_⟩
    · rw [Nat.add_assoc, units_of_parts_le exponent (Nat.succ_le_of_lt hfraction),
        units_of_parts exponent hfraction, Nat.succ_eq_add_one]
      ring
    · rw [units_of_parts exponent hfraction]
      exact Nat.mul_lt_mul_of_pos_right (by omega) (Nat.two_pow_pos exponent)
    · rw [units_of_parts exponent hfraction]
      rcases Nat.eq_zero_or_pos fraction with rfl | hpos
      · exact Or.inr rfl
      · obtain ⟨before, rfl⟩ := Nat.exists_eq_add_one.mpr hpos
        refine Or.inl ?_
        rw [← Nat.add_assoc, Nat.add_sub_cancel, units_of_parts exponent (by omega)]
        ring

/-! ## Rounding down -/

/-- A number of units too great for a small code is that of the exponent and the fraction that it
has without its last digits, and some units. -/
theorem exists_parts_of_le (h : 2 * fractionCount ≤ n) :
    ∃ exponent fraction, fraction < fractionCount ∧
      floorCode n = min infinityCode ((exponent + 1) * fractionCount + fraction) ∧
      (fractionCount + fraction) * 2 ^ exponent ≤ n ∧
      n < (fractionCount + fraction + 1) * 2 ^ exponent := by
  have hne : n ≠ 0 := by
    unfold fractionCount at h
    omega
  obtain ⟨hlower, hupper⟩ := (Nat.log2_eq_iff hne).mp rfl
  have hlog : 53 ≤ n.log2 := (Nat.le_log2 hne).mpr h
  obtain ⟨exponent, hexponent⟩ := Nat.exists_eq_add_of_le (show 52 ≤ n.log2 by omega)
  rw [hexponent] at hlower hupper
  have hpow : 0 < 2 ^ exponent := Nat.two_pow_pos exponent
  have hquotient : fractionCount ≤ n / 2 ^ exponent := by
    rw [Nat.le_div_iff_mul_le hpow]
    rwa [Nat.pow_add] at hlower
  have hquotient' : n / 2 ^ exponent < 2 * fractionCount := by
    rw [Nat.div_lt_iff_lt_mul hpow]
    rwa [show 52 + exponent + 1 = 53 + exponent by omega, Nat.pow_add] at hupper
  obtain ⟨fraction, hfraction⟩ := Nat.exists_eq_add_of_le hquotient
  refine ⟨exponent, fraction, by omega, ?_, ?_, ?_⟩
  · simp only [floorCode, if_neg (Nat.not_lt.mpr h), hexponent, Nat.add_sub_cancel_left]
    show min infinityCode (n / 2 ^ exponent + exponent * fractionCount) = _
    rw [hfraction]
    congr 1
    ring
  · rw [← hfraction]
    exact Nat.div_mul_le_self n _
  · rw [← hfraction]
    exact Nat.lt_mul_of_div_lt (Nat.lt_succ_self _) hpow

/-- Rounding down does not go beyond infinity. -/
theorem floorCode_le_infinityCode (n : Nat) : floorCode n ≤ infinityCode := by
  unfold floorCode
  split
  case isTrue h =>
    unfold fractionCount at h
    unfold infinityCode
    omega
  case isFalse => exact Nat.min_le_left _ _

/-- A number of units is rounded down. -/
theorem units_floorCode_le (n : Nat) : units (floorCode n) ≤ n := by
  rcases Nat.lt_or_ge n (2 * fractionCount) with hlt | hle
  · have hcode : floorCode n = n := if_pos hlt
    rw [hcode, units_of_le hlt.le]
  · obtain ⟨exponent, fraction, hfraction, hcode, hlower, -⟩ := exists_parts_of_le hle
    refine (units_strictMono.monotone (hcode.trans_le (Nat.min_le_right _ _))).trans ?_
    rwa [units_of_parts exponent hfraction]

/-- No greater finite code has as few units. -/
theorem lt_units_floorCode_succ (h : floorCode n < infinityCode) :
    n < units (floorCode n + 1) := by
  rcases Nat.lt_or_ge n (2 * fractionCount) with hlt | hle
  · have hcode : floorCode n = n := if_pos hlt
    rw [hcode, units_of_le hlt]
    exact Nat.lt_succ_self n
  · obtain ⟨exponent, fraction, hfraction, hcode, -, hupper⟩ := exists_parts_of_le hle
    have hmin : floorCode n = (exponent + 1) * fractionCount + fraction := by omega
    rwa [hmin, Nat.add_assoc, units_of_parts_le exponent hfraction]

theorem floorCode_mono (h : a ≤ b) : floorCode a ≤ floorCode b := by
  by_contra hlt
  rw [Nat.not_le] at hlt
  have hfinite : floorCode b < infinityCode := hlt.trans_le (floorCode_le_infinityCode a)
  have hunits : units (floorCode b + 1) ≤ units (floorCode a) := units_strictMono.monotone hlt
  have := lt_units_floorCode_succ hfinite
  have := units_floorCode_le a
  omega

/-- The code below a number of units is the one with no more units of which the next has more. -/
theorem floorCode_eq (h : code < infinityCode) (hlower : units code ≤ n)
    (hupper : n < units (code + 1)) : floorCode n = code := by
  refine le_antisymm ?_ ?_
  · by_contra hlt
    have hmore : units (code + 1) ≤ units (floorCode n) :=
      units_strictMono.monotone (Nat.not_le.mp hlt)
    exact absurd (hmore.trans (units_floorCode_le n)) (Nat.not_le.mpr hupper)
  · have hmono := floorCode_mono hlower
    rwa [floorCode_units h] at hmono

/-! ## Rounding to the nearest -/

theorem roundCode_le_infinityCode (n d : Nat) : roundCode n d ≤ infinityCode := by
  simp only [roundCode]
  split_ifs <;> omega

/-- A fraction is rounded down or to the next code. -/
theorem floorCode_le_roundCode (n d : Nat) : floorCode (n / d) ≤ roundCode n d ∧
    (floorCode (n / d) < infinityCode → roundCode n d ≤ floorCode (n / d) + 1) := by
  have := floorCode_le_infinityCode (n / d)
  simp only [roundCode]
  split_ifs <;> omega

/-- A greater fraction is rounded to no smaller code. -/
theorem roundCode_mono (hd : 0 < d) (hd' : 0 < d') (h : n * d' ≤ n' * d) :
    roundCode n d ≤ roundCode n' d' := by
  have hquotient : n / d ≤ n' / d' := by
    rw [Nat.le_div_iff_mul_le hd']
    refine Nat.le_of_mul_le_mul_right ?_ hd
    calc n / d * d' * d = n / d * d * d' := Nat.mul_right_comm _ _ _
      _ ≤ n * d' := Nat.mul_le_mul_right _ (Nat.div_mul_le_self n d)
      _ ≤ n' * d := h
  obtain ⟨hlow, hhigh⟩ := floorCode_le_roundCode n d
  obtain ⟨hlow', -⟩ := floorCode_le_roundCode n' d'
  rcases (floorCode_mono hquotient).lt_or_eq with hlt | heq
  · have := hhigh (hlt.trans_le (floorCode_le_infinityCode _))
    omega
  · -- Both fractions lie between the same codes, and are compared with the same midpoint.
    simp only [roundCode, heq]
    generalize floorCode (n' / d') = low
    generalize units low + units (low + 1) = middle
    have hcross : 2 * n * d' ≤ 2 * n' * d := by
      rw [Nat.mul_assoc, Nat.mul_assoc]
      exact Nat.mul_le_mul_left 2 h
    have habove (hmiddle : middle * d < 2 * n) : middle * d' < 2 * n' := by
      refine Nat.lt_of_mul_lt_mul_right (a := d) ?_
      rw [Nat.mul_right_comm]
      exact (Nat.mul_lt_mul_of_pos_right hmiddle hd').trans_le hcross
    have hat (hmiddle : middle * d ≤ 2 * n) : middle * d' ≤ 2 * n' := by
      refine Nat.le_of_mul_le_mul_right ?_ hd
      rw [Nat.mul_right_comm]
      exact (Nat.mul_le_mul_right d' hmiddle).trans hcross
    split_ifs <;> omega

/-- A fraction between the midpoints on both sides of a code is rounded to the code, and so are the
midpoints of an even one. -/
theorem roundCode_eq (hpos : 0 < code) (hfinite : code < infinityCode) (hd : 0 < d)
    (hlow : (units (code - 1) + units code) * d ≤ 2 * n)
    (hhigh : 2 * n ≤ (units code + units (code + 1)) * d)
    (hodd : code % 2 = 1 → (units (code - 1) + units code) * d < 2 * n ∧
      2 * n < (units code + units (code + 1)) * d) : roundCode n d = code := by
  obtain ⟨before, rfl⟩ := Nat.exists_eq_add_one.mpr hpos
  rw [Nat.add_sub_cancel] at hlow hodd
  have hbelow := Nat.mul_lt_mul_of_pos_right (units_lt_units_succ before) hd
  have habove := Nat.mul_lt_mul_of_pos_right (units_lt_units_succ (before + 1)) hd
  rw [Nat.add_mul] at hlow hhigh hodd
  rw [Nat.add_mul] at hodd
  simp only [roundCode]
  rcases Nat.lt_or_ge n (units (before + 1) * d) with hlt | hge
  · -- The fraction is rounded down to the code before, and lies above the midpoint.
    have hfloor : floorCode (n / d) = before :=
      floorCode_eq (by omega) ((Nat.le_div_iff_mul_le hd).mpr (by omega))
        ((Nat.div_lt_iff_lt_mul hd).mpr hlt)
    rw [hfloor, Nat.add_mul, if_neg (by omega), if_neg (by omega)]
    split_ifs <;> omega
  · have hfloor : floorCode (n / d) = before + 1 :=
      floorCode_eq hfinite ((Nat.le_div_iff_mul_le hd).mpr hge)
        ((Nat.div_lt_iff_lt_mul hd).mpr (by omega))
    rw [hfloor, Nat.add_mul, if_neg (by omega)]
    split_ifs <;> omega

/-! ## Bits and values -/

/-- A number is made of its sign and its code. -/
theorem ofCode_code (x : Binary64) : ofCode x.negative x.code = x := by
  rw [ofCode, Fin.ofNat_val_eq_self]

/-- The pattern of the number with a pattern of 64 bits is that pattern. -/
theorem toBits_ofBits {bits : Nat} (h : bits < 2 ^ 64) : (ofBits bits).toBits = bits := by
  have hcode : bits % 0x8000000000000000 % 0x8000000000000000 = bits % 0x8000000000000000 :=
    Nat.mod_mod _ _
  simp only [toBits, ofBits, ofCode, Fin.val_ofNat, hcode, beq_iff_eq]
  split_ifs <;> omega

/-- No code but that of zero stands for no units. -/
theorem units_eq_zero_iff : units code = 0 ↔ code = 0 :=
  (units_strictMono.injective.eq_iff : units code = units 0 ↔ code = 0)

/-- The zeros are the numbers of no magnitude. -/
theorem magnitude_eq_zero_iff : x.magnitude = 0 ↔ x.isZero = true := by
  rw [magnitude, units_eq_zero_iff, isZero, decide_eq_true_iff, ← Fin.val_eq_zero_iff]

theorem value_eq_zero_iff : x.value = 0 ↔ x.isZero = true := by
  rw [← magnitude_eq_zero_iff, value]
  split_ifs <;> omega

/-- Numbers of one value are the same, or zeros. -/
theorem eq_of_value_eq (h : x.value = y.value) (hx : x.isZero = false) : x = y := by
  have hx : x.value ≠ 0 := fun hzero => by simp [value_eq_zero_iff.mp hzero] at hx
  have hsign : x.negative = y.negative := by
    unfold value at h hx
    split_ifs at h hx <;> first | omega | simp_all
  have hmagnitude : x.magnitude = y.magnitude := by
    unfold value at h
    split_ifs at h <;> omega
  rw [← ofCode_code x, ← ofCode_code y, hsign, units_strictMono.injective hmagnitude]

/-! ## Finite numbers -/

/-- A number is finite if and only if its code is below that of infinity. -/
theorem isFinite_iff : x.isFinite = true ↔ x.code < infinityCode := decide_eq_true_iff

/-- The code of a number that was rounded. -/
theorem code_round (negative : Bool) (n d : Nat) :
    ((round negative n d).code : Nat) = roundCode n d :=
  Nat.mod_eq_of_lt ((roundCode_le_infinityCode n d).trans_lt (by decide))

/-- A number that is not infinite after rounding is finite. -/
theorem isFinite_round {negative : Bool} (h : (round negative n d).isInfinite = false) :
    (round negative n d).isFinite = true := by
  have hle := roundCode_le_infinityCode n d
  have hne : ((round negative n d).code : Nat) ≠ infinityCode := of_decide_eq_false h
  rw [isFinite_iff]
  rw [code_round] at hne ⊢
  omega

/-- A finite number divided by one or more is finite. -/
theorem isFinite_divide (hx : x.isFinite = true) (hy : unitsPerOne ≤ y.magnitude) :
    (x.divide y).isFinite = true := by
  rw [isFinite_iff] at hx ⊢
  have hcode : roundCode x.magnitude 1 = x.code := roundCode_units hx
  have hle : roundCode (x.magnitude * unitsPerOne) y.magnitude ≤ roundCode x.magnitude 1 := by
    refine roundCode_mono (unitsPerOne_pos.trans_le hy) Nat.one_pos ?_
    rw [Nat.mul_one]
    exact Nat.mul_le_mul_left _ hy
  rw [divide, code_round]
  exact (hle.trans_eq hcode).trans_lt hx

/-- A product is finite if one with greater factors is. -/
theorem isFinite_multiply {z w : Binary64} (hx : x.magnitude ≤ z.magnitude)
    (hy : y.magnitude ≤ w.magnitude) (hz : (z.multiply w).isFinite = true) :
    (x.multiply y).isFinite = true := by
  rw [isFinite_iff, multiply, code_round] at hz ⊢
  refine (roundCode_mono unitsPerOne_pos unitsPerOne_pos ?_).trans_lt hz
  exact Nat.mul_le_mul_right _ (Nat.mul_le_mul hx hy)

/-- A greater natural number has no smaller code. -/
theorem code_ofNat_mono (h : a ≤ b) : ((ofNat a).code : Nat) ≤ (ofNat b).code := by
  rw [ofNat, ofNat, code_round, code_round]
  refine roundCode_mono Nat.one_pos Nat.one_pos ?_
  rw [Nat.mul_one, Nat.mul_one]
  exact Nat.mul_le_mul_right _ h

theorem magnitude_ofNat_mono (h : a ≤ b) : (ofNat a).magnitude ≤ (ofNat b).magnitude :=
  units_strictMono.monotone (code_ofNat_mono h)

end Flowchart.Binary64
