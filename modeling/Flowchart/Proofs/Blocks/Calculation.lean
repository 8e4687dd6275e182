import Flowchart.Blocks.Calculation
import Flowchart.Proofs.Binary64.Overflow
import Flowchart.Proofs.Variables.Numbers

/-!
# Results of calculations

A calculation on two numbers writes the exact result rounded once. The text is read as a number
again if and only if the exact result is below the bound of overflow
(`isSome_parseNumber_calculate_iff`); beyond it the text is that of an infinity, which is no number.

A calculation says that it kept its first operand after a division by zero, and where an operand of
another operation than addition is no number. Only in the second case the text is always that of the
operand. A division by zero writes the number anew, so that the text stays the same just if a number
is written like that (`kept_operand_unchanged_iff`).
-/

namespace Flowchart.Blocks

variable {operation : Operation} {a b : Binary64} {first second : String}

/-! ## Overflow -/

/-- The exact result of an operation on two numbers. There is none for a division by zero, nor for a
concatenation, which is no arithmetic. -/
def Operation.exact : Operation → ℚ → ℚ → Option ℚ
  | .add, a, b => some (a + b)
  | .subtract, a, b => some (a - b)
  | .multiply, a, b => some (a * b)
  | .divide, a, b => if b = 0 then none else some (a / b)
  | .concat, _, _ => none

/-- An operation overflows on two numbers if its exact result is too great for a finite number. -/
def Operation.Overflows (operation : Operation) (a b : Binary64) : Prop :=
  ∃ q, operation.exact a.toRat b.toRat = some q ∧ (Binary64.overflowBound : ℚ) ≤ |q|

/-- There is no overflow if the exact result is below the bound. -/
theorem Operation.not_overflows_iff {q : ℚ} (h : operation.exact a.toRat b.toRat = some q) :
    ¬ operation.Overflows a b ↔ |q| < Binary64.overflowBound := by
  rw [← not_le, not_iff_not]
  constructor
  · rintro ⟨r, hr, hle⟩
    rwa [Option.some.inj (h.symm.trans hr)]
  · exact fun hle => ⟨q, h, hle⟩

/-- There is no overflow without an exact result. -/
theorem Operation.not_overflows_of_none (h : operation.exact a.toRat b.toRat = none) :
    ¬ operation.Overflows a b := by
  rintro ⟨r, hr, -⟩
  exact Option.some_ne_none r (hr.symm.trans h)

/-- An arithmetic operation on finite numbers writes a number that is finite just if there is no
overflow. -/
theorem exists_compute_eq (h : operation ≠ .concat) (ha : a.isFinite = true) :
    ∃ x : Binary64, (compute operation a b).1 = formatNumber x ∧
      (x.isFinite = true ↔ ¬ operation.Overflows a b) := by
  cases operation with
  | add =>
      have hexact : Operation.add.exact a.toRat b.toRat = some (a.toRat + b.toRat) := rfl
      refine ⟨a.add b, rfl, ?_⟩
      exact (Binary64.isFinite_add_iff a b).trans (Operation.not_overflows_iff hexact).symm
  | subtract =>
      have hexact : Operation.subtract.exact a.toRat b.toRat = some (a.toRat - b.toRat) := rfl
      refine ⟨a.subtract b, rfl, ?_⟩
      exact (Binary64.isFinite_subtract_iff a b).trans (Operation.not_overflows_iff hexact).symm
  | multiply =>
      have hexact : Operation.multiply.exact a.toRat b.toRat = some (a.toRat * b.toRat) := rfl
      refine ⟨a.multiply b, rfl, ?_⟩
      exact (Binary64.isFinite_multiply_iff a b).trans (Operation.not_overflows_iff hexact).symm
  | divide =>
      cases hzero : b.isZero with
      | true =>
          have hexact : Operation.divide.exact a.toRat b.toRat = none :=
            if_pos (Binary64.toRat_eq_zero_iff.mpr hzero)
          refine ⟨a, by simp [compute, hzero], ?_⟩
          exact iff_of_true ha (Operation.not_overflows_of_none hexact)
      | false =>
          have hne : b.toRat ≠ 0 := fun h => by simp [Binary64.toRat_eq_zero_iff.mp h] at hzero
          have hexact : Operation.divide.exact a.toRat b.toRat = some (a.toRat / b.toRat) :=
            if_neg hne
          refine ⟨a.divide b, by simp [compute, hzero], ?_⟩
          exact (Binary64.isFinite_divide_iff a hzero).trans
            (Operation.not_overflows_iff hexact).symm
  | concat => exact absurd rfl h

/-- A calculation on two numbers computes. -/
theorem calculate_of_numbers (h : operation ≠ .concat) (hfirst : parseNumber first = some a)
    (hsecond : parseNumber second = some b) :
    calculate operation first second = compute operation a b := by
  cases operation <;> first | exact absurd rfl h | simp [calculate, hfirst, hsecond]

/-- An arithmetic operation on two numbers gives a number again just if it does not overflow. -/
theorem isSome_parseNumber_calculate_iff (h : operation ≠ .concat)
    (hfirst : parseNumber first = some a) (hsecond : parseNumber second = some b) :
    (parseNumber (calculate operation first second).1).isSome = true ↔
      ¬ operation.Overflows a b := by
  obtain ⟨x, hresult, hfinite⟩ := exists_compute_eq (b := b) h (isFinite_of_parseNumber hfirst)
  rw [calculate_of_numbers h hfirst hsecond, hresult, isSome_parseNumber_formatNumber, hfinite]

/-- One divided by a number that is small enough is no number. -/
theorem divide_one_by_subnormal : (parseNumber "1").isSome = true ∧
    (parseNumber "1e-320").isSome = true ∧
    calculate .divide "1" "1e-320" = ("inf", none) ∧ parseNumber "inf" = none := by
  decide +kernel

/-! ## Notes -/

/-- A calculation on two numbers has nothing to note but a division by zero. -/
theorem compute_note (operation : Operation) (a b : Binary64) : (compute operation a b).2 =
    if operation = .divide ∧ b.isZero = true then some .divisionByZero else none := by
  cases operation with
  | divide => cases hzero : b.isZero <;> simp [compute, hzero]
  | _ => rfl

/-- What a calculation notes, and in which case. -/
theorem calculate_note_iff {note : CalculationNote} :
    (calculate operation first second).2 = some note ↔ match note with
      | .divisionByZero => operation = .divide ∧
          (parseNumber first).isSome = true ∧ ∃ b, parseNumber second = some b ∧ b.isZero = true
      | .joined => operation = .add ∧ (parseNumber first = none ∨ parseNumber second = none)
      | .firstKept => operation ≠ .add ∧ operation ≠ .concat ∧
          (parseNumber first = none ∨ parseNumber second = none) := by
  cases hfirst : parseNumber first with
  | none => cases note <;> cases operation <;> simp [calculate, hfirst]
  | some a =>
      cases hsecond : parseNumber second with
      | none => cases note <;> cases operation <;> simp [calculate, hfirst, hsecond]
      | some b =>
          by_cases hconcat : operation = .concat
          · subst hconcat
            cases note <;> simp [calculate]
          · rw [calculate_of_numbers hconcat hfirst hsecond, compute_note]
            cases note <;> simp

/-- Where an operand is no number, the first one is kept as it is. -/
theorem calculate_eq_first (h : (calculate operation first second).2 = some .firstKept) :
    (calculate operation first second).1 = first := by
  obtain ⟨hadd, hconcat, hnone⟩ := calculate_note_iff.mp h
  rcases hnone with hnone | hnone
  · cases operation <;> simp_all [calculate]
  · cases hfirst : parseNumber first <;> cases operation <;> simp_all [calculate]

/-- After a division by zero the first operand is written anew. -/
theorem exists_calculate_eq (h : (calculate operation first second).2 = some .divisionByZero) :
    ∃ a, parseNumber first = some a ∧ (calculate operation first second).1 = formatNumber a := by
  obtain ⟨rfl, hfirst, b, hsecond, hzero⟩ := calculate_note_iff.mp h
  obtain ⟨a, hfirst⟩ := Option.isSome_iff_exists.mp hfirst
  refine ⟨a, hfirst, ?_⟩
  rw [calculate_of_numbers (by decide) hfirst hsecond, compute, if_pos hzero]

/-- A number that is written anew has the same text just if it was written like that before. -/
theorem formatNumber_eq_iff_of_parseNumber (h : parseNumber first = some a) :
    formatNumber a = first ↔ ∃ x : Binary64, x.isFinite = true ∧ formatNumber x = first := by
  constructor
  · exact fun hsame => ⟨a, isFinite_of_parseNumber h, hsame⟩
  · rintro ⟨x, hx, rfl⟩
    rw [parseNumber_formatNumber hx] at h
    obtain rfl := Option.some.inj h
    split
    case isTrue hzero => rw [formatNumber_of_isZero hzero, formatNumber_of_isZero rfl]
    case isFalse => rfl

/-- A calculation says that the first operand was kept for a division by zero, of either sign, and
for an operand that is no number in a subtraction, a multiplication or a division. In the second
case the result is the text of the operand. In the first case it is a text of the same number, but
the text of the operand just if that is how a number is written. -/
theorem kept_operand_unchanged_iff (operation : Operation) (first second : String) :
    ((calculate operation first second).2 = some .firstKept ↔
      operation ≠ .add ∧ operation ≠ .concat ∧
        (parseNumber first = none ∨ parseNumber second = none)) ∧
    ((calculate operation first second).2 = some .divisionByZero ↔ operation = .divide ∧
      (parseNumber first).isSome = true ∧ ∃ b, parseNumber second = some b ∧ b.isZero = true) ∧
    ((calculate operation first second).2 = some .firstKept →
      (calculate operation first second).1 = first) ∧
    ((calculate operation first second).2 = some .divisionByZero →
      (∃ a, parseNumber first = some a ∧
        parseNumber (calculate operation first second).1 =
          some (if a.isZero then .zero else a)) ∧
      ((calculate operation first second).1 = first ↔
        ∃ x : Binary64, x.isFinite = true ∧ formatNumber x = first)) := by
  refine ⟨calculate_note_iff, calculate_note_iff, calculate_eq_first, fun h => ?_⟩
  obtain ⟨a, hfirst, hresult⟩ := exists_calculate_eq h
  rw [hresult]
  refine ⟨⟨a, hfirst, ?_⟩, formatNumber_eq_iff_of_parseNumber hfirst⟩
  exact parseNumber_formatNumber (isFinite_of_parseNumber hfirst)

/-- A division by zero does not keep zeros before a number. -/
theorem divide_padded_by_zero :
    calculate .divide "007" "0" = ("7", some .divisionByZero) := by
  decide +kernel

end Flowchart.Blocks
