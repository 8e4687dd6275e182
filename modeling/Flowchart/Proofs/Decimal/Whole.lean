import Mathlib.Data.List.TakeWhile
import Flowchart.Proofs.Binary64.Rounding
import Flowchart.Proofs.Text.Blank
import Flowchart.Variables.Store

/-!
# Decimal literals of whole numbers

The decimal digits of a natural number are read as that number (`read_digits`). As long as it is
below `2 ^ 53` they are also read as a number exactly, wherever a text may be one
(`parseNumber_toString`, `resolveNumber_toString`). As an index a text is read just if it consists
of decimal digits, with an optional plus sign before them, that denote a number below `2 ^ 64`
(`index?_eq_some_iff`); the decimal literal of such a number is one of these texts
(`index?_toDigits`).
-/

namespace Flowchart

namespace Decimal

/-- Digits denote the same number whichever way they are read. -/
theorem ofDigits_eq_ofDigitChars (cs : List Char) : ofDigits cs = Nat.ofDigitChars 10 cs 0 := by
  rw [ofDigits, Nat.ofDigitChars_eq_foldl]
  simp only [digitValue, Nat.mul_comm 10]
  rfl

/-- The digits of a natural number denote it. -/
theorem ofDigits_toDigits (n : Nat) : ofDigits (Nat.toDigits 10 n) = n := by
  rw [ofDigits_eq_ofDigitChars, Nat.ofDigitChars_ten_toDigits]

/-- The digits of a natural number are decimal digits. -/
theorem isDigit_of_mem_toDigits {n : Nat} {c : Char} (h : c ∈ Nat.toDigits 10 n) :
    c.isDigit = true :=
  Nat.isDigit_of_mem_toDigits (by decide) (by decide) h

/-- A positive number is written without a leading zero. -/
theorem head?_toDigits_ne_zero {n : Nat} (h : 0 < n) : (Nat.toDigits 10 n).head? ≠ some '0' := by
  induction n using Nat.strongRecOn with
  | ind n ih =>
      rw [Nat.toDigits_eq_if (by decide)]
      split
      case isTrue hlt =>
        have hdigit : ∀ m < 10, 0 < m → [Nat.digitChar m].head? ≠ some '0' := by decide
        exact hdigit n hlt h
      case isFalse hle =>
        rw [List.head?_append_of_ne_nil _ Nat.toDigits_ne_nil]
        exact ih (n / 10) (by omega) (by omega)

/-- The digits of a natural number have no zero before others. -/
theorem toDigits_no_leading_zero (n : Nat) :
    Nat.toDigits 10 n = ['0'] ∨ Nat.toDigits 10 n ≠ [] ∧ (Nat.toDigits 10 n).head? ≠ some '0' := by
  rcases Nat.eq_zero_or_pos n with rfl | hpos
  · exact Or.inl rfl
  · exact Or.inr ⟨Nat.toDigits_ne_nil, head?_toDigits_ne_zero hpos⟩

/-- The last digit of a number. -/
theorem getLast?_toDigits (n : Nat) :
    (Nat.toDigits 10 n).getLast? = some (n % 10).digitChar := by
  rw [Nat.toDigits_eq_if (by decide)]
  split
  case isTrue hlt => rw [Nat.mod_eq_of_lt hlt, List.getLast?_singleton]
  case isFalse => exact List.getLast?_concat

/-- Digits are taken up to what is no digit. -/
theorem takeWhile_isDigit_append {ds rest : List Char} (hds : ∀ c ∈ ds, c.isDigit = true)
    (hrest : ∀ c ∈ rest.head?, c.isDigit = false) :
    (ds ++ rest).takeWhile Char.isDigit = ds ∧ (ds ++ rest).dropWhile Char.isDigit = rest := by
  rw [List.takeWhile_append_of_pos hds, List.dropWhile_append_of_pos hds]
  cases rest with
  | nil => simp
  | cons c rest => simp [hrest c rfl]

/-- A list of digits has no sign. -/
theorem takeSign_of_isDigit {cs : List Char} (h : ∀ c ∈ cs, c.isDigit = true) :
    takeSign cs = (false, cs) := by
  match cs with
  | [] => rfl
  | c :: rest =>
      have hc : c.isDigit = true := h c List.mem_cons_self
      unfold takeSign
      split
      case h_1 heq =>
        cases heq
        cases hc
      case h_2 heq =>
        cases heq
        cases hc
      case h_3 => rfl

/-- The digits of a natural number are read as that number. -/
theorem read_digits (n : Nat) : read (Nat.toDigits 10 n) = some ⟨false, n, 0⟩ := by
  have hdigits : ∀ c ∈ Nat.toDigits 10 n, c.isDigit = true := fun _ => isDigit_of_mem_toDigits
  have hwhole : (Nat.toDigits 10 n).takeWhile Char.isDigit = Nat.toDigits 10 n :=
    List.takeWhile_eq_self_iff.mpr hdigits
  have hrest : (Nat.toDigits 10 n).dropWhile Char.isDigit = [] :=
    List.dropWhile_eq_nil_iff.mpr hdigits
  have hempty : (Nat.toDigits 10 n).isEmpty = false :=
    List.isEmpty_eq_false_iff.mpr Nat.toDigits_ne_nil
  simp only [read, takeSign_of_isDigit hdigits, hwhole, hrest]
  simp [hempty, ofDigits_toDigits]

/-- A whole number below `2 ^ 53` is converted exactly. -/
theorem toBinary64_whole {n : Nat} (h : n < 2 ^ 53) :
    Value.toBinary64 ⟨false, n, 0⟩ = .ofNat n := by
  rcases Nat.eq_zero_or_pos n with rfl | hpos
  · rw [Binary64.ofNat, Nat.zero_mul]
    rfl
  · -- A number below `2 ^ 53` has at most sixteen digits.
    have hcount : digitCount n ≤ 16 := by
      rw [digitCount, if_neg hpos.ne']
      exact (Nat.length_toDigits_le_iff (by decide) (by decide)).mpr (h.trans (by decide))
    simp only [Value.toBinary64]
    rw [if_neg (by simp; omega), if_neg (by omega)]
    show Binary64.round false (n * 1 * Binary64.unitsPerOne) 1 = _
    rw [Nat.mul_one]
    rfl

end Decimal

namespace Text

/-- A decimal digit is not blank. -/
theorem isBlank_of_isDigit {c : Char} (h : c.isDigit = true) : isBlank c = false := by
  obtain ⟨hlower, hupper⟩ := Char.isDigit_iff_toNat.mp h
  have hlower : 48 ≤ c.toNat := hlower
  have hupper : c.toNat ≤ 57 := hupper
  simp only [isBlank, Bool.or_eq_false_iff, Bool.and_eq_false_iff, decide_eq_false_iff_not,
    beq_eq_false_iff_ne]
  omega

end Text

variable {n : Nat}

/-- A decimal literal is trimmed to itself. -/
theorem trimList_toString (n : Nat) : Text.trimList (toString n).toList = Nat.toDigits 10 n := by
  rw [Nat.toString_eq_ofList_toDigits, String.toList_ofList]
  exact Text.trimList_of_not_isBlank fun _ hc =>
    Text.isBlank_of_isDigit (Decimal.isDigit_of_mem_toDigits hc)

/-- The literal of a whole number below `2 ^ 53` is read as that number. -/
theorem parseNumber_toString (h : n < 2 ^ 53) : parseNumber (toString n) = some (.ofNat n) := by
  rw [parseNumber, trimList_toString, Decimal.read_digits]
  simp only [Decimal.toBinary64_whole h, Binary64.isFinite_ofNat h, if_true]

/-- In every store the literal of a whole number below `2 ^ 53` stands for that number. -/
theorem Store.resolveNumber_toString (h : n < 2 ^ 53) (store : Store) :
    store.resolveNumber (toString n) = some (.ofNat n) := by
  have hresolve : store.resolve (toString n) = toString n := by
    rw [resolve, trimList_toString]
    split
    case h_1 c rest heq =>
      have hc : c ∈ Nat.toDigits 10 n := heq ▸ List.mem_cons_self
      rw [if_neg]
      rintro rfl
      exact absurd (Decimal.isDigit_of_mem_toDigits hc) (by decide)
    case h_2 => rfl
  rw [resolveNumber, hresolve, parseNumber_toString h]

/-! ## Indices -/

namespace Decimal

variable {cs : List Char}

/-- A list of characters writes an index: an optional plus sign and digits. -/
structure WritesIndex (cs : List Char) (n : Nat) : Prop where
  exists_digits : ∃ digits, (cs = digits ∨ cs = '+' :: digits) ∧ digits ≠ [] ∧
    (∀ c ∈ digits, c.isDigit = true) ∧ ofDigits digits = n
  lt : n < 2 ^ 64

/-- A text is read as an index just if it writes it. -/
theorem index?_eq_some_iff : index? cs = some n ↔ WritesIndex cs n := by
  have hread (ds : List Char) : (if (ds.isEmpty || !ds.all Char.isDigit) = true then none
      else if ofDigits ds < 0x10000000000000000 then some (ofDigits ds) else none) = some n ↔
        ds ≠ [] ∧ (∀ c ∈ ds, c.isDigit = true) ∧ ofDigits ds = n ∧ n < 2 ^ 64 := by
    by_cases hempty : ds = []
    · simp [hempty]
    · by_cases hdigits : ∀ c ∈ ds, c.isDigit = true
      · rw [if_neg (by simpa [hempty] using hdigits), Option.ite_none_right_eq_some]
        grind
      · rw [if_pos (by simpa [hempty] using hdigits)]
        simp [hdigits]
  unfold index?
  rw [hread]
  split
  case h_1 rest =>
    constructor
    · rintro ⟨hne, hdigits, hvalue, hlt⟩
      exact ⟨⟨rest, .inr rfl, hne, hdigits, hvalue⟩, hlt⟩
    · rintro ⟨⟨digits, hwritten | hwritten, hne, hdigits, hvalue⟩, hlt⟩
      · -- the plus sign is no digit
        exact absurd (hdigits '+' (hwritten ▸ List.mem_cons_self)) (by decide)
      · obtain rfl := List.cons.inj hwritten |>.2
        exact ⟨hne, hdigits, hvalue, hlt⟩
  case h_2 hsign =>
    constructor
    · rintro ⟨hne, hdigits, hvalue, hlt⟩
      exact ⟨⟨cs, .inl rfl, hne, hdigits, hvalue⟩, hlt⟩
    · rintro ⟨⟨digits, rfl | hwritten, hne, hdigits, hvalue⟩, hlt⟩
      · exact ⟨hne, hdigits, hvalue, hlt⟩
      · exact absurd hwritten (hsign digits)

theorem index?_toDigits (hn : n < 2 ^ 64) : index? (Nat.toDigits 10 n) = some n :=
  index?_eq_some_iff.mpr ⟨⟨_, .inl rfl, Nat.toDigits_ne_nil, fun _ => isDigit_of_mem_toDigits,
    ofDigits_toDigits n⟩, hn⟩

end Decimal
end Flowchart
