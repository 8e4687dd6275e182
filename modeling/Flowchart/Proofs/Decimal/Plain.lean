import Flowchart.Decimal.Layout
import Flowchart.Proofs.Decimal.Interval
import Flowchart.Proofs.Decimal.Whole

/-!
# Plain decimal numbers

The form of a number that shows all its places: `PlainDecimal`. Such a text is read as what it
denotes (`PlainDecimal.read_chars`), and plain layout writes each finite number other than zero as
one that is read as the number itself (`exists_plain_write`).
-/

namespace Flowchart.Decimal

open Binary64 (infinityCode)

variable {d : Digits}

/-- A decimal number with all its places: perhaps a minus sign, digits with no zero before others,
and, unless the number is whole, a point and digits of which the last is not zero. -/
structure PlainDecimal where
  negative : Bool
  whole : List Char
  fraction : List Char
  isDigit_whole : ∀ c ∈ whole, c.isDigit = true
  no_leading_zero : whole = ['0'] ∨ whole ≠ [] ∧ whole.head? ≠ some '0'
  isDigit_fraction : ∀ c ∈ fraction, c.isDigit = true
  no_trailing_zero : fraction.getLast? ≠ some '0'

namespace PlainDecimal

/-- The characters of a plain decimal number. -/
def chars (p : PlainDecimal) : List Char :=
  (if p.negative then ['-'] else []) ++ p.whole ++
    if p.fraction = [] then [] else '.' :: p.fraction

/-- What a plain decimal number denotes. -/
def value (p : PlainDecimal) : Value :=
  ⟨p.negative, ofDigits (p.whole ++ p.fraction), -(p.fraction.length : Int)⟩

/-- There is a digit before the point. -/
theorem whole_ne_nil (p : PlainDecimal) : p.whole ≠ [] := by
  rcases p.no_leading_zero with hzero | ⟨hne, -⟩
  · rw [hzero]
    exact List.cons_ne_nil _ _
  · exact hne

/-- The sign of a plain decimal number is split off. -/
theorem takeSign_chars (p : PlainDecimal) : takeSign p.chars =
    (p.negative, p.whole ++ if p.fraction = [] then [] else '.' :: p.fraction) := by
  cases hnegative : p.negative with
  | true => simp [chars, hnegative, takeSign]
  | false =>
      obtain ⟨c, rest, hwhole⟩ := List.exists_cons_of_ne_nil p.whole_ne_nil
      have hdigit : c.isDigit = true := p.isDigit_whole c (hwhole ▸ List.mem_cons_self)
      rw [chars, hnegative, if_neg Bool.false_ne_true, List.nil_append, hwhole, List.cons_append]
      unfold takeSign
      split
      case h_1 heq =>
        cases heq
        cases hdigit
      case h_2 heq =>
        cases heq
        cases hdigit
      case h_3 => rfl

/-- A plain decimal number is read as what it denotes. -/
theorem read_chars (p : PlainDecimal) : read p.chars = some p.value := by
  have hnil : ∀ c ∈ ([] : List Char).head?, c.isDigit = false := by simp
  have hempty : p.whole.isEmpty = false := List.isEmpty_eq_false_iff.mpr p.whole_ne_nil
  by_cases hfraction : p.fraction = []
  · have hwhole := takeWhile_isDigit_append p.isDigit_whole hnil
    simp only [read, takeSign_chars, hfraction, if_true, hwhole, hempty]
    simp [value, hfraction]
  · have hpoint : ∀ c ∈ ('.' :: p.fraction).head?, c.isDigit = false := by simp
    have hwhole := takeWhile_isDigit_append p.isDigit_whole hpoint
    have hdigits := takeWhile_isDigit_append p.isDigit_fraction hnil
    rw [List.append_nil] at hdigits
    simp only [read, takeSign_chars, hfraction, if_false, hwhole, hempty, hdigits]
    simp [value]

/-- No character of a plain decimal number is blank. -/
theorem not_isBlank_of_mem_chars (p : PlainDecimal) {c : Char} (h : c ∈ p.chars) :
    Text.isBlank c = false := by
  have hdigit {ds : List Char} (hds : ∀ c ∈ ds, c.isDigit = true) (hc : c ∈ ds) :
      Text.isBlank c = false := Text.isBlank_of_isDigit (hds c hc)
  simp only [chars, List.mem_append] at h
  rcases h with (hsign | hwhole) | hpoint
  · split at hsign
    case isTrue =>
      rw [List.mem_singleton.mp hsign]
      rfl
    case isFalse => cases hsign
  · exact hdigit p.isDigit_whole hwhole
  · split at hpoint
    case isTrue => cases hpoint
    case isFalse =>
      rcases List.mem_cons.mp hpoint with rfl | hfraction
      · rfl
      · exact hdigit p.isDigit_fraction hfraction

end PlainDecimal

/-! ## Digits in plain layout -/

/-- The last of some digits is not zero. -/
theorem getLast?_natDigits_ne_zero {n : Nat} (h : n % 10 ≠ 0) :
    (natDigits n).getLast? ≠ some '0' := by
  have hdigit : ∀ m < 10, m ≠ 0 → some m.digitChar ≠ some '0' := by decide
  rw [natDigits, getLast?_toDigits]
  exact hdigit _ (Nat.mod_lt _ (by decide)) h

theorem isDigit_of_mem_natDigits {n : Nat} {c : Char} (h : c ∈ natDigits n) : c.isDigit = true :=
  isDigit_of_mem_toDigits h

namespace PlainDecimal

/-- Digits with zeros behind them. -/
def ofWhole (negative : Bool) {n : Nat} (hn : 0 < n) (zeros : Nat) : PlainDecimal where
  negative := negative
  whole := natDigits n ++ List.replicate zeros '0'
  fraction := []
  isDigit_whole c hc := by
    rcases List.mem_append.mp hc with hc | hc
    · exact isDigit_of_mem_natDigits hc
    · rw [List.eq_of_mem_replicate hc]
      rfl
  no_leading_zero := by
    have hne : natDigits n ≠ [] := Nat.toDigits_ne_nil
    refine Or.inr ⟨List.append_ne_nil_of_left_ne_nil hne _, ?_⟩
    rw [List.head?_append_of_ne_nil _ hne]
    exact head?_toDigits_ne_zero hn
  isDigit_fraction := by simp
  no_trailing_zero := by simp

/-- Digits with a point among them. -/
def ofPoint (negative : Bool) {n : Nat} (hn : n % 10 ≠ 0) {places : Nat}
    (hplaces : places < (natDigits n).length) : PlainDecimal where
  negative := negative
  whole := (natDigits n).take ((natDigits n).length - places)
  fraction := (natDigits n).drop ((natDigits n).length - places)
  isDigit_whole c hc := isDigit_of_mem_natDigits (List.mem_of_mem_take hc)
  no_leading_zero := by
    have hzero : (natDigits n).head? ≠ some '0' := head?_toDigits_ne_zero (by omega)
    refine Or.inr ⟨fun hnil => ?_, ?_⟩
    · rw [List.take_eq_nil_iff, List.eq_nil_iff_length_eq_zero] at hnil
      omega
    · rwa [List.head?_take, if_neg (by omega)]
  isDigit_fraction c hc := isDigit_of_mem_natDigits (List.mem_of_mem_drop hc)
  no_trailing_zero := by
    rw [List.getLast?_drop]
    split
    · exact Option.some_ne_none _ |>.symm
    · exact getLast?_natDigits_ne_zero hn

/-- Digits behind a zero, a point and more zeros. -/
def ofSmall (negative : Bool) {n : Nat} (hn : n % 10 ≠ 0) (zeros : Nat) : PlainDecimal where
  negative := negative
  whole := natDigits 0
  fraction := List.replicate zeros '0' ++ natDigits n
  isDigit_whole c hc := isDigit_of_mem_natDigits hc
  no_leading_zero := toDigits_no_leading_zero 0
  isDigit_fraction c hc := by
    rcases List.mem_append.mp hc with hc | hc
    · rw [List.eq_of_mem_replicate hc]
      rfl
    · exact isDigit_of_mem_natDigits hc
  no_trailing_zero := by
    have hne : natDigits n ≠ [] := Nat.toDigits_ne_nil
    rw [List.getLast?_append_of_ne_nil _ hne]
    exact getLast?_natDigits_ne_zero hn

end PlainDecimal

/-- Zeros behind digits are powers of ten. -/
theorem ofDigits_append_zeros (n zeros : Nat) :
    ofDigits (natDigits n ++ List.replicate zeros '0') = n * 10 ^ zeros := by
  rw [ofDigits_eq_ofDigitChars, Nat.ofDigitChars_append, Nat.ofDigitChars_replicate_zero, natDigits,
    Nat.ofDigitChars_ten_toDigits, Nat.mul_comm]

/-- Zeros before digits make no difference. -/
theorem ofDigits_zeros_append (n zeros : Nat) :
    ofDigits (List.replicate zeros '0' ++ natDigits n) = n := by
  rw [ofDigits_eq_ofDigitChars, Nat.ofDigitChars_append, Nat.ofDigitChars_replicate_zero, natDigits,
    Nat.mul_zero, Nat.ofDigitChars_ten_toDigits]

/-- Digits of which the last is not zero are laid out as a plain decimal number that denotes the
same. -/
theorem exists_plain (negative : Bool) (h : d.digits % 10 ≠ 0) : ∃ p : PlainDecimal,
    p.negative = negative ∧
    p.chars = (if negative then ['-'] else []) ++ Layout.plain.positionalText d ∧
    p.value.magnitude = d.value := by
  obtain ⟨n, e⟩ := d
  simp only at h
  cases e with
  | ofNat e =>
      refine ⟨.ofWhole negative (by omega : 0 < n) e, rfl, ?_, ?_⟩
      · simp [PlainDecimal.chars, PlainDecimal.ofWhole, Layout.positionalText, Layout.plain]
        rfl
      · simp only [Value.magnitude, PlainDecimal.value, PlainDecimal.ofWhole, List.append_nil,
          ofDigits_append_zeros, Int.ofNat_eq_natCast, value_natCast]
        simp
  | negSucc e =>
      simp only [Layout.positionalText]
      by_cases hplaces : e + 1 < (natDigits n).length
      · rw [if_pos hplaces]
        refine ⟨.ofPoint negative h hplaces, rfl, ?_, ?_⟩
        · have hne : (natDigits n).drop ((natDigits n).length - (e + 1)) ≠ [] := by
            rw [Ne, List.drop_eq_nil_iff]
            omega
          simp [PlainDecimal.chars, PlainDecimal.ofPoint, hne]
          rfl
        · have hlength : (natDigits n).length - ((natDigits n).length - (e + 1)) = e + 1 := by omega
          simp only [Value.magnitude, PlainDecimal.value, PlainDecimal.ofPoint, Digits.value,
            List.take_append_drop, List.length_drop, hlength]
          rw [natDigits, ofDigits_toDigits]
          rfl
      · rw [if_neg hplaces]
        refine ⟨.ofSmall negative h (e + 1 - (natDigits n).length), rfl, ?_, ?_⟩
        · have hne : natDigits n ≠ [] := Nat.toDigits_ne_nil
          simp [PlainDecimal.chars, PlainDecimal.ofSmall, hne]
          rfl
        · have hzero : ofDigits (natDigits 0 ++
              (List.replicate (e + 1 - (natDigits n).length) '0' ++ natDigits n)) = n :=
            ofDigits_zeros_append n (e + 1 - (natDigits n).length + 1)
          have hlength : e + 1 - (natDigits n).length + (natDigits n).length = e + 1 := by omega
          simp only [Value.magnitude, PlainDecimal.value, PlainDecimal.ofSmall, Digits.value,
            hzero, List.length_append, List.length_replicate, hlength]
          rfl

/-- A finite number other than zero is written as a plain decimal number that is read as it. -/
theorem exists_plain_write {x : Binary64} (hpos : x.isZero = false) (h : x.isFinite = true) :
    ∃ p : PlainDecimal, Layout.plain.write x = String.ofList p.chars ∧ p.value.toBinary64 = x := by
  have hpos : 0 < (x.code : Nat) := by simpa [Binary64.isZero, Nat.pos_iff_ne_zero] using hpos
  have h : (x.code : Nat) < infinityCode := Binary64.isFinite_iff.mp h
  obtain ⟨p, hnegative, hchars, hvalue⟩ :=
    exists_plain x.negative (shortest_mod_ne_zero Layout.plain.tie hpos h)
  refine ⟨p, ?_, ?_⟩
  · simp only [Layout.write]
    rw [if_neg (by omega), if_neg (by omega), if_neg (by omega), hchars]
    rfl
  · have hholds := holds_shortest Layout.plain.tie hpos h
    rw [← hvalue] at hholds
    have hnegative : p.value.negative = x.negative := hnegative
    rw [toBinary64_of_holds hpos h hholds, hnegative, Binary64.ofCode_code]

end Flowchart.Decimal
