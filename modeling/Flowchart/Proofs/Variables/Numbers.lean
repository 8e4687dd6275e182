import Flowchart.Proofs.Decimal.Plain

/-!
# Numbers as texts

The value of a variable is always a text, so that a number is written between one block and the next
and read again. Nothing is lost by that (`formatNumber_lossless`): the text of a finite number is
read as the number itself, in which both zeros are one, and two numbers share their text just if
they have the same value. The texts are plain decimal numbers. An infinity has a text as well, but
it is not read again (`isSome_parseNumber_formatNumber`).
-/

namespace Flowchart

open Decimal (PlainDecimal)

variable {x y : Binary64}

/-- A plain decimal number is read as the number nearest to what it denotes, if that is finite. -/
theorem parseNumber_chars (p : PlainDecimal) : parseNumber (String.ofList p.chars) =
    if p.value.toBinary64.isFinite then some p.value.toBinary64 else none := by
  have htrim : Text.trimList p.chars = p.chars :=
    Text.trimList_of_not_isBlank fun _ => p.not_isBlank_of_mem_chars
  simp only [parseNumber, String.toList_ofList, htrim, p.read_chars]

theorem formatNumber_of_isZero (h : x.isZero = true) : formatNumber x = "0" := if_pos h

/-- The text of a finite number is a plain decimal number that denotes it. -/
theorem exists_plain_formatNumber (h : x.isFinite = true) : ∃ p : PlainDecimal,
    formatNumber x = String.ofList p.chars ∧
      p.value.toBinary64 = if x.isZero then .zero else x := by
  cases hzero : x.isZero with
  | true =>
      refine ⟨⟨false, ['0'], [], List.all_eq_true.mp rfl, Or.inl rfl, by simp, by simp⟩, ?_, rfl⟩
      rw [formatNumber_of_isZero hzero]
      rfl
  | false =>
      obtain ⟨p, hwrite, hvalue⟩ := Decimal.exists_plain_write hzero h
      refine ⟨p, ?_, hvalue⟩
      rw [formatNumber, if_neg (by rw [hzero]; exact Bool.false_ne_true), hwrite]

/-- The text of a finite number is read as that number, and the zeros as positive zero. -/
theorem parseNumber_formatNumber (h : x.isFinite = true) :
    parseNumber (formatNumber x) = some (if x.isZero then .zero else x) := by
  obtain ⟨p, hwrite, hvalue⟩ := exists_plain_formatNumber h
  have hfinite : p.value.toBinary64.isFinite = true := by
    rw [hvalue]
    split
    exacts [rfl, h]
  rw [hwrite, parseNumber_chars, if_pos hfinite, hvalue]

/-- An infinity and what is no number have texts that are not read as numbers. -/
theorem parseNumber_formatNumber_of_not_isFinite (h : x.isFinite = false) :
    parseNumber (formatNumber x) = none := by
  have hcode : Binary64.infinityCode ≤ (x.code : Nat) := Nat.not_lt.mp (of_decide_eq_false h)
  have hzero : x.isZero = false := by
    rw [← Bool.not_eq_true, ← Binary64.magnitude_eq_zero_iff, Binary64.magnitude,
      Binary64.units_eq_zero_iff]
    exact ((by decide : 0 < Binary64.infinityCode).trans_le hcode).ne'
  rw [formatNumber, if_neg (by rw [hzero]; exact Bool.false_ne_true)]
  unfold Decimal.Layout.write
  rcases hcode.lt_or_eq with hnan | hinfinite
  · simp only [if_pos hnan]
    decide +kernel
  · simp only [if_neg hinfinite.not_lt, if_pos hinfinite.symm]
    cases x.negative <;> decide +kernel

/-- A number is read from its text just if it is finite. -/
theorem isSome_parseNumber_formatNumber (x : Binary64) :
    (parseNumber (formatNumber x)).isSome = x.isFinite := by
  cases h : x.isFinite with
  | true => rw [parseNumber_formatNumber h, Option.isSome_some]
  | false => rw [parseNumber_formatNumber_of_not_isFinite h, Option.isSome_none]

/-- A number that was read is finite. -/
theorem isFinite_of_parseNumber {s : String} (h : parseNumber s = some x) : x.isFinite = true := by
  unfold parseNumber at h
  split at h
  case h_1 => cases h
  case h_2 v _ =>
    obtain ⟨hfinite, hvalue⟩ := Option.ite_none_right_eq_some.mp h
    rwa [← Option.some.inj hvalue]

/-- Finite numbers share their text if and only if they have the same value. -/
theorem formatNumber_eq_iff (hx : x.isFinite = true) (hy : y.isFinite = true) :
    formatNumber x = formatNumber y ↔ x.value = y.value := by
  have hvalue (z : Binary64) : (if z.isZero then Binary64.zero else z).value = z.value := by
    split
    case isTrue hzero =>
      rw [Binary64.value_eq_zero_iff.mpr hzero]
      rfl
    case isFalse => rfl
  constructor
  · intro htext
    have hread := congrArg parseNumber htext
    rw [parseNumber_formatNumber hx, parseNumber_formatNumber hy] at hread
    rw [← hvalue x, Option.some.inj hread, hvalue y]
  · intro hsame
    cases hzero : x.isZero with
    | true =>
        have hzero' : y.isZero = true := by
          rw [← Binary64.value_eq_zero_iff, ← hsame, Binary64.value_eq_zero_iff.mpr hzero]
        rw [formatNumber_of_isZero hzero, formatNumber_of_isZero hzero']
    | false => rw [Binary64.eq_of_value_eq hsame hzero]

/-- No finite number is lost when it is written. Its text is read as the number with the same bits,
those of a zero of either sign as zero. The text is a plain decimal number, and it is the text of
another finite number just if that has the same value. -/
theorem formatNumber_lossless {bits : Nat} (hbits : bits < 2 ^ 64)
    (hfinite : (Binary64.ofBits bits).isFinite = true) :
    (parseNumber (formatNumber (.ofBits bits))).map Binary64.toBits =
        some (if (Binary64.ofBits bits).isZero then 0 else bits) ∧
      (∃ p : PlainDecimal, formatNumber (.ofBits bits) = String.ofList p.chars) ∧
      ∀ other, (Binary64.ofBits other).isFinite = true →
        (formatNumber (.ofBits bits) = formatNumber (.ofBits other) ↔
          (Binary64.ofBits bits).value = (Binary64.ofBits other).value) := by
  refine ⟨?_, ?_, fun other hother => formatNumber_eq_iff hfinite hother⟩
  · rw [parseNumber_formatNumber hfinite, Option.map_some]
    split
    case isTrue => rfl
    case isFalse => rw [Binary64.toBits_ofBits hbits]
  · obtain ⟨p, hwrite, -⟩ := exists_plain_formatNumber hfinite
    exact ⟨p, hwrite⟩

/-- The least positive number is read again, and its text is not that of the next number. -/
theorem least_number_lossless : 1 < 2 ^ 64 ∧ (Binary64.ofBits 1).isFinite = true ∧
    (parseNumber (formatNumber (.ofBits 1))).map Binary64.toBits = some 1 ∧
    formatNumber (.ofBits 1) ≠ formatNumber (.ofBits 2) := by
  have hfinite : (Binary64.ofBits 1).isFinite = true := rfl
  obtain ⟨hread, -, htext⟩ := formatNumber_lossless (by decide) hfinite
  exact ⟨by decide, hfinite, hread, (htext 2 rfl).not.mpr (by decide)⟩

end Flowchart
