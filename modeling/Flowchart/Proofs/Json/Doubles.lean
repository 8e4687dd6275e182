import Flowchart.Proofs.Decimal.Shortest
import Flowchart.Proofs.Json.Compact
import Flowchart.Proofs.Json.Numbers

/-!
# Floating-point numbers as they are printed

A finite number is printed with digits before and after a point, or with an exponent, and every
form is read as some number again (`exists_reads_double`). It need not be the number that was
printed, since reading scales the digits by a power of ten and rounds twice; but it is never too
large, as the digits denote no more than the greatest finite number.
-/

namespace Flowchart.Json

open Binary64 (unitsPerOne infinityCode)

variable {x y : Binary64}

/-! ## Reading decimals -/

/-- An exponent as it is printed, with a sign in every case. -/
def exponentChars (e : Int) : List Char :=
  (if e < 0 then ['e', '-'] else ['e', '+']) ++ Nat.toDigits 10 e.natAbs

/-- What stands behind the digits of a decimal: an exponent, or nothing. -/
def exponentTail : Option Int → List Char
  | none => []
  | some e => exponentChars e

theorem head?_exponentTail (exponent : Int) (rest : List Char) :
    (exponentTail (some exponent) ++ rest).head? = some 'e' := by
  rw [exponentTail, exponentChars]
  split <;> rfl

namespace Reader

variable {negative : Bool} {significand : Nat} {rest mid : List Char} {a : Number}

/-- What does not depend on the place is read the same from every place. -/
theorem Reads.get_bind {α : Type} {f : Cursor → Reader α} {cs rest : List Char} {a : α}
    (h : ∀ cursor, (f cursor).Reads cs a rest) : ((get : Reader Cursor) >>= f).Reads cs a rest :=
  fun p => h ⟨cs, p⟩ p

theorem reads_scaled {e : Int} (h : scale? 4 (.ofNat significand) e = some y) (cs : List Char) :
    (scaled negative significand e).Reads cs (withSign negative y) cs := by
  unfold scaled
  rw [h]
  exact .pure _ cs

/-- Digits of a small exponent are in its range. -/
theorem overflowAt?_eq_none {ds : List Char} {n count : Nat}
    (h : Nat.ofDigitChars 10 ds n < 0x80000000) : exponentPart.overflowAt? n count ds = none := by
  induction ds generalizing n count with
  | nil => rfl
  | cons d ds ih =>
      rw [ofDigitChars_cons_eq] at h
      have hlonger := (le_ofDigitChars ds _).trans_lt h
      simp only [exponentPart.overflowAt?]
      rw [if_neg (Nat.not_le.mpr hlonger)]
      exact ih h

/-- A printed exponent is read. -/
theorem reads_exponentPart {e exponent : Int} (hexponent : exponent.natAbs < 0x80000000)
    (h : scale? 4 (.ofNat significand) (e + exponent) = some y) (hrest : Delimits rest) :
    (exponentPart negative significand e).Reads (exponentChars exponent ++ rest)
      (withSign negative y) rest := by
  have hdigits : ∀ c ∈ Nat.toDigits 10 exponent.natAbs, c.isDigit = true :=
    fun _ => Decimal.isDigit_of_mem_toDigits
  have hread := reads_digits hdigits (not_isDigit_of_delimits hrest)
  have hoverflow : exponentPart.overflowAt? 0 1 (Nat.toDigits 10 exponent.natAbs) = none :=
    overflowAt?_eq_none (by rwa [Nat.ofDigitChars_ten_toDigits])
  obtain ⟨d, ds, hds, hdigit⟩ := exists_toDigits_eq_cons exponent.natAbs
  have hhead : (Nat.toDigits 10 exponent.natAbs ++ rest).head? = some d := by
    rw [hds, List.cons_append, List.head?_cons]
  have hchars : exponentChars exponent ++ rest = 'e' :: (if exponent < 0 then '-' else '+') ::
      (Nat.toDigits 10 exponent.natAbs ++ rest) := by
    unfold exponentChars
    split <;> rfl
  rw [hchars]
  refine reads_skip.bind ((reads_peek? _).bind ?_)
  extract_lets afterSign
  have hafter (down : Bool) (hdown : (if down then e - (exponent.natAbs : Int)
      else e + exponent.natAbs) = e + exponent) :
      (afterSign down).Reads (Nat.toDigits 10 exponent.natAbs ++ rest)
        (withSign negative y) rest := by
    refine (reads_peek? _).bind ?_
    rw [hhead]
    simp only [hdigit]
    refine Reads.get_bind fun _ => hread.bind ?_
    rw [hoverflow, Decimal.ofDigits_toDigits]
    refine reads_scaled ?_ rest
    rw [← h, ← hdown]
  by_cases hneg : exponent < 0
  · rw [if_pos hneg]
    exact reads_skip.bind (hafter true (by rw [if_pos rfl]; omega))
  · rw [if_neg hneg]
    exact reads_skip.bind (hafter false (by rw [if_neg Bool.false_ne_true]; omega))

/-- An exponent, or nothing, is read behind the digits of a decimal. -/
theorem reads_afterDigits {e : Int} {exponent? : Option Int}
    (hexponent : ∀ exponent ∈ exponent?, exponent.natAbs < 0x80000000)
    (h : scale? 4 (.ofNat significand) (e + exponent?.getD 0) = some y) (hrest : Delimits rest) :
    (afterDigits negative significand e).Reads (exponentTail exponent? ++ rest)
      (withSign negative y) rest := by
  refine (reads_peek? _).bind ?_
  cases exponent? with
  | none =>
      rw [Option.getD_none, Int.add_zero] at h
      rw [exponentTail, List.nil_append]
      split
      case h_1 heq => exact absurd (hrest _ heq) (by decide)
      case h_2 heq => exact absurd (hrest _ heq) (by decide)
      case h_3 => exact reads_scaled h rest
  | some exponent =>
      rw [head?_exponentTail]
      exact reads_exponentPart (hexponent exponent rfl) h hrest

/-- No digit begins what is behind the digits of a decimal. -/
theorem not_isDigit_exponentTail (exponent? : Option Int) (hrest : Delimits rest) :
    ∀ c ∈ (exponentTail exponent? ++ rest).head?, c.isDigit = false := by
  cases exponent? with
  | none => exact not_isDigit_of_delimits hrest
  | some exponent =>
      intro c hc
      rw [head?_exponentTail] at hc
      obtain rfl := Option.some.inj hc
      rfl

/-- The digits behind the point are read, and then what follows them. -/
theorem reads_fractionPart {e : Int} {ds : List Char} {longer : Nat}
    (hne : ds ≠ []) (hdigits : ∀ c ∈ ds, c.isDigit = true)
    (hlonger : extendSignificand significand ds = (longer, []))
    (hmid : ∀ c ∈ mid.head?, c.isDigit = false)
    (h : (afterDigits negative longer (e - (ds.length : Int))).Reads mid a rest) :
    (fractionPart negative significand e).Reads ('.' :: (ds ++ mid)) a rest := by
  refine reads_skip.bind ((reads_digits hdigits hmid).bind ?_)
  rw [if_neg (by simpa using hne)]
  simpa [hlonger] using h

end Reader

/-- A decimal as it is written: digits with no zero before others, and a point with digits or an
exponent or both. -/
structure WrittenDecimal where
  whole : List Char
  fraction : List Char
  exponent? : Option Int
  isDigit_whole : ∀ c ∈ whole, c.isDigit = true
  no_leading_zero : whole = ['0'] ∨ whole ≠ [] ∧ whole.head? ≠ some '0'
  isDigit_fraction : ∀ c ∈ fraction, c.isDigit = true
  not_whole : fraction ≠ [] ∨ exponent?.isSome = true
  significand_le : Nat.ofDigitChars 10 (whole ++ fraction) 0 ≤ maxWord
  exponent_lt : ∀ exponent ∈ exponent?, exponent.natAbs < 0x80000000

namespace WrittenDecimal

/-- The characters of a written decimal. -/
def chars (w : WrittenDecimal) : List Char :=
  w.whole ++ ((if w.fraction = [] then [] else '.' :: w.fraction) ++ exponentTail w.exponent?)

/-- All digits of a written decimal as a number. -/
def significand (w : WrittenDecimal) : Nat := Nat.ofDigitChars 10 (w.whole ++ w.fraction) 0

/-- The power of ten that the digits are to be multiplied by. -/
def exponent (w : WrittenDecimal) : Int := -(w.fraction.length : Int) + w.exponent?.getD 0

theorem chars_of_fraction (w : WrittenDecimal) (h : w.fraction ≠ []) :
    w.chars = w.whole ++ '.' :: (w.fraction ++ exponentTail w.exponent?) := by
  rw [chars, if_neg h, List.cons_append]

end WrittenDecimal

namespace Reader

/-- A written decimal is read as its digits, scaled. -/
theorem reads_decimal {negative : Bool} {rest : List Char} (w : WrittenDecimal)
    (h : scale? 4 (.ofNat w.significand) w.exponent = some y) (hrest : Delimits rest) :
    (number negative).Reads (w.chars ++ rest) (withSign negative y) rest := by
  obtain ⟨whole, fraction, exponent?, hwhole, hzero, hfraction, hpart, hfits, hexponent⟩ := w
  simp only [WrittenDecimal.significand, WrittenDecimal.exponent] at h
  rw [Nat.ofDigitChars_append] at h hfits
  have hextend := extendSignificand_eq ((le_ofDigitChars fraction _).trans hfits)
  simp only [WrittenDecimal.chars, List.append_assoc]
  by_cases hnone : fraction = []
  · subst hnone
    obtain ⟨exponent, rfl⟩ := Option.isSome_iff_exists.mp (hpart.resolve_left (by simp))
    rw [if_pos rfl, List.nil_append]
    refine reads_number_digits hwhole hzero hextend (not_isDigit_exponentTail _ hrest) ?_
    refine (reads_peek? _).bind ?_
    rw [head?_exponentTail]
    refine reads_exponentPart (hexponent exponent rfl) ?_ hrest
    simpa using h
  · rw [if_neg hnone, List.cons_append]
    refine reads_number_digits hwhole hzero hextend (by simp) ((reads_peek? _).bind ?_)
    refine reads_fractionPart hnone hfraction (extendSignificand_eq hfits)
      (not_isDigit_exponentTail _ hrest) ?_
    refine reads_afterDigits hexponent ?_ hrest
    simpa using h

/-! ## Reading what is printed -/

open Decimal (Digits Layout natDigits)

/-- A text begins with a digit and is read as a number, up to its sign. -/
structure ReadsMagnitude (cs : List Char) : Prop where
  exists_cons : ∃ d ds, cs = d :: ds ∧ d.isDigit = true
  reads : ∃ y, ∀ negative rest, Delimits rest →
    (number negative).Reads (cs ++ rest) (withSign negative y) rest

/-- A written decimal is read if its digits can be scaled. -/
theorem readsMagnitude_chars (w : WrittenDecimal)
    (h : (scale? 4 (.ofNat w.significand) w.exponent).isSome = true) : ReadsMagnitude w.chars := by
  obtain ⟨y, hy⟩ := Option.isSome_iff_exists.mp h
  refine ⟨?_, y, fun negative rest hrest => reads_decimal w hy hrest⟩
  have hne : w.whole ≠ [] := w.no_leading_zero.elim (fun h => by simp [h]) And.left
  obtain ⟨d, ds, hwhole⟩ := List.exists_cons_of_ne_nil hne
  exact ⟨d, _, by rw [WrittenDecimal.chars, hwhole, List.cons_append],
    w.isDigit_whole d (hwhole ▸ List.mem_cons_self)⟩

/-- A written decimal without an exponent is read, as it is scaled down. -/
theorem readsMagnitude_of_no_exponent (w : WrittenDecimal) (h : w.exponent? = none) :
    ReadsMagnitude w.chars := by
  refine readsMagnitude_chars w (isSome_scale?_of_neg ?_)
  have hfraction : w.fraction ≠ [] := w.not_whole.resolve_right (by simp [h])
  have hlength := List.length_pos_iff.mpr hfraction
  rw [WrittenDecimal.exponent, h, Option.getD_none]
  omega

/-- Digits of a number that is neither too great nor too small. -/
structure IsModerate (d : Digits) : Prop where
  zero_or_pos : d = ⟨0, 0⟩ ∨ 0 < d.digits
  digits_le : d.digits ≤ 10 ^ 17
  le_exponent : -342 ≤ d.exponent
  exponent_le : d.exponent ≤ 332
  value_le : d.value * unitsPerOne ≤ Binary64.units (infinityCode - 1)

variable {d : Digits}

theorem IsModerate.length_le (h : IsModerate d) : (natDigits d.digits).length ≤ 18 :=
  (Nat.length_toDigits_le_iff (by decide) (by decide)).mpr (h.digits_le.trans_lt (by decide))

/-- The digits can be scaled by their exponent. -/
theorem IsModerate.isSome_scale? (h : IsModerate d) :
    (scale? 4 (.ofNat d.digits) d.exponent).isSome = true := by
  rcases lt_or_ge d.exponent 0 with hneg | hnonneg
  · exact isSome_scale?_of_neg hneg
  · obtain ⟨n, e⟩ := d
    obtain ⟨e, rfl⟩ := Int.eq_ofNat_of_zero_le hnonneg
    refine Json.isSome_scale? h.digits_le ?_
    have hvalue := h.value_le
    rw [Decimal.value_natCast, ← Nat.cast_mul] at hvalue
    exact Nat.cast_le.mp hvalue

theorem isDigit_natDigits (n : Nat) : ∀ c ∈ natDigits n, c.isDigit = true :=
  fun _ => Decimal.isDigit_of_mem_toDigits

/-- The first of some digits is followed by no zero either. -/
theorem take_no_leading_zero (n : Nat) {k : Nat} (hk : 0 < k) :
    (natDigits n).take k = ['0'] ∨
      (natDigits n).take k ≠ [] ∧ ((natDigits n).take k).head? ≠ some '0' := by
  obtain ⟨k, rfl⟩ := Nat.exists_eq_add_one.mpr hk
  rcases Decimal.toDigits_no_leading_zero n with hzero | ⟨hne, hzero⟩
  · refine Or.inl ?_
    rw [natDigits, hzero, List.take_succ_cons, List.take_nil]
  · refine Or.inr ⟨fun hnil => (List.take_eq_nil_iff.mp hnil).elim (Nat.succ_ne_zero k) hne, ?_⟩
    rwa [List.head?_take, if_neg (Nat.succ_ne_zero k)]

/-- Digits with a point behind the first of them, an exponent, or both. -/
def IsModerate.split (h : IsModerate d) {k : Nat} (hk : 0 < k) (exponent? : Option Int)
    (hpart : k < (natDigits d.digits).length ∨ exponent?.isSome = true)
    (hexponent : ∀ exponent ∈ exponent?, exponent.natAbs < 0x80000000) : WrittenDecimal where
  whole := (natDigits d.digits).take k
  fraction := (natDigits d.digits).drop k
  exponent? := exponent?
  isDigit_whole := fun c hc => isDigit_natDigits _ c (List.mem_of_mem_take hc)
  no_leading_zero := take_no_leading_zero d.digits hk
  isDigit_fraction := fun c hc => isDigit_natDigits _ c (List.mem_of_mem_drop hc)
  not_whole := hpart.imp_left fun hlt => by
    rw [Ne, List.drop_eq_nil_iff]
    omega
  significand_le := by
    rw [List.take_append_drop, natDigits, Nat.ofDigitChars_ten_toDigits]
    exact h.digits_le.trans (by decide)
  exponent_lt := hexponent

/-- Digits with an exponent are read. -/
theorem readsMagnitude_exponentText (h : IsModerate d) :
    ReadsMagnitude (Decimal.exponentText d) := by
  have hlength := h.length_le
  have hlower := h.le_exponent
  have hupper := h.exponent_le
  have hpos : 0 < (natDigits d.digits).length := List.length_pos_iff.mpr Nat.toDigits_ne_nil
  let w := h.split Nat.one_pos (some (d.exponent + ((natDigits d.digits).length - 1 : Nat)))
    (Or.inr rfl) fun exponent hexponent => by
      obtain rfl := Option.some.inj hexponent
      omega
  have hsignificand : w.significand = d.digits := by
    simp only [WrittenDecimal.significand, w, IsModerate.split, List.take_append_drop, natDigits,
      Nat.ofDigitChars_ten_toDigits]
  have hexponent : w.exponent = d.exponent := by
    simp only [WrittenDecimal.exponent, w, IsModerate.split, List.length_drop, Option.getD_some]
    omega
  have hchars : w.chars = Decimal.exponentText d := by
    simp only [WrittenDecimal.chars, w, IsModerate.split, Decimal.exponentText, exponentTail,
      exponentChars, List.drop_eq_nil_iff, List.append_assoc]
    rfl
  rw [← hchars]
  refine readsMagnitude_chars w ?_
  rw [hsignificand, hexponent]
  exact h.isSome_scale?

/-- Digits with a point among them are read. -/
theorem readsMagnitude_pointText (h : IsModerate d) {places : Nat} (hplaces : 0 < places)
    (hlt : places < (natDigits d.digits).length) :
    ReadsMagnitude ((natDigits d.digits).take ((natDigits d.digits).length - places) ++
      '.' :: (natDigits d.digits).drop ((natDigits d.digits).length - places)) := by
  set k := (natDigits d.digits).length - places
  let w := h.split (show 0 < k by omega) none (Or.inl (by omega)) (by simp)
  have hfraction : (natDigits d.digits).drop k ≠ [] := by
    rw [Ne, List.drop_eq_nil_iff]
    omega
  have hchars : w.chars = (natDigits d.digits).take k ++ '.' :: (natDigits d.digits).drop k := by
    rw [w.chars_of_fraction hfraction]
    simp [w, IsModerate.split, exponentTail]
  rw [← hchars]
  exact readsMagnitude_of_no_exponent w rfl

/-- Digits with zeros behind them, and one zero behind a point. -/
def IsModerate.withZeros (h : IsModerate d) {e : Nat} (he : d.exponent = e)
    (hfirst : e + (natDigits d.digits).length ≤ 16) : WrittenDecimal where
  whole := natDigits d.digits ++ List.replicate e '0'
  fraction := ['0']
  exponent? := none
  isDigit_whole := fun c hc => by
    rcases List.mem_append.mp hc with hc | hc
    · exact isDigit_natDigits _ c hc
    · rw [List.eq_of_mem_replicate hc]
      rfl
  no_leading_zero := by
    rcases h.zero_or_pos with rfl | hpos
    · obtain rfl : e = 0 := by simpa using he.symm
      exact Or.inl rfl
    · have hne : natDigits d.digits ≠ [] := Nat.toDigits_ne_nil
      refine Or.inr ⟨List.append_ne_nil_of_left_ne_nil hne _, ?_⟩
      rw [List.head?_append_of_ne_nil _ hne]
      exact Decimal.head?_toDigits_ne_zero hpos
  isDigit_fraction := List.all_eq_true.mp rfl
  not_whole := Or.inl (by decide)
  significand_le := by
    have hlt : d.digits < 10 ^ (natDigits d.digits).length :=
      (Nat.length_toDigits_le_iff (by decide)
        (List.length_pos_iff.mpr Nat.toDigits_ne_nil)).mp le_rfl
    have hpow : 10 ^ (e + 1) * 10 ^ (natDigits d.digits).length ≤ 10 ^ 17 := by
      rw [← Nat.pow_add]
      exact Nat.pow_le_pow_right (by decide) (by omega)
    have hzeros : (natDigits d.digits ++ List.replicate e '0') ++ ['0'] =
        natDigits d.digits ++ List.replicate (e + 1) '0' := by
      rw [List.append_assoc, List.replicate_succ']
    rw [hzeros, Nat.ofDigitChars_append, Nat.ofDigitChars_replicate_zero, natDigits,
      Nat.ofDigitChars_ten_toDigits]
    exact (Nat.mul_le_mul_left _ hlt.le).trans (hpow.trans (by decide))
  exponent_lt := by simp

/-- A whole number with a zero behind the point is read. -/
theorem readsMagnitude_wholeText (h : IsModerate d) {e : Nat} (he : d.exponent = e)
    (hfirst : e + (natDigits d.digits).length ≤ 16) :
    ReadsMagnitude (natDigits d.digits ++ List.replicate e '0' ++ ['.', '0']) := by
  have hchars : (h.withZeros he hfirst).chars =
      natDigits d.digits ++ List.replicate e '0' ++ ['.', '0'] := by
    simp [WrittenDecimal.chars, IsModerate.withZeros, exponentTail]
  rw [← hchars]
  exact readsMagnitude_of_no_exponent _ rfl

/-- Digits behind a zero, a point and more zeros. -/
def IsModerate.behindZeros (h : IsModerate d) (zeros : Nat) : WrittenDecimal where
  whole := ['0']
  fraction := List.replicate zeros '0' ++ natDigits d.digits
  exponent? := none
  isDigit_whole := List.all_eq_true.mp rfl
  no_leading_zero := Or.inl rfl
  isDigit_fraction := fun c hc => by
    rcases List.mem_append.mp hc with hc | hc
    · rw [List.eq_of_mem_replicate hc]
      rfl
    · exact isDigit_natDigits _ c hc
  not_whole := Or.inl (List.append_ne_nil_of_right_ne_nil _ Nat.toDigits_ne_nil)
  significand_le := by
    have hzero : Nat.ofDigitChars 10 ['0'] 0 = 0 := rfl
    rw [Nat.ofDigitChars_append, Nat.ofDigitChars_append, Nat.ofDigitChars_replicate_zero, hzero,
      Nat.mul_zero, natDigits, Nat.ofDigitChars_ten_toDigits]
    exact h.digits_le.trans (by decide)
  exponent_lt := by simp

/-- Digits behind a zero and a point are read. -/
theorem readsMagnitude_smallText (h : IsModerate d) (zeros : Nat) :
    ReadsMagnitude ('0' :: '.' :: (List.replicate zeros '0' ++ natDigits d.digits)) := by
  have hfraction : List.replicate zeros '0' ++ natDigits d.digits ≠ [] :=
    List.append_ne_nil_of_right_ne_nil _ Nat.toDigits_ne_nil
  have hchars : (h.behindZeros zeros).chars =
      '0' :: '.' :: (List.replicate zeros '0' ++ natDigits d.digits) := by
    rw [(h.behindZeros zeros).chars_of_fraction hfraction]
    simp [IsModerate.behindZeros, exponentTail]
  rw [← hchars]
  exact readsMagnitude_of_no_exponent _ rfl

/-- Digits with all their places shown are read. -/
theorem readsMagnitude_positionalText (h : IsModerate d)
    (hfirst : d.exponent + ((natDigits d.digits).length - 1 : Nat) ≤ 15) :
    ReadsMagnitude (Layout.document.positionalText d) := by
  have hpos : 0 < (natDigits d.digits).length := List.length_pos_iff.mpr Nat.toDigits_ne_nil
  unfold Layout.positionalText
  extract_lets ds
  split
  case h_1 e he =>
    have he : d.exponent = (e : Int) := he
    exact readsMagnitude_wholeText h he (by omega)
  case h_2 e he =>
    extract_lets places
    split
    case isTrue hlt => exact readsMagnitude_pointText h (Nat.succ_pos e) hlt
    case isFalse => exact readsMagnitude_smallText h _

/-- Digits are read from the form in which a document has them. -/
theorem readsMagnitude_digitsText (h : IsModerate d) :
    ReadsMagnitude (Layout.document.digitsText d) := by
  unfold Layout.digitsText
  extract_lets first
  split
  case isTrue hpositional =>
    have hfirst := (Bool.and_eq_true _ _ ▸ hpositional).2
    exact readsMagnitude_positionalText h (of_decide_eq_true hfirst)
  case isFalse => exact readsMagnitude_exponentText h

/-- The digits that are printed for a finite number. -/
def printedDigits (x : Binary64) : Digits :=
  if (x.code : Nat) = 0 then ⟨0, 0⟩ else Decimal.shortest .even x.code

theorem isModerate_printedDigits (h : x.isFinite = true) : IsModerate (printedDigits x) := by
  rw [Binary64.isFinite_iff] at h
  unfold printedDigits
  split
  case isTrue =>
    refine ⟨Or.inl rfl, Nat.zero_le _, by decide, by decide, ?_⟩
    rw [Digits.value, Nat.cast_zero, zero_mul, zero_mul]
    exact Nat.cast_nonneg _
  case isFalse =>
    obtain ⟨hlower, hupper⟩ := Decimal.exponent_shortest_bounds .even h
    exact ⟨Decimal.shortest_eq_zero_or_pos _ _, Decimal.digits_shortest_le h, hlower, hupper,
      Decimal.value_shortest_le h⟩

/-- A finite number is printed with its sign and its digits. -/
theorem toList_text_double (h : x.isFinite = true) : (Number.double x).text.toList =
    (if x.negative then ['-'] else []) ++ Layout.document.digitsText (printedDigits x) := by
  have hcode := Binary64.isFinite_iff.mp h
  simp only [Number.text, Layout.write, printedDigits]
  rw [if_neg hcode.not_gt, if_neg hcode.ne]
  split
  case isTrue => rw [String.toList_ofList]; rfl
  case isFalse => rw [String.toList_ofList]; rfl

/-- The text of a finite number is read as some number, with the same sign. -/
theorem exists_reads_double (h : x.isFinite = true) :
    ∃ y, ReadsNumber (.double x) (withSign x.negative y) := by
  obtain ⟨⟨d, ds, hdigits, hdigit⟩, y, hread⟩ :=
    readsMagnitude_digitsText (isModerate_printedDigits h)
  have htext := toList_text_double h
  rw [hdigits] at htext hread
  refine ⟨y, ?_, fun assemble depth rest hrest => ?_⟩
  all_goals rw [htext]; cases x.negative
  case refine_1.false => exact beginsToken_of_isDigit hdigit ds
  case refine_1.true => exact ⟨_, _, rfl, by decide, by decide⟩
  case refine_2.false => exact reads_document_digit hdigit (hread false rest hrest) depth
  case refine_2.true => exact reads_document_minus (hread true rest hrest) depth

/-- The text of a number that was read is read. -/
theorem exists_readsNumber {n : Number} (h : n.IsValid) : ∃ m, ReadsNumber n m := by
  cases n with
  | integer n => exact ⟨_, readsNumber_of_isWhole h⟩
  | double x => exact (exists_reads_double h).imp' _ fun _ => id

end Reader

end Flowchart.Json
