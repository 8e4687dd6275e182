import Mathlib.Data.List.Basic
import Flowchart.Text.Case

/-!
# Lower case is settled

A character is settled if it is its own lower case (`Text.IsLower`). The lower case of any character
consists of settled ones (`isLower_of_mem_lowerChar`), since no run of the case table leads into
another one, and so does the lower case of any text (`isLower_of_mem_lower`).
-/

namespace Flowchart

namespace Unicode.CaseRun

variable {r q : CaseRun} {n m : Nat}

/-- No image of one run is a source of another: they lie apart, or both runs have the same step and
different remainders. -/
def avoids (r q : CaseRun) : Bool :=
  decide (r.last + r.shift < q.first) || decide (q.last < r.first + r.shift) ||
    ((r.first == r.last || r.step == q.step) && (r.first + r.shift - q.first) % q.step != 0)

/-- A run that avoids another one sends nothing into it. -/
theorem image?_eq_none_of_avoids (h : r.avoids q = true) (hr : r.image? n = some m) (hm : m ≠ 0) :
    q.image? m = none := by
  unfold image? at hr
  split at hr
  case isFalse => cases hr
  case isTrue hn =>
    simp only [Bool.and_eq_true, decide_eq_true_eq, beq_iff_eq] at hn
    obtain ⟨⟨hfirst, hlast⟩, hstep⟩ := hn
    have hshift : (m : Int) = n + r.shift := by
      have := Option.some.inj hr
      omega
    unfold image?
    rw [if_neg]
    intro hq
    simp only [Bool.and_eq_true, decide_eq_true_eq, beq_iff_eq] at hq
    obtain ⟨⟨hqfirst, hqlast⟩, hqstep⟩ := hq
    simp only [avoids, Bool.or_eq_true, Bool.and_eq_true, decide_eq_true_eq, beq_iff_eq,
      bne_iff_ne] at h
    rcases h with (hbelow | habove) | ⟨hsame, hremainder⟩
    · omega
    · omega
    · -- Both the image and the way to it are whole numbers of steps.
      have himage : (q.step : Int) ∣ (m : Int) - q.first := by
        have := Int.natCast_dvd_natCast.mpr (Nat.dvd_of_mod_eq_zero hqstep)
        rwa [Int.ofNat_sub hqfirst] at this
      have hway : (q.step : Int) ∣ (n : Int) - r.first := by
        rcases hsame with hsingle | hsteps
        · have : n = r.first := by omega
          simp [this]
        · have := Int.natCast_dvd_natCast.mpr (Nat.dvd_of_mod_eq_zero hstep)
          rwa [Int.ofNat_sub hfirst, hsteps] at this
      refine hremainder (Int.emod_eq_zero_of_dvd ?_)
      have hsplit : (r.first : Int) + r.shift - q.first = (m - q.first) - (n - r.first) := by omega
      rw [hsplit]
      exact Int.dvd_sub himage hway

end Unicode.CaseRun

namespace Text

open Unicode

/-- A character that is its own lower case. -/
def IsLower (c : Char) : Prop := lowerChar c = [c]

/-- Lists of characters are compared. -/
instance (c : Char) : Decidable (IsLower c) := inferInstanceAs (Decidable (_ = _))

/-- An ASCII character is settled unless it is a capital letter. -/
theorem isLower_of_toLower_eq {c : Char} (hascii : c.toNat < 128) (h : c.toLower = c) :
    IsLower c := by
  rw [IsLower, lowerChar, if_pos hascii, h]

/-- The sources of sequences as a run. -/
def sequenceRun : CaseRun := ⟨0x130, 0x130, 1, 0⟩

/-- No run of the table leads into another one or to the source of a sequence. -/
theorem avoids_of_mem_lowerRuns {r q : CaseRun} (hr : r ∈ lowerRuns)
    (hq : q ∈ sequenceRun :: lowerRuns) : r.avoids q = true := by
  have hall : (lowerRuns.all fun r => (sequenceRun :: lowerRuns).all r.avoids) = true := by
    decide +kernel
  exact List.all_eq_true.mp (List.all_eq_true.mp hall r hr) q hq

/-- A character that no run covers and that has no sequence is settled. -/
theorem isLower_of_image?_eq_none {c : Char}
    (h : ∀ q ∈ sequenceRun :: lowerRuns, q.image? c.toNat = none) : IsLower c := by
  obtain ⟨hsequence, hruns⟩ := List.forall_mem_cons.mp h
  unfold IsLower lowerChar
  split
  case isTrue =>
    have hletters := hruns ⟨0x41, 0x5a, 1, 32⟩ List.mem_cons_self
    have hnot : ¬(65 ≤ c.toNat ∧ c.toNat ≤ 90) := by
      rintro ⟨hlow, hhigh⟩
      simp [CaseRun.image?, hlow, hhigh, Nat.mod_one] at hletters
    unfold Char.toLower
    rw [dif_neg]
    exact hnot
  case isFalse =>
    have hne : c.toNat ≠ 0x130 := by
      intro heq
      rw [heq] at hsequence
      cases hsequence
    have hlookup : lowerSequences.lookup c.toNat = none := by
      rw [lowerSequences, List.lookup_cons, beq_false_of_ne hne]
      rfl
    have hfind : lowerRuns.findSome? (·.image? c.toNat) = none :=
      List.findSome?_eq_none_iff.mpr hruns
    simp only [mapCase, hlookup, hfind]

/-- The lower case of a character is settled. -/
theorem isLower_of_mem_lowerChar {c d : Char} (h : d ∈ lowerChar c) : IsLower d := by
  unfold lowerChar at h
  split at h
  case isTrue hascii =>
    obtain rfl := List.mem_singleton.mp h
    have hall : ∀ n < 128, IsLower (Char.ofNat n).toLower := by decide +kernel
    have := hall c.toNat hascii
    rwa [Char.ofNat_toNat] at this
  case isFalse hascii =>
    unfold mapCase at h
    split at h
    case h_1 codes hcodes =>
      have hall : ∀ pair ∈ lowerSequences, ∀ n ∈ pair.2, IsLower (Char.ofNat n) := by
        decide +kernel
      obtain ⟨n, hn, rfl⟩ := List.mem_map.mp h
      obtain ⟨before, after, hsplit, _⟩ := List.lookup_eq_some_iff.mp hcodes
      exact hall _ (hsplit ▸ List.mem_append_right before List.mem_cons_self) n hn
    case h_2 hnone =>
      split at h
      case h_1 m hm =>
        obtain rfl := List.mem_singleton.mp h
        obtain ⟨r, hr, himage⟩ := List.exists_of_findSome?_eq_some hm
        -- A number that is no code point would give the character zero.
        by_cases hzero : (Char.ofNat m).toNat = 0
        · have hchar : Char.ofNat m = '\x00' := Char.toNat_inj.mp hzero
          rw [hchar]
          decide
        · have htoNat : (Char.ofNat m).toNat = m := by
            by_cases hvalid : m.isValidChar
            · rw [Char.ofNat, dif_pos hvalid]
              rfl
            · rw [Char.ofNat, dif_neg hvalid] at hzero
              exact absurd rfl hzero
          refine isLower_of_image?_eq_none fun q hq => ?_
          rw [htoNat]
          exact CaseRun.image?_eq_none_of_avoids (avoids_of_mem_lowerRuns hr hq) himage
            (htoNat ▸ hzero)
      case h_2 hfind =>
        obtain rfl := List.mem_singleton.mp h
        unfold IsLower lowerChar mapCase
        rw [if_neg hascii]
        simp only [hnone, hfind]

/-- The lower case of a list of characters is settled. -/
theorem isLower_of_mem_lowerAfter {before cs : List Char} {d : Char}
    (h : d ∈ lowerAfter before cs) : IsLower d := by
  induction cs generalizing before with
  | nil => cases h
  | cons c rest ih =>
      rw [lowerAfter] at h
      rcases List.mem_append.mp h with himage | hrest
      · have hsigmas : IsLower 'ς' ∧ IsLower 'σ' := by decide +kernel
        split at himage
        case isTrue =>
          split at himage
          case isTrue => exact List.mem_singleton.mp himage ▸ hsigmas.1
          case isFalse => exact List.mem_singleton.mp himage ▸ hsigmas.2
        case isFalse => exact isLower_of_mem_lowerChar himage
      · exact ih hrest

/-- The lower case of a text is settled. -/
theorem isLower_of_mem_lower {s : String} {d : Char} (h : d ∈ (lower s).toList) : IsLower d := by
  rw [lower, String.toList_ofList] at h
  exact isLower_of_mem_lowerAfter h

/-- A text of settled characters is its own lower case. -/
theorem lower_eq_self {s : String} (h : ∀ c ∈ s.toList, IsLower c) : lower s = s := by
  have hlist (before cs : List Char) (hcs : ∀ c ∈ cs, IsLower c) : lowerAfter before cs = cs := by
    induction cs generalizing before with
    | nil => rfl
    | cons c rest ih =>
        obtain ⟨hc, hrest⟩ := List.forall_mem_cons.mp hcs
        have hsigma : c ≠ 'Σ' := by
          rintro rfl
          exact absurd hc (by decide +kernel)
        rw [lowerAfter, if_neg hsigma, hc, ih _ hrest]
        rfl
  rw [lower, hlist [] s.toList h, String.ofList_toList]

end Text
end Flowchart
