import Mathlib.Algebra.GroupWithZero.Nat
import Mathlib.Data.List.SplitLengths
import Flowchart.Identifier

/-!
# Identifiers are read as they are written

The written form of an identifier has 32 hexadecimal digits, which denote it, in five groups between
hyphens. `parse_text` says that it is read as the identifier.
-/

namespace Flowchart

/-- A text is cut where the library cuts it. -/
theorem Text.splitList_eq_splitOnP (isSeparator : Char → Bool) (cs : List Char) :
    splitList isSeparator cs = cs.splitOnP isSeparator := by
  induction cs with
  | nil => rfl
  | cons c cs ih =>
      rw [splitList, List.splitOnP_cons_eq_if_modifyHead, ih]
      cases hpieces : cs.splitOnP isSeparator with
      | nil => exact absurd hpieces (List.splitOnP_ne_nil _ _)
      | cons piece pieces => rfl

namespace Identifier

/-! ## Digits -/

/-- A hexadecimal digit denotes the number that it is written for. -/
theorem hexDigit?_digitChar : ∀ n < 16, Json.hexDigit? n.digitChar = some n := by
  decide

/-- More digits are read after others. -/
theorem ofHexDigits?_append_singleton {cs : List Char} {c : Char} {n d : Nat}
    (hcs : ofHexDigits? cs = some n) (hc : Json.hexDigit? c = some d) :
    ofHexDigits? (cs ++ [c]) = some (n * 16 + d) := by
  unfold ofHexDigits? at hcs ⊢
  rw [List.foldlM_append, hcs]
  show ((Json.hexDigit? c).map (n * 16 + ·) >>= pure) = _
  rw [hc]
  rfl

/-- The digits of a number denote it. -/
theorem ofHexDigits?_toDigits (n : Nat) : ofHexDigits? (Nat.toDigits 16 n) = some n := by
  induction n using Nat.strongRecOn with
  | ind n ih =>
      rw [Nat.toDigits_eq_if (by decide)]
      split
      case isTrue hlt =>
        have hempty : ofHexDigits? [] = some 0 := rfl
        have hdigit := ofHexDigits?_append_singleton hempty (hexDigit?_digitChar n hlt)
        rwa [List.nil_append, Nat.zero_mul, Nat.zero_add] at hdigit
      case isFalse hle =>
        rw [ofHexDigits?_append_singleton (ih (n / 16) (by omega))
          (hexDigit?_digitChar (n % 16) (Nat.mod_lt n (by decide)))]
        exact congrArg some (by omega)

/-- Zeros in front make no difference. -/
theorem ofHexDigits?_replicate_append (k : Nat) (cs : List Char) :
    ofHexDigits? (List.replicate k '0' ++ cs) = ofHexDigits? cs := by
  induction k with
  | zero => rfl
  | succ k ih => exact ih

/-- What denotes a number consists of digits. -/
theorem isSome_hexDigit?_of_mem {cs : List Char} {n : Nat} (h : ofHexDigits? cs = some n)
    {c : Char} (hc : c ∈ cs) : (Json.hexDigit? c).isSome = true := by
  unfold ofHexDigits? at h
  generalize 0 = start at h
  induction cs generalizing start with
  | nil => cases hc
  | cons d cs ih =>
      rw [List.foldlM_cons] at h
      cases hd : Json.hexDigit? d with
      | none =>
          rw [hd] at h
          cases h
      | some k =>
          rw [hd] at h
          rcases List.mem_cons.mp hc with rfl | hc
          · rw [hd]
            rfl
          · exact ih hc _ h

variable {count n : Nat}

/-- A number that has no more digits than so many is written with exactly so many. -/
theorem length_hexDigits (hcount : 0 < count) (hn : n < 16 ^ count) :
    (hexDigits count n).length = count := by
  have hlength : (Nat.toDigits 16 n).length ≤ count :=
    (Nat.length_toDigits_le_iff (by decide) hcount).mpr hn
  simp only [hexDigits, Nat.pow_eq, Nat.mod_eq_of_lt hn, List.length_append, List.length_replicate]
  omega

/-- The digits of a number that has no more of them than so many denote it. -/
theorem ofHexDigits?_hexDigits (hn : n < 16 ^ count) :
    ofHexDigits? (hexDigits count n) = some n := by
  simp only [hexDigits, Nat.pow_eq, Nat.mod_eq_of_lt hn]
  rw [ofHexDigits?_replicate_append, ofHexDigits?_toDigits]

/-! ## Groups -/

variable {cs : List Char} {ns : List Nat}

/-- Characters in groups are as many as they are, with a hyphen between any two groups. -/
theorem length_hyphenated (hns : ns ≠ []) (hlength : ns.sum = cs.length) :
    (hyphenated ns cs).length + 1 = cs.length + ns.length := by
  induction ns generalizing cs with
  | nil => exact absurd rfl hns
  | cons n ns ih =>
      rw [List.sum_cons] at hlength
      cases ns with
      | nil =>
          simp only [hyphenated, List.length_take, List.sum_nil, List.length_cons,
            List.length_nil] at *
          omega
      | cons m ns =>
          have hdrop : (m :: ns).sum = (cs.drop n).length := by
            rw [List.length_drop]
            omega
          have hrest := ih (List.cons_ne_nil m ns) hdrop
          rw [List.length_drop, List.length_cons] at hrest
          simp only [hyphenated, List.length_append, List.length_cons, List.length_take]
          omega

/-- Between the hyphens the groups are found again. -/
theorem splitList_hyphenated (hns : ns ≠ []) (hlength : ns.sum = cs.length) (hcs : '-' ∉ cs) :
    Text.splitList (· == '-') (hyphenated ns cs) = ns.splitLengths cs := by
  rw [Text.splitList_eq_splitOnP]
  have hgroup {ds : List Char} (h : '-' ∉ ds) (n : Nat) :
      ∀ c ∈ ds.take n, (c == '-') = false := by
    intro c hc
    rw [beq_eq_false_iff_ne]
    rintro rfl
    exact h (List.mem_of_mem_take hc)
  induction ns generalizing cs with
  | nil => exact absurd rfl hns
  | cons n ns ih =>
      rw [List.sum_cons] at hlength
      cases ns with
      | nil =>
          rw [hyphenated, List.splitOnP_eq_singleton (hgroup hcs n), List.splitLengths_cons,
            List.splitLengths_nil]
      | cons m ns =>
          have hdrop : (m :: ns).sum = (cs.drop n).length := by
            rw [List.length_drop]
            omega
          have hrest := ih (List.cons_ne_nil m ns) hdrop fun h => hcs (List.mem_of_mem_drop h)
          show List.splitOnP _ (cs.take n ++ '-' :: hyphenated (m :: ns) (cs.drop n)) = _
          rw [List.splitOnP_append_cons_of_forall_mem (hgroup hcs n) '-' rfl, hrest,
            ← List.splitLengths_cons]

/-- The number in five groups is that of the digits without hyphens. -/
theorem ofGroups?_hyphenated (hlength : cs.length = 32) (h : ofHexDigits? cs = some n) :
    ofGroups? (hyphenated groupLengths cs) = some n := by
  have hsum : groupLengths.sum = cs.length := hlength.symm
  have hhyphen : '-' ∉ cs := fun hc => absurd (isSome_hexDigit?_of_mem h hc) (by decide)
  have hne : groupLengths ≠ [] := List.cons_ne_nil _ _
  have hgroups := splitList_hyphenated hne hsum hhyphen
  rw [ofGroups?, hgroups, if_pos (List.map_splitLengths_length cs groupLengths hsum.le),
    List.flatten_splitLengths cs groupLengths hsum.ge, h]

/-- The written form of an identifier is read as that identifier. -/
theorem parse_text (id : Identifier) : parse id.text = .ok id := by
  have hlt : (id.value : Nat) < 16 ^ 32 := id.value.isLt
  have hdigits := length_hexDigits (by decide) hlt
  have hlength : (hyphenated groupLengths (hexDigits 32 id.value)).length = 36 := by
    have hne : groupLengths ≠ [] := List.cons_ne_nil _ _
    have h := length_hyphenated hne hdigits.symm
    rw [hdigits] at h
    exact Nat.succ_injective h
  have hread : read? id.text.toList = some (id.value : Nat) := by
    rw [text, String.toList_ofList, read?, if_neg (by rw [hlength]; decide), if_pos hlength]
    exact ofGroups?_hyphenated hdigits (ofHexDigits?_hexDigits hlt)
  have hvalue : ofNat id.value = id := congrArg Identifier.mk (Fin.ofNat_val_eq_self id.value)
  rw [parse, hread]
  exact congrArg Except.ok hvalue

end Identifier
end Flowchart
