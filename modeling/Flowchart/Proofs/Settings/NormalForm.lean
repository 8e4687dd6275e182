import Mathlib.Algebra.Order.BigOperators.Group.List
import Flowchart.Handler.Settings
import Flowchart.Proofs.Json.Compact
import Flowchart.Proofs.Text.LowerCase

/-!
# Documents in normal form

A document with all names in normal form is its own normal form (`normalize_eq_self`). Any other one
is not even printed like its normal form (`compact_normalize_eq_iff`): the normal form has fewer
characters that cannot stand in a normal name, the *odd* ones, since it has none of them in names
and no more of them elsewhere.
-/

namespace Flowchart.Settings

open Json

/-- Members are normalized one by one. -/
theorem normalizeMembers_eq_map (ms : List (String × Value)) :
    normalizeMembers ms = ms.map fun m => (normalName m.1, normalize m.2) := by
  induction ms with
  | nil => rfl
  | cons m rest ih => rw [normalizeMembers, ih, List.map_cons]

/-- Elements are normalized one by one. -/
theorem normalizeElements_eq_map (vs : List Value) : normalizeElements vs = vs.map normalize := by
  induction vs with
  | nil => rfl
  | cons v rest ih => rw [normalizeElements, ih, List.map_cons]

/-! ## Names -/

/-- A character that may stand in a name in normal form. -/
def IsNormal (c : Char) : Prop := Text.IsLower c ∧ c ≠ '_' ∧ c ≠ '-'

/-- Whether a character may stand in a normal name can be computed. -/
instance (c : Char) : Decidable (IsNormal c) := inferInstanceAs (Decidable (_ ∧ _))

/-- A name in normal form consists of characters that may stand in one. -/
theorem isNormal_of_mem_normalName {name : String} {c : Char} (h : c ∈ (normalName name).toList) :
    IsNormal c := by
  rw [normalName, String.toList_ofList, List.mem_filter] at h
  obtain ⟨hmem, hkept⟩ := h
  simp only [ne_eq, Bool.and_eq_true, decide_eq_true_eq] at hkept
  exact ⟨Text.isLower_of_mem_lower hmem, hkept.1, hkept.2⟩

/-- A name is in normal form if all its characters may stand in one. -/
theorem normalName_eq_self_iff {name : String} :
    normalName name = name ↔ ∀ c ∈ name.toList, IsNormal c := by
  constructor
  · intro h c hc
    rw [← h] at hc
    exact isNormal_of_mem_normalName hc
  · intro h
    have hkeep : name.toList.filter (fun c => c ≠ '_' && c ≠ '-') = name.toList :=
      List.filter_eq_self.mpr fun c hc => by simp [(h c hc).2.1, (h c hc).2.2]
    rw [normalName, Text.lower_eq_self fun c hc => (h c hc).1, hkeep, String.ofList_toList]

mutual
/-- All names in a document are in normal form. -/
def HasNormalNames : Value → Prop
  | .object ms => MembersHaveNormalNames ms
  | .array vs => ElementsHaveNormalNames vs
  | .null | .bool _ | .number _ | .string _ => True

/-- All names in the elements of an array are in normal form. -/
def ElementsHaveNormalNames : List Value → Prop
  | [] => True
  | v :: rest => HasNormalNames v ∧ ElementsHaveNormalNames rest

/-- All names of members and all names in their values are in normal form. -/
def MembersHaveNormalNames : List (String × Value) → Prop
  | [] => True
  | (name, v) :: rest => normalName name = name ∧ HasNormalNames v ∧ MembersHaveNormalNames rest
end

/-- The names in the elements of an array are those in each of them. -/
theorem elementsHaveNormalNames_iff {vs : List Value} :
    ElementsHaveNormalNames vs ↔ ∀ v ∈ vs, HasNormalNames v := by
  induction vs with
  | nil => simp [ElementsHaveNormalNames]
  | cons v rest ih => rw [ElementsHaveNormalNames, ih, List.forall_mem_cons]

/-- The names in the members of an object are those of each of them and in each of them. -/
theorem membersHaveNormalNames_iff {ms : List (String × Value)} :
    MembersHaveNormalNames ms ↔ ∀ m ∈ ms, normalName m.1 = m.1 ∧ HasNormalNames m.2 := by
  induction ms with
  | nil => simp [MembersHaveNormalNames]
  | cons m rest ih => rw [MembersHaveNormalNames, ih, List.forall_mem_cons, and_assoc]

/-- A document that has its names in normal form, and its members in order, stays as it is. -/
theorem normalize_eq_self {v : Value} (hordered : v.IsOrdered) (hnames : HasNormalNames v) :
    normalize v = v := by
  induction v using Value.inductionOnParts with
  | null => rfl
  | bool b => rfl
  | number n => rfl
  | string s => rfl
  | array vs ih =>
      have hordered := elementsOrdered_iff.mp hordered
      have hnames := elementsHaveNormalNames_iff.mp hnames
      have hmap : vs.map normalize = vs :=
        (List.map_congr_left fun v hv => ih v hv (hordered v hv) (hnames v hv)).trans vs.map_id
      rw [normalize, normalizeElements_eq_map, hmap]
  | object ms ih =>
      obtain ⟨hsorted, hordered⟩ := hordered
      have hordered := membersOrdered_iff.mp hordered
      have hnames := membersHaveNormalNames_iff.mp hnames
      have hmap : ms.map (fun m => (normalName m.1, normalize m.2)) = ms := by
        refine (List.map_congr_left fun m hm => ?_).trans ms.map_id
        exact Prod.ext (hnames m hm).1 (ih m hm (hordered m hm) (hnames m hm).2)
      rw [normalize, normalizeMembers_eq_map, hmap, hsorted.ofList_eq]

/-! ## Odd characters -/

/-- The number of characters that cannot stand in a normal name. -/
def oddCount (cs : List Char) : Nat := cs.countP fun c => !decide (IsNormal c)

/-- The odd characters of a list are those of its parts. -/
theorem oddCount_append (cs ds : List Char) : oddCount (cs ++ ds) = oddCount cs + oddCount ds :=
  List.countP_append ..

/-- A normal character adds nothing. -/
theorem oddCount_cons {c : Char} (h : IsNormal c) (cs : List Char) :
    oddCount (c :: cs) = oddCount cs :=
  List.countP_cons_of_neg (by simp [h])

/-- A character is written with as many odd characters as it is. -/
theorem oddCount_escapeChar (c : Char) : oddCount (escapeChar c) = oddCount [c] := by
  rcases escapeChar_cases c with ⟨letter, hescape, himage⟩ | ⟨hcontrol, hescape⟩ |
    ⟨_, _, _, hescape⟩
  · rw [hescape]
    unfold simpleEscape? at himage
    split at himage <;> cases himage <;> decide +kernel
  · have hall : ∀ n < 32, oddCount (unicodeEscape (Char.ofNat n)) = oddCount [Char.ofNat n] := by
      decide +kernel
    have hc := hall c.toNat hcontrol
    rwa [Char.ofNat_toNat, ← hescape] at hc
  · rw [hescape]

/-- The characters around and between the parts of a document are normal. -/
theorem isNormal_punctuation : ∀ c ∈ ['"', '[', ']', '\x7b', '\x7d', ',', ':'], IsNormal c := by
  have hascii : ['"', '[', ']', '\x7b', '\x7d', ',', ':'].all fun c =>
      c.toNat < 128 && c.toLower = c && c ≠ '_' && c ≠ '-' := by
    decide
  intro c hc
  have hkept := List.all_eq_true.mp hascii c hc
  simp only [Bool.and_eq_true, decide_eq_true_eq] at hkept
  obtain ⟨⟨⟨hlt, hlower⟩, hunderscore⟩, hhyphen⟩ := hkept
  exact ⟨Text.isLower_of_toLower_eq hlt hlower, hunderscore, hhyphen⟩

/-- A text is written with its odd characters and no others. -/
theorem oddCount_stringText (s : String) : oddCount (stringText s) = oddCount s.toList := by
  have hquote : IsNormal '"' := isNormal_punctuation _ List.mem_cons_self
  have hchars (cs : List Char) : oddCount (cs.flatMap escapeChar) = oddCount cs := by
    induction cs with
    | nil => rfl
    | cons c cs ih =>
        rw [List.flatMap_cons, oddCount_append, oddCount_escapeChar, ih, ← oddCount_append]
        rfl
  rw [stringText, List.cons_append, oddCount_cons hquote, oddCount_append, hchars,
    oddCount_cons hquote]
  rfl

/-- The odd characters of a document as it is printed. -/
def oddity (v : Value) : Nat := oddCount v.compactChars

/-- The odd characters of a text in parts are those of the parts. -/
theorem oddCount_joined (first : Bool) (parts : List (List Char)) :
    oddCount (joined first parts) = (parts.map oddCount).sum := by
  induction parts generalizing first with
  | nil => rfl
  | cons part parts ih =>
      rw [List.map_cons, List.sum_cons, ← ih false]
      cases first with
      | true => rw [joined, oddCount_append]
      | false =>
          rw [joined, List.cons_append, oddCount_cons (isNormal_punctuation _ (by simp)),
            oddCount_append]

/-- The odd characters of an array are those of its elements. -/
theorem oddity_array (vs : List Value) : oddity (.array vs) = (vs.map oddity).sum := by
  rw [oddity, Value.compactChars, List.cons_append,
    oddCount_cons (isNormal_punctuation _ (by simp)), oddCount_append,
    oddCount_cons (isNormal_punctuation _ (by simp)), compactElements_eq_joined, oddCount_joined,
    List.map_map]
  rfl

/-- The odd characters of an object are those of the names and values of its members. -/
theorem oddity_object (ms : List (String × Value)) :
    oddity (.object ms) = (ms.map fun m => oddCount m.1.toList + oddity m.2).sum := by
  have hmember (m : String × Value) :
      oddCount (memberChars m) = oddCount m.1.toList + oddity m.2 := by
    rw [memberChars, oddCount_append, oddCount_stringText,
      oddCount_cons (isNormal_punctuation _ (by simp))]
    rfl
  rw [oddity, Value.compactChars, List.cons_append,
    oddCount_cons (isNormal_punctuation _ (by simp)), oddCount_append,
    oddCount_cons (isNormal_punctuation _ (by simp)), compactMembers_eq_joined, oddCount_joined,
    List.map_map]
  exact congrArg List.sum (List.map_congr_left fun m _ => hmember m)

/-- A normal name has no odd characters. -/
theorem oddCount_normalName (name : String) : oddCount (normalName name).toList = 0 :=
  List.countP_eq_zero.mpr fun c hc => by simp [isNormal_of_mem_normalName hc]

/-- A name that is not normal has odd characters. -/
theorem oddCount_pos {name : String} (h : normalName name ≠ name) : 0 < oddCount name.toList := by
  rw [oddCount, List.countP_pos_iff]
  by_contra hnone
  refine h (normalName_eq_self_iff.mpr fun c hc => ?_)
  by_contra hodd
  exact hnone ⟨c, hc, by simp [hodd]⟩

/-- The normal form of an object has no more odd characters than the normal forms of its values. -/
theorem oddity_normalize_object_le (ms : List (String × Value)) :
    oddity (normalize (.object ms)) ≤ (ms.map fun m => oddity (normalize m.2)).sum := by
  rw [normalize, oddity_object, normalizeMembers_eq_map]
  refine (Dictionary.sum_ofList_le _ _).trans (le_of_eq ?_)
  rw [List.map_map]
  refine congrArg List.sum (List.map_congr_left fun m _ => ?_)
  simp only [Function.comp_apply, oddCount_normalName, Nat.zero_add]

/-- The normal form of a document has no more odd characters than the document. -/
theorem oddity_normalize_le (v : Value) : oddity (normalize v) ≤ oddity v := by
  induction v using Value.inductionOnParts with
  | null => exact le_refl _
  | bool b => exact le_refl _
  | number n => exact le_refl _
  | string s => exact le_refl _
  | array vs ih =>
      rw [normalize, normalizeElements_eq_map, oddity_array, oddity_array, List.map_map]
      exact List.sum_le_sum fun v hv => ih v hv
  | object ms ih =>
      refine (oddity_normalize_object_le ms).trans ?_
      rw [oddity_object]
      exact List.sum_le_sum fun m hm => (ih m hm).trans (Nat.le_add_left _ _)

/-- The normal form of a document has fewer odd characters unless all names are normal. -/
theorem oddity_normalize_lt {v : Value} (h : ¬HasNormalNames v) :
    oddity (normalize v) < oddity v := by
  induction v using Value.inductionOnParts with
  | null => exact absurd True.intro h
  | bool b => exact absurd True.intro h
  | number n => exact absurd True.intro h
  | string s => exact absurd True.intro h
  | array vs ih =>
      rw [HasNormalNames, elementsHaveNormalNames_iff] at h
      push Not at h
      obtain ⟨v, hv, hodd⟩ := h
      rw [normalize, normalizeElements_eq_map, oddity_array, oddity_array, List.map_map]
      exact List.sum_lt_sum _ _ (fun w _ => oddity_normalize_le w) ⟨v, hv, ih v hv hodd⟩
  | object ms ih =>
      rw [HasNormalNames, membersHaveNormalNames_iff] at h
      push Not at h
      obtain ⟨m, hm, hodd⟩ := h
      refine (oddity_normalize_object_le ms).trans_lt ?_
      rw [oddity_object]
      refine List.sum_lt_sum _ _
        (fun n _ => (oddity_normalize_le n.2).trans (Nat.le_add_left _ _)) ⟨m, hm, ?_⟩
      by_cases hname : normalName m.1 = m.1
      · exact (ih m hm (hodd hname)).trans_le (Nat.le_add_left _ _)
      · have := oddCount_pos hname
        have := oddity_normalize_le m.2
        omega

/-- A document in order is printed like its normal form only if all its names are normal. -/
theorem compact_normalize_eq_iff {v : Value} (hordered : v.IsOrdered) :
    (normalize v).compact = v.compact ↔ HasNormalNames v := by
  constructor
  · intro h
    by_contra hodd
    have hlt := oddity_normalize_lt hodd
    have hchars : (normalize v).compactChars = v.compactChars := String.ofList_injective h
    rw [oddity, oddity, hchars] at hlt
    exact lt_irrefl _ hlt
  · intro h
    rw [normalize_eq_self hordered h]

/-- The normal form of a document in order has the same text as the document only if all names are
normal. -/
theorem scalarText_normalize_eq_iff {v : Value} (hordered : v.IsOrdered) :
    (normalize v).scalarText = v.scalarText ↔ HasNormalNames v := by
  cases v with
  | null => exact ⟨fun _ => True.intro, fun _ => rfl⟩
  | bool b => exact ⟨fun _ => True.intro, fun _ => rfl⟩
  | number n => exact ⟨fun _ => True.intro, fun _ => rfl⟩
  | string s => exact ⟨fun _ => True.intro, fun _ => rfl⟩
  | array vs => exact compact_normalize_eq_iff hordered
  | object ms => exact compact_normalize_eq_iff hordered

end Flowchart.Settings
