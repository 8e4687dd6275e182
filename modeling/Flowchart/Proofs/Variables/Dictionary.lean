import Mathlib.Algebra.GroupWithZero.Nat
import Mathlib.Data.List.Induction
import Mathlib.Data.List.Nodup
import Mathlib.Data.String.Basic
import Flowchart.Dictionary

/-!
# The order of dictionaries

Dictionaries come about by `insert`, which keeps the names in strictly ascending order
(`Sorted.insert`). Read `Sorted.ext` first: in that order nothing but the values under the names
tells two dictionaries apart. `insert_comm` says that it does not matter in which order values are
put under different names, and `ofList_eq_of_perm` that it does not matter for whole lists of pairs
either. Pairs that are in order already are a dictionary as they stand (`Sorted.ofList_eq`).
-/

namespace Flowchart.Dictionary

variable {α : Type} {d e : Dictionary α} {name : String} {value : α} {p : String × α}

/-- Values are put under different names in either order. -/
theorem insert_comm {first second : String} (hne : first ≠ second) (v u : α) (d : Dictionary α) :
    (d.insert first v).insert second u = (d.insert second u).insert first v := by
  have horder := lt_or_gt_of_ne hne
  induction d with
  | nil =>
      show insert second u [(first, v)] = insert first v [(second, u)]
      grind [insert, String.lt_asymm]
  | cons pair rest ih =>
      -- Behind a name that comes before both, the two go on into the rest.
      obtain ⟨other, otherValue⟩ := pair
      grind [insert, String.lt_asymm, String.lt_trans]

/-- The names are in strictly ascending order. -/
def Sorted (d : Dictionary α) : Prop := d.Pairwise (·.1 < ·.1)

/-- Whether names are in order can be computed. -/
instance (d : Dictionary α) : Decidable d.Sorted :=
  inferInstanceAs (Decidable (d.Pairwise (·.1 < ·.1)))

/-- What is in a dictionary after a value was put into it is that value or was there before. -/
theorem eq_or_mem_of_mem_insert (h : p ∈ d.insert name value) : p = (name, value) ∨ p ∈ d := by
  induction d with
  | nil => exact Or.inl (List.mem_singleton.mp h)
  | cons pair rest ih =>
      obtain ⟨other, otherValue⟩ := pair
      unfold insert at h
      split at h
      · rcases List.mem_cons.mp h with rfl | hrest
        · exact Or.inl rfl
        · exact Or.inr (List.mem_cons_of_mem _ hrest)
      · split at h
        · exact List.mem_cons.mp h
        · rcases List.mem_cons.mp h with rfl | hrest
          · exact Or.inr List.mem_cons_self
          · exact (ih hrest).imp_right (List.mem_cons_of_mem _)

/-- Putting a value into a dictionary keeps the names in order. -/
theorem Sorted.insert (h : d.Sorted) (name : String) (value : α) :
    (d.insert name value).Sorted := by
  induction d with
  | nil => exact List.pairwise_singleton _ _
  | cons pair rest ih =>
      obtain ⟨other, otherValue⟩ := pair
      obtain ⟨hother, hrest⟩ := List.pairwise_cons.mp h
      unfold Dictionary.insert
      split
      case isTrue heq =>
        subst heq
        exact List.pairwise_cons.mpr ⟨hother, hrest⟩
      case isFalse hne =>
        split
        case isTrue hlt =>
          refine List.pairwise_cons.mpr ⟨fun p hp => ?_, h⟩
          rcases List.mem_cons.mp hp with rfl | hp
          · exact hlt
          · exact String.lt_trans hlt (hother p hp)
        case isFalse hnot =>
          have hlt : other < name := (lt_or_gt_of_ne hne).resolve_left hnot
          refine List.pairwise_cons.mpr ⟨fun p hp => ?_, ih hrest⟩
          rcases eq_or_mem_of_mem_insert hp with rfl | hp
          · exact hlt
          · exact hother p hp

/-- In an ordered dictionary the value under a name is the one that it holds with the name. -/
theorem Sorted.get?_eq_some_iff (h : d.Sorted) : d.get? name = some value ↔ (name, value) ∈ d := by
  induction d with
  | nil => simp [get?]
  | cons pair rest ih =>
      obtain ⟨other, otherValue⟩ := pair
      obtain ⟨hother, hrest⟩ := List.pairwise_cons.mp h
      by_cases heq : name = other
      · subst heq
        have hnot : (name, value) ∉ rest := fun hmem => String.lt_irrefl name (hother _ hmem)
        simp [get?, hnot, eq_comm]
      · have hskip : get? name ((other, otherValue) :: rest) = get? name rest := by
          simp [get?, List.lookup_cons, beq_false_of_ne heq]
        rw [hskip, ih hrest]
        simp [heq]

/-- Ordered dictionaries with the same values under all names are equal. -/
theorem Sorted.ext (hd : d.Sorted) (he : e.Sorted) (h : ∀ name, d.get? name = e.get? name) :
    d = e := by
  have hnodup {d : Dictionary α} (hd : d.Sorted) : d.Nodup :=
    hd.imp fun {a b} hlt heq => by
      subst heq
      exact String.lt_irrefl _ hlt
  refine List.Perm.eq_of_pairwise (fun a b _ _ hab hba => absurd hba (String.lt_asymm hab)) hd he ?_
  rw [List.perm_ext_iff_of_nodup (hnodup hd) (hnodup he)]
  rintro ⟨name, value⟩
  rw [← hd.get?_eq_some_iff, ← he.get?_eq_some_iff, h name]

/-! ## Dictionaries of lists of pairs -/

variable {pairs : List (String × α)}

/-- One more pair is put into the dictionary of those before. -/
theorem ofList_concat (pairs : List (String × α)) (p : String × α) :
    ofList (pairs ++ [p]) = (ofList pairs).insert p.1 p.2 :=
  List.foldl_concat ..

/-- The dictionary of any pairs has its names in order. -/
theorem sorted_ofList (pairs : List (String × α)) : (ofList pairs).Sorted := by
  induction pairs using List.reverseRecOn with
  | nil => exact List.Pairwise.nil
  | append_singleton pairs p ih =>
      rw [ofList_concat]
      exact ih.insert p.1 p.2

/-- A dictionary holds nothing but the pairs that it was made of. -/
theorem mem_of_mem_ofList (h : p ∈ ofList pairs) : p ∈ pairs := by
  induction pairs using List.reverseRecOn with
  | nil => exact h
  | append_singleton pairs q ih =>
      rw [ofList_concat] at h
      rcases eq_or_mem_of_mem_insert h with rfl | hmem
      · exact List.mem_append_right _ List.mem_cons_self
      · exact List.mem_append_left _ (ih hmem)

/-- A pair with a name of its own is in the dictionary. -/
theorem mem_ofList (h : p ∈ pairs) (hname : ∀ q ∈ pairs, q.1 = p.1 → q = p) :
    p ∈ ofList pairs := by
  induction pairs using List.reverseRecOn with
  | nil => exact h
  | append_singleton pairs q ih =>
      have hlast := hname q (List.mem_append_right _ List.mem_cons_self)
      rw [ofList_concat, ← ((sorted_ofList pairs).insert q.1 q.2).get?_eq_some_iff, get?_insert]
      by_cases heq : q.1 = p.1
      · obtain rfl := hlast heq
        exact if_pos rfl
      · have hmem : p ∈ pairs := by
          rcases List.mem_append.mp h with hmem | hmem
          · exact hmem
          · exact absurd (congrArg Prod.fst (List.mem_singleton.mp hmem).symm) heq
        rw [if_neg (Ne.symm heq), (sorted_ofList pairs).get?_eq_some_iff]
        exact ih hmem fun r hr => hname r (List.mem_append_left _ hr)

/-- Pairs with different names make up the same dictionary in any order. -/
theorem ofList_eq_of_perm {pairs' : List (String × α)} (h : pairs.Perm pairs')
    (hnodup : (pairs.map (·.1)).Nodup) : ofList pairs = ofList pairs' := by
  refine h.foldl_eq' (fun p hp q hq d => ?_) []
  by_cases heq : p.1 = q.1
  · obtain rfl := List.inj_on_of_nodup_map hnodup hp hq heq
    rfl
  · exact insert_comm heq p.2 q.2 d

/-- A value under a name that comes after all others is put at the end. -/
theorem insert_of_forall_lt (h : ∀ p ∈ d, p.1 < name) :
    d.insert name value = d ++ [(name, value)] := by
  induction d with
  | nil => rfl
  | cons pair rest ih =>
      obtain ⟨other, otherValue⟩ := pair
      obtain ⟨hother, hrest⟩ := List.forall_mem_cons.mp h
      have hne : name ≠ other := fun heq => String.lt_irrefl name (heq ▸ hother)
      rw [Dictionary.insert, if_neg hne, if_neg (String.lt_asymm hother), ih hrest]
      rfl

/-- Pairs in order are a dictionary as they stand. -/
theorem Sorted.ofList_eq (h : d.Sorted) : ofList d = d := by
  induction d using List.reverseRecOn with
  | nil => rfl
  | append_singleton pairs p ih =>
      obtain ⟨hpairs, _, hlast⟩ := List.pairwise_append.mp h
      rw [ofList_concat, ih hpairs]
      exact insert_of_forall_lt fun q hq => hlast q hq p List.mem_cons_self

/-- Putting a pair into a dictionary adds no more than that pair to a sum over all pairs. -/
theorem sum_insert_le (f : String × α → Nat) (name : String) (value : α) (d : Dictionary α) :
    ((d.insert name value).map f).sum ≤ (d.map f).sum + f (name, value) := by
  induction d with
  | nil => simp [insert]
  | cons p rest ih =>
      obtain ⟨other, otherValue⟩ := p
      unfold insert
      split
      · simp only [List.map_cons, List.sum_cons]
        omega
      · split
        · simp only [List.map_cons, List.sum_cons]
          omega
        · simp only [List.map_cons, List.sum_cons]
          omega

/-- A sum over a dictionary is no more than that over the pairs that it was made of. -/
theorem sum_ofList_le (f : String × α → Nat) (pairs : List (String × α)) :
    ((ofList pairs).map f).sum ≤ (pairs.map f).sum := by
  induction pairs using List.reverseRecOn with
  | nil => exact Nat.le_refl _
  | append_singleton pairs p ih =>
      obtain ⟨name, value⟩ := p
      have hinsert := sum_insert_le f name value (ofList pairs)
      rw [List.map_append, List.sum_append, List.map_singleton, List.sum_singleton, ofList_concat]
      show ((insert name value (ofList pairs)).map f).sum ≤ _
      omega

end Flowchart.Dictionary
