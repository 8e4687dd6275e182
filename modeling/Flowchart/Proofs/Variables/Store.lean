import Mathlib.Data.List.Induction
import Mathlib.Data.List.Nodup
import Flowchart.Proofs.Variables.Dictionary
import Flowchart.Variables.Store

/-!
# What assignments do to a store

All that a run does to its variables is to assign to them, one after another (`Store.Assigns`).
Variables without an assignment keep their values, no variable is ever lost, and the variables stay
in order. Two stores that agree but for some hidden variables go on to do so after the same
assignments (`Store.AgreesOff`).
-/

namespace Flowchart.Store

variable {s t u s' : Store} {name value x : String} {names : List String} {hidden : String → Prop}

/-! ## Single assignments -/

/-- A value is found under the name of its variable; an assignment to no variable has no effect. -/
theorem get?_set (s : Store) (name value x : String) : (s.set name value).values.get? x =
    if x = variableName name ∧ x ≠ "" then some value else s.values.get? x := by
  unfold set
  by_cases hempty : variableName name = ""
  · rw [if_pos hempty, hempty, if_neg fun h => h.2 h.1]
  · rw [if_neg hempty, Dictionary.get?_insert]
    by_cases hx : x = variableName name
    · subst hx
      rw [if_pos rfl, if_pos ⟨rfl, hempty⟩]
    · rw [if_neg hx, if_neg fun h => hx h.1]

/-- An assignment keeps the variables in order. -/
theorem sorted_set (h : s.values.Sorted) (name value : String) :
    (s.set name value).values.Sorted := by
  unfold set
  split
  · exact h
  · exact h.insert _ _

/-- Different variables are assigned to in either order. -/
theorem set_comm {first second : String} (hne : variableName first ≠ variableName second)
    (v w : String) (s : Store) :
    (s.set first v).set second w = (s.set second w).set first v := by
  unfold set
  by_cases hfirst : variableName first = ""
  · simp [hfirst]
  · by_cases hsecond : variableName second = ""
    · simp [hsecond]
    · simp only [if_neg hfirst, if_neg hsecond]
      rw [Dictionary.insert_comm hne]

/-! ## Assignments one after another -/

/-- A store has come from another one by assignments to variables with some names. -/
inductive Assigns (names : List String) (s : Store) : Store → Prop where
  | refl : Assigns names s s
  | set {t : Store} {name : String} (value : String) (h : Assigns names s t)
      (hname : variableName name ∈ names) : Assigns names s (t.set name value)

namespace Assigns

/-- Assignments can be made to more variables. -/
theorem mono {more : List String} (h : s.Assigns names t) (hsub : names ⊆ more) :
    s.Assigns more t := by
  induction h with
  | refl => exact .refl
  | set value _ hname ih => exact ih.set value (hsub hname)

/-- Assignments can follow assignments. -/
theorem trans (h : s.Assigns names t) (h' : t.Assigns names u) : s.Assigns names u := by
  induction h' with
  | refl => exact h
  | set value _ hname ih => exact ih.set value hname

/-- A variable without an assignment keeps its value, or goes on not to exist. -/
theorem get?_eq (h : s.Assigns names t) (hx : x ∉ names) :
    t.values.get? x = s.values.get? x := by
  induction h with
  | refl => rfl
  | @set t name value _ hname ih =>
      have hne : x ≠ variableName name := fun heq => hx (heq ▸ hname)
      rw [get?_set, if_neg fun h => hne h.1, ih]

/-- No assignment removes a variable. -/
theorem isSome_get? (h : s.Assigns names t) (hx : (s.values.get? x).isSome = true) :
    (t.values.get? x).isSome = true := by
  induction h with
  | refl => exact hx
  | set value _ _ ih =>
      rw [get?_set]
      split
      · rfl
      · exact ih

/-- Assignments keep the variables in order. -/
theorem sorted (h : s.Assigns names t) (hs : s.values.Sorted) : t.values.Sorted := by
  induction h with
  | refl => exact hs
  | set value _ _ ih => exact sorted_set ih _ value

end Assigns

/-! ## Stores from lists of assignments -/

/-- A list of assignments decides the variables that it assigns to, and leaves the others as they
were. -/
theorem get?_foldl_set (pairs : List (String × String)) (s : Store) (x : String) :
    (pairs.foldl (fun store (name, value) => store.set name value) s).values.get? x =
      ((ofList pairs).values.get? x).or (s.values.get? x) := by
  -- The induction is on the list from its end, where the last assignment to a variable stands.
  unfold ofList
  induction pairs using List.reverseRecOn with
  | nil => rfl
  | append_singleton pairs pair ih =>
      simp only [List.foldl_append, List.foldl_cons, List.foldl_nil, get?_set]
      rw [ih]
      split <;> rfl

/-- Of the assignments of two lists, those of the second one count. -/
theorem get?_ofList_append (first second : List (String × String)) (x : String) :
    (ofList (first ++ second)).values.get? x =
      ((ofList second).values.get? x).or ((ofList first).values.get? x) := by
  have hfold := get?_foldl_set second (ofList first) x
  unfold ofList at hfold ⊢
  rw [List.foldl_append]
  exact hfold

/-- The variables of a list of assignments are in order. -/
theorem sorted_ofList (pairs : List (String × String)) : (ofList pairs).values.Sorted := by
  unfold ofList
  induction pairs using List.reverseRecOn with
  | nil => exact List.Pairwise.nil
  | append_singleton pairs pair ih =>
      rw [List.foldl_append]
      exact sorted_set ih _ _

/-- No two assignments of a list give different values to one variable. -/
def Consistent (pairs : List (String × String)) : Prop :=
  ∀ p ∈ pairs, ∀ q ∈ pairs,
    variableName p.1 = variableName q.1 → variableName p.1 ≠ "" → p.2 = q.2

/-- Assignments are compared pair by pair. -/
instance (pairs : List (String × String)) : Decidable (Consistent pairs) :=
  inferInstanceAs (Decidable (∀ p ∈ pairs, ∀ q ∈ pairs, _))

/-- Assignments to different variables are consistent. -/
theorem consistent_of_nodup {pairs : List (String × String)}
    (h : (pairs.map fun pair => variableName pair.1).Nodup) : Consistent pairs := by
  intro p hp q hq hpq _
  rw [List.inj_on_of_nodup_map h hp hq hpq]

/-- Assignments that agree on the variable and its value are the same. -/
theorem set_congr {first second v w : String} (hname : variableName first = variableName second)
    (hvalue : variableName first ≠ "" → v = w) (s : Store) : s.set first v = s.set second w := by
  unfold set
  by_cases hempty : variableName first = ""
  · rw [if_pos hempty, if_pos (hname ▸ hempty)]
  · rw [hvalue hempty, hname]

/-- Consistent assignments can be made in any order. -/
theorem Consistent.foldl_set_eq_of_perm {pairs order : List (String × String)}
    (h : Consistent pairs) (hperm : pairs.Perm order) (s : Store) :
    pairs.foldl (fun store (name, value) => store.set name value) s =
      order.foldl (fun store (name, value) => store.set name value) s := by
  refine hperm.foldl_eq' (fun p hp q hq store => ?_) s
  by_cases hpq : variableName p.1 = variableName q.1
  · have hset := set_congr hpq (h p hp q hq hpq)
    simp only [hset]
  · exact set_comm hpq p.2 q.2 store

/-- Assignments to different variables can be made in any order. -/
theorem ofList_append_eq_of_perm {first second : List (String × String)} (h : first.Perm second)
    (hnames : (first.map fun pair => variableName pair.1).Nodup)
    (rest : List (String × String)) : ofList (first ++ rest) = ofList (second ++ rest) := by
  unfold ofList
  rw [List.foldl_append, List.foldl_append, (consistent_of_nodup hnames).foldl_set_eq_of_perm h]

/-- The value that a list assigns to a variable at its end is the value of the variable. -/
theorem get?_ofList_concat {p : String × String} (h : variableName p.1 ≠ "")
    (pairs : List (String × String)) :
    (ofList (pairs ++ [p])).values.get? (variableName p.1) = some p.2 := by
  unfold ofList
  rw [List.foldl_append]
  show ((ofList pairs).set p.1 p.2).values.get? (variableName p.1) = some p.2
  rw [get?_set, if_pos ⟨rfl, h⟩]

/-- The order of assignments after others makes no difference exactly when they are consistent. -/
theorem ofList_append_perm_iff (first pairs : List (String × String)) :
    (∀ order, pairs.Perm order → ofList (first ++ order) = ofList (first ++ pairs)) ↔
      Consistent pairs := by
  constructor
  · intro hsame p hp q hq hpq hempty
    -- Whichever assignment is made at the end decides the value.
    have hlast {r : String × String} (hr : r ∈ pairs) (hname : variableName r.1 ≠ "") :
        (ofList (first ++ pairs)).values.get? (variableName r.1) = some r.2 := by
      have hperm : pairs.Perm (pairs.erase r ++ [r]) :=
        (List.perm_cons_erase hr).trans (List.perm_append_singleton r _).symm
      rw [← hsame _ hperm, ← List.append_assoc, get?_ofList_concat hname]
    have hq' := hlast hq (hpq ▸ hempty)
    rw [← hpq, hlast hp hempty] at hq'
    exact Option.some.inj hq'
  · intro hconsistent order hperm
    unfold ofList
    rw [List.foldl_append, List.foldl_append, hconsistent.foldl_set_eq_of_perm hperm]

/-! ## Agreement but for hidden variables -/

/-- Two stores agree on all variables that are not hidden. -/
def AgreesOff (hidden : String → Prop) (s t : Store) : Prop :=
  ∀ x, ¬ hidden x → s.values.get? x = t.values.get? x

/-- A store agrees with itself. -/
theorem AgreesOff.refl (hidden : String → Prop) (s : Store) : s.AgreesOff hidden s :=
  fun _ _ => rfl

/-- Stores agree on a variable if they agreed before both were assigned the same value. -/
theorem get?_set_congr (h : s.values.get? x = t.values.get? x) (name value : String) :
    (s.set name value).values.get? x = (t.set name value).values.get? x := by
  rw [get?_set, get?_set, h]

/-- Agreement is kept by an assignment to both stores. -/
theorem AgreesOff.set (h : s.AgreesOff hidden t) (name value : String) :
    (s.set name value).AgreesOff hidden (t.set name value) :=
  fun x hx => get?_set_congr (h x hx) name value

end Flowchart.Store
