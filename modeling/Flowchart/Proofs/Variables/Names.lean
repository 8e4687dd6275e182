import Mathlib.Data.Finset.Max
import Flowchart.Proofs.Text.Blank
import Flowchart.Proofs.Variables.Store

/-!
# What a text names

A text names a variable by what is left of it without blanks and one sigil. What is left may begin
with a sigil again, as it does for `$$x`. A name that does not is plain (`IsPlainName`), and plain
names are their own names (`variableName_eq_self`); any other name stands for a shorter one
(`length_variableName_lt`).

A reference takes one sigil off before the store takes off another one (`resolve_eq_getD`). So a
variable is found under every text that names it if its name is plain, and references miss it if
not: `names_agree_iff` says so for assignments, for the names in a store, and for a store that is
made anew of the variables of another one.
-/

namespace Flowchart

/-- A name that does not begin with the sigil. -/
def IsPlainName (x : String) : Prop := x.toList.head? ≠ some sigil

/-- Whether a name is plain is decided by its first character. -/
instance (x : String) : Decidable (IsPlainName x) := inferInstanceAs (Decidable (_ ≠ _))

/-- A token that refers to a variable: without blanks around it, it begins with the sigil. -/
def IsReference (token : String) : Prop := (Text.trimList token.toList).head? = some sigil

/-- Whether a token is a reference is decided by its first character that is not blank. -/
instance (token : String) : Decidable (IsReference token) := inferInstanceAs (Decidable (_ = _))

variable {x token : String}

/-- What a text names has no blanks around it. -/
theorem trimList_variableName (s : String) :
    Text.trimList (variableName s).toList = (variableName s).toList := by
  have htrim := Text.trimList_trimList s.toList
  unfold variableName
  dsimp only
  split
  · rfl
  · next c rest heq =>
      rw [heq] at htrim
      split
      · rw [String.toList_ofList, Text.trimList_trimList]
      · rw [heq, String.toList_ofList, htrim]

/-- A plain name without blanks around it names itself. -/
theorem variableName_eq_self (htrim : Text.trimList x.toList = x.toList) (h : IsPlainName x) :
    variableName x = x := by
  unfold variableName
  rw [htrim]
  cases hx : x.toList with
  | nil => exact (String.toList_eq_nil_iff.mp hx).symm
  | cons c rest =>
      have hc : c ≠ sigil := fun hc => h (by rw [hx, hc]; rfl)
      dsimp only
      rw [if_neg hc, ← hx, String.ofList_toList]

/-- A name that is not plain names another variable, with a shorter name. -/
theorem length_variableName_lt (htrim : Text.trimList x.toList = x.toList)
    (h : ¬IsPlainName x) : (variableName x).length < x.length := by
  obtain ⟨rest, hx⟩ := List.head?_eq_some_iff.mp (not_not.mp h)
  unfold variableName
  rw [htrim, hx]
  dsimp only
  rw [if_pos rfl, ← String.length_toList, ← String.length_toList, String.toList_ofList, hx]
  exact Nat.lt_succ_of_le (Text.length_trimList_le rest)

/-- What a text names is its own name exactly if it is plain. -/
theorem variableName_variableName_iff (s : String) :
    variableName (variableName s) = variableName s ↔ IsPlainName (variableName s) := by
  refine ⟨fun heq => ?_, variableName_eq_self (trimList_variableName s)⟩
  by_contra hplain
  have hshorter := length_variableName_lt (trimList_variableName s) hplain
  rw [heq] at hshorter
  exact Nat.lt_irrefl _ hshorter

/-- Texts that are trimmed to the same list name the same variable. -/
theorem variableName_congr {s t : String} (h : Text.trimList s.toList = Text.trimList t.toList) :
    variableName s = variableName t := by
  unfold variableName
  rw [h]

/-- A blank text names no variable. -/
theorem variableName_of_isBlankText {s : String} (h : Text.isBlankText s = true) :
    variableName s = "" := by
  unfold variableName
  rw [Text.isBlankText_iff.mp h]

/-- A reference gives the name behind its sigil. -/
theorem variableName_of_trimList {rest : List Char}
    (h : Text.trimList token.toList = sigil :: rest) :
    variableName token = String.ofList (Text.trimList rest) := by
  unfold variableName
  rw [h]
  exact congrArg String.ofList (if_pos rfl)

/-- Every name that some text gives is also given by a reference. -/
theorem exists_isReference (s : String) :
    ∃ token, IsReference token ∧ variableName token = variableName s := by
  have hsigil : Text.isBlank sigil = false := by decide
  have htrim : Text.trimList (String.ofList (sigil :: (variableName s).toList)).toList =
      sigil :: (variableName s).toList := by
    rw [String.toList_ofList, Text.trimList_cons hsigil (trimList_variableName s)]
  refine ⟨String.ofList (sigil :: (variableName s).toList), ?_, ?_⟩
  · rw [IsReference, htrim]
    rfl
  · rw [variableName_of_trimList htrim, trimList_variableName, String.ofList_toList]

namespace Store

variable {s : Store} {name value : String}

/-- A reference has the value of the variable that its name names once more. -/
theorem resolve_eq_getD (h : IsReference token) (s : Store) :
    s.resolve token = s.getD (variableName token) := by
  obtain ⟨rest, htrim⟩ := List.head?_eq_some_iff.mp h
  have hrest : variableName (String.ofList rest) =
      variableName (String.ofList (Text.trimList rest)) := by
    refine variableName_congr ?_
    rw [String.toList_ofList, String.toList_ofList, Text.trimList_trimList]
  unfold resolve
  rw [htrim]
  dsimp only
  rw [if_pos rfl, getD, getD, get?, get?, variableName_of_trimList htrim, hrest]

/-! ## The names in a store -/

/-- The stores that come about by lists of assignments and by single ones. -/
inductive Reachable : Store → Prop where
  | ofList (pairs : List (String × String)) : Reachable (ofList pairs)
  | set {s : Store} (h : Reachable s) (name value : String) : Reachable (s.set name value)

/-- Such a store is one that a list of assignments makes. -/
theorem Reachable.exists_ofList_eq (h : s.Reachable) : ∃ pairs, Store.ofList pairs = s := by
  induction h with
  | ofList pairs => exact ⟨pairs, rfl⟩
  | set _ name value ih =>
      obtain ⟨pairs, rfl⟩ := ih
      exact ⟨pairs ++ [(name, value)], List.foldl_concat ..⟩

/-- No name in a store begins with the sigil. -/
def HasPlainNames (s : Store) : Prop := ∀ p ∈ s.values, IsPlainName p.1

/-- The names in a store are looked at one by one. -/
instance (s : Store) : Decidable s.HasPlainNames := inferInstanceAs (Decidable (∀ p ∈ _, _))

/-- What is in a store after an assignment was assigned just now or was there before. -/
theorem eq_or_mem_of_mem_set {p : String × String} (h : p ∈ (s.set name value).values) :
    (p.1 = variableName name ∧ p.1 ≠ "") ∨ p ∈ s.values := by
  unfold set at h
  split at h
  · exact Or.inr h
  · next hempty =>
      rcases Dictionary.eq_or_mem_of_mem_insert h with rfl | hmem
      · exact Or.inl ⟨rfl, hempty⟩
      · exact Or.inr hmem

/-- Plain names stay plain under assignments to variables with plain names. -/
theorem HasPlainNames.set (h : s.HasPlainNames) (hname : IsPlainName (variableName name))
    (value : String) : (s.set name value).HasPlainNames := by
  intro p hp
  rcases eq_or_mem_of_mem_set hp with ⟨heq, _⟩ | hmem
  · exact heq ▸ hname
  · exact h p hmem

/-- Every variable of a store that a list of assignments makes is named by some assignment. -/
theorem exists_variableName_eq {pairs : List (String × String)} {p : String × String}
    (h : p ∈ (Store.ofList pairs).values) :
    ∃ q ∈ pairs, p.1 = variableName q.1 ∧ p.1 ≠ "" := by
  induction pairs using List.reverseRecOn with
  | nil => exact absurd h List.not_mem_nil
  | append_singleton pairs q ih =>
      rw [Store.ofList, List.foldl_concat] at h
      rcases eq_or_mem_of_mem_set h with heq | hmem
      · exact ⟨q, List.mem_append_right _ List.mem_cons_self, heq⟩
      · obtain ⟨q, hq, heq⟩ := ih hmem
        exact ⟨q, List.mem_append_left _ hq, heq⟩

/-- The name of a variable has no blanks around it and is not empty. -/
theorem Reachable.name_spec (h : s.Reachable) {p : String × String} (hp : p ∈ s.values) :
    Text.trimList p.1.toList = p.1.toList ∧ p.1 ≠ "" := by
  obtain ⟨pairs, rfl⟩ := h.exists_ofList_eq
  obtain ⟨q, _, heq, hempty⟩ := exists_variableName_eq hp
  exact ⟨heq ▸ trimList_variableName q.1, hempty⟩

/-- The variables of such a store are in order. -/
theorem Reachable.sorted (h : s.Reachable) : s.values.Sorted := by
  obtain ⟨pairs, rfl⟩ := h.exists_ofList_eq
  exact sorted_ofList pairs

/-- All names in a store are their own names exactly if all of them are plain. -/
theorem Reachable.own_names_iff (h : s.Reachable) :
    (∀ p ∈ s.values, variableName p.1 = p.1) ↔ s.HasPlainNames := by
  constructor
  · intro hown p hp
    by_contra hplain
    have hshorter := length_variableName_lt (h.name_spec hp).1 hplain
    rw [hown p hp] at hshorter
    exact Nat.lt_irrefl _ hshorter
  · intro hplain p hp
    exact variableName_eq_self (h.name_spec hp).1 (hplain p hp)

/-! ## Values under the names -/

/-- The value of a variable after an assignment. -/
theorem getD_set (s : Store) (name value other : String) : (s.set name value).getD other =
    if variableName other = variableName name ∧ variableName other ≠ "" then value
    else s.getD other := by
  rw [getD, get?, get?_set]
  split <;> rfl

/-- References have the value just assigned to the variable that they name exactly if the name of
that variable is plain. -/
theorem resolve_set_iff (s : Store) (hname : variableName name ≠ "") :
    (∀ value token, IsReference token → variableName token = variableName name →
      (s.set name value).resolve token = value) ↔ IsPlainName (variableName name) := by
  constructor
  · intro hresolve
    by_contra hplain
    -- A reference to the variable has the same value whatever is assigned.
    obtain ⟨token, htoken, heq⟩ := exists_isReference name
    have hother : variableName (variableName token) ≠ variableName name := by
      rw [heq]
      exact mt (variableName_variableName_iff name).mp hplain
    have hkept (value : String) :
        (s.set name value).resolve token = s.getD (variableName token) := by
      rw [resolve_eq_getD htoken, getD_set, if_neg fun hand => hother hand.1]
    have hsame : s.getD (variableName token) = "0" := by
      rw [← hkept "0", hresolve "0" token htoken heq]
    have hdiffers : s.getD (variableName token) = "1" := by
      rw [← hkept "1", hresolve "1" token htoken heq]
    rw [hsame] at hdiffers
    exact absurd hdiffers (by decide)
  · intro hplain value token htoken heq
    have hself : variableName (variableName token) = variableName name := by
      rw [heq, (variableName_variableName_iff name).mpr hplain]
    rw [resolve_eq_getD htoken, getD_set, hself, if_pos ⟨rfl, hname⟩]

/-! ## Making a store anew -/

/-- Assignments to names that are their own make up the dictionary of these names. -/
theorem ofList_eq_of_own_names {pairs : List (String × String)}
    (h : ∀ p ∈ pairs, variableName p.1 = p.1 ∧ p.1 ≠ "") :
    Store.ofList pairs = ⟨Dictionary.ofList pairs⟩ := by
  induction pairs using List.reverseRecOn with
  | nil => rfl
  | append_singleton pairs p ih =>
      obtain ⟨hown, hempty⟩ := h p (List.mem_append_right _ List.mem_cons_self)
      rw [Store.ofList, List.foldl_concat, Dictionary.ofList_concat]
      show (Store.ofList pairs).set p.1 p.2 = _
      rw [ih fun q hq => h q (List.mem_append_left _ hq), Store.set, hown, if_neg hempty]

/-- A store is made anew of its variables exactly if all names in it are plain. -/
theorem Reachable.ofList_snapshot_iff (h : s.Reachable) :
    Store.ofList s.snapshot = s ↔ s.HasPlainNames := by
  constructor
  · intro hsame
    by_contra hplain
    -- The longest name that is not plain would have to come from a longer one.
    have hex : (s.values.toFinset.filter fun p => ¬IsPlainName p.1).Nonempty := by
      obtain ⟨p, hp, hnot⟩ : ∃ p ∈ s.values, ¬IsPlainName p.1 := by
        simpa [HasPlainNames] using hplain
      exact ⟨p, by simp [hp, hnot]⟩
    obtain ⟨p, hp, hlongest⟩ := Finset.exists_max_image _ (fun p => p.1.length) hex
    obtain ⟨hmem, hnot⟩ := Finset.mem_filter.mp hp
    have hmade : p ∈ (Store.ofList s.snapshot).values := by
      rw [hsame]
      exact List.mem_toFinset.mp hmem
    obtain ⟨q, hq, heq, -⟩ := exists_variableName_eq hmade
    have htrim := (h.name_spec hq).1
    have hq' : ¬IsPlainName q.1 := by
      intro hplain
      rw [heq, variableName_eq_self htrim hplain] at hnot
      exact hnot hplain
    have hshorter := length_variableName_lt htrim hq'
    have hle := hlongest q (Finset.mem_filter.mpr ⟨List.mem_toFinset.mpr hq, hq'⟩)
    rw [heq] at hle
    omega
  · intro hplain
    have hown : ∀ p ∈ s.values, variableName p.1 = p.1 ∧ p.1 ≠ "" := fun p hp =>
      ⟨h.own_names_iff.mpr hplain p hp, (h.name_spec hp).2⟩
    rw [snapshot, ofList_eq_of_own_names hown, h.sorted.ofList_eq]

/-! ## The law of names -/

/-- What is assigned under a name is found under it, and no other variable changes. It is found by
every reference to the variable exactly if the name of the variable is plain, and stores with plain
names go on to have plain names then. Exactly in these stores all names are their own names, and
exactly these are made anew of their variables. -/
theorem names_agree_iff (h : s.Reachable) :
    (∀ name, variableName name ≠ "" →
      (∀ value, (s.set name value).get? name = some value ∧
        (s.set name value).contains name = true ∧
        ∀ x, x ≠ variableName name → (s.set name value).values.get? x = s.values.get? x) ∧
      ((∀ value token, IsReference token → variableName token = variableName name →
        (s.set name value).resolve token = value) ↔ IsPlainName (variableName name)) ∧
      (IsPlainName (variableName name) → s.HasPlainNames →
        ∀ value, (s.set name value).HasPlainNames)) ∧
    ((∀ p ∈ s.values, variableName p.1 = p.1) ↔ s.HasPlainNames) ∧
    (Store.ofList s.snapshot = s ↔ s.HasPlainNames) := by
  refine ⟨fun name hname => ⟨fun value => ?_, resolve_set_iff s hname, ?_⟩, h.own_names_iff,
    h.ofList_snapshot_iff⟩
  · have hfound : (s.set name value).get? name = some value := by
      rw [get?, get?_set, if_pos ⟨rfl, hname⟩]
    refine ⟨hfound, ?_, fun x hx => ?_⟩
    · rw [contains, hfound]
      rfl
    · rw [get?_set, if_neg fun hand => hx hand.1]
  · exact fun hplain hall value => hall.set hplain value

/-- A store of two variables, named with blanks and sigils. -/
def spacedStore : Store := .ofList [(" $ x ", "5"), ("y", "6")]

/-- In a store of plain names a variable just assigned is found by a reference that is spelled in
another way, and the store is made anew of its variables. -/
theorem spacedStore_names_agree : spacedStore.Reachable ∧
    variableName "\t$z" ≠ "" ∧ IsPlainName (variableName "\t$z") ∧ spacedStore.HasPlainNames ∧
    (spacedStore.set "\t$z" "7").get? "\t$z" = some "7" ∧
    (spacedStore.set "\t$z" "7").resolve "$ z " = "7" ∧
    (∀ p ∈ spacedStore.values, variableName p.1 = p.1) ∧
    Store.ofList spacedStore.snapshot = spacedStore := by
  have hreachable : spacedStore.Reachable := .ofList _
  have hname : variableName "\t$z" ≠ "" := by decide +kernel
  have hplain : IsPlainName (variableName "\t$z") := by decide +kernel
  have hall : spacedStore.HasPlainNames := by decide +kernel
  obtain ⟨hnames, hown, hanew⟩ := names_agree_iff hreachable
  obtain ⟨hfound, hreferences, -⟩ := hnames "\t$z" hname
  refine ⟨hreachable, hname, hplain, hall, (hfound "7").1, ?_, hown.mpr hall, hanew.mpr hall⟩
  exact hreferences.mpr hplain "7" "$ z " (by decide +kernel) (by decide +kernel)

/-- The name `$x`, which is given as `$$x`, is not plain: a reference to the variable misses what
was assigned to it, the name names another variable, and the store made anew has that variable in
its place. -/
theorem doubledSigil_is_missed : (Store.ofList [("$$x", "5")]).Reachable ∧
    variableName "$$x" = "$x" ∧ IsReference "$$x" ∧
    Store.ofList [("$$x", "5")] = Store.empty.set "$$x" "5" ∧
    (Store.empty.set "$$x" "5").get? "$$x" = some "5" ∧
    (Store.empty.set "$$x" "5").resolve "$$x" = "" ∧
    (Store.empty.set "$$x" "5").snapshot = [("$x", "5")] ∧ variableName "$x" ≠ "$x" ∧
    Store.ofList (Store.empty.set "$$x" "5").snapshot ≠ Store.empty.set "$$x" "5" := by
  refine ⟨.ofList _, ?_⟩
  decide +kernel

end Store
end Flowchart
