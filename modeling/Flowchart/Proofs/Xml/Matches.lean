import Flowchart.Proofs.Xml.Address
import Flowchart.Xml.Path

/-!
# Matches in the order of the document

The matches of a step are the children, with its name, of the matches of the step before, taken in
the order of the document (`Path.matched`). Following a path finds them parent by parent instead
(`Path.found`, `Path.locates_found`). That comes to the same as long as no step finds a child under
one match behind a child under a later match (`Path.KeepsOrder`, `Path.found_eq_matched`), and a
match can have such a child only if the later match is inside it (`Path.keepsOrder_of_apart`).
-/

namespace Flowchart.Xml

/-! ## Matches -/

/-- Of some matches of a step all of them, or just the one at its position, counted from one. -/
def Step.keep {α : Type} (step : Step) (matched : List α) : List α :=
  match step.position with
  | none => matched
  | some n => matched[n - 1]?.toList

/-- The matches of a step among addresses that qualify, in the order of the document. -/
def Step.matched (step : Step) (root : Element) (qualifies : Address → Bool) : List Address :=
  step.keep (root.addresses.filter fun address =>
    qualifies address && root.hasName step.name address)

/-- Whether the parent of an address is one of some others. -/
def isChildOfOne (parents : List Address) (address : Address) : Bool :=
  !address.isEmpty && parents.contains address.dropLast

/-- The addresses of the children of a place that have a name. -/
def Element.childrenNamed (root : Element) (name : String) (parent : Address) : List Address :=
  (root.childAddresses parent).filter (root.hasName name)

/-- What a step finds below some addresses, one parent after the other. -/
def Step.found (step : Step) (root : Element) (parents : List Address) : List Address :=
  step.keep (parents.flatMap (root.childrenNamed step.name))

/-- The steps find no child under one address behind a child under a later address. -/
def StepsKeepOrder (root : Element) : List Step → List Address → Prop
  | [], _ => True
  | step :: steps, parents =>
      (parents.Pairwise fun p q => ∀ c ∈ root.childrenNamed step.name p,
        ∀ d ∈ root.childrenNamed step.name q, c < d) ∧
      StepsKeepOrder root steps (step.found root parents)

/-- Addresses are compared for finitely many children of finitely many parents. -/
instance StepsKeepOrder.decidable (root : Element) :
    (steps : List Step) → (parents : List Address) → Decidable (StepsKeepOrder root steps parents)
  | [], _ => .isTrue True.intro
  | step :: steps, parents =>
      have := StepsKeepOrder.decidable root steps (step.found root parents)
      inferInstanceAs (Decidable (_ ∧ _))

namespace Path

/-- The matches of the first step: at any depth, or the root only. -/
def firstMatched (path : Path) (root : Element) : List Address :=
  path.first.matched root fun address => path.anyDepth || address.isEmpty

/-- The matches of the last step if those of every step are taken in the order of the document. -/
def matched (path : Path) (root : Element) : List Address :=
  path.others.foldl (fun parents step => step.matched root (isChildOfOne parents))
    (path.firstMatched root)

/-- What the last step finds if every step goes through the children parent by parent. -/
def found (path : Path) (root : Element) : List Address :=
  path.others.foldl (fun parents step => step.found root parents) (path.firstMatched root)

/-- No step of a path finds a child under one match behind a child under a later match. -/
def KeepsOrder (path : Path) (root : Element) : Prop :=
  StepsKeepOrder root path.others (path.firstMatched root)

instance (path : Path) (root : Element) : Decidable (path.KeepsOrder root) :=
  StepsKeepOrder.decidable root path.others (path.firstMatched root)

end Path

variable {root : Element} {path : Path} {step : Step} {steps : List Step}
  {p q address : Address} {parents addresses : List Address} {es : List Element}

/-! ## What following a path finds -/

theorem Step.keep_sublist {α : Type} (step : Step) (matched : List α) :
    (step.keep matched).Sublist matched := by
  unfold keep
  split
  · exact .refl _
  · rename_i n _
    cases hget : matched[n - 1]? with
    | none => exact List.nil_sublist _
    | some a => exact List.singleton_sublist.mpr (List.mem_of_getElem? hget)

/-- The elements that a step keeps stand at the addresses that it keeps. -/
theorem Locates.keep (h : Locates root addresses es) (step : Step) :
    Locates root (step.keep addresses) (step.pick es) := by
  cases hposition : step.position with
  | none =>
      simp only [Step.keep, Step.pick, hposition]
      exact h
  | some n =>
      have htake (l : List Address) : l[n - 1]?.toList = (l.drop (n - 1)).take 1 := by
        simp [List.take_one]
      simp only [Step.keep, Step.pick, hposition, htake]
      exact List.forall₂_take 1 (List.forall₂_drop (n - 1) h)

/-- The elements that a step descends to stand at the addresses that it finds. -/
theorem Locates.found (h : Locates root addresses es) (step : Step) :
    Locates root (step.found root addresses) (step.descend es) :=
  h.children.keep step

/-- At the root there is only the empty address. -/
theorem rootAddresses_eq (root : Element) (name : String) :
    (root.addresses.filter fun address => address.isEmpty && root.hasName name address) =
      if root.isNamed name then [[]] else [] := by
  obtain ⟨n, a, t, children⟩ := root
  have hbelow : (Element.addressesFrom 0 children).filter (fun address =>
      address.isEmpty && (Element.mk n a t children).hasName name address) = [] := by
    refine List.filter_eq_nil_iff.mpr fun address haddress => ?_
    obtain ⟨k, -, rest, -, rfl, -⟩ := mem_addressesFrom_iff.mp haddress
    simp
  have hself : (Element.mk n a t children).hasName name [] =
      (Element.mk n a t children).isNamed name := rfl
  rw [Element.addresses, List.filter_cons, hbelow, List.isEmpty_nil, Bool.true_and, hself]

/-- The first step matches the elements with its name at any depth, or the root. -/
theorem locates_firstMatched (path : Path) (root : Element) : Locates root (path.firstMatched root)
    (path.first.pick (if path.anyDepth then root.named path.first.name
      else if root.isNamed path.first.name then [root] else [])) := by
  refine Locates.keep ?_ path.first
  cases path.anyDepth with
  | true => simpa using locates_named root path.first.name
  | false =>
      simp only [Bool.false_or, rootAddresses_eq, Bool.false_eq_true, if_false]
      split
      · exact .cons rfl .nil
      · exact .nil

/-- The elements that a path leads to stand at the addresses that it finds. -/
theorem Path.locates_found (path : Path) (root : Element) :
    Locates root (path.found root) (path.elements root) := by
  have hsteps (steps : List Step) {addresses : List Address} {es : List Element}
      (h : Locates root addresses es) :
      Locates root (steps.foldl (fun parents step => step.found root parents) addresses)
        (steps.foldl (fun es step => step.descend es) es) := by
    induction steps generalizing addresses es with
    | nil => exact h
    | cons step steps ih => exact ih (h.found step)
  exact hsteps path.others (locates_firstMatched path root)

/-! ## Order -/

/-- If children are found in order, they are the matches in the order of the document. -/
theorem Step.found_eq_matched (h : parents.Pairwise fun p q =>
    ∀ c ∈ root.childrenNamed step.name p, ∀ d ∈ root.childrenNamed step.name q, c < d) :
    step.found root parents = step.matched root (isChildOfOne parents) := by
  have hchildren : (parents.flatMap (root.childrenNamed step.name)).Pairwise (· < ·) :=
    List.pairwise_flatMap.mpr ⟨fun p _ => (pairwise_childAddresses root p).filter _, h⟩
  refine congrArg step.keep
    (hchildren.eq_of_mem_iff ((pairwise_addresses root).filter _) fun c => ?_)
  simp only [List.mem_flatMap, Element.childrenNamed, List.mem_filter, mem_childAddresses_iff,
    isChildOfOne, Bool.and_eq_true, List.contains_iff_mem]
  constructor
  · rintro ⟨p, hp, ⟨hc, i, rfl⟩, hname⟩
    exact ⟨hc, ⟨by simp, by simpa using hp⟩, hname⟩
  · rintro ⟨hc, ⟨hne, hparent⟩, hname⟩
    have hne : c ≠ [] := by simpa using hne
    exact ⟨c.dropLast, hparent, ⟨hc, c.getLast hne, (List.dropLast_concat_getLast hne).symm⟩, hname⟩

/-- A path that keeps the order finds the matches in the order of the document. -/
theorem Path.found_eq_matched (h : path.KeepsOrder root) : path.found root = path.matched root := by
  have hsteps {steps : List Step} {parents : List Address} (h : StepsKeepOrder root steps parents) :
      steps.foldl (fun parents step => step.found root parents) parents =
        steps.foldl (fun parents step => step.matched root (isChildOfOne parents)) parents := by
    induction steps generalizing parents with
    | nil => rfl
    | cons step steps ih =>
        rw [List.foldl_cons, List.foldl_cons, ← Step.found_eq_matched h.1]
        exact ih h.2
  exact hsteps h

/-! ## Matches apart from each other -/

/-- One address stands before another one that is not inside it. -/
def Apart (p q : Address) : Prop := p < q ∧ ¬ p <+: q

/-- Children of addresses apart from each other are found in order. -/
theorem StepsKeepOrder.of_apart (h : parents.Pairwise Apart) :
    StepsKeepOrder root steps parents := by
  induction steps generalizing parents with
  | nil => exact True.intro
  | cons step steps ih =>
      have hchild {p c : Address} (hc : c ∈ root.childrenNamed step.name p) : ∃ i, c = p ++ [i] :=
        (mem_childAddresses_iff.mp (List.mem_filter.mp hc).1).2
      refine ⟨h.imp fun hpq c hc d hd => ?_, ih ?_⟩
      · obtain ⟨i, rfl⟩ := hchild hc
        obtain ⟨j, rfl⟩ := hchild hd
        exact append_lt_append hpq.1 hpq.2 _ _
      · refine List.Pairwise.sublist (step.keep_sublist _) (List.pairwise_flatMap.mpr ⟨?_, ?_⟩)
        · intro p _
          refine ((pairwise_childAddresses root p).filter _).imp_of_mem fun {c d} hc hd hlt =>
            ⟨hlt, ?_⟩
          obtain ⟨i, rfl⟩ := hchild hc
          obtain ⟨j, rfl⟩ := hchild hd
          intro hinside
          obtain rfl : i = j := by simpa using hinside
          exact List.lt_irrefl _ hlt
        · refine h.imp fun hpq c hc d hd => ?_
          obtain ⟨i, rfl⟩ := hchild hc
          obtain ⟨j, rfl⟩ := hchild hd
          refine ⟨append_lt_append hpq.1 hpq.2 _ _, fun hinside => hpq.2 ?_⟩
          have hlength := hinside.length_le
          simp only [List.length_append, List.length_singleton] at hlength
          exact List.prefix_of_prefix_length_le ((List.prefix_append _ _).trans hinside)
            (List.prefix_append _ _) (by omega)

/-- A path keeps the order if no match of its first step is inside another one. -/
theorem Path.keepsOrder_of_apart (h : (path.firstMatched root).Pairwise Apart) :
    path.KeepsOrder root :=
  StepsKeepOrder.of_apart h

/-- A path keeps the order if its first step matches one element at most: the root, or the one at
its position. -/
theorem Path.keepsOrder_of_single (h : path.anyDepth = false ∨ path.first.position.isSome) :
    path.KeepsOrder root := by
  have hsingle {l : List Address} (hl : l.length ≤ 1) : l.Pairwise Apart := by
    match l with
    | [] => exact .nil
    | [p] => exact List.pairwise_singleton _ _
  refine keepsOrder_of_apart (hsingle ?_)
  rcases h with hroot | hposition
  · refine (path.first.keep_sublist _).length_le.trans ?_
    simp only [hroot, Bool.false_or, rootAddresses_eq]
    split <;> simp
  · obtain ⟨n, hn⟩ := Option.isSome_iff_exists.mp hposition
    simp only [firstMatched, Step.matched, Step.keep, hn]
    cases (List.filter _ root.addresses)[n - 1]? <;> simp

end Flowchart.Xml
