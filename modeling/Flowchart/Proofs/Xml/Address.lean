import Mathlib.Data.List.Forall2
import Mathlib.Data.List.Sort
import Flowchart.Xml.Element

/-!
# Addresses in a tree

An address says which child to take, level after level, on the way from the root to an element
(`Element.at?`). Addresses are compared like words in a dictionary, which is the order of the start
tags in the document: an element stands before all that is inside it, and all that is inside it
before its next sibling. `Element.addresses` gives all addresses of a tree in this order
(`pairwise_addresses`), and `Locates` says that some elements stand at some addresses.
-/

namespace Flowchart.Xml

/-- An address in a tree: the numbers of the children on the way to it, counted from zero. -/
abbrev Address := List Nat

namespace Element

/-- The element at an address. -/
def at? : Element → Address → Option Element
  | e, [] => some e
  | e, i :: address => e.children[i]?.bind fun child => child.at? address

mutual
/-- The addresses of a tree, in the order of the document. -/
def addresses : Element → List Address
  | mk _ _ _ children => [] :: addressesFrom 0 children

/-- The addresses in the children from a number on. -/
def addressesFrom : Nat → List Element → List Address
  | _, [] => []
  | i, child :: rest => child.addresses.map (i :: ·) ++ addressesFrom (i + 1) rest
end

/-- Whether the element at an address has a name. -/
def hasName (root : Element) (name : String) (address : Address) : Bool :=
  (root.at? address).any (·.isNamed name)

/-- The addresses of the children of an address. -/
def childAddresses (root : Element) (address : Address) : List Address :=
  match root.at? address with
  | none => []
  | some e => (List.range e.children.length).map fun i => address ++ [i]

/-- What holds of an element whenever it holds of its children holds of all elements. -/
theorem inductionOnChildren {P : Element → Prop}
    (mk : ∀ n a t children, (∀ c ∈ children, P c) → P (mk n a t children)) (e : Element) : P e := by
  refine Element.rec (motive_1 := P) (motive_2 := fun es => ∀ c ∈ es, P c) mk ?_ ?_ e
  · exact fun _ hc => absurd hc List.not_mem_nil
  · exact fun _ _ hc hcs => List.forall_mem_cons.mpr ⟨hc, hcs⟩

end Element

variable {root e : Element} {name : String} {address p q : Address} {addresses : List Address}
  {es : List Element}

/-! ## Which addresses there are -/

theorem at?_append (p q : Address) : root.at? (p ++ q) = (root.at? p).bind (·.at? q) := by
  induction p generalizing root with
  | nil => rfl
  | cons i p ih =>
      rw [List.cons_append, Element.at?, Element.at?]
      cases root.children[i]? with
      | none => rfl
      | some child => exact ih

/-- The addresses in some children lead through one of them. -/
theorem mem_addressesFrom_iff {i : Nat} : address ∈ Element.addressesFrom i es ↔
    ∃ k child rest, es[k]? = some child ∧ address = (i + k) :: rest ∧ rest ∈ child.addresses := by
  induction es generalizing i with
  | nil => simp [Element.addressesFrom]
  | cons child es ih =>
      rw [Element.addressesFrom, List.mem_append, List.mem_map, ih]
      constructor
      · rintro (⟨rest, hrest, rfl⟩ | ⟨k, c, rest, hc, rfl, hrest⟩)
        · exact ⟨0, child, rest, rfl, rfl, hrest⟩
        · exact ⟨k + 1, c, rest, hc, by rw [Nat.add_assoc, Nat.add_comm 1], hrest⟩
      · rintro ⟨_ | k, c, rest, hc, rfl, hrest⟩
        · obtain rfl := Option.some.inj hc
          exact Or.inl ⟨rest, hrest, rfl⟩
        · exact Or.inr ⟨k, c, rest, hc, by rw [Nat.add_assoc, Nat.add_comm 1], hrest⟩

/-- The addresses of a tree are those at which there is an element. -/
theorem mem_addresses_iff : address ∈ root.addresses ↔ ∃ e, root.at? address = some e := by
  induction root using Element.inductionOnChildren generalizing address with
  | mk n a t children ih =>
      rw [Element.addresses, List.mem_cons, mem_addressesFrom_iff]
      constructor
      · rintro (rfl | ⟨i, child, rest, hchild, rfl, hrest⟩)
        · exact ⟨_, rfl⟩
        · obtain ⟨e, he⟩ := (ih child (List.mem_of_getElem? hchild)).mp hrest
          refine ⟨e, ?_⟩
          rw [Nat.zero_add, Element.at?]
          exact Option.bind_eq_some_iff.mpr ⟨child, hchild, he⟩
      · rintro ⟨e, he⟩
        cases address with
        | nil => exact Or.inl rfl
        | cons i rest =>
            obtain ⟨child, hchild, he⟩ := Option.bind_eq_some_iff.mp he
            exact Or.inr ⟨i, child, rest, hchild, by rw [Nat.zero_add],
              (ih child (List.mem_of_getElem? hchild)).mpr ⟨e, he⟩⟩

/-- The addresses in some children stand in the order of the document. -/
theorem pairwise_addressesFrom (h : ∀ c ∈ es, c.addresses.Pairwise (· < ·)) (i : Nat) :
    (Element.addressesFrom i es).Pairwise (· < ·) := by
  induction es generalizing i with
  | nil => exact .nil
  | cons child es ih =>
      obtain ⟨hchild, hrest⟩ := List.forall_mem_cons.mp h
      rw [Element.addressesFrom, List.pairwise_append, List.pairwise_map]
      refine ⟨hchild.imp fun h => List.cons_lt_cons_iff.mpr (Or.inr ⟨rfl, h⟩), ih hrest _, ?_⟩
      intro p hp q hq
      obtain ⟨p, -, rfl⟩ := List.mem_map.mp hp
      obtain ⟨k, -, q, -, rfl, -⟩ := mem_addressesFrom_iff.mp hq
      exact List.cons_lt_cons_iff.mpr (Or.inl (by omega))

/-- All addresses of a tree stand in the order of the document. -/
theorem pairwise_addresses (root : Element) : root.addresses.Pairwise (· < ·) := by
  induction root using Element.inductionOnChildren with
  | mk n a t children ih =>
      rw [Element.addresses, List.pairwise_cons]
      refine ⟨fun q hq => ?_, pairwise_addressesFrom ih 0⟩
      obtain ⟨k, -, rest, -, rfl, -⟩ := mem_addressesFrom_iff.mp hq
      exact List.nil_lt_cons _ _

/-- Different addresses neither of which is on the way to the other one are ordered where they
part. -/
theorem append_lt_append (h : p < q) (hpart : ¬ p <+: q) (s t : Address) : p ++ s < q ++ t := by
  induction p generalizing q with
  | nil => exact absurd (List.nil_prefix) hpart
  | cons i p ih =>
      cases q with
      | nil => cases h
      | cons j q =>
          rcases List.cons_lt_cons_iff.mp h with hlt | ⟨rfl, hlt⟩
          · exact List.cons_lt_cons_iff.mpr (Or.inl hlt)
          · refine List.cons_lt_cons_iff.mpr (Or.inr ⟨rfl, ih hlt fun hpre => hpart ?_⟩)
            exact List.cons_prefix_cons.mpr ⟨rfl, hpre⟩

/-- The addresses of children are those of their parents and a number more. -/
theorem mem_childAddresses_iff : q ∈ root.childAddresses p ↔
    q ∈ root.addresses ∧ ∃ i, q = p ++ [i] := by
  rw [Element.childAddresses]
  cases hp : root.at? p with
  | none =>
      simp only [List.not_mem_nil, false_iff, not_and]
      rintro hq ⟨i, rfl⟩
      obtain ⟨e, he⟩ := mem_addresses_iff.mp hq
      rw [at?_append, hp] at he
      cases he
  | some e =>
      have hchild (i : Nat) : p ++ [i] ∈ root.addresses ↔ i < e.children.length := by
        rw [mem_addresses_iff, at?_append, hp]
        show (∃ c, e.children[i]?.bind _ = some c) ↔ _
        cases hi : e.children[i]? with
        | none => simpa using hi
        | some child => simpa [Element.at?] using (List.getElem?_eq_some_iff.mp hi).1
      simp only [List.mem_map, List.mem_range]
      constructor
      · rintro ⟨i, hi, rfl⟩
        exact ⟨(hchild i).mpr hi, i, rfl⟩
      · rintro ⟨hq, i, rfl⟩
        exact ⟨i, (hchild i).mp hq, rfl⟩

/-- The children of an element stand in the order of the document. -/
theorem pairwise_childAddresses (root : Element) (p : Address) :
    (root.childAddresses p).Pairwise (· < ·) := by
  rw [Element.childAddresses]
  cases root.at? p with
  | none => exact .nil
  | some e =>
      refine List.pairwise_map.mpr (List.pairwise_lt_range.imp fun h => ?_)
      exact List.append_left_lt (List.cons_lt_cons_iff.mpr (Or.inl h))

/-! ## Elements at addresses -/

/-- Some elements stand at some addresses, one after the other. -/
def Locates (root : Element) (addresses : List Address) (es : List Element) : Prop :=
  List.Forall₂ (fun address e => root.at? address = some e) addresses es

/-- The first of some elements stands at the first of their addresses. -/
theorem Locates.head? (h : Locates root addresses es) :
    es.head? = addresses.head?.bind root.at? := by
  cases h with
  | nil => rfl
  | cons he _ => exact he.symm

theorem Locates.append {addresses' : List Address} {es' : List Element}
    (h : Locates root addresses es)
    (h' : Locates root addresses' es') : Locates root (addresses ++ addresses') (es ++ es') :=
  List.rel_append h h'

/-- Of the elements at addresses those with a name stand at the addresses that have the name. -/
theorem Locates.filter (h : Locates root addresses es) :
    Locates root (addresses.filter (root.hasName name)) (es.filter (·.isNamed name)) := by
  refine List.rel_filter (fun address e he => ?_) h
  simp [Element.hasName, he]

/-- The children of an element stand at the addresses of its children. -/
theorem locates_childAddresses (h : root.at? p = some e) :
    Locates root (root.childAddresses p) e.children := by
  rw [Element.childAddresses, h]
  refine List.forall₂_iff_get.mpr ⟨by simp, fun i hi hi' => ?_⟩
  simp [at?_append, h, Element.at?, hi']

/-- The children of the elements at some addresses stand at the addresses of their children. -/
theorem Locates.children (h : Locates root addresses es) :
    Locates root (addresses.flatMap fun p => (root.childAddresses p).filter (root.hasName name))
      (es.flatMap fun e => e.children.filter (·.isNamed name)) :=
  List.rel_flatMap h fun _ _ he => (locates_childAddresses he).filter

/-- An address in a child has the name that it has in the child. -/
theorem hasName_cons {i : Nat} {child : Element} (h : root.children[i]? = some child) :
    root.hasName name (i :: address) = child.hasName name address := by
  rw [Element.hasName, Element.at?, h]
  rfl

/-- Elements in a child stand at the addresses in it. -/
theorem Locates.inChild {i : Nat} {child : Element} (h : Locates child addresses es)
    (hchild : root.children[i]? = some child) : Locates root (addresses.map (i :: ·)) es := by
  refine List.forall₂_map_left_iff.mpr (h.imp fun address e he => ?_)
  exact Option.bind_eq_some_iff.mpr ⟨child, hchild, he⟩

/-- The elements with a name in some children stand at the addresses there that have the name. -/
theorem locates_namedAmong {i : Nat}
    (h : ∀ c ∈ es, Locates c (c.addresses.filter (c.hasName name)) (c.named name))
    (hes : ∀ k c, es[k]? = some c → root.children[i + k]? = some c) :
    Locates root ((Element.addressesFrom i es).filter (root.hasName name))
      (Element.namedAmong name es) := by
  induction es generalizing i with
  | nil => exact .nil
  | cons child es ih =>
      obtain ⟨hchild, hrest⟩ := List.forall_mem_cons.mp h
      have hi : root.children[i]? = some child := hes 0 child rfl
      have hname : root.hasName name ∘ (i :: ·) = child.hasName name :=
        funext fun _ => hasName_cons hi
      rw [Element.addressesFrom, List.filter_append, List.filter_map, hname, Element.namedAmong]
      refine (hchild.inChild hi).append (ih hrest fun k c hc => ?_)
      rw [Nat.add_assoc, Nat.add_comm 1]
      exact hes (k + 1) c hc

/-- The elements with a name stand at the addresses that have the name, in the same order. -/
theorem locates_named (root : Element) (name : String) :
    Locates root (root.addresses.filter (root.hasName name)) (root.named name) := by
  induction root using Element.inductionOnChildren with
  | mk n a t children ih =>
      have hbelow : Locates (.mk n a t children) _ _ :=
        locates_namedAmong ih (i := 0) fun k c hc => by rwa [Nat.zero_add]
      have hself : (Element.mk n a t children).hasName name [] =
          (Element.mk n a t children).isNamed name := rfl
      rw [Element.addresses, Element.named, List.filter_cons, hself]
      split
      · exact .cons rfl hbelow
      · exact hbelow

end Flowchart.Xml
