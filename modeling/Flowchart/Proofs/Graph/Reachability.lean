import Mathlib.Data.List.Nodup
import Mathlib.Logic.Relation
import Flowchart.Proofs.Graph.Construction

/-!
# What can be reached in a graph

`mem_reachable_iff` says that the search of a graph finds exactly the identifiers to which a path of
connections leads from the start. The search is bounded by a number of steps; `unexplored` counts
the connections that it has yet to follow, and `explore_complete` shows that it ends before its
bound does. `endReachable_iff` tells from this when an End block can be reached.
-/

namespace Flowchart

/-- Some connection of a list leads from one identifier to another. -/
def Connection.Joins (connections : List Connection) (a b : Identifier) : Prop :=
  ∃ c ∈ connections, c.source = a ∧ c.target = b

/-- Whether a block is an End block under a catalog. -/
def Catalog.isEnd (catalog : Catalog) (b : Block) : Bool :=
  (catalog.get? b.typeId).any (·.isNamed "End")

namespace Graph

variable {g : Graph}

/-- Zero or more connections of a graph lead from one identifier to another. -/
def Reaches (g : Graph) : Identifier → Identifier → Prop :=
  Relation.ReflTransGen (Connection.Joins g.connections)

/-- An identifier is joined to the targets of the connections that leave it. -/
theorem mem_targets_iff {a b : Identifier} :
    b ∈ (g.outgoing a).map (·.target) ↔ Connection.Joins g.connections a b := by
  simp [outgoing, Connection.Joins, and_assoc]

/-! ## The search -/

/-- The number of connections that leave no visited identifier. -/
def unexplored (g : Graph) (visited : List Identifier) : Nat :=
  g.connections.countP fun c => !visited.contains c.source

/-- The connections of visited identifiers lead to visited or pending ones. -/
def Explores (g : Graph) (pending visited : List Identifier) : Prop :=
  ∀ a ∈ visited, ∀ b, Connection.Joins g.connections a b → b ∈ visited ∨ b ∈ pending

/-- A new visit explores the connections that leave it. -/
theorem unexplored_cons {id : Identifier} {visited : List Identifier}
    (h : visited.contains id = false) :
    g.unexplored (id :: visited) + (g.outgoing id).length = g.unexplored visited := by
  unfold unexplored outgoing
  induction g.connections with
  | nil => rfl
  | cons c cs ih =>
      by_cases hid : c.source = id
      · subst hid
        simp only [List.countP_cons, List.filter_cons, h, List.contains_cons] at ih ⊢
        simp at ih ⊢
        omega
      · simp only [List.countP_cons, List.filter_cons, List.contains_cons] at ih ⊢
        simp [hid] at ih ⊢
        omega

/-- The search finds nothing outside a set that holds all it starts from and is closed under
connections. -/
theorem explore_sound {S : Identifier → Prop}
    (hS : ∀ a b, S a → Connection.Joins g.connections a b → S b) {fuel : Nat}
    {pending visited : List Identifier} (hpending : ∀ id ∈ pending, S id)
    (hvisited : ∀ id ∈ visited, S id) : ∀ id ∈ g.explore fuel pending visited, S id := by
  fun_induction explore g fuel pending visited with
  | case1 => exact hvisited
  | case2 => exact hvisited
  | case3 fuel id pending visited hmem ih =>
      exact ih (fun a ha => hpending a (List.mem_cons_of_mem _ ha)) hvisited
  | case4 fuel id pending visited hmem ih =>
      have hid : S id := hpending id List.mem_cons_self
      refine ih (fun a ha => ?_) (fun a ha => ?_)
      · rcases List.mem_append.mp ha with htarget | ha
        · exact hS id a hid (mem_targets_iff.mp htarget)
        · exact hpending a (List.mem_cons_of_mem _ ha)
      · rcases List.mem_cons.mp ha with rfl | ha
        · exact hid
        · exact hvisited a ha

/-- The search with enough steps left finds all it starts from, and whatever a connection leads to
from what it finds. -/
theorem explore_complete {fuel : Nat} {pending visited : List Identifier}
    (hfuel : pending.length + g.unexplored visited ≤ fuel)
    (hexplores : g.Explores pending visited) :
    (∀ id, id ∈ visited ∨ id ∈ pending → id ∈ g.explore fuel pending visited) ∧
      g.Explores [] (g.explore fuel pending visited) := by
  -- Each step takes away a pending identifier or the connections that it explores.
  fun_induction explore g fuel pending visited with
  | case1 pending visited =>
      obtain rfl : pending = [] := List.length_eq_zero_iff.mp (by omega)
      exact ⟨by simp, hexplores⟩
  | case2 => exact ⟨by simp, hexplores⟩
  | case3 fuel id pending visited hmem ih =>
      have hid : id ∈ visited := List.contains_iff_mem.mp hmem
      have hrest : g.Explores pending visited := by
        intro a ha b hb
        rcases hexplores a ha b hb with hb | hb
        · exact Or.inl hb
        · rcases List.mem_cons.mp hb with rfl | hb
          · exact Or.inl hid
          · exact Or.inr hb
      obtain ⟨hfound, hclosed⟩ := ih (by simp at hfuel; omega) hrest
      refine ⟨fun a ha => hfound a ?_, hclosed⟩
      rcases ha with ha | ha
      · exact Or.inl ha
      · rcases List.mem_cons.mp ha with rfl | ha
        · exact Or.inl hid
        · exact Or.inr ha
  | case4 fuel id pending visited hmem ih =>
      have hcount := g.unexplored_cons (by simpa using hmem)
      have hrest : g.Explores ((g.outgoing id).map (·.target) ++ pending) (id :: visited) := by
        intro a ha b hb
        rcases List.mem_cons.mp ha with rfl | ha
        · exact Or.inr (List.mem_append_left _ (mem_targets_iff.mpr hb))
        · rcases hexplores a ha b hb with hb | hb
          · exact Or.inl (List.mem_cons_of_mem _ hb)
          · rcases List.mem_cons.mp hb with rfl | hb
            · exact Or.inl List.mem_cons_self
            · exact Or.inr (List.mem_append_right _ hb)
      obtain ⟨hfound, hclosed⟩ := ih (by simp at hfuel ⊢; omega) hrest
      refine ⟨fun a ha => hfound a ?_, hclosed⟩
      rcases ha with ha | ha
      · exact Or.inl (List.mem_cons_of_mem _ ha)
      · rcases List.mem_cons.mp ha with rfl | ha
        · exact Or.inl List.mem_cons_self
        · exact Or.inr (List.mem_append_right _ ha)

/-- The search of a graph finds exactly what can be reached from its start. -/
theorem mem_reachable_iff {id : Identifier} : id ∈ g.reachable ↔ g.Reaches g.start id := by
  have hfuel : [g.start].length + g.unexplored [] ≤ g.connections.length + 2 := by
    have := List.countP_le_length (p := fun c => !([] : List Identifier).contains c.source)
      (l := g.connections)
    simp only [unexplored, List.length_singleton]
    omega
  obtain ⟨hfound, hclosed⟩ := explore_complete hfuel (fun _ ha => absurd ha List.not_mem_nil)
  constructor
  · exact explore_sound (S := g.Reaches g.start) (fun _ _ => Relation.ReflTransGen.tail)
      (by simp [Reaches, Relation.ReflTransGen.refl]) (by simp) id
  · intro hreach
    induction hreach with
    | refl => exact hfound g.start (Or.inr (List.mem_singleton_self _))
    | tail _ hjoins ih => exact (hclosed _ ih _ hjoins).resolve_right List.not_mem_nil

/-! ## End blocks -/

/-- A graph reaches an End block: some path leads from its start to an identifier under which an
End block is found. -/
theorem endReachable_iff : g.endReachable = true ↔
    ∃ id b, g.Reaches g.start id ∧ g.block? id = some b ∧ b.isEnd = true := by
  unfold endReachable
  simp only [List.any_eq_true, Option.any_eq_true, mem_reachable_iff]
  constructor
  · rintro ⟨id, hreach, b, hb, hend⟩
    exact ⟨id, b, hreach, hb, hend⟩
  · rintro ⟨id, b, hreach, hb, hend⟩
    exact ⟨id, hreach, b, hb, hend⟩

variable {catalog : Catalog} {registry : Registry} {w : Workflow}

/-- A resolved block is an End block exactly when the block it comes from is. -/
theorem isEnd_eq_of_fits {r : ResolvedBlock} (h : r.Fits catalog registry) :
    catalog.isEnd r.block = r.isEnd := by
  simp [Catalog.isEnd, ResolvedBlock.isEnd, h.type]

/-- If no two blocks share an identifier, each is found under its own. -/
theorem IsGraphOf.block?_of_nodup (h : IsGraphOf catalog registry w g)
    (hnodup : (w.blocks.map (·.id)).Nodup) {r : ResolvedBlock} (hr : r ∈ g.blocks) :
    g.block? r.block.id = some r := by
  obtain ⟨s, hs⟩ := Option.isSome_iff_exists.mp (h.closed.block r hr)
  have hids : (g.blocks.map (·.block.id)).Nodup := by
    rw [← h.blocks, List.map_map, List.map_reverse, List.nodup_reverse] at hnodup
    exact hnodup
  have hid : s.block.id = r.block.id := by simpa using List.find?_some hs
  rw [hs, List.inj_on_of_nodup_map hids (List.mem_of_find?_eq_some hs) hr hid]

/-- If a graph reaches an End block, a path leads from its start to an End block of the
workflow. -/
theorem IsGraphOf.exists_reached_end (h : IsGraphOf catalog registry w g)
    (hreachable : g.endReachable = true) :
    ∃ b ∈ w.blocks, catalog.isEnd b = true ∧ g.Reaches g.start b.id := by
  obtain ⟨id, r, hreach, hr, hend⟩ := endReachable_iff.mp hreachable
  have hmem : r ∈ g.blocks := List.mem_of_find?_eq_some hr
  have hid : r.block.id = id := by simpa using List.find?_some hr
  exact ⟨r.block, h.mem_blocks hmem, (isEnd_eq_of_fits (h.fits r hmem)).trans hend, hid ▸ hreach⟩

/-- If no two blocks share an identifier, a graph reaches an End block if a path leads from its
start to some End block of the workflow: no other block is found in the place of that one. -/
theorem IsGraphOf.endReachable_of_nodup (h : IsGraphOf catalog registry w g)
    (hnodup : (w.blocks.map (·.id)).Nodup)
    (hend : ∃ b ∈ w.blocks, catalog.isEnd b = true ∧ g.Reaches g.start b.id) :
    g.endReachable = true := by
  obtain ⟨b, hb, hend, hreach⟩ := hend
  rw [← h.blocks] at hb
  obtain ⟨r, hr, rfl⟩ := List.mem_map.mp hb
  have hmem : r ∈ g.blocks := List.mem_reverse.mp hr
  rw [isEnd_eq_of_fits (h.fits r hmem)] at hend
  exact endReachable_iff.mpr ⟨r.block.id, r, hreach, h.block?_of_nodup hnodup hmem, hend⟩

end Graph
end Flowchart
