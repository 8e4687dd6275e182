import Flowchart.Blocks.Standard
import Flowchart.Command.Example
import Flowchart.Proofs.Graph.Construction

/-!
# The example workflow can be run

The standard catalog and registry accept the example workflow, whatever identifiers its parts have.
-/

namespace Flowchart

/-- A type that is found by its name is also found by its identifier. -/
theorem Catalog.get?_of_byName? {catalog : Catalog} {name : String} {t : BlockType}
    (h : catalog.byName? name = some t) : ∃ u, catalog.get? t.id = some u := by
  have hmem : t ∈ catalog.types := List.mem_of_find?_eq_some h
  exact Option.isSome_iff_exists.mp (List.find?_isSome.mpr ⟨t, hmem, by simp⟩)

namespace Workflow

/-- The type of a block that is made with the name of a standard type. -/
def standardTypeId (typeName : String) : Identifier := (standardBlock .nil "" typeName none).typeId

/-- A block of a standard type has a type and a handler. -/
theorem standardTypeId_resolved {typeName : String}
    (h : (Catalog.standard.byName? typeName).isSome = true) (limits : Limits) :
    ∃ t, Catalog.standard.get? (standardTypeId typeName) = some t ∧
      (Registry.standard limits).Handles t := by
  obtain ⟨t, ht⟩ := Option.isSome_iff_exists.mp h
  obtain ⟨u, hu⟩ := Catalog.get?_of_byName? ht
  refine ⟨u, ?_, Or.inr rfl⟩
  rw [← hu]
  simp [standardTypeId, standardBlock, ht]

variable (limits : Limits) (fresh : Nat → Identifier)

/-- The names of the types of the blocks of the example. -/
def exampleTypes : List String := ["Start", "Calculation", "If", "End", "End"]

/-- The types of the blocks of the example do not depend on its identifiers. -/
theorem exampleOf_typeIds :
    (exampleOf fresh).blocks.map (·.typeId) = exampleTypes.map standardTypeId :=
  rfl

/-- The identifiers of the blocks of the example. -/
theorem exampleOf_ids : (exampleOf fresh).blocks.map (·.id) =
    [fresh 1, fresh 2, fresh 3, fresh 4, fresh 5] :=
  rfl

/-- The ends of the connections of the example. -/
theorem exampleOf_ends : (exampleOf fresh).connections.map (fun c => (c.source, c.target)) =
    [(fresh 1, fresh 2), (fresh 2, fresh 3), (fresh 3, fresh 4), (fresh 3, fresh 5)] :=
  rfl

/-- The example has one Start block. -/
theorem exampleOf_countP_isStart :
    (exampleOf fresh).blocks.countP Catalog.standard.isStart = 1 := by
  have hcount : (exampleOf fresh).blocks.countP Catalog.standard.isStart =
      ((exampleOf fresh).blocks.map (·.typeId)).countP fun id =>
        (Catalog.standard.get? id).any (·.isNamed "Start") := by
    rw [List.countP_map]
    rfl
  rw [hcount, exampleOf_typeIds]
  decide +kernel

/-- The example declares a block exactly for each of its five identifiers. -/
theorem exampleOf_declares_iff (id : Identifier) :
    (exampleOf fresh).Declares id ↔ id ∈ [fresh 1, fresh 2, fresh 3, fresh 4, fresh 5] := by
  rw [← exampleOf_ids, List.mem_map, Declares]

/-- The example can be run, whatever identifiers it has. -/
theorem exampleOf_isRunnable :
    (exampleOf fresh).IsRunnable Catalog.standard (.standard limits) where
  resolved b hb := by
    have htype : b.typeId ∈ exampleTypes.map standardTypeId := by
      rw [← exampleOf_typeIds fresh]
      exact List.mem_map_of_mem hb
    obtain ⟨typeName, hmem, hid⟩ := List.mem_map.mp htype
    have hname : ∀ typeName ∈ exampleTypes,
        (Catalog.standard.byName? typeName).isSome = true := by decide +kernel
    rw [← hid]
    exact standardTypeId_resolved (hname typeName hmem) limits
  start := exampleOf_countP_isStart fresh
  joined c hc := by
    have hends : (c.source, c.target) ∈ (exampleOf fresh).connections.map
        fun c => (c.source, c.target) := List.mem_map_of_mem hc
    simp only [exampleOf_ends, List.mem_cons, Prod.mk.injEq, List.not_mem_nil, or_false] at hends
    simp only [exampleOf_declares_iff]
    rcases hends with ⟨hs, ht⟩ | ⟨hs, ht⟩ | ⟨hs, ht⟩ | ⟨hs, ht⟩ <;> simp [hs, ht]

/-- The example has a graph, whatever identifiers it has. -/
theorem exists_ofWorkflow_exampleOf :
    ∃ g, Graph.ofWorkflow .standard (.standard limits) (exampleOf fresh) = .ok g :=
  Graph.exists_ofWorkflow_iff.mpr (exampleOf_isRunnable limits fresh)

end Workflow
end Flowchart
