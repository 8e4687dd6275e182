import Flowchart.Proofs.Blocks.Footprint
import Flowchart.Proofs.Command.Example
import Flowchart.Proofs.Run.Execution

/-!
# What a run leaves alone

Over the standard handlers, all that a run does to its variables is to assign to the outputs that
the blocks of its workflow name (`Graph.Steps.assigns`). Every other variable ends with the value it
started with, and none is lost.
-/

namespace Flowchart

variable {catalog : Catalog} {limits : Limits} {registry : Registry} {w : Workflow} {g : Graph}

/-- A resolved block has the footprint of its block. -/
theorem ResolvedBlock.Fits.footprint_eq {r : ResolvedBlock} (h : r.Fits catalog registry) :
    catalog.footprint r.block = Blocks.footprintOf r.type.name r.block := by
  rw [Catalog.footprint, h.type]

/-- The outputs of a block are outputs of its workflow. -/
theorem Workflow.writes_subset {b : Block} (hb : b ∈ w.blocks) :
    (catalog.footprint b).writes ⊆ w.writes catalog :=
  fun _ hx => List.mem_flatMap.mpr ⟨b, hb, hx⟩

namespace Graph

variable {p q : Position} {v : Visit} {visits : List Visit}

/-- A visit assigns to outputs of the workflow only. -/
theorem Step.assigns (hg : IsGraphOf catalog (.standard limits) w g) (h : g.Step p v q) :
    p.scene.store.Assigns (w.writes catalog) q.scene.store := by
  obtain ⟨id, _, hv, rfl⟩ := step_iff.mp h
  have hmem : v.block ∈ g.blocks := List.mem_of_find?_eq_some hv.found
  have hfits := hg.fits v.block hmem
  have hwrites := (Registry.writesOnly_of_handler? hfits.handler).store
    ⟨v.block.block, v.block.type, g.outgoing v.id⟩ p.scene
  show p.scene.store.Assigns _ v.left.store
  rw [hv.made]
  rw [← hfits.footprint_eq] at hwrites
  exact hwrites.mono (Workflow.writes_subset (hg.mem_blocks hmem))

/-- A run assigns to outputs of the workflow only. -/
theorem Steps.assigns (hg : IsGraphOf catalog (.standard limits) w g) (h : g.Steps p visits q) :
    p.scene.store.Assigns (w.writes catalog) q.scene.store := by
  induction h with
  | refl => exact .refl
  | cons hstep _ ih => exact (hstep.assigns hg).trans ih

end Graph

namespace Engine

variable {engine : Engine} {request : RunRequest} {result : RunResult}

/-- A run that comes to a record has a graph, and leaves behind what its visits say. -/
theorem exists_isRun_of_execute (hresult : (engine.execute w request).1 = .ok result) :
    ∃ g visits last, engine.graph w = .ok g ∧
      g.IsRun engine.config.maxSteps (opening engine.config g w request) visits last ∧
      result = .ofVisits engine.config w request visits last := by
  cases hgraph : engine.graph w with
  | error fault =>
      rw [execute_of_fault hgraph] at hresult
      cases hresult
  | ok g =>
      obtain ⟨visits, last, hrun, hexecute⟩ := exists_execute_eq hgraph request
      exact ⟨g, visits, last, rfl, hrun, Except.ok.inj (hresult.symm.trans hexecute)⟩

/-- The variables of the record of a run have come about by assignments to outputs. -/
theorem assigns_of_execute (hregistry : engine.registry = .standard limits)
    (hresult : (engine.execute w request).1 = .ok result) :
    Store.Assigns (w.writes engine.catalog) ⟨result.record.inputData⟩
      ⟨result.record.resultData⟩ := by
  obtain ⟨g, visits, last, hgraph, hrun, rfl⟩ := exists_isRun_of_execute hresult
  exact hrun.steps.assigns (hregistry ▸ isGraphOf_of_graph hgraph)

/-- Over the standard handlers, a run leaves every variable as it was that no block of its workflow
names as an output, and removes no variable at all. Whatever block a handler executes, it leaves the
loop counters of all other blocks as they were, and all counters if it is not that of loops. -/
theorem execute_alters_outputs_only (engine : Engine) (limits : Limits) (w : Workflow)
    (request : RunRequest) (result : RunResult)
    (hregistry : engine.registry = .standard limits)
    (hresult : (engine.execute w request).1 = .ok result) :
    (∀ x, x ∉ w.writes engine.catalog →
      result.record.resultData.get? x = result.record.inputData.get? x) ∧
    (∀ x, (result.record.inputData.get? x).isSome = true →
      (result.record.resultData.get? x).isSome = true) ∧
    ∀ h : Handler, h ∈ engine.registry.handlers ∨ engine.registry.fallback = some h →
      ∀ (context : Context) (scene : Scene),
        (∀ id, id ≠ context.block.id →
          (h.run context scene).2.counters.get? id = scene.counters.get? id) ∧
        (h.typeName ≠ "Loop" → (h.run context scene).2.counters = scene.counters) := by
  have hassigns := assigns_of_execute hregistry hresult
  refine ⟨fun x hx => hassigns.get?_eq hx, fun x hx => hassigns.isSome_get? hx, ?_⟩
  rw [hregistry]
  intro h hh context scene
  rcases hh with hmem | hfallback
  · have hwrites := Blocks.standard_writesOnly limits hmem
    refine ⟨fun id hid => hwrites.counters context scene id hid, fun hname => ?_⟩
    rcases Blocks.standard_alters limits hmem with halters | rfl
    · exact (halters context scene).counters
    · exact absurd rfl hname
  · obtain rfl := Option.some.inj hfallback
    have hcounters := (Blocks.passthrough_alters context scene []).counters
    exact ⟨fun id _ => by rw [hcounters], fun _ => hcounters⟩

/-- A run of the example leaves its first operand alone, which is no output. -/
theorem example_alters_outputs_only : ∃ result,
    ((create (.standard {}) .standard {}).execute (Workflow.exampleOf .ofNat) default).1 =
      .ok result ∧
    result.record.resultData.get? "A" = result.record.inputData.get? "A" := by
  obtain ⟨g, hg⟩ := Workflow.exists_ofWorkflow_exampleOf {} .ofNat
  have hgraph : (create (.standard {}) .standard {}).graph (Workflow.exampleOf .ofNat) = .ok g := hg
  obtain ⟨result, hresult⟩ := exists_execute_ok hgraph default
  obtain ⟨hkept, _⟩ := execute_alters_outputs_only _ {} _ default result rfl hresult
  exact ⟨result, hresult, hkept "A" (by decide +kernel)⟩

end Engine
end Flowchart
