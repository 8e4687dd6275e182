import Mathlib.Data.Fintype.Sum
import Flowchart.Proofs.Run.Likeness

/-!
# Blocks under other identifiers

The identifiers of blocks serve to find the blocks that connections join and the counters of loops,
and for nothing else. A workflow whose blocks are given other identifiers, different ones for
different ones, has the renamed graph, and its runs over the standard handlers leave the same
records (`Engine.exists_execute_renamed`).
-/

namespace Flowchart

/-- A connection between blocks under other identifiers. -/
def Connection.renamed (rename : Identifier → Identifier) (c : Connection) : Connection :=
  { c with source := rename c.source, target := rename c.target }

/-- A workflow with its blocks under other identifiers. -/
def Workflow.renamed (rename : Identifier → Identifier) (w : Workflow) : Workflow :=
  { w with
    blocks := w.blocks.map (·.renamed rename)
    connections := w.connections.map (·.renamed rename) }

/-- A workflow stays as it is if no identifier is changed. -/
theorem Workflow.renamed_id (w : Workflow) : w.renamed (fun id => id) = w := by
  show { w with
    blocks := w.blocks.map fun b => b
    connections := w.connections.map fun c => c } = w
  rw [List.map_id', List.map_id']

/-- A block is declared under its new identifier. -/
theorem Workflow.Declares.renamed {w : Workflow} {id : Identifier} (h : w.Declares id)
    (rename : Identifier → Identifier) : (w.renamed rename).Declares (rename id) := by
  obtain ⟨b, hb, rfl⟩ := h
  exact ⟨b.renamed rename, List.mem_map_of_mem hb, rfl⟩

/-- There are as many identifiers as numbers of 128 bits. -/
theorem finite_identifier : Finite Identifier :=
  Finite.of_injective Identifier.value fun ⟨_⟩ ⟨_⟩ h => congrArg Identifier.mk h

/-- Two ways to rename that agree on the declared identifiers give the same workflow. -/
theorem Workflow.renamed_congr {w : Workflow} {rename rename' : Identifier → Identifier}
    (hjoined : ∀ c ∈ w.connections, w.Declares c.source ∧ w.Declares c.target)
    (hrename : ∀ block, w.Declares block → rename' block = rename block) :
    w.renamed rename' = w.renamed rename := by
  have hblocks : w.blocks.map (·.renamed rename') = w.blocks.map (·.renamed rename) := by
    refine List.map_congr_left fun b hb => ?_
    unfold Block.renamed
    rw [hrename b.id ⟨b, hb, rfl⟩]
  have hconnections :
      w.connections.map (·.renamed rename') = w.connections.map (·.renamed rename) := by
    refine List.map_congr_left fun c hc => ?_
    unfold Connection.renamed
    rw [hrename c.source (hjoined c hc).1, hrename c.target (hjoined c hc).2]
  unfold renamed
  rw [hblocks, hconnections]

/-- New identifiers that differ for the declared ones can be chosen to differ for all others too. -/
theorem Workflow.exists_injective_renamed_eq {w : Workflow} {rename : Identifier → Identifier}
    (hjoined : ∀ c ∈ w.connections, w.Declares c.source ∧ w.Declares c.target)
    (hinjective : Set.InjOn rename {block | w.Declares block}) :
    ∃ rename', Function.Injective rename' ∧ w.renamed rename' = w.renamed rename := by
  -- Among finitely many identifiers, what is injective on some extends to a permutation of all.
  have hfinite := finite_identifier
  have hfintype := Fintype.ofFinite Identifier
  obtain ⟨e, he⟩ := Set.MapsTo.exists_equiv_extend_of_card_eq (t := Finset.univ)
    Finset.card_univ.symm (fun _ _ => by simp) hinjective
  have hsame (block : Identifier) (h : w.Declares block) : (e block).1 = rename block := he block h
  exact ⟨fun block => (e block).1, Subtype.val_injective.comp e.injective,
    renamed_congr hjoined hsame⟩

/-- The same connection is chosen under other identifiers. -/
theorem selectConnection_map_renamed (rename : Identifier → Identifier) (branch : Branch)
    (connections : List Connection) :
    selectConnection branch (connections.map (·.renamed rename)) =
      (selectConnection branch connections).map (·.renamed rename) := by
  -- Identifiers have no part in what qualifies or is preferred.
  have hqualifies : branch.qualifies ∘ (·.renamed rename) = branch.qualifies := by
    cases branch <;> rfl
  have hprefers : branch.prefers ∘ (·.renamed rename) = branch.prefers := by
    cases branch <;> rfl
  unfold selectConnection
  simp only [List.filter_map, List.find?_map, List.head?_map, hqualifies, hprefers]
  cases (connections.filter branch.qualifies).find? branch.prefers <;> rfl

namespace Graph

variable {catalog : Catalog} {registry : Registry} {w : Workflow} {g : Graph}
  {rename : Identifier → Identifier}

/-- A graph with its blocks under other identifiers. -/
def renamed (rename : Identifier → Identifier) (g : Graph) : Graph where
  blocks := g.blocks.map (·.renamed rename)
  connections := g.connections.map (·.renamed rename)
  start := rename g.start

/-- The graph of a renamed workflow is the renamed graph. -/
theorem IsGraphOf.renamed (h : IsGraphOf catalog registry w g) (rename : Identifier → Identifier) :
    IsGraphOf catalog registry (w.renamed rename) (g.renamed rename) where
  blocks := by
    show (g.blocks.map (·.renamed rename)).reverse.map (·.block) = w.blocks.map (·.renamed rename)
    rw [← h.blocks, ← List.map_reverse, List.map_map, List.map_map]
    rfl
  fits r hr := by
    obtain ⟨r, hmem, rfl⟩ := List.mem_map.mp hr
    exact ⟨(h.fits r hmem).type, (h.fits r hmem).handler⟩
  start := by
    obtain ⟨s, hs, hstart⟩ := h.start
    refine ⟨s.renamed rename, ?_, congrArg rename hstart⟩
    show (g.blocks.map (·.renamed rename)).reverse.filter (·.isStart) = [s.renamed rename]
    rw [← List.map_reverse, List.filter_map]
    exact congrArg (List.map (·.renamed rename)) hs
  connections := congrArg (List.map (Connection.renamed rename)) h.connections
  joined c hc := by
    obtain ⟨c, hmem, rfl⟩ := List.mem_map.mp hc
    exact ⟨(h.joined c hmem).1.renamed rename, (h.joined c hmem).2.renamed rename⟩

/-- A block is found under its new identifier. -/
theorem block?_renamed (hinjective : Function.Injective rename) (g : Graph) (id : Identifier) :
    (g.renamed rename).block? (rename id) = (g.block? id).map (·.renamed rename) := by
  have hid (b : ResolvedBlock) :
      decide ((b.renamed rename).block.id = rename id) = decide (b.block.id = id) := by
    show decide (rename b.block.id = rename id) = decide (b.block.id = id)
    simp only [hinjective.eq_iff]
  show (g.blocks.map (·.renamed rename)).find? (·.block.id = rename id) = _
  rw [List.find?_map]
  simp only [Function.comp_def, hid]
  rfl

/-- The same connections leave a block under its new identifier. -/
theorem outgoing_renamed (hinjective : Function.Injective rename) (g : Graph) (id : Identifier) :
    (g.renamed rename).outgoing (rename id) = (g.outgoing id).map (·.renamed rename) := by
  have hid (c : Connection) :
      decide ((c.renamed rename).source = rename id) = decide (c.source = id) := by
    show decide (rename c.source = rename id) = decide (c.source = id)
    simp only [hinjective.eq_iff]
  show (g.connections.map (·.renamed rename)).filter (·.source = rename id) = _
  rw [List.filter_map]
  simp only [Function.comp_def, hid]
  rfl

end Graph

/-- A renamed graph is like the graph under the disguise of the new identifiers. -/
theorem Disguise.graphs_renamed (d : Disguise) (g : Graph) :
    d.Graphs g (g.renamed d.rename) where
  start := rfl
  block := Graph.block?_renamed d.injective g
  target branch id := by
    rw [Graph.outgoing_renamed d.injective, selectConnection_map_renamed, Option.map_map]
    rfl
  hasBranch id key := by
    rw [Graph.outgoing_renamed d.injective, List.any_map]
    rfl

/-- A workflow over the standard handlers that can be run can also be run with its blocks under
other identifiers, and leaves the same record. -/
theorem Engine.exists_execute_renamed {engine : Engine} {limits : Limits} {w : Workflow} {g : Graph}
    {rename : Identifier → Identifier} (hregistry : engine.registry = .standard limits)
    (hgraph : engine.graph w = .ok g) (hinjective : Set.InjOn rename {block | w.Declares block})
    (request : RunRequest) :
    ∃ result result', (engine.execute w request).1 = .ok result ∧
      (engine.execute (w.renamed rename) request).1 = .ok result' ∧
      result'.record = result.record ∧ result'.server = result.server := by
  have hjoined := (isGraphOf_of_graph hgraph).joined
  obtain ⟨rename', hinjective', hsame⟩ := Workflow.exists_injective_renamed_eq hjoined hinjective
  let d : Disguise := ⟨rename', hinjective', fun _ => False⟩
  have hgraph' : engine.graph (w.renamed rename') = .ok (g.renamed rename') :=
    Graph.ofWorkflow_eq_ok_iff.mpr ((isGraphOf_of_graph hgraph).renamed rename')
  have hg : d.Graphs g (g.renamed rename') := d.graphs_renamed g
  rw [← hsame]
  exact exists_execute_same hregistry hgraph hgraph' hg (fun _ => not_false) rfl request rfl

end Flowchart
