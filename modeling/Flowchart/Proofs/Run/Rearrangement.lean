import Mathlib.Logic.Equiv.Basic
import Flowchart.Proofs.Command.Example
import Flowchart.Proofs.Graph.Reachability
import Flowchart.Proofs.Run.Renaming

/-!
# Workflows in another order

The order in which a workflow declares its blocks, its variables, and the connections of different
blocks means nothing to a run, as long as no two blocks share an identifier and no two variables a
name. A graph is no more than its start, the block under each identifier, and the connections that
leave it (`Graph.Agrees`), and these do not depend on the order.
-/

namespace Flowchart

/-- A workflow declares what another one does, with its blocks in any order, its variables in any
order if no two of them share a name, and its connections in any order that keeps that of the
connections of each block. -/
structure Workflow.Rearranges (w w' : Workflow) : Prop where
  id : w'.id = w.id
  blocks : w'.blocks.Perm w.blocks
  vars : w'.vars = w.vars ∨
    w'.vars.Perm w.vars ∧ (w.vars.map fun v => variableName v.name).Nodup
  connections : ∀ source, w'.connections.filter (·.source = source) =
    w.connections.filter (·.source = source)

/-- Graphs with the same start, the same block under each identifier, and the same connections
from there. -/
structure Graph.Agrees (g g' : Graph) : Prop where
  start : g'.start = g.start
  block : ∀ id, g'.block? id = g.block? id
  outgoing : ∀ id, g'.outgoing id = g.outgoing id

/-- Connections of different blocks can be declared in either order. -/
theorem filter_source_append_comm {front back : List Connection}
    (h : ∀ c ∈ front, ∀ d ∈ back, c.source ≠ d.source) (source : Identifier) :
    (back ++ front).filter (·.source = source) = (front ++ back).filter (·.source = source) := by
  rw [List.filter_append, List.filter_append]
  cases hfront : front.filter (·.source = source) with
  | nil => rw [List.nil_append, List.append_nil]
  | cons c rest =>
      -- With a connection in front, the block has none at the back.
      have hmem : c ∈ front.filter (·.source = source) := by
        rw [hfront]
        exact List.mem_cons_self
      obtain ⟨hc, hsource⟩ := List.mem_filter.mp hmem
      have hback : back.filter (·.source = source) = [] := by
        rw [List.filter_eq_nil_iff]
        intro d hd hd'
        exact h c hc d hd ((of_decide_eq_true hsource).trans (of_decide_eq_true hd').symm)
      rw [hback, List.nil_append, List.append_nil]

namespace Workflow.Rearranges

variable {catalog : Catalog} {registry : Registry} {w w' : Workflow}

/-- Both workflows declare the same identifiers. -/
theorem declares_iff (h : w.Rearranges w') (block : Identifier) :
    w'.Declares block ↔ w.Declares block := by
  unfold Declares
  simp only [h.blocks.mem_iff]

/-- Both workflows have the same connections. -/
theorem mem_connections_iff (h : w.Rearranges w') (c : Connection) :
    c ∈ w'.connections ↔ c ∈ w.connections := by
  have hfilter (u : Workflow) :
      c ∈ u.connections ↔ c ∈ u.connections.filter (·.source = c.source) := by
    simp
  rw [hfilter w', h.connections, ← hfilter w]

/-- Runs of both workflows start from the same variables. -/
theorem seed_eq (h : w.Rearranges w') (inputs : List (String × String)) :
    Trail.seed w' inputs = Trail.seed w inputs := by
  unfold Trail.seed
  rcases h.vars with hvars | ⟨hperm, hnames⟩
  · rw [hvars]
  · refine (Store.ofList_append_eq_of_perm (hperm.symm.map _) ?_ inputs).symm
    rw [List.map_map]
    exact hnames

/-- A workflow that can be run can also be run in another order. -/
theorem isRunnable (h : w.Rearranges w') (hw : w.IsRunnable catalog registry) :
    w'.IsRunnable catalog registry where
  resolved b hb := hw.resolved b (h.blocks.mem_iff.mp hb)
  start := (h.blocks.countP_eq _).trans hw.start
  joined c hc := by
    rw [h.declares_iff, h.declares_iff]
    exact hw.joined c ((h.mem_connections_iff c).mp hc)

end Workflow.Rearranges

namespace Graph

variable {catalog : Catalog} {registry : Registry} {w w' : Workflow} {g g' : Graph}

/-- The graphs of a workflow in two orders agree. -/
theorem IsGraphOf.agrees (hg : IsGraphOf catalog registry w g)
    (hg' : IsGraphOf catalog registry w' g') (h : w.Rearranges w')
    (hnodup : (w.blocks.map (·.id)).Nodup) : g.Agrees g' := by
  have hmem (r : ResolvedBlock) : r ∈ g'.blocks ↔ r ∈ g.blocks := by
    rw [hg.mem_blocks_iff, hg'.mem_blocks_iff, h.blocks.mem_iff]
  have hnodup' : (w'.blocks.map (·.id)).Nodup := (h.blocks.map _).nodup_iff.mpr hnodup
  refine ⟨?_, fun id => ?_, fun id => ?_⟩
  · obtain ⟨s, hs, hstart⟩ := hg.start
    obtain ⟨s', hs', hstart'⟩ := hg'.start
    have hmem' : s' ∈ g'.blocks.reverse.filter (·.isStart) := by simp [hs']
    have hfound : s' ∈ g.blocks.reverse.filter (·.isStart) := by
      rw [List.mem_filter, List.mem_reverse] at hmem' ⊢
      exact ⟨(hmem s').mp hmem'.1, hmem'.2⟩
    rw [hs, List.mem_singleton] at hfound
    rw [hstart, hstart', hfound]
  · cases hfound : g.block? id with
    | none =>
        have hundeclared : ¬ w'.Declares id := by
          rw [h.declares_iff, ← hg.block?_isSome_iff, hfound]
          exact Bool.false_ne_true
        rw [← hg'.block?_isSome_iff] at hundeclared
        exact Option.not_isSome_iff_eq_none.mp hundeclared
    | some r =>
        -- No other block has its identifier, so that it does not matter which one is found first.
        have hr : r ∈ g'.blocks := (hmem r).mpr (List.mem_of_find?_eq_some hfound)
        rw [← id_of_block? hfound]
        exact hg'.block?_of_nodup hnodup' hr
  · unfold outgoing
    rw [hg.connections, hg'.connections, h.connections]

end Graph

/-- A walk goes on in the same way on graphs that agree. -/
theorem Walk.run_congr {g g' : Graph} (h : g.Agrees g') (header : RunHeader)
    (maxSteps left : Nat) (walk : Walk) :
    run header g' maxSteps left walk = run header g maxSteps left walk := by
  have hvisit (b : ResolvedBlock) (walk : Walk) :
      walk.visit header g' b = walk.visit header g b := by
    simp only [visit, h.outgoing]
  have hadvance (b : ResolvedBlock) (result : StepResult) :
      advance g' b result = advance g b result := by
    unfold advance
    rw [h.outgoing]
  induction left generalizing walk with
  | zero => rw [run, run]
  | succ left ih =>
      rw [run, run]
      simp only [h.block, hvisit, hadvance, ih]

namespace Engine

variable {engine : Engine} {limits : Limits} {w w' : Workflow} {g : Graph} {request : RunRequest}

/-- A workflow in another order leaves the same behind, whatever its handlers do. -/
theorem execute_of_rearranges (hgraph : engine.graph w = .ok g) (h : w.Rearranges w')
    (hnodup : (w.blocks.map (·.id)).Nodup) (request : RunRequest) :
    (engine.execute w' request).1 = (engine.execute w request).1 := by
  have hrunnable : w'.IsRunnable engine.catalog engine.registry :=
    h.isRunnable (Graph.exists_ofWorkflow_iff.mp ⟨g, hgraph⟩)
  obtain ⟨g', hgraph'⟩ : ∃ g', engine.graph w' = .ok g' := Graph.exists_ofWorkflow_iff.mpr hrunnable
  have hagrees : g.Agrees g' :=
    (isGraphOf_of_graph hgraph).agrees (isGraphOf_of_graph hgraph') h hnodup
  have hscene : openingScene engine.config w' request = openingScene engine.config w request := by
    unfold openingScene
    rw [h.seed_eq]
  have hrun : runGraph engine.config g' w' request = runGraph engine.config g w request := by
    unfold runGraph Walk.start
    simp only [hscene, h.id, hagrees.start, Walk.run_congr hagrees]
  simp only [execute, hgraph, hgraph', hrun]

/-- A workflow that can be run, in which no two blocks share an identifier, can also be run with its
blocks under other identifiers and in any order, with its variables in any order if no two share a
name, and with its connections in any order that keeps that of the connections of each block. It
leaves the same record and sends the same requests; over other handlers than the standard ones this
is still so if the identifiers are kept. -/
theorem execute_rearranged (engine : Engine) (limits : Limits)
    (rename : Identifier → Identifier) (w w' : Workflow) (g : Graph) (request : RunRequest)
    (hregistry : engine.registry = .standard limits ∨ rename = id)
    (hinjective : Set.InjOn rename {block | w.Declares block}) (hgraph : engine.graph w = .ok g)
    (hnodup : (w.blocks.map (·.id)).Nodup) (h : (w.renamed rename).Rearranges w') :
    ∃ result result', (engine.execute w request).1 = .ok result ∧
      (engine.execute w' request).1 = .ok result' ∧ result'.record = result.record ∧
      result'.server = result.server := by
  rcases hregistry with hstandard | rfl
  · obtain ⟨result, result', hresult, hrenamed, hrecord, hserver⟩ :=
      exists_execute_renamed hstandard hgraph hinjective request
    have hgraph' : engine.graph (w.renamed rename) = .ok (g.renamed rename) :=
      Graph.ofWorkflow_eq_ok_iff.mpr ((isGraphOf_of_graph hgraph).renamed rename)
    have hnodup' : ((w.renamed rename).blocks.map (·.id)).Nodup := by
      have hids : ((w.blocks.map (·.id)).map rename).Nodup := by
        refine hnodup.map_on fun a ha b hb hab => hinjective ?_ ?_ hab
        · exact List.mem_map.mp ha
        · exact List.mem_map.mp hb
      rw [List.map_map] at hids
      show ((w.blocks.map (·.renamed rename)).map (·.id)).Nodup
      rw [List.map_map]
      exact hids
    have hexecute := execute_of_rearranges hgraph' h hnodup' request
    exact ⟨result, result', hresult, hexecute.trans hrenamed, hrecord, hserver⟩
  · have hsame : w.renamed id = w := w.renamed_id
    rw [hsame] at h
    obtain ⟨result, hresult⟩ := exists_execute_ok hgraph request
    have hexecute := execute_of_rearranges hgraph h hnodup request
    exact ⟨result, result, hresult, hexecute.trans hresult, rfl, rfl⟩

/-- The identifiers of two blocks of the example change places. -/
def swapped : Identifier → Identifier := Equiv.swap (.ofNat 1) (.ofNat 2)

/-- The example with two identifiers in each other's place, its blocks and variables in reverse
order, and the connection of its start at the end. -/
def shuffledExample : Workflow :=
  let w := (Workflow.exampleOf .ofNat).renamed swapped
  { w with
    blocks := w.blocks.reverse
    vars := w.vars.reverse
    connections := w.connections.drop 1 ++ w.connections.take 1 }

/-- The example is rearranged. -/
theorem rearranges_shuffledExample :
    ((Workflow.exampleOf .ofNat).renamed swapped).Rearranges shuffledExample where
  id := rfl
  blocks := List.reverse_perm _
  vars := Or.inr ⟨List.reverse_perm _, by decide +kernel⟩
  connections source := by
    have hexchange := filter_source_append_comm (by decide +kernel :
      ∀ c ∈ ((Workflow.exampleOf .ofNat).renamed swapped).connections.take 1,
        ∀ d ∈ ((Workflow.exampleOf .ofNat).renamed swapped).connections.drop 1,
          c.source ≠ d.source) source
    rw [List.take_append_drop] at hexchange
    exact hexchange

/-- The example leaves the same record when it is rearranged. -/
theorem example_rearranged : ∃ result result',
    ((create (.standard {}) .standard {}).execute (Workflow.exampleOf .ofNat) default).1 =
      .ok result ∧
    ((create (.standard {}) .standard {}).execute shuffledExample default).1 = .ok result' ∧
    result'.record = result.record := by
  obtain ⟨g, hg⟩ := Workflow.exists_ofWorkflow_exampleOf {} .ofNat
  obtain ⟨result, result', hresult, hresult', hrecord, _⟩ :=
    execute_rearranged (create (.standard {}) .standard {}) {} swapped _ shuffledExample g default
      (Or.inl rfl) (Equiv.swap _ _).injective.injOn hg (by decide +kernel)
      rearranges_shuffledExample
  exact ⟨result, result', hresult, hresult', hrecord⟩

end Engine
end Flowchart
