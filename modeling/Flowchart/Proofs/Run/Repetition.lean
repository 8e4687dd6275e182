import Flowchart.Command.Example
import Flowchart.Proofs.Graph.Choice
import Flowchart.Proofs.Run.Likeness

/-!
# Runs without repeated connections

A connection that repeats the mark of an earlier one is never followed and offers no label of its
own. All such connections can therefore be deleted from a workflow without a difference to any of
its runs over the standard handlers.
-/

namespace Flowchart

/-- A workflow without the connections that repeat an earlier one. -/
def Workflow.withoutRepeats (w : Workflow) : Workflow :=
  { w with connections := Connection.keepFirst [] w.connections }

namespace Graph

variable {catalog : Catalog} {registry : Registry} {w : Workflow} {g : Graph}

/-- A graph without the connections that repeat an earlier one. -/
def withoutRepeats (g : Graph) : Graph :=
  { g with connections := Connection.keepFirst [] g.connections }

/-- Without its repeated connections a workflow still has a graph, which is that without them. -/
theorem IsGraphOf.withoutRepeats (h : IsGraphOf catalog registry w g) :
    IsGraphOf catalog registry w.withoutRepeats g.withoutRepeats where
  blocks := h.blocks
  fits := h.fits
  start := h.start
  connections := congrArg (Connection.keepFirst []) h.connections
  joined c hc := h.joined c (Connection.mem_of_mem_keepFirst hc)

/-- What does not depend on repeated connections is the same of the connections that leave a
block. -/
theorem apply_outgoing_withoutRepeats {α : Type} {f : List Connection → α}
    (hf : Connection.IgnoresRepeats f) (g : Graph) (id : Identifier) :
    f (g.withoutRepeats.outgoing id) = f (g.outgoing id) :=
  (hf.filter_source id).apply_keepFirst g.connections

end Graph

/-- Nothing in a run tells a graph from that without its repeated connections. -/
theorem Disguise.graphs_withoutRepeats {d : Disguise} (hrename : d.rename = id) (g : Graph) :
    d.Graphs g g.withoutRepeats := by
  obtain ⟨hstart, hblock, htarget, hbranch⟩ := Disguise.graphs_self (g := g) hrename
  refine ⟨hstart, hblock, fun branch block => ?_, fun block key => ?_⟩
  · rw [Graph.apply_outgoing_withoutRepeats (ignoresRepeats_selectConnection branch)]
    exact htarget branch block
  · rw [Graph.apply_outgoing_withoutRepeats (ignoresRepeats_any_matchesLabel key)]
    exact hbranch block key

namespace Engine

/-- A workflow over the standard handlers that can be run can also be run without the connections
that repeat the mark of an earlier one, and every run of it leaves the same record. No choice of a
connection and no search for a label among the connections that leave a block depends on any
connection that comes after one with the same mark. -/
theorem execute_withoutRepeats (engine : Engine) (limits : Limits) (w : Workflow) (g : Graph)
    (hregistry : engine.registry = .standard limits) (hgraph : engine.graph w = .ok g) :
    (∀ request, ∃ result result', (engine.execute w request).1 = .ok result ∧
      (engine.execute w.withoutRepeats request).1 = .ok result' ∧
      result'.record = result.record ∧ result'.server = result.server) ∧
    ∀ id, (∀ branch, Connection.IgnoresRepeats fun connections =>
        selectConnection branch (connections.filter (·.source = id))) ∧
      ∀ key, Connection.IgnoresRepeats fun connections =>
        (connections.filter (·.source = id)).any (·.matchesLabel key) := by
  let d : Disguise := ⟨id, Function.injective_id, fun _ => False⟩
  have hgraph' : engine.graph w.withoutRepeats = .ok g.withoutRepeats :=
    Graph.ofWorkflow_eq_ok_iff.mpr (isGraphOf_of_graph hgraph).withoutRepeats
  have hg : d.Graphs g g.withoutRepeats := Disguise.graphs_withoutRepeats rfl g
  refine ⟨fun request => ?_, fun id => ⟨fun branch => ?_, fun key => ?_⟩⟩
  · exact exists_execute_same hregistry hgraph hgraph' hg (fun _ => not_false) rfl request rfl
  · exact (ignoresRepeats_selectConnection branch).filter_source id
  · exact (ignoresRepeats_any_matchesLabel key).filter_source id

/-- A workflow in which the start is connected to two ends under the same mark. -/
def forked : Workflow :=
  let w := Workflow.empty (.ofNat 9) "Forked"
  let w := w.addBlock (Workflow.standardBlock (.ofNat 1) "Start" "Start" none)
  let w := w.addBlock (Workflow.standardBlock (.ofNat 2) "First" "End" none)
  let w := w.addBlock (Workflow.standardBlock (.ofNat 3) "Second" "End" none)
  let w := w.connectLabeled (.ofNat 4) (.ofNat 1) (.ofNat 2) "Done"
  w.connectLabeled (.ofNat 5) (.ofNat 1) (.ofNat 3) " done "

/-- Its second connection can be deleted. -/
theorem forked_withoutRepeats : ∃ result result',
    ((create (.standard {}) .standard {}).execute forked default).1 = .ok result ∧
    ((create (.standard {}) .standard {}).execute forked.withoutRepeats default).1 = .ok result' ∧
    result'.record = result.record ∧ forked.withoutRepeats.connections.length = 1 := by
  have hfaults : forked.faults .standard (.standard {}) = [] := by decide +kernel
  obtain ⟨g, hg⟩ := Graph.exists_ofWorkflow_iff.mpr (Workflow.faults_eq_nil_iff.mp hfaults)
  obtain ⟨hsame, _⟩ :=
    execute_withoutRepeats (create (.standard {}) .standard {}) {} forked g rfl hg
  obtain ⟨result, result', hresult, hresult', hrecord, _⟩ := hsame default
  exact ⟨result, result', hresult, hresult', hrecord, by decide +kernel⟩

end Engine
end Flowchart
