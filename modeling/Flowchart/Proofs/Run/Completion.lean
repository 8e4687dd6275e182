import Flowchart.Proofs.Command.Example
import Flowchart.Proofs.Graph.Reachability
import Flowchart.Proofs.Run.Execution

/-!
# Which runs can be completed

A run visits only what can be reached from its start (`Steps.keepsToPaths`). A graph that reaches no
End block therefore leaves its runs only the other ways to end, and this is what validation reports
of it beforehand.
-/

namespace Flowchart

namespace Graph

variable {g : Graph} {p q : Position} {v : Visit} {visits : List Visit}

/-- What a run may come to along the connections of a graph: to visit what can be reached from the
start, and to be completed if an End block is among it. -/
def KeepsToPaths (g : Graph) : Position → Prop
  | ⟨.goOn id, _⟩ => g.Reaches g.start id
  | ⟨.stop .completed, _⟩ => g.endReachable = true
  | ⟨.stop _, _⟩ => True

/-- A step goes along a connection, or completes the run at the End block that it visits. -/
theorem Step.keepsToPaths (h : g.Step p v q) (hp : g.KeepsToPaths p) : g.KeepsToPaths q := by
  cases h with
  | complete hv hend => exact endReachable_iff.mpr ⟨_, v.block, hp, hv.found, hend⟩
  | follow hv hend hc =>
      obtain ⟨hmem, hsource⟩ := mem_of_choice hc
      have hid : v.id = _ := id_of_block? hv.found
      exact Relation.ReflTransGen.tail hp ⟨_, hmem, hsource.trans hid, rfl⟩
  | strand => trivial

/-- A run from the start of a graph keeps to its paths. -/
theorem Steps.keepsToPaths {scene : Scene} (h : g.Steps ⟨.goOn g.start, scene⟩ visits q) :
    g.KeepsToPaths q :=
  h.preserves Step.keepsToPaths Relation.ReflTransGen.refl

/-- A run that is completed and was not cut has stopped at an End block. -/
theorem endReachable_of_completed (hp : g.KeepsToPaths p) (houtcome : p.outcome = .completed)
    (hcut : p.isCut = false) : g.endReachable = true := by
  obtain ⟨turn, scene⟩ := p
  cases turn with
  | goOn id =>
      -- Without an outcome of its own, a run that was not cut was cancelled.
      have hcancelled : scene.clock.cancelled = true := by simpa [Position.isCut] using hcut
      simp [Position.outcome, hcancelled] at houtcome
  | stop outcome =>
      obtain rfl : outcome = .completed := houtcome
      exact hp

end Graph

namespace Engine

variable {engine : Engine} {w : Workflow} {g : Graph} {request : RunRequest} {result : RunResult}

/-- The report on a workflow with a graph. -/
theorem validate_of_graph (h : engine.graph w = .ok g) :
    engine.validate w = .ok ⟨g.size, w.connections.length, g.endReachable⟩ := by
  simp only [validate, h]
  rfl

/-- A run is completed without being cut only on a graph that reaches an End block. -/
theorem endReachable_of_execute (h : engine.graph w = .ok g)
    (hresult : (engine.execute w request).1 = .ok result)
    (houtcome : result.record.outcome = .completed) (hcut : result.record.truncated = false) :
    g.endReachable = true := by
  obtain ⟨visits, last, hrun, hexecute⟩ := exists_execute_eq h request
  obtain rfl := Except.ok.inj (hexecute.symm.trans hresult)
  exact Graph.endReachable_of_completed hrun.steps.keepsToPaths houtcome hcut

/-- A workflow is reported to reach an End block exactly when a path of its connections leads from
the start of its graph to an identifier under which an End block is found. It is then the identifier
of an End block of the workflow; and if no two blocks share an identifier, a path to any of these
will do. Only a workflow that is so reported has runs that are completed without being cut; the runs
of any other one end stranded, cancelled or at the limit of steps. -/
theorem reported_end_reachable_iff (engine : Engine) (w : Workflow) (g : Graph)
    (hgraph : engine.graph w = .ok g) :
    engine.validate w = .ok ⟨g.size, w.connections.length, g.endReachable⟩ ∧
    (g.endReachable = true ↔ ∃ id b,
      Relation.ReflTransGen (Connection.Joins w.connections) g.start id ∧
        g.block? id = some b ∧ b.isEnd = true) ∧
    (g.endReachable = true → ∃ b ∈ w.blocks, engine.catalog.isEnd b = true ∧
      Relation.ReflTransGen (Connection.Joins w.connections) g.start b.id) ∧
    ((w.blocks.map (·.id)).Nodup → (∃ b ∈ w.blocks, engine.catalog.isEnd b = true ∧
      Relation.ReflTransGen (Connection.Joins w.connections) g.start b.id) →
        g.endReachable = true) ∧
    (∀ request result, (engine.execute w request).1 = .ok result →
      result.record.outcome = .completed → result.record.truncated = false →
      g.endReachable = true) ∧
    (∀ report, engine.validate w = .ok report → report.endReachable = false →
      ∀ request result, (engine.execute w request).1 = .ok result →
        result.record.outcome = .deadEnd ∨ result.record.outcome = .cancelled ∨
          result.record.truncated = true) := by
  have hg := isGraphOf_of_graph hgraph
  rw [← hg.connections]
  refine ⟨?_, Graph.endReachable_iff, hg.exists_reached_end, hg.endReachable_of_nodup,
    fun request result => endReachable_of_execute hgraph, ?_⟩
  · rw [hg.connections]
    exact validate_of_graph hgraph
  · intro report hreport hreachable request result hresult
    obtain rfl := Except.ok.inj ((validate_of_graph hgraph).symm.trans hreport)
    cases houtcome : result.record.outcome with
    | deadEnd => exact Or.inl rfl
    | cancelled => exact Or.inr (Or.inl rfl)
    | completed =>
        cases hcut : result.record.truncated with
        | true => exact Or.inr (Or.inr rfl)
        | false =>
            rw [endReachable_of_execute hgraph hresult houtcome hcut] at hreachable
            cases hreachable

/-- The report on the example finds an End block on a path from its start. No two of its blocks
share an identifier, so that the path would do for the report. -/
theorem example_reported_end : ∃ engine g,
    engine = create (.standard {}) .standard {} ∧
    engine.graph (Workflow.exampleOf .ofNat) = .ok g ∧
    engine.validate (Workflow.exampleOf .ofNat) = .ok ⟨5, 4, true⟩ ∧
    ((Workflow.exampleOf .ofNat).blocks.map (·.id)).Nodup ∧
    (∃ b ∈ (Workflow.exampleOf .ofNat).blocks, engine.catalog.isEnd b = true ∧
      Relation.ReflTransGen (Connection.Joins (Workflow.exampleOf .ofNat).connections)
        g.start b.id) ∧
    g.endReachable = true := by
  obtain ⟨g, hg⟩ := Workflow.exists_ofWorkflow_exampleOf {} .ofNat
  obtain ⟨hreport, -, hpath, hreachable, -⟩ :=
    reported_end_reachable_iff (create (.standard {}) .standard {}) _ g hg
  have hvalidate : (create (.standard {}) .standard {}).validate (Workflow.exampleOf .ofNat) =
      .ok ⟨5, 4, true⟩ := by decide +kernel
  have hfound : g.endReachable = true :=
    congrArg ValidationReport.endReachable (Except.ok.inj (hreport.symm.trans hvalidate))
  have hnodup : ((Workflow.exampleOf .ofNat).blocks.map (·.id)).Nodup := by decide +kernel
  exact ⟨_, g, rfl, hg, hvalidate, hnodup, hpath hfound, hreachable hnodup (hpath hfound)⟩

end Engine
end Flowchart
