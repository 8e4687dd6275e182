import Flowchart.Blocks.Standard
import Flowchart.Command.Example
import Flowchart.Proofs.Run.Execution

/-!
# Runs interrupted in a block

A run looks at its cancellation between two visits only. If it is cancelled while it visits a block,
what follows is decided by the verdict of that block as ever, and the cancellation is recorded only
if the run would have gone on from there (`Graph.Step.outcome_eq`).
-/

namespace Flowchart

namespace Graph

variable {g : Graph} {left maxSteps : Nat} {p q last : Position} {v : Visit} {visits : List Visit}

/-- The visit in which a run is cancelled is the last one. -/
theorem IsRun.last_of_cancelled (h : g.IsRun left p visits last) (hv : v ∈ visits)
    (hcancelled : v.after.clock.cancelled = true) :
    visits.getLast? = some v ∧ ∃ q, g.Step q v last := by
  obtain ⟨earlier, later, rfl⟩ := List.append_of_mem hv
  obtain ⟨q, _, hlater⟩ := h.steps.split
  cases hlater with
  | @cons _ r _ _ _ hstep hrest =>
      cases hrest with
      | refl => exact ⟨by simp, q, hstep⟩
      | @cons _ _ _ u _ hnext _ =>
          -- Any later visit would begin on the scene that has just been cancelled.
          have hbefore : u.before = v.after := hnext.before_eq.trans hstep.scene_eq
          have huncancelled := h.uncancelled u (by simp)
          rw [hbefore, hcancelled] at huncancelled
          cases huncancelled

/-- The outcome of a run that is cancelled in its last visit is that of the visit, unless it would
lead on to another block. -/
theorem Step.outcome_eq (h : g.Step q v last) (hcancelled : v.after.clock.cancelled = true) :
    last.outcome = if v.block.isEnd then .completed
      else if (v.choice g).isSome then .cancelled else .deadEnd := by
  cases h with
  | complete _ hend => simp [Position.outcome, hend]
  | follow _ hend hc => simp [Position.outcome, hend, hc, hcancelled]
  | strand _ hend hc => simp [Position.outcome, hend, hc]

/-- A run that ends as cancelled after a visit ends with the note. -/
theorem Step.notes_eq (h : g.Step q v last) (hlast : last.outcome = .cancelled) :
    last.notes maxSteps = ["Execution cancelled"] := by
  cases h with
  | complete => cases hlast
  | follow =>
      have hcancelled : v.after.clock.cancelled = true := by
        simpa [Position.outcome] using hlast
      simp [Position.notes, hcancelled]
  | strand => cases hlast

end Graph

namespace Engine

/-- A run is cancelled while it visits a block. -/
structure Interrupts (engine : Engine) (w : Workflow) (request : RunRequest) (g : Graph)
    (visits : List Visit) (last : Position) (v : Visit) : Prop where
  graph : engine.graph w = .ok g
  run : g.IsRun engine.config.maxSteps (opening engine.config g w request) visits last
  visit : v ∈ visits
  fires : v.after.clock.cancelled = true

/-- Whether a run is cancelled while it visits some block. -/
def isInterrupted (engine : Engine) (w : Workflow) (request : RunRequest) : Bool :=
  (engine.graph w).toOption.any fun g =>
    (g.trace engine.config.maxSteps (opening engine.config g w request)).1.any
      (·.after.clock.cancelled)

/-- A trace shows in which visit a run is cancelled. -/
theorem exists_interrupts {engine : Engine} {w : Workflow} {request : RunRequest}
    (h : engine.isInterrupted w request = true) :
    ∃ g visits last v, engine.Interrupts w request g visits last v := by
  unfold isInterrupted at h
  cases hgraph : engine.graph w with
  | error fault =>
      rw [hgraph] at h
      cases h
  | ok g =>
      rw [hgraph] at h
      obtain ⟨v, hv, hfires⟩ := List.any_eq_true.mp h
      have hclosed := (isGraphOf_of_graph hgraph).closed
      have hrun := Graph.isRun_trace hclosed (finds_opening hclosed engine.config w request)
        engine.config.maxSteps
      exact ⟨g, _, _, v, hgraph, hrun, hv, hfires⟩

/-- When a run is cancelled while it visits a block, that block is the last one in its record. The
record has the outcome and the note of a cancellation exactly if the block is not an End block and
its verdict chooses a connection to follow. -/
theorem records_cancellation_iff (engine : Engine) (w : Workflow) (request : RunRequest)
    (g : Graph) (visits : List Visit) (last : Position) (v : Visit)
    (h : engine.Interrupts w request g visits last v) :
    ∃ result, (engine.execute w request).1 = .ok result ∧
      result.record.path.getLast? = some v.name ∧
      (result.record.outcome = if v.block.isEnd then .completed
        else if (v.choice g).isSome then .cancelled else .deadEnd) ∧
      (result.record.outcome = .cancelled ∧
          result.record.actions.getLast? = some "Execution cancelled" ↔
        v.block.isEnd = false ∧ (v.choice g).isSome = true) := by
  obtain ⟨hlast, q, hstep⟩ := h.run.last_of_cancelled h.visit h.fires
  have houtcome := hstep.outcome_eq h.fires
  refine ⟨_, by rw [execute_of_isRun h.graph h.run], ?_, houtcome, ?_⟩
  · show (visits.map (·.name)).getLast? = some v.name
    rw [List.getLast?_map, hlast]
    rfl
  · show last.outcome = .cancelled ∧ (visits.map (·.result.description) ++
      last.notes engine.config.maxSteps).getLast? = some "Execution cancelled" ↔ _
    have hnote : last.outcome = .cancelled →
        (visits.map (·.result.description) ++ last.notes engine.config.maxSteps).getLast? =
          some "Execution cancelled" := by
      intro hcancelled
      rw [hstep.notes_eq hcancelled]
      simp
    rw [and_iff_left_of_imp hnote, houtcome]
    cases v.block.isEnd <;> cases (v.choice g).isSome <;> simp

/-- An engine with a limit of 50 milliseconds. -/
def brief : Engine := .create (.standard {}) .standard { maxTimeMs := some 50 }

/-- A workflow that waits for 100 milliseconds, with a connection of one kind from there. -/
def waitingThen (kind : ConnectionKind) : Workflow :=
  let w := Workflow.empty (.ofNat 9) "Waiting"
  let w := w.addBlock (Workflow.standardBlock (.ofNat 1) "Start" "Start" none)
  let w := w.addBlock (Workflow.standardBlock (.ofNat 2) "Wait" "Wait"
    (some (.object [("DelayMs", .string "100")])))
  let w := w.addBlock (Workflow.standardBlock (.ofNat 3) "End" "End" none)
  let w := w.connect (.ofNat 4) (.ofNat 1) (.ofNat 2) .success
  w.connect (.ofNat 5) (.ofNat 2) (.ofNat 3) kind

/-- The workflow has a graph, whatever connection leaves the wait. -/
theorem exists_graph_waitingThen (kind : ConnectionKind) (config : EngineConfig) :
    ∃ g, (create (.standard {}) .standard config).graph (waitingThen kind) = .ok g := by
  have hfaults : (waitingThen kind).faults .standard (.standard {}) = [] := by
    cases kind <;> decide +kernel
  exact Graph.exists_ofWorkflow_iff.mpr (Workflow.faults_eq_nil_iff.mp hfaults)

/-- The limit interrupts the wait, whatever connection leaves it. -/
theorem isInterrupted_waitingThen (kind : ConnectionKind) :
    brief.isInterrupted (waitingThen kind) default = true := by
  cases kind <;> decide +kernel

/-- An interrupted wait with a connection for errors leaves its run to be cancelled. -/
theorem waiting_records_cancellation : ∃ g visits last v,
    brief.Interrupts (waitingThen .error) default g visits last v ∧
    ∃ result, (brief.execute (waitingThen .error) default).1 = .ok result ∧
      (result.record.outcome = .cancelled ∧
          result.record.actions.getLast? = some "Execution cancelled" ↔
        v.block.isEnd = false ∧ (v.choice g).isSome = true) := by
  obtain ⟨g, visits, last, v, h⟩ := exists_interrupts (isInterrupted_waitingThen .error)
  obtain ⟨result, hresult, _, _, hiff⟩ := records_cancellation_iff brief _ _ g visits last v h
  exact ⟨g, visits, last, v, h, result, hresult, hiff⟩

/-- An interrupted wait without a connection for errors is recorded as a dead end without a note. -/
theorem waiting_records_dead_end : ∃ g visits last v,
    brief.Interrupts (waitingThen .success) default g visits last v ∧
    ((brief.execute (waitingThen .success) default).1.toOption.map fun result =>
        (result.record.outcome, result.record.actions)) =
      some (.deadEnd, ["Started: Start", "Wait of 100ms cancelled"]) := by
  obtain ⟨g, visits, last, v, h⟩ := exists_interrupts (isInterrupted_waitingThen .success)
  exact ⟨g, visits, last, v, h, by decide +kernel⟩

end Engine
end Flowchart
