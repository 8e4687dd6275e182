import Flowchart.Engine
import Flowchart.Proofs.Run.Trace

/-!
# What a run leaves behind

`RunResult.ofVisits` is the record and the events of a run written down from its visits and from the
position where it ends. `runGraph_eq_ofVisits` says that this is what an engine gives for the visits
of `Graph.IsRun`, so that all questions about records and events become questions about visits.
`Engine.refuses_exactly_first_fault` says for which workflows there are any.
-/

namespace Flowchart

/-- What a run that was asked for is called in its events. -/
def RunRequest.header (request : RunRequest) (w : Workflow) : RunHeader :=
  ⟨request.run, w.id, request.startedAt⟩

/-- The events of a visit: its start, the notes of the handler, and its end. -/
def Visit.events (header : RunHeader) (v : Visit) : List Event :=
  .blockStarted header.run v.id v.name v.block.type.name (Walk.time header v.before.clock) ::
    (v.left.notes.map fun n => .noted header.run v.id n (Walk.time header v.left.clock)) ++
    [.blockCompleted header.run v.id v.result.description v.result.isError
      (v.left.clock.now - v.before.clock.now) (Walk.time header v.left.clock)]

namespace RunResult

/-- The record of a run with such visits that ends at a position. -/
def recordOf (config : EngineConfig) (w : Workflow) (request : RunRequest) (visits : List Visit)
    (last : Position) : RunRecord where
  id := request.run
  workflowId := w.id
  executedAt := request.startedAt
  inputData := (Trail.seed w request.inputs).snapshot
  resultData := last.scene.store.snapshot
  path := visits.map (·.name)
  actions := visits.map (·.result.description) ++ last.notes config.maxSteps
  outcome := last.outcome
  truncated := last.isCut
  steps := visits.length

/-- The events of a run with such visits that ends at a position. -/
def eventsOf (config : EngineConfig) (w : Workflow) (request : RunRequest) (visits : List Visit)
    (last : Position) : List Event :=
  let header := request.header w
  .runStarted header.run header.workflow
      (Walk.time header (Engine.openingScene config w request).clock) ::
    visits.flatMap (·.events header) ++
    [.runCompleted header.run last.outcome visits.length last.scene.clock.now
      (Walk.time header last.scene.clock)]

/-- What a run with such visits leaves behind. -/
def ofVisits (config : EngineConfig) (w : Workflow) (request : RunRequest) (visits : List Visit)
    (last : Position) : RunResult :=
  ⟨recordOf config w request visits last, eventsOf config w request visits last,
    last.scene.server⟩

end RunResult

namespace Walk

variable {header : RunHeader} {g : Graph} {maxSteps left : Nat} {w walk : Walk} {v : Visit}
  {visits : List Visit} {last : Position}

/-- The walk after a visit. -/
def keep (header : RunHeader) (v : Visit) (w : Walk) : Walk :=
  { w with
    scene := v.after
    trail := w.trail.step v.name v.result.description
    events := w.events ++ v.events header }

/-- A walk has gone on to another one by visits and was closed at a position. -/
structure Becomes (header : RunHeader) (maxSteps : Nat) (w : Walk) (visits : List Visit)
    (last : Position) (walk : Walk) : Prop where
  scene : walk.scene = last.scene
  inputData : walk.trail.inputData = w.trail.inputData
  path : walk.trail.path.toList = w.trail.path.toList ++ visits.map (·.name)
  actions : walk.trail.actions.toList =
    w.trail.actions.toList ++ (visits.map (·.result.description) ++ last.notes maxSteps)
  truncated : walk.trail.truncated = (w.trail.truncated || last.isCut)
  events : walk.events.toList = w.events.toList ++ visits.flatMap (·.events header)

/-- What a walk becomes after a visit is what it becomes with the visit in front. -/
theorem Becomes.cons {next : Identifier}
    (h : Becomes header maxSteps { w.keep header v with current := next } visits last walk) :
    Becomes header maxSteps w (v :: visits) last walk where
  scene := h.scene
  inputData := h.inputData
  path := by simpa [keep, Trail.step] using h.path
  actions := by simpa [keep, Trail.step] using h.actions
  truncated := h.truncated
  events := by simpa [keep] using h.events

/-- A visit gives the verdict of the handler, and the walk keeps what happened. -/
theorem visit_eq (b : ResolvedBlock) : w.visit header g b =
    ((g.visit b w.scene).result, w.keep header (g.visit b w.scene)) := by
  have hevents (first last : Event) (notes : List Event) :
      (w.events.push first ++ notes).push last = w.events ++ (first :: notes ++ [last]) := by
    apply Array.toList_inj.mp
    simp
  simp only [keep, Visit.events, ← hevents]
  rfl

/-! ### How a walk goes on -/

/-- A cancelled walk ends with a note. -/
theorem run_of_cancelled (h : w.scene.clock.cancelled = true) :
    run header g maxSteps left w =
      .ok (.cancelled, { w with trail := w.trail.note "Execution cancelled" }) := by
  unfold run
  rw [if_pos h]

/-- A walk without steps left is cut. -/
theorem run_zero (h : w.scene.clock.cancelled = false) :
    run header g maxSteps 0 w =
      .ok (.completed, { w with trail := w.trail.truncate maxSteps }) := by
  unfold run
  rw [if_neg (by simp [h])]

/-- A walk whose visit gives an outcome keeps the visit and stops. -/
theorem run_succ_of_stop {outcome : Outcome} (h : w.scene.clock.cancelled = false)
    (hv : g.IsVisit w.current w.scene v) (hturn : advance g v.block v.result = .stop outcome) :
    run header g maxSteps (left + 1) w = .ok (outcome, w.keep header v) := by
  rw [run, if_neg (by simp [h])]
  simp only [hv.found, visit_eq, ← hv.made, hturn]

/-- A walk whose visit leads on keeps the visit and has one step less. -/
theorem run_succ_of_goOn {next : Identifier} (h : w.scene.clock.cancelled = false)
    (hv : g.IsVisit w.current w.scene v) (hturn : advance g v.block v.result = .goOn next) :
    run header g maxSteps (left + 1) w =
      run header g maxSteps left { w.keep header v with current := next } := by
  rw [run, if_neg (by simp [h])]
  simp only [hv.found, visit_eq, ← hv.made, hturn]

/-- What a cancelled walk becomes. -/
theorem becomes_of_cancelled (h : w.scene.clock.cancelled = true) :
    Becomes header maxSteps w [] ⟨.goOn w.current, w.scene⟩
      { w with trail := w.trail.note "Execution cancelled" } := by
  constructor <;> simp [Trail.note, Position.notes, Position.isCut, h]

/-- What a walk becomes that is cut. -/
theorem becomes_of_cut (h : w.scene.clock.cancelled = false) :
    Becomes header maxSteps w [] ⟨.goOn w.current, w.scene⟩
      { w with trail := w.trail.truncate maxSteps } := by
  constructor <;> simp [Trail.truncate, Trail.note, Position.notes, Position.isCut, h]

/-- What a walk becomes by a last visit. -/
theorem becomes_keep (outcome : Outcome) :
    Becomes header maxSteps w [v] ⟨.stop outcome, v.after⟩ (w.keep header v) := by
  constructor <;> simp [keep, Trail.step, Position.notes, Position.isCut]

/-- A run goes through the visits of its trace and is closed at the last position. -/
theorem exists_run_eq (header : RunHeader) (maxSteps : Nat)
    (h : g.IsRun left ⟨.goOn w.current, w.scene⟩ visits last) :
    ∃ walk, run header g maxSteps left w = .ok (last.outcome, walk) ∧
      Becomes header maxSteps w visits last walk := by
  -- Each visit of the trace is one unfolding of the walk, which ends where the trace does.
  induction visits generalizing left w with
  | nil =>
      obtain rfl := h.eq_of_nil
      cases hcancelled : w.scene.clock.cancelled with
      | true =>
          refine ⟨_, ?_, becomes_of_cancelled hcancelled⟩
          rw [run_of_cancelled hcancelled, Position.outcome, if_pos hcancelled]
      | false =>
          obtain rfl : left = 0 := by
            rcases h.maximal w.current rfl with hmax | hmax
            · rw [hcancelled] at hmax
              cases hmax
            · exact hmax.symm
          refine ⟨_, ?_, becomes_of_cut hcancelled⟩
          rw [run_zero hcancelled, Position.outcome, if_neg (by simp [hcancelled])]
  | cons v visits ih =>
      obtain ⟨q, n, rfl, hcancelled, hstep, hrest⟩ := h.exists_of_cons
      obtain ⟨id, hid, hv, rfl⟩ := Graph.step_iff.mp hstep
      cases hid
      cases hturn : advance g v.block v.result with
      | stop outcome =>
          rw [hturn] at hrest
          obtain ⟨rfl, rfl⟩ := hrest.eq_of_stop
          exact ⟨_, run_succ_of_stop hcancelled hv hturn, becomes_keep outcome⟩
      | goOn next =>
          rw [hturn] at hrest
          obtain ⟨walk, hrun, hbecomes⟩ :=
            ih (w := { w.keep header v with current := next }) hrest
          exact ⟨walk, (run_succ_of_goOn hcancelled hv hturn).trans hrun, hbecomes.cons⟩

end Walk

namespace Engine

variable {config : EngineConfig} {g : Graph} {w : Workflow} {request : RunRequest}
  {visits : List Visit} {last : Position}

/-- Where a run on a graph starts. -/
def opening (config : EngineConfig) (g : Graph) (w : Workflow) (request : RunRequest) :
    Position :=
  ⟨.goOn g.start, openingScene config w request⟩

/-- The record of a run that goes on from its start is written down from its visits. -/
theorem finish_eq_recordOf {walk : Walk} (h : Walk.Becomes (request.header w) config.maxSteps
      (.start (request.header w) g (openingScene config w request)) visits last walk) :
    walk.trail.finish request.run w.id request.startedAt last.scene.store last.outcome =
      RunResult.recordOf config w request visits last := by
  have hsteps : walk.trail.steps = visits.length := by
    rw [Trail.steps, ← Array.length_toList, h.path]
    simp [Walk.start, Trail.ofStore]
  simp only [Trail.finish, RunResult.recordOf, h.inputData, h.path, h.actions, h.truncated,
    hsteps]
  simp [Walk.start, Trail.ofStore, openingScene]

/-- A run leaves behind what its visits say. -/
theorem runGraph_eq_ofVisits
    (h : g.IsRun config.maxSteps (opening config g w request) visits last) :
    runGraph config g w request = .ok (.ofVisits config w request visits last) := by
  obtain ⟨walk, hrun, hbecomes⟩ := Walk.exists_run_eq (request.header w) config.maxSteps
    (w := .start (request.header w) g (openingScene config w request)) h
  have hrecord := finish_eq_recordOf hbecomes
  have hevents (e : Event) : (walk.events.push e).toList =
      .runStarted request.run w.id
          (Walk.time (request.header w) (openingScene config w request).clock) ::
        visits.flatMap (·.events (request.header w)) ++ [e] := by
    simp [hbecomes.events, Walk.start, RunRequest.header]
  unfold runGraph
  rw [bind_eq_ok_iff]
  refine ⟨_, hrun, ?_⟩
  simp only [pure, Except.pure, hevents, hbecomes.scene, hrecord]
  rfl

/-- On a closed graph a run finds its first block. -/
theorem finds_opening (hclosed : g.Closed) (config : EngineConfig) (w : Workflow)
    (request : RunRequest) : g.Finds (opening config g w request) := by
  intro id hid
  cases hid
  exact hclosed.start

/-- On a closed graph a run visits blocks until it ends, and leaves behind what they say. -/
theorem exists_runGraph_eq (hclosed : g.Closed) (config : EngineConfig) (w : Workflow)
    (request : RunRequest) : ∃ visits last,
    g.IsRun config.maxSteps (opening config g w request) visits last ∧
      runGraph config g w request = .ok (.ofVisits config w request visits last) := by
  have hrun := Graph.isRun_trace hclosed (finds_opening hclosed config w request) config.maxSteps
  exact ⟨_, _, hrun, runGraph_eq_ofVisits hrun⟩

variable {engine : Engine}

/-- The graph of an engine is that of the workflow. -/
theorem isGraphOf_of_graph (h : engine.graph w = .ok g) :
    g.IsGraphOf engine.catalog engine.registry w :=
  Graph.ofWorkflow_eq_ok_iff.mp h

/-- An engine that refuses a workflow stays as it is. -/
theorem execute_of_fault {fault : GraphFault} (h : engine.graph w = .error fault) :
    engine.execute w request = (.error fault, engine) := by
  rw [execute, h]

/-- An engine that accepts a workflow runs its graph and broadcasts the events. -/
theorem execute_of_isRun (h : engine.graph w = .ok g)
    (hrun : g.IsRun engine.config.maxSteps (opening engine.config g w request) visits last) :
    engine.execute w request =
      (.ok (.ofVisits engine.config w request visits last),
        { engine with
          bus := engine.bus.sendAll
            (RunResult.eventsOf engine.config w request visits last) }) := by
  simp only [execute, h, runGraph_eq_ofVisits hrun]
  rfl

/-- An engine that accepts a workflow gives the record of its visits. -/
theorem exists_execute_eq (h : engine.graph w = .ok g) (request : RunRequest) :
    ∃ visits last,
      g.IsRun engine.config.maxSteps (opening engine.config g w request) visits last ∧
      (engine.execute w request).1 = .ok (.ofVisits engine.config w request visits last) := by
  obtain ⟨visits, last, hrun, _⟩ :=
    exists_runGraph_eq (isGraphOf_of_graph h).closed engine.config w request
  exact ⟨visits, last, hrun, by rw [execute_of_isRun h hrun]⟩

end Engine

/-! ## Which workflows an engine accepts

An engine accepts the workflows that can be run and refuses all others with their first fault,
whether they are to be validated or run. A refusal has no effect, and once a workflow is accepted a
run always comes to its record, since nothing that it looks up in the graph is missing.
-/

namespace Engine

variable {engine : Engine} {w : Workflow} {g : Graph} {request : RunRequest} {fault : GraphFault}

/-- Validation refuses the workflows without a graph. -/
theorem validate_eq_error_iff :
    engine.validate w = .error fault ↔ engine.graph w = .error fault := by
  unfold validate
  cases engine.graph w with
  | error found => simp [bind, Except.bind]
  | ok g => simp [bind, Except.bind, pure, Except.pure]

/-- An engine that accepts a workflow gives a record of every run. -/
theorem exists_execute_ok (h : engine.graph w = .ok g) (request : RunRequest) :
    ∃ result, (engine.execute w request).1 = .ok result := by
  obtain ⟨visits, last, _, hresult⟩ := exists_execute_eq h request
  exact ⟨_, hresult⟩

/-- A run is refused exactly when the workflow has no graph. -/
theorem execute_eq_error_iff :
    (engine.execute w request).1 = .error fault ↔ engine.graph w = .error fault := by
  cases h : engine.graph w with
  | error found =>
      rw [execute_of_fault h]
      simp only [Except.error.injEq]
  | ok g =>
      obtain ⟨result, hresult⟩ := exists_execute_ok h request
      rw [hresult]
      simp

/-- A refused run leaves the engine as it was. -/
theorem execute_snd_of_error (h : (engine.execute w request).1 = .error fault) :
    (engine.execute w request).2 = engine := by
  rw [execute_of_fault (execute_eq_error_iff.mp h)]

/-- No workflow is refused for a block that a run would have lost. -/
theorem graph_ne_blockNotFound (id : Identifier) :
    engine.graph w ≠ .error (.blockNotFound id) := by
  intro h
  rw [graph, Graph.ofWorkflow_eq_error_iff] at h
  exact Workflow.blockNotFound_not_mem_faults id (List.mem_of_head? h)

/-- An engine has a graph for exactly the workflows that can be run, and refuses any other one with
its first fault. Validation and runs are refused for the same workflows with the same fault, and
without any effect. When a workflow is accepted every run comes to its record: its graph holds the
start, both ends of each connection and all that a run is to visit next. -/
theorem refuses_exactly_first_fault (engine : Engine) (w : Workflow) :
    ((∃ g, engine.graph w = .ok g) ↔ w.IsRunnable engine.catalog engine.registry) ∧
    (∀ fault, engine.graph w = .error fault ↔
      (w.faults engine.catalog engine.registry).head? = some fault) ∧
    (∀ fault, engine.validate w = .error fault ↔ engine.graph w = .error fault) ∧
    (∀ request fault,
      (engine.execute w request).1 = .error fault ↔ engine.graph w = .error fault) ∧
    (∀ request fault, (engine.execute w request).1 = .error fault →
      (engine.execute w request).2 = engine) ∧
    (∀ request g, engine.graph w = .ok g →
      ∃ result, (engine.execute w request).1 = .ok result) ∧
    (∀ g, engine.graph w = .ok g → g.Closed ∧
      ∀ request visits p,
        g.Steps (opening engine.config g w request) visits p → g.Finds p) ∧
    (∀ request id, (engine.execute w request).1 ≠ .error (.blockNotFound id)) := by
  refine ⟨Graph.exists_ofWorkflow_iff, fun _ => Graph.ofWorkflow_eq_error_iff,
    fun _ => validate_eq_error_iff, fun _ _ => execute_eq_error_iff,
    fun _ _ => execute_snd_of_error, fun request _ h => exists_execute_ok h request, ?_, ?_⟩
  · intro g h
    have hclosed := (isGraphOf_of_graph h).closed
    refine ⟨hclosed, fun request visits p hsteps => hsteps.finds hclosed ?_⟩
    exact finds_opening hclosed engine.config w request
  · intro request id h
    exact graph_ne_blockNotFound id (execute_eq_error_iff.mp h)

end Engine
end Flowchart
