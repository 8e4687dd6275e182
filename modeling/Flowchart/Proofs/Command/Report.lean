import Flowchart.Command.Report
import Flowchart.Proofs.Command.Listener
import Flowchart.Proofs.Documents
import Flowchart.Proofs.Run.Execution
import Flowchart.Proofs.Run.Frame
import Flowchart.Proofs.Run.NestedLoops

/-!
# What is printed of a run

The last event of a run is its completion, and no other event is printed like it. So the command
that runs a workflow prints the line of the completion if its listener keeps up with the run
(`Command.runReport_tells_completion_iff`). A listener that has fallen behind further than the bus
retains has missed the completion too.
-/

namespace Flowchart

open Command (readWorkflow readInput workflowLines runReport)

/-! ## The last event -/

/-- An event that tells of the end of a run. -/
def Event.IsCompletion : Event → Prop
  | .runCompleted _ _ _ _ _ => True
  | _ => False

/-- The first character of the line of an event. -/
def Event.mark : Event → Char
  | .runStarted _ _ _ => '▶'
  | .runCompleted _ _ _ _ _ => '✨'
  | _ => ' '

theorem head?_toList_append {a b : String} {c : Char} (h : a.toList.head? = some c) :
    (a ++ b).toList.head? = some c := by
  rw [String.toList_append, List.head?_append, h]
  rfl

theorem Event.head?_line (e : Event) : e.line.toList.head? = some e.mark := by
  have hstarted : "▶️  Workflow started".toList.head? = some '▶' := by decide
  have hblock : "  ⚡ ".toList.head? = some ' ' := by decide
  have hresult : "  ".toList.head? = some ' ' := by decide
  have hinfo : "     ℹ️  ".toList.head? = some ' ' := by decide
  have hwarning : "     ⚠️  ".toList.head? = some ' ' := by decide
  have hcompleted : "✨ Workflow ".toList.head? = some '✨' := by decide
  cases e with
  | runStarted => exact hstarted
  | blockStarted =>
      repeat apply head?_toList_append
      exact hblock
  | blockCompleted =>
      repeat apply head?_toList_append
      exact hresult
  | noted run block note time =>
      cases note
      · exact head?_toList_append hinfo
      · exact head?_toList_append hwarning
  | runCompleted =>
      repeat apply head?_toList_append
      exact hcompleted

theorem Event.isCompletion_iff (e : Event) : e.IsCompletion ↔ e.mark = '✨' := by
  cases e <;> simp [IsCompletion, mark]

/-- No other event is printed like a completion. -/
theorem Event.IsCompletion.of_line_eq {e last : Event} (hlast : last.IsCompletion)
    (h : e.line = last.line) : e.IsCompletion := by
  rw [isCompletion_iff] at hlast ⊢
  have hhead := e.head?_line
  rw [h, last.head?_line, hlast] at hhead
  exact (Option.some.inj hhead).symm

/-- Events that end with the only completion among them. -/
structure ClosedBy (last : Event) (events : List Event) : Prop where
  getLast?_eq : events.getLast? = some last
  isCompletion : last.IsCompletion
  before : ∀ e ∈ events.dropLast, ¬ e.IsCompletion

/-- The line of the completion is among the lines of the first events just if these are all. -/
theorem ClosedBy.line_mem_take_iff {last : Event} {events : List Event} (h : ClosedBy last events)
    (n : Nat) : last.line ∈ (events.take n).map Event.line ↔ events.length ≤ n := by
  constructor
  · intro hmem
    obtain ⟨e, he, hline⟩ := List.mem_map.mp hmem
    by_contra hshort
    have hbefore : e ∈ events.dropLast := by
      rw [List.dropLast_eq_take]
      exact List.take_subset_take_left events (by omega) he
    exact h.before e hbefore (h.isCompletion.of_line_eq hline)
  · intro hall
    rw [List.take_of_length_le hall]
    exact List.mem_map_of_mem (List.mem_of_getLast? h.getLast?_eq)

/-- The events of a run end with the only completion among them, which tells of the outcome and the
number of steps in the record. -/
theorem RunResult.closedBy_eventsOf (config : EngineConfig) (w : Workflow) (request : RunRequest)
    (visits : List Visit) (last : Position) :
    ClosedBy (.runCompleted request.run last.outcome visits.length last.scene.clock.now
      (Walk.time (request.header w) last.scene.clock)) (eventsOf config w request visits last) where
  getLast?_eq := List.getLast?_concat
  isCompletion := trivial
  before e he := by
    rw [eventsOf, List.dropLast_concat] at he
    rcases List.mem_cons.mp he with rfl | he
    · exact not_false
    · obtain ⟨v, -, hv⟩ := List.mem_flatMap.mp he
      rw [Visit.events, List.mem_append, List.mem_cons, List.mem_map, List.mem_singleton] at hv
      rcases hv with (rfl | ⟨_, _, rfl⟩) | rfl <;> exact not_false

/-! ## The bus of the command -/

/-- The engine that a command runs workflows with. -/
def RunOptions.engine (options : RunOptions) : Engine :=
  .create (.standard options.limits) .standard options.engineConfig

/-- The bus of the command retains 1024 events. -/
theorem RunOptions.carries_bus (options : RunOptions) : options.engine.bus.Carries 1024 [] where
  capacity_eq := by
    show ((Bus.create? (max 1000 1)).getD default).capacity = 1024
    decide
  sent_eq := rfl
  retained_eq := rfl

/-! ## The report -/

/-- The request that the command makes of its engine. -/
def Surroundings.request (s : Surroundings) (inputs : List (String × String)) : RunRequest :=
  ⟨s.fresh 0, s.now, inputs, .unreachable, false⟩

variable {s : Surroundings} {file : String} {options : RunOptions} {w : Workflow}
  {inputs : List (String × String)} {result : RunResult}

/-- The lines that the listener of a run prints. -/
def Surroundings.heard (s : Surroundings) (options : RunOptions) (result : RunResult) :
    List String :=
  (Listener.follow s.receives options.engine.bus result.events).lines

/-- The report of a run: the file, the workflow, what the listener prints, and the record. -/
theorem runReport_eq_success (hfile : readWorkflow file s.source = .ok w)
    (hinput : readInput options.input = .ok inputs)
    (hrun : (options.engine.execute w (s.request inputs)).1 = .ok result) :
    runReport s file options = .success ([s!"🚀 Loading workflow from: {file}"] ++
      (workflowLines w ++ (s.heard options result ++
        ["", "📊 Execution record:", result.record.toJson.pretty]))) := by
  unfold RunOptions.engine Surroundings.request at hrun
  unfold runReport
  simp only [hfile, hinput, bind, Except.bind, pure, Except.pure, Report.ofExcept, hrun,
    Except.mapError]
  rfl

/-- A listener that keeps up prints all lines, the one of the completion included; another one
prints the first lines only, and the one of the completion is missing. -/
theorem heard_cases (s : Surroundings) (options : RunOptions) {last : Event}
    (hlast : ClosedBy last result.events) :
    (Listener.KeepsUp s.receives 1024 result.events ∧ last.line ∈ s.heard options result ∧
      s.heard options result = result.events.map Event.line) ∨
    ¬ Listener.KeepsUp s.receives 1024 result.events ∧ last.line ∉ s.heard options result ∧
      ∃ n < result.events.length,
        s.heard options result = (result.events.take n).map Event.line := by
  rcases Listener.follow_cases s.receives result.events options.carries_bus with
    ⟨hkeeps, hlines⟩ | ⟨hnot, n, hn, -, hlines⟩
  · refine .inl ⟨hkeeps, ?_, hlines⟩
    rw [Surroundings.heard, hlines]
    exact List.mem_map_of_mem (List.mem_of_getLast? hlast.getLast?_eq)
  · refine .inr ⟨hnot, ?_, n, hn, hlines⟩
    rw [Surroundings.heard, hlines, hlast.line_mem_take_iff]
    omega

/-- The events of a run end with its completion. -/
theorem closedBy_of_execute {request : RunRequest}
    (hrun : (options.engine.execute w request).1 = .ok result) :
    ∃ durationMs time, ClosedBy (.runCompleted request.run result.record.outcome
      result.record.steps durationMs time) result.events := by
  obtain ⟨_, visits, last, _, _, rfl⟩ := Engine.exists_isRun_of_execute hrun
  exact ⟨_, _, RunResult.closedBy_eventsOf options.engine.config w request visits last⟩

/-- The command that runs a workflow prints, between the workflow and the record, the lines of the
events of the run if its listener keeps up, whatever the order of events and receipts. The line of
the completion, with which the events end, is printed in no other case: a listener that has fallen
behind further than the bus retains prints nothing more. -/
theorem runReport_tells_completion_iff (hfile : readWorkflow file s.source = .ok w)
    (hinput : readInput options.input = .ok inputs)
    (hrun : (options.engine.execute w (s.request inputs)).1 = .ok result) :
    ∃ heard durationMs time,
      let last := Event.runCompleted (s.fresh 0) result.record.outcome result.record.steps
        durationMs time
      runReport s file options = .success ([s!"🚀 Loading workflow from: {file}"] ++
        (workflowLines w ++ (heard ++
          ["", "📊 Execution record:", result.record.toJson.pretty]))) ∧
      result.events.getLast? = some last ∧
      (last.line ∈ heard ↔ Listener.KeepsUp s.receives 1024 result.events) ∧
      (Listener.KeepsUp s.receives 1024 result.events → heard = result.events.map Event.line) ∧
      (¬ Listener.KeepsUp s.receives 1024 result.events → ∃ n < result.events.length,
        heard = (result.events.take n).map Event.line) := by
  obtain ⟨durationMs, time, hlast⟩ := closedBy_of_execute hrun
  refine ⟨s.heard options result, durationMs, time, runReport_eq_success hfile hinput hrun,
    hlast.getLast?_eq, ?_⟩
  rcases heard_cases s options hlast with
    ⟨hkeeps, hmem, hlines⟩ | ⟨hnot, hmem, hlines⟩
  · exact ⟨iff_of_true hmem hkeeps, fun _ => hlines, fun hnot => absurd hkeeps hnot⟩
  · exact ⟨iff_of_false hmem hnot, fun hkeeps => absurd hkeeps hnot, fun _ => hlines⟩

/-! ## A long run -/

/-- Fifteen rounds of fifteen rounds with two additions each. -/
def longWorkflow : Workflow := (LoopNest.adding 15 15).workflow

/-- What the command finds outside when it runs the long workflow and its listener receives as
often as said. -/
def longSurroundings (receives : List Event → Nat) : Surroundings where
  source := .ok longWorkflow.toJson.compact
  saved := .ok ()
  now := ⟨19783, 32400, 0⟩
  fresh := Identifier.ofNat
  receives := receives

/-- The command reads a workflow from the text of its document. -/
theorem readWorkflow_compact (file : String) (w : Workflow) :
    readWorkflow file (.ok w.toJson.compact) = .ok w := by
  have hread : Workflow.decoder.ofText w.toJson.compact = .ok w :=
    (Workflow.recovers w (.refl _ _)).ofText (by decide)
  simp only [readWorkflow, hread, Except.mapError, bind, Except.bind]

/-- A visit is announced when it begins and when it ends. -/
theorem Visit.two_le_length_events (header : RunHeader) (v : Visit) :
    2 ≤ (v.events header).length := by
  simp [Visit.events]

/-- A run has two events for each visit at least. -/
theorem RunResult.length_eventsOf_ge (config : EngineConfig) (w : Workflow) (request : RunRequest)
    (visits : List Visit) (last : Position) :
    2 * visits.length ≤ (eventsOf config w request visits last).length := by
  have hvisits : 2 * visits.length ≤ (visits.flatMap (·.events (request.header w))).length := by
    induction visits with
    | nil => exact Nat.le_refl 0
    | cons v visits ih =>
        have := v.two_le_length_events (request.header w)
        rw [List.flatMap_cons, List.length_append, List.length_cons]
        omega
  simp only [eventsOf, List.length_append, List.length_cons, List.length_nil]
  omega

/-- The long workflow is run to its end, which takes more events than the bus retains. -/
theorem exists_execute_longWorkflow {request : RunRequest} (hrequest : request.cancelled = false) :
    ∃ result, (({} : RunOptions).engine.execute longWorkflow request).1 = .ok result ∧
      1024 < result.events.length := by
  -- the nest goes its route, whose 708 visits have two events each
  have hnest := LoopNest.adding_isNest ({} : RunOptions).limits 15 15
  obtain ⟨g, hgraph⟩ : ∃ g, ({} : RunOptions).engine.graph longWorkflow = .ok g :=
    Graph.exists_ofWorkflow_iff.mpr hnest.isRunnable
  have hg := Engine.isGraphOf_of_graph hgraph
  have hopening : Engine.opening ({} : RunOptions).engine.config g longWorkflow request =
      ⟨.goOn (LoopNest.adding 15 15).start.id,
        Engine.openingScene ({} : RunOptions).engine.config longWorkflow request⟩ := by
    rw [Engine.opening, hnest.start_eq hg]
  have hsafe : ∀ visits q, visits.length ≤ 1000 →
      g.Steps (Engine.opening ({} : RunOptions).engine.config g longWorkflow request) visits q →
      q.scene.clock.cancelled = false :=
    fun _ _ _ h => Engine.uncancelled_of_standard hgraph rfl hrequest h
  rw [hopening] at hsafe
  obtain ⟨visits, scene, hrun, hroute⟩ := hnest.exists_isRun hg (by decide) (by decide) rfl
    (by rw [LoopNest.length_route]; decide) hsafe
  rw [← hopening] at hrun
  have hvisits : visits.length = 708 := by
    have hlength := congrArg List.length hroute
    rwa [List.length_map, LoopNest.length_route] at hlength
  refine ⟨_, by rw [Engine.execute_of_isRun hgraph hrun], ?_⟩
  have := RunResult.length_eventsOf_ge ({} : RunOptions).engine.config longWorkflow request visits
    ⟨.stop .completed, scene⟩
  show 1024 < (RunResult.eventsOf _ _ _ _ _).length
  omega

/-- A listener that receives after each event tells of the end of the long run. -/
theorem longWorkflow_tells_completion : ∃ result heard durationMs time,
    let s := longSurroundings fun _ => 1
    let file := "long.json"
    let last := Event.runCompleted (s.fresh 0) result.record.outcome result.record.steps
      durationMs time
    readWorkflow file s.source = .ok longWorkflow ∧ readInput none = .ok [] ∧
    (({} : RunOptions).engine.execute longWorkflow (s.request [])).1 = .ok result ∧
    1024 < result.events.length ∧
    runReport s file {} = .success ([s!"🚀 Loading workflow from: {file}"] ++
      (workflowLines longWorkflow ++ (heard ++
        ["", "📊 Execution record:", result.record.toJson.pretty]))) ∧
    last.line ∈ heard ∧ heard = result.events.map Event.line := by
  have hrequest : ((longSurroundings fun _ => 1).request []).cancelled = false := rfl
  obtain ⟨result, hrun, hlong⟩ := exists_execute_longWorkflow hrequest
  have hfile := readWorkflow_compact "long.json" longWorkflow
  obtain ⟨heard, durationMs, time, hreport, -, hline, hall, -⟩ :=
    runReport_tells_completion_iff (s := longSurroundings fun _ => 1) hfile rfl hrun
  have hkeeps : Listener.KeepsUp (fun _ => 1) 1024 result.events :=
    Listener.keepsUp_of_pos (fun _ => Nat.one_pos) (by decide)
  exact ⟨result, heard, durationMs, time, hfile, rfl, hrun, hlong, hreport, hline.mpr hkeeps,
    hall hkeeps⟩

/-- A listener that receives nothing before the end of the long run has fallen behind. The bus
still has the last 1024 events for it, the completion among them, but it prints none. -/
theorem longWorkflow_misses_completion : ∃ result durationMs time,
    let s := longSurroundings fun _ => 0
    let file := "long.json"
    let last := Event.runCompleted (s.fresh 0) result.record.outcome result.record.steps
      durationMs time
    (({} : RunOptions).engine.execute longWorkflow (s.request [])).1 = .ok result ∧
    result.events.getLast? = some last ∧
    last.line ∉ s.heard {} result ∧
    runReport s file {} = .success ([s!"🚀 Loading workflow from: {file}"] ++
      (workflowLines longWorkflow ++
        ["", "📊 Execution record:", result.record.toJson.pretty])) := by
  have hrequest : ((longSurroundings fun _ => 0).request []).cancelled = false := rfl
  obtain ⟨result, hrun, hlong⟩ := exists_execute_longWorkflow hrequest
  obtain ⟨durationMs, time, hlast⟩ := closedBy_of_execute hrun
  have hfile := readWorkflow_compact "long.json" longWorkflow
  have hheard : (longSurroundings fun _ => 0).heard {} result = [] :=
    Listener.lines_follow_of_idle (RunOptions.carries_bus {}) hlong
  have hreport := runReport_eq_success (s := longSurroundings fun _ => 0) hfile rfl hrun
  rw [hheard, List.nil_append] at hreport
  exact ⟨result, durationMs, time, hrun, hlast.getLast?_eq, by simp [hheard], hreport⟩

end Flowchart
