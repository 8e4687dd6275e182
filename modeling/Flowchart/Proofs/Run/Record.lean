import Mathlib.Data.List.Chain
import Flowchart.Proofs.Command.Example
import Flowchart.Proofs.Run.Clock

/-!
# Records of complete traces

`Records` says in full what the record of a run that is never cancelled tells: its visits begin at
the start of the graph, each one but the last leads to the next, and they end in exactly one of
three ways (`Ending`). Every accepted workflow gives such a record, and it is the record of one list
of visits only.
-/

namespace Flowchart

/-- The ways in which a run ends that is not cancelled: at an End block, at a block without a
connection to follow, or at the limit of steps. -/
inductive Ending where
  | atEnd
  | stranded
  | atLimit
  deriving DecidableEq

/-- A record tells of one way to end, and its visits came to it. -/
def Ending.Fits (g : Graph) (maxSteps : Nat) (visits : List Visit) (record : RunRecord) :
    Ending → Prop
  | .atEnd =>
      record.outcome = .completed ∧ record.truncated = false ∧
        record.actions = visits.map (·.result.description) ∧
        ∃ v, visits.getLast? = some v ∧ v.block.isEnd = true
  | .stranded =>
      record.outcome = .deadEnd ∧ record.truncated = false ∧
        record.actions = visits.map (·.result.description) ∧
        ∃ v, visits.getLast? = some v ∧ v.block.isEnd = false ∧ v.choice g = none
  | .atLimit =>
      record.outcome = .completed ∧ record.truncated = true ∧
        record.actions = visits.map (·.result.description) ++
          [s!"Execution truncated: step limit of {maxSteps} reached"] ∧
        visits.length = maxSteps ∧
        ∀ v, visits.getLast? = some v → v.block.isEnd = false ∧ v.choice g ≠ none

namespace Graph

/-- One visit leads to another: its block is not an End block, its verdict chooses a connection to
the block of the other one, and the scene is handed on. -/
structure Leads (g : Graph) (u v : Visit) : Prop where
  goesOn : u.block.isEnd = false
  chosen : ∃ c, u.choice g = some c ∧ c.target = v.id
  scene : v.before = u.after

/-- A record is that of visits of a run from a position, which follow each other from the start of
the graph until the run ends. -/
structure Records (g : Graph) (maxSteps : Nat) (p : Position) (visits : List Visit)
    (record : RunRecord) : Prop where
  made : ∃ last, g.Steps p visits last ∧ record.resultData = last.scene.store.snapshot
  first : ∀ v, visits.head? = some v → v.id = g.start
  chain : visits.IsChain g.Leads
  bound : visits.length ≤ maxSteps
  path : record.path = visits.map (·.name)
  steps : record.steps = visits.length
  ending : ∃! ending : Ending, ending.Fits g maxSteps visits record

variable {g : Graph} {maxSteps : Nat} {p q r last : Position} {u v : Visit} {visits : List Visit}
  {record : RunRecord}

/-! ## The form of a list of steps -/

/-- The first visit is one of the block that a position asks for. -/
theorem Steps.turn_eq_of_head? (h : g.Steps p visits last) (hv : visits.head? = some v) :
    p.turn = .goOn v.id := by
  cases h with
  | refl => cases hv
  | cons hstep _ =>
      cases hv
      obtain ⟨id, hid, hvisit, _⟩ := step_iff.mp hstep
      rw [hid, Visit.id, id_of_block? hvisit.found]

/-- One step after another leads from visit to visit. -/
theorem Step.leads (h : g.Step p u q) (h' : g.Step q v r) : g.Leads u v := by
  have hturn := (Steps.cons h' (.refl r)).turn_eq_of_head? rfl
  have hbefore := h'.before_eq
  -- Only a visit that is followed by another one leaves a turn to go on.
  cases h with
  | complete => cases hturn
  | follow _ hend hc => exact ⟨hend, ⟨_, hc, Turn.goOn.inj hturn⟩, hbefore⟩
  | strand => cases hturn

/-- The visits of steps one after another form a chain. -/
theorem Steps.isChain (h : g.Steps p visits last) : visits.IsChain g.Leads := by
  induction h with
  | refl => exact .nil
  | cons hstep hsteps ih =>
      cases hsteps with
      | refl => exact .singleton _
      | cons hstep' _ => exact .cons_cons (hstep.leads hstep') ih

/-- The last visit is a step to the position where the steps end. -/
theorem Steps.exists_of_getLast? (h : g.Steps p visits last) (hv : visits.getLast? = some v) :
    ∃ q, g.Step q v last := by
  obtain ⟨rest, rfl⟩ := List.getLast?_eq_some_iff.mp hv
  obtain ⟨q, _, hlast⟩ := h.split
  cases hlast with
  | cons hstep hnil =>
      cases hnil
      exact ⟨q, hstep⟩

/-- Steps that do not end where they start have a last visit. -/
theorem Steps.exists_getLast? {outcome : Outcome} {id : Identifier}
    (h : g.Steps p visits last) (hp : p.turn = .goOn id) (hlast : last.turn = .stop outcome) :
    ∃ v, visits.getLast? = some v := by
  cases h with
  | refl =>
      rw [hp] at hlast
      cases hlast
  | cons => exact ⟨_, List.getLast?_eq_some_getLast (List.cons_ne_nil _ _)⟩

/-! ## The ending -/

/-- A last visit that completes a run is that of an End block. -/
theorem Step.ends_of_completed (h : g.Step p v last) (hlast : last.turn = .stop .completed) :
    v.block.isEnd = true := by
  cases h with
  | complete _ hend => exact hend
  | follow => cases hlast
  | strand => cases hlast

/-- A last visit at a dead end chooses nothing. -/
theorem Step.stranded_of_deadEnd (h : g.Step p v last) (hlast : last.turn = .stop .deadEnd) :
    v.block.isEnd = false ∧ v.choice g = none := by
  cases h with
  | complete => cases hlast
  | follow => cases hlast
  | strand _ hend hc => exact ⟨hend, hc⟩

/-- A last visit after which a run would go on has chosen a connection. -/
theorem Step.goesOn_of_goOn {id : Identifier} (h : g.Step p v last) (hlast : last.turn = .goOn id) :
    v.block.isEnd = false ∧ v.choice g ≠ none := by
  cases h with
  | complete => cases hlast
  | follow _ hend hc => exact ⟨hend, by simp [hc]⟩
  | strand => cases hlast

/-- No step leads to a cancellation. -/
theorem Step.ne_cancelled (h : g.Step p v last) : last.turn ≠ .stop .cancelled := by
  intro hlast
  cases h <;> cases hlast

/-- The outcome and the mark of truncation in a record tell how it ends. -/
theorem ending_unique {a b : Ending} (ha : a.Fits g maxSteps visits record)
    (hb : b.Fits g maxSteps visits record) : a = b := by
  -- Any two ways to end differ in the outcome or in the mark.
  cases a <;> cases b <;> simp_all [Ending.Fits]

/-- A run that is not cancelled ends in one of the three ways. -/
theorem IsRun.exists_ending {config : EngineConfig} {id : Identifier}
    (h : g.IsRun config.maxSteps p visits last) (hp : p.turn = .goOn id)
    (hlast : last.scene.clock.cancelled = false) (w : Workflow) (request : RunRequest) :
    ∃ ending : Ending, ending.Fits g config.maxSteps visits
      (RunResult.recordOf config w request visits last) := by
  -- A last turn with an outcome comes from a last visit; any other one was cut at the limit.
  obtain ⟨turn, scene⟩ := last
  have hnotes := List.append_nil (visits.map (·.result.description))
  cases turn with
  | stop outcome =>
      obtain ⟨v, hv⟩ := h.steps.exists_getLast? hp rfl
      obtain ⟨q, hstep⟩ := h.steps.exists_of_getLast? hv
      cases outcome with
      | completed => exact ⟨.atEnd, rfl, rfl, hnotes, v, hv, hstep.ends_of_completed rfl⟩
      | deadEnd => exact ⟨.stranded, rfl, rfl, hnotes, v, hv, hstep.stranded_of_deadEnd rfl⟩
      | cancelled => exact absurd rfl hstep.ne_cancelled
  | goOn next =>
      have hscene : scene.clock.cancelled = false := hlast
      have hlength : visits.length = config.maxSteps := by
        rcases h.maximal next rfl with hcancelled | hlength
        · rw [hlast] at hcancelled
          cases hcancelled
        · exact hlength
      refine ⟨.atLimit, ?_, ?_, ?_, hlength, fun v hv => ?_⟩
      · simp [RunResult.recordOf, Position.outcome, hscene]
      · simp [RunResult.recordOf, Position.isCut, hscene]
      · simp [RunResult.recordOf, Position.notes, hscene]
      · obtain ⟨q, hstep⟩ := h.steps.exists_of_getLast? hv
        exact hstep.goesOn_of_goOn rfl

/-- The record of a run that is not cancelled tells of its visits. -/
theorem IsRun.records {config : EngineConfig} (h : g.IsRun config.maxSteps p visits last)
    (hp : p.turn = .goOn g.start) (hlast : last.scene.clock.cancelled = false) (w : Workflow)
    (request : RunRequest) :
    g.Records config.maxSteps p visits (RunResult.recordOf config w request visits last) where
  made := ⟨last, h.steps, rfl⟩
  first v hv := Turn.goOn.inj ((h.steps.turn_eq_of_head? hv).symm.trans hp)
  chain := h.steps.isChain
  bound := h.length_le
  path := rfl
  steps := rfl
  ending := by
    obtain ⟨ending, hfits⟩ := h.exists_ending hp hlast w request
    exact ⟨ending, hfits, fun _ hother => ending_unique hother hfits⟩

/-- A record tells of one list of visits only. -/
theorem Records.unique {visits' : List Visit} (h : g.Records maxSteps p visits record)
    (h' : g.Records maxSteps p visits' record) : visits = visits' := by
  obtain ⟨_, hsteps, _⟩ := h.made
  obtain ⟨_, hsteps', _⟩ := h'.made
  exact (hsteps.unique hsteps' (h.steps.symm.trans h'.steps)).1

end Graph

namespace Engine

/-- A run of a workflow that an engine accepts, if it is never cancelled, comes to a record, which
is that of a complete trace and of no other one: it tells of visits from the start along the chosen
connections, until an End block, a dead end or the limit of steps. -/
theorem execute_records_trace (engine : Engine) (w : Workflow) (g : Graph) (request : RunRequest)
    (hgraph : engine.graph w = .ok g)
    (hnever : ∀ visits p, visits.length ≤ engine.config.maxSteps →
      g.Steps (opening engine.config g w request) visits p → p.scene.clock.cancelled = false) :
    ∃ result, (engine.execute w request).1 = .ok result ∧
      ∃! visits, g.Records engine.config.maxSteps (opening engine.config g w request) visits
        result.record := by
  obtain ⟨visits, last, hrun, hresult⟩ := exists_execute_eq hgraph request
  have hlast := hnever visits last hrun.length_le hrun.steps
  have hrecords := hrun.records rfl hlast w request
  exact ⟨_, hresult, visits, hrecords, fun _ hother => hother.unique hrecords⟩

/-- A run of the example tells of a complete trace. -/
theorem example_records_trace : ∃ engine g result,
    engine = create (.standard {}) .standard {} ∧
    engine.graph (Workflow.exampleOf .ofNat) = .ok g ∧
    (engine.execute (Workflow.exampleOf .ofNat) default).1 = .ok result ∧
    ∃! visits, g.Records 1000 (opening {} g (Workflow.exampleOf .ofNat) default) visits
      result.record := by
  obtain ⟨g, hg⟩ := Workflow.exists_ofWorkflow_exampleOf {} .ofNat
  obtain ⟨result, hresult, hrecords⟩ :=
    execute_records_trace (create (.standard {}) .standard {}) _ g default hg
      fun visits p _ hsteps => uncancelled_of_standard hg rfl rfl hsteps
  exact ⟨_, g, result, rfl, hg, hresult, hrecords⟩

end Engine
end Flowchart
