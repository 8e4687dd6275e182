import Flowchart.Proofs.Run.Interruption

/-!
# Runs with fewer steps

The limit of steps only cuts a run and never changes what comes before the cut. A run that ends by
itself within fewer steps is a run under the lower limit too (`IsRun.of_length_le`), and of any
other one exactly the visits that the lower limit allows are left (`IsRun.take`).
-/

namespace Flowchart

namespace Position

variable {p : Position}

/-- A run that may go on and was not cut has been cancelled. -/
theorem cancelled_of_not_isCut {id : Identifier} (hcut : p.isCut = false)
    (hturn : p.turn = .goOn id) : p.scene.clock.cancelled = true := by
  obtain ⟨turn, scene⟩ := p
  cases hturn
  simpa [isCut] using hcut

/-- A run that may go on and has not been cancelled is cut. -/
theorem isCut_of_uncancelled {id : Identifier} (hturn : p.turn = .goOn id)
    (hcancelled : p.scene.clock.cancelled = false) : p.isCut = true := by
  obtain ⟨turn, scene⟩ := p
  cases hturn
  simpa [isCut] using hcancelled

/-- A run that is cut is completed with the note of the limit. -/
theorem outcome_and_notes_of_isCut (maxSteps : Nat) (hcut : p.isCut = true) :
    p.outcome = .completed ∧
      p.notes maxSteps = [s!"Execution truncated: step limit of {maxSteps} reached"] := by
  obtain ⟨turn, scene⟩ := p
  cases turn with
  | stop outcome => cases hcut
  | goOn id =>
      have hcancelled : scene.clock.cancelled = false := by simpa [isCut] using hcut
      simp [outcome, notes, hcancelled]

/-- The limit of steps is named only by the note of a run that is cut. -/
theorem notes_eq_of_not_isCut (m n : Nat) (hcut : p.isCut = false) : p.notes m = p.notes n := by
  obtain ⟨turn, scene⟩ := p
  cases turn with
  | stop outcome => rfl
  | goOn id =>
      have hcancelled : scene.clock.cancelled = true := by simpa [isCut] using hcut
      simp [notes, hcancelled]

end Position

namespace Graph

variable {g : Graph} {m n : Nat} {p q last : Position} {visits rest : List Visit}

/-- A run that ends by itself within a number of steps is a run under that limit. -/
theorem IsRun.of_length_le (h : g.IsRun n p visits last) (hcut : last.isCut = false)
    (hlength : visits.length ≤ m) : g.IsRun m p visits last where
  steps := h.steps
  length_le := hlength
  uncancelled := h.uncancelled
  maximal _ hid := Or.inl (last.cancelled_of_not_isCut hcut hid)

/-- A run that is cut has made as many visits as it may. -/
theorem IsRun.length_eq_of_isCut (h : g.IsRun n p visits last) (hcut : last.isCut = true) :
    visits.length = n := by
  obtain ⟨turn, scene⟩ := last
  cases turn with
  | stop outcome => cases hcut
  | goOn id =>
      have hcancelled : scene.clock.cancelled = false := by simpa [Position.isCut] using hcut
      exact (h.maximal id rfl).resolve_left (by simp [hcancelled])

/-- A position from which a run makes a visit is one to be cut at. -/
theorem Steps.isCut_of_ne_nil (h : g.Steps q rest last) (hrest : rest ≠ [])
    (huncancelled : ∀ v ∈ rest, v.before.clock.cancelled = false) : q.isCut = true := by
  cases h with
  | refl => exact absurd rfl hrest
  | cons hstep _ =>
      obtain ⟨id, hid, _⟩ := step_iff.mp hstep
      have hbefore := huncancelled _ List.mem_cons_self
      rw [hstep.before_eq] at hbefore
      exact q.isCut_of_uncancelled hid hbefore

/-- A run that does not end by itself within a lower limit is cut there, after the visits that it
makes first under the higher one. -/
theorem IsRun.take (h : g.IsRun n p visits last) (hmn : m ≤ n)
    (hlonger : last.isCut = true ∨ m < visits.length) :
    ∃ q, g.IsRun m p (visits.take m) q ∧ q.isCut = true ∧ (visits.take m).length = m := by
  have hm : m ≤ visits.length := by
    rcases hlonger with hcut | hlt
    · rw [h.length_eq_of_isCut hcut]
      exact hmn
    · exact Nat.le_of_lt hlt
  have hlength : (visits.take m).length = m := List.length_take_of_le hm
  have hsteps : g.Steps p (visits.take m ++ visits.drop m) last := by
    rw [List.take_append_drop]
    exact h.steps
  obtain ⟨q, hfirst, hlast⟩ := hsteps.split
  have hcut : q.isCut = true := by
    by_cases hdrop : visits.drop m = []
    · -- Nothing is left to visit, so this is the cut of the run itself.
      rw [hdrop] at hlast
      cases hlast
      have : visits.length ≤ m := List.drop_eq_nil_iff.mp hdrop
      exact hlonger.resolve_right (by omega)
    · exact hlast.isCut_of_ne_nil hdrop fun v hv => h.uncancelled v (List.mem_of_mem_drop hv)
  exact ⟨q, ⟨hfirst, Nat.le_of_eq hlength, fun v hv => h.uncancelled v (List.mem_of_mem_take hv),
    fun _ _ => Or.inr hlength⟩, hcut, hlength⟩

end Graph

/-- The limit of steps is in the record of a run only if it was cut. -/
theorem RunResult.recordOf_eq_of_not_isCut (config config' : EngineConfig) (w : Workflow)
    (request : RunRequest) (visits : List Visit) {last : Position} (hcut : last.isCut = false) :
    recordOf config w request visits last = recordOf config' w request visits last := by
  simp only [recordOf, last.notes_eq_of_not_isCut config.maxSteps config'.maxSteps hcut]

namespace Engine

/-- The engine with another limit of steps. -/
def withMaxSteps (engine : Engine) (maxSteps : Nat) : Engine :=
  { engine with config := { engine.config with maxSteps } }

/-- A run under a lower limit of steps leaves the same record if the run under the higher one ends
by itself within the lower one. Otherwise it is completed as cut, after the blocks that the other
run visits first and with what they did, and names its own limit. -/
theorem withMaxSteps_keeps_or_cuts (engine : Engine) (w : Workflow) (g : Graph)
    (request : RunRequest) (m n : Nat) (hgraph : engine.graph w = .ok g) (hmn : m ≤ n) :
    ∃ short long,
      ((engine.withMaxSteps m).execute w request).1 = .ok short ∧
      ((engine.withMaxSteps n).execute w request).1 = .ok long ∧
      (long.record.truncated = false ∧ long.record.steps ≤ m → short.record = long.record) ∧
      (¬(long.record.truncated = false ∧ long.record.steps ≤ m) →
        short.record.truncated = true ∧ short.record.outcome = .completed ∧
        short.record.steps = m ∧ short.record.path = long.record.path.take m ∧
        short.record.actions = long.record.actions.take m ++
          [s!"Execution truncated: step limit of {m} reached"]) := by
  have hgraph' (k : Nat) : (engine.withMaxSteps k).graph w = .ok g := hgraph
  obtain ⟨visits, last, hrun, hlong⟩ := exists_execute_eq (hgraph' n) request
  have hshort {visits last} (h : g.IsRun m (opening engine.config g w request) visits last) :
      ((engine.withMaxSteps m).execute w request).1 =
        .ok (.ofVisits (engine.withMaxSteps m).config w request visits last) := by
    rw [execute_of_isRun (hgraph' m) h]
  by_cases hends : last.isCut = false ∧ visits.length ≤ m
  · refine ⟨_, _, hshort (hrun.of_length_le hends.1 hends.2), hlong, fun _ => ?_,
      fun h => absurd hends h⟩
    exact RunResult.recordOf_eq_of_not_isCut _ _ w request visits hends.1
  · have hlonger : last.isCut = true ∨ m < visits.length := by
      cases hcut : last.isCut with
      | true => exact Or.inl rfl
      | false => exact Or.inr (by simpa [hcut] using hends)
    obtain ⟨q, htake, hcut, hlength⟩ := hrun.take hmn hlonger
    obtain ⟨houtcome, hnotes⟩ := q.outcome_and_notes_of_isCut m hcut
    refine ⟨_, _, hshort htake, hlong, fun h => absurd h hends, fun _ => ⟨hcut, houtcome, hlength,
      List.map_take, ?_⟩⟩
    show (visits.take m).map _ ++ q.notes m = (visits.map _ ++ last.notes n).take m ++ _
    have hm : m ≤ (visits.map (·.result.description)).length := by
      rw [List.length_take] at hlength
      rw [List.length_map]
      omega
    rw [hnotes, List.take_append_of_le_length hm, List.map_take]

/-- Of the three visits of a run that waits, two are left under a limit of two. -/
theorem waiting_kept_or_cut : ∃ short long,
    (((create (.standard {}) .standard {}).withMaxSteps 2).execute
      (waitingThen .success) default).1 = .ok short ∧
    (((create (.standard {}) .standard {}).withMaxSteps 1000).execute
      (waitingThen .success) default).1 = .ok long ∧
    long.record.path = ["Start", "Wait", "End"] ∧
    short.record.truncated = true ∧ short.record.path = ["Start", "Wait"] := by
  obtain ⟨g, hg⟩ := exists_graph_waitingThen .success {}
  obtain ⟨short, long, hshort, hlong, _, hcut⟩ := withMaxSteps_keeps_or_cuts
    (create (.standard {}) .standard {}) _ g default 2 1000 hg (by decide)
  have hrecord : (((create (.standard {}) .standard {}).withMaxSteps 1000).execute
      (waitingThen .success) default).1.toOption.map (fun r => (r.record.path, r.record.steps)) =
      some (["Start", "Wait", "End"], 3) := by decide +kernel
  rw [hlong] at hrecord
  obtain ⟨hpath, hsteps⟩ := Prod.mk.inj (Option.some.inj hrecord)
  obtain ⟨htruncated, _, _, hvisited, _⟩ := hcut (by simp [hsteps])
  exact ⟨short, long, hshort, hlong, hpath, htruncated, by rw [hvisited, hpath]; rfl⟩

end Engine
end Flowchart
