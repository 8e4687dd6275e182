import Mathlib.Data.List.Perm.Subperm
import Flowchart.Proofs.Run.Completion
import Flowchart.Proofs.Run.Narration
import Flowchart.Proofs.Run.StepLimit

/-!
# Runs without cycles

Where no cycle of connections can be reached from the start of a graph, a run never comes back to a
block (`Steps.nodup_route`). It therefore visits no more blocks than there are identifiers, and ends
by itself if it is given a step for each of them.
-/

namespace Flowchart

/-- What a run at a position is to visit next, if anything. -/
def Position.pending : Position → List Identifier
  | ⟨.goOn id, _⟩ => [id]
  | ⟨.stop _, _⟩ => []

namespace Graph

/-- No cycle of connections can be reached from the start of a graph. -/
def CycleFree (g : Graph) : Prop :=
  ∀ id, g.Reaches g.start id → ¬ Relation.TransGen (Connection.Joins g.connections) id id

/-- The identifiers that a run visits, with the one that it is to visit next where it ends. -/
def route (visits : List Visit) (last : Position) : List Identifier :=
  visits.map (·.id) ++ last.pending

variable {g : Graph} {left : Nat} {p q last : Position} {v : Visit} {visits : List Visit}

/-- If a rank grows along all connections between identifiers that can be reached, a graph is free
of cycles. -/
theorem cycleFree_of_rank (rank : Identifier → Nat) (S : Identifier → Prop) (hstart : S g.start)
    (hrank : ∀ c ∈ g.connections, S c.source → S c.target ∧ rank c.source < rank c.target) :
    g.CycleFree := by
  have hstep {a b : Identifier} (ha : S a) (hab : Connection.Joins g.connections a b) :
      S b ∧ rank a < rank b := by
    obtain ⟨c, hc, rfl, rfl⟩ := hab
    exact hrank c hc ha
  have hreached {id : Identifier} (h : g.Reaches g.start id) : S id := by
    induction h with
    | refl => exact hstart
    | tail _ hjoins ih => exact (hstep ih hjoins).1
  intro id hreach hcycle
  have hgrows {b : Identifier} (h : Relation.TransGen (Connection.Joins g.connections) id b) :
      S b ∧ rank id < rank b := by
    induction h with
    | single hjoins => exact hstep (hreached hreach) hjoins
    | tail _ hjoins ih =>
        obtain ⟨hb, hlt⟩ := hstep ih.1 hjoins
        exact ⟨hb, ih.2.trans hlt⟩
  exact Nat.lt_irrefl _ (hgrows hcycle).2

/-! ## Single steps -/

/-- A step visits what its position asks for. -/
theorem Step.pending_eq (h : g.Step p v q) : p.pending = [v.id] := by
  obtain ⟨id, hid, hv, _⟩ := step_iff.mp h
  obtain ⟨turn, scene⟩ := p
  obtain rfl : turn = .goOn id := hid
  rw [Position.pending, Visit.id, id_of_block? hv.found]

/-- A connection leads from the visited block to what is to be visited next. -/
theorem Step.joins (h : g.Step p v q) {id : Identifier} (hid : id ∈ q.pending) :
    Connection.Joins g.connections v.id id := by
  cases h with
  | complete => cases hid
  | follow _ _ hc =>
      obtain rfl := List.mem_singleton.mp hid
      obtain ⟨hmem, hsource⟩ := mem_of_choice hc
      exact ⟨_, hmem, hsource, rfl⟩
  | strand => cases hid

/-- Where the next block is found, what is to be visited next is the identifier of a block. -/
theorem Finds.pending_subset (h : g.Finds p) : p.pending ⊆ g.blocks.map (·.block.id) := by
  obtain ⟨turn, scene⟩ := p
  cases turn with
  | stop outcome => exact List.nil_subset _
  | goOn id =>
      obtain ⟨b, hb⟩ := Option.isSome_iff_exists.mp (h id rfl)
      rintro _ hid
      obtain rfl := List.mem_singleton.mp hid
      exact List.mem_map.mpr ⟨b, List.mem_of_find?_eq_some hb, id_of_block? hb⟩

/-! ## Routes -/

/-- Whatever is on the route of a run can be reached from where it starts. -/
theorem Steps.reaches (h : g.Steps p visits last) {id : Identifier}
    (hid : id ∈ route visits last) : ∃ first ∈ p.pending, g.Reaches first id := by
  induction h with
  | refl p => exact ⟨id, hid, .refl⟩
  | @cons p q _ v visits hstep _ ih =>
      have hv : v.id ∈ p.pending := by
        rw [hstep.pending_eq]
        exact List.mem_singleton_self v.id
      rcases List.mem_cons.mp hid with rfl | hid
      · exact ⟨v.id, hv, .refl⟩
      · obtain ⟨next, hnext, hreach⟩ := ih hid
        exact ⟨v.id, hv, .head (hstep.joins hnext) hreach⟩

/-- Without a cycle, no identifier is twice on the route of a run. -/
theorem Steps.nodup_route (hfree : g.CycleFree) (h : g.Steps p visits last)
    (hp : ∀ id ∈ p.pending, g.Reaches g.start id) : (route visits last).Nodup := by
  induction h with
  | refl p =>
      show p.pending.Nodup
      obtain ⟨turn, scene⟩ := p
      cases turn <;> simp [Position.pending]
  | @cons p q _ v visits hstep hsteps ih =>
      have hv : g.Reaches g.start v.id := hp v.id (by simp [hstep.pending_eq])
      have hq : ∀ id ∈ q.pending, g.Reaches g.start id := fun id hid =>
        .tail hv (hstep.joins hid)
      refine List.nodup_cons.mpr ⟨fun hmem => ?_, ih hq⟩
      -- To come back to the block that has just been visited would close a cycle.
      obtain ⟨next, hnext, hreach⟩ := hsteps.reaches hmem
      exact hfree v.id hv (.head' (hstep.joins hnext) hreach)

/-- In a closed graph, all that is on the route of a run are identifiers of blocks. -/
theorem Steps.route_subset (hclosed : g.Closed) (h : g.Steps p visits last) (hp : g.Finds p) :
    route visits last ⊆ g.blocks.map (·.block.id) := by
  induction h with
  | refl p => exact hp.pending_subset
  | @cons p q _ v visits hstep _ ih =>
      have hv : v.id ∈ g.blocks.map (·.block.id) :=
        hp.pending_subset (by simp [hstep.pending_eq])
      exact List.cons_subset.mpr ⟨hv, ih (hstep.finds hclosed)⟩

/-- A route without repetition is no longer than the number of identifiers. -/
theorem length_route_le (hnodup : (route visits last).Nodup)
    (hsubset : route visits last ⊆ g.blocks.map (·.block.id)) :
    visits.length + last.pending.length ≤ g.size := by
  have hle := (List.Nodup.subperm hnodup fun id hid =>
    List.mem_eraseDups.mpr (hsubset hid)).length_le
  simpa [route, size] using hle

/-- A run that is cut is to visit one more block. -/
theorem length_pending_of_isCut (h : last.isCut = true) : last.pending.length = 1 := by
  obtain ⟨turn, scene⟩ := last
  cases turn with
  | stop outcome => cases h
  | goOn id => rfl

/-- A run without cycles that is given a step for each identifier is not cut. -/
theorem IsRun.not_isCut (h : g.IsRun left p visits last)
    (hlength : visits.length + last.pending.length ≤ g.size) (hleft : g.size ≤ left) :
    last.isCut = false := by
  cases hcut : last.isCut with
  | false => rfl
  | true =>
      -- A cut run has used up its steps and is to visit a block more than there are.
      have hvisits := h.length_eq_of_isCut hcut
      have hpending := length_pending_of_isCut hcut
      omega

end Graph

namespace Engine

/-- If no cycle of connections can be reached from the start of its graph, no run of a workflow
visits a block twice or makes more steps than validation counts blocks, and none is cut under a
limit of that many steps or more. -/
theorem execute_visits_once (engine : Engine) (w : Workflow) (g : Graph)
    (hgraph : engine.graph w = .ok g) (hfree : g.CycleFree) (request : RunRequest) :
    ∃ report result,
      engine.validate w = .ok report ∧
      (engine.execute w request).1 = .ok result ∧
      result.startedBlocks.Nodup ∧
      result.startedBlocks.length = result.record.steps ∧
      result.record.steps ≤ report.blocks ∧
      (report.blocks ≤ engine.config.maxSteps → result.record.truncated = false) := by
  obtain ⟨visits, last, hrun, hresult⟩ := exists_execute_eq hgraph request
  have hclosed := (isGraphOf_of_graph hgraph).closed
  have hnodup := hrun.steps.nodup_route hfree fun id hid => by
    obtain rfl := List.mem_singleton.mp hid
    exact .refl
  have hsubset := hrun.steps.route_subset hclosed
    (finds_opening hclosed engine.config w request)
  have hlength := Graph.length_route_le hnodup hsubset
  refine ⟨_, _, validate_of_graph hgraph, hresult, ?_, ?_, ?_, hrun.not_isCut hlength⟩
  · rw [RunResult.startedBlocks_ofVisits]
    exact (List.nodup_append.mp hnodup).1
  · rw [RunResult.startedBlocks_ofVisits]
    exact List.length_map _
  · exact (Nat.le_add_right _ _).trans hlength

/-- A workflow with a wait that leads to itself, but to which no connection leads. -/
def strayCycle : Workflow :=
  let w := Workflow.empty (.ofNat 9) "Stray"
  let w := w.addBlock (Workflow.standardBlock (.ofNat 1) "Start" "Start" none)
  let w := w.addBlock (Workflow.standardBlock (.ofNat 2) "Wait" "Wait" none)
  let w := w.addBlock (Workflow.standardBlock (.ofNat 3) "End" "End" none)
  let w := w.connect (.ofNat 4) (.ofNat 1) (.ofNat 3) .success
  let w := w.connect (.ofNat 5) (.ofNat 2) (.ofNat 2) .success
  w.connect (.ofNat 6) (.ofNat 2) (.ofNat 3) .error

/-- The cycle that is not reached leaves a run of three blocks uncut under a limit of three. -/
theorem strayCycle_visits_once : ∃ g result,
    (create (.standard {}) .standard { maxSteps := 3 }).graph strayCycle = .ok g ∧
    g.CycleFree ∧
    ((create (.standard {}) .standard { maxSteps := 3 }).execute strayCycle default).1 =
      .ok result ∧
    result.startedBlocks.Nodup ∧ result.record.steps ≤ 3 ∧ result.record.truncated = false := by
  have hgraph : ((create (.standard {}) .standard { maxSteps := 3 }).graph
      strayCycle).toOption.map (·.start) = some (.ofNat 1) := by decide +kernel
  have hreports : (create (.standard {}) .standard { maxSteps := 3 }).validate strayCycle =
      .ok ⟨3, 3, true⟩ := by decide +kernel
  cases hg : (create (.standard {}) .standard { maxSteps := 3 }).graph strayCycle with
  | error fault =>
      rw [hg] at hgraph
      cases hgraph
  | ok g =>
      rw [hg] at hgraph
      have hstart : g.start = .ofNat 1 := Option.some.inj hgraph
      have hconnections := (isGraphOf_of_graph hg).connections
      have hfree : g.CycleFree := by
        refine Graph.cycleFree_of_rank (·.value) (· ≠ .ofNat 2) ?_ ?_
        · rw [hstart]
          decide
        · rw [hconnections]
          decide +kernel
      obtain ⟨report, result, hreport, hresult, hnodup, _, hsteps, hcut⟩ := execute_visits_once
        (create (.standard {}) .standard { maxSteps := 3 }) strayCycle g hg hfree default
      obtain rfl := Except.ok.inj (hreports.symm.trans hreport)
      exact ⟨g, result, rfl, hfree, hresult, hnodup, hsteps, hcut (Nat.le_refl 3)⟩

end Engine
end Flowchart
