import Mathlib.Tactic.Ring
import Flowchart.Proofs.Blocks.Standard
import Flowchart.Proofs.Command.Example
import Flowchart.Proofs.Run.Clock
import Flowchart.Proofs.Run.LoopNest
import Flowchart.Proofs.Run.Narration

/-!
# Runs of a loop inside a loop

A run of a nest of loops visits exactly the blocks of its route, and ends at the end of the nest if
it may make as many steps (`IsNest.exists_isRun`). `execute_repeats_body` counts how often each
block of the body is among them. `LoopNest.adding` is such a nest of standard blocks for any two
numbers of rounds.
-/

namespace Flowchart

/-- Steps that come to an outcome within the limit are a run, if no run from there is ever
cancelled. -/
theorem Graph.isRun_of_steps {g : Graph} {left : Nat} {p last : Position} {visits : List Visit}
    {outcome : Outcome} (hsteps : g.Steps p visits last) (hlast : last.turn = .stop outcome)
    (hlength : visits.length ≤ left)
    (hnever : ∀ visits q, visits.length ≤ left → g.Steps p visits q →
      q.scene.clock.cancelled = false) : g.IsRun left p visits last where
  steps := hsteps
  length_le := hlength
  uncancelled := hsteps.forall_before (P := fun scene => scene.clock.cancelled = false)
    fun earlier q hearlier => hnever earlier q (hearlier.le.trans hlength)
  maximal id hid := by
    rw [hlast] at hid
    cases hid

namespace LoopNest

variable {nest : LoopNest} {outerRounds innerRounds : Nat}

/-- The number of blocks on the route of a nest. -/
theorem length_route : (nest.route outerRounds innerRounds).length =
    2 + (outerRounds + 1) + outerRounds * (innerRounds + 1) +
      nest.body.length * outerRounds * innerRounds := by
  simp only [route, List.length_cons, List.length_append, Graph.length_loopRoute, bodyIds,
    List.length_map, List.length_nil]
  ring

/-- Each block of the body is on the route once for each round of the inner loop in each round of
the outer one. -/
theorem count_route (hd : nest.Distinct) {a : Identifier} (ha : a ∈ nest.bodyIds) :
    (nest.route outerRounds innerRounds).count a = outerRounds * innerRounds := by
  have hne {b : Identifier} (hb : b ∉ nest.bodyIds) : b ≠ a := fun hba => hb (hba ▸ ha)
  have hstart := hne hd.start_not_mem
  have hfinish := hne hd.finish_not_mem
  have hbody : nest.bodyIds.count a = 1 := List.count_eq_one_of_mem hd.body_nodup ha
  rw [route, List.count_append, List.count_cons, Graph.count_loopRoute (hne hd.outer_not_mem).symm,
    Graph.count_loopRoute (hne hd.inner_not_mem).symm, hbody]
  simp [hstart, hfinish]

end LoopNest

namespace Workflow.IsNest

variable {catalog : Catalog} {registry : Registry} {w : Workflow} {nest : LoopNest}
  {outerRounds innerRounds left : Nat} {g : Graph} {scene : Scene}

/-- From a scene without loop counters, a run of a nest visits the blocks of its route and is
completed, if it may make as many steps and is never cancelled. -/
theorem exists_isRun (h : w.IsNest catalog registry nest outerRounds innerRounds)
    (hg : Graph.IsGraphOf catalog registry w g) (houter : outerRounds < 2 ^ 32)
    (hinner : innerRounds < 2 ^ 32) (hscene : scene.counters = ⟨[]⟩)
    (hleft : (nest.route outerRounds innerRounds).length ≤ left)
    (hnever : ∀ visits q, visits.length ≤ left → g.Steps ⟨.goOn nest.start.id, scene⟩ visits q →
      q.scene.clock.cancelled = false) :
    ∃ visits scene', g.IsRun left ⟨.goOn nest.start.id, scene⟩ visits ⟨.stop .completed, scene'⟩ ∧
      visits.map (·.id) = nest.route outerRounds innerRounds := by
  obtain ⟨after, hpasses⟩ := h.passes hg houter hinner
  obtain ⟨visits, scene', hsteps, hids, _⟩ := hpasses scene (by rw [hscene]; rfl)
  obtain ⟨finish, hfound, hend⟩ : ∃ finish, g.block? nest.finish.id = some finish ∧
      finish.isEnd = true := by
    obtain ⟨t, htype, hname, hhandler⟩ := h.finish
    exact ⟨_, h.block?_eq hg (by simp [LoopNest.blocks]) htype hhandler, hname⟩
  have hstep := Graph.step_visit hfound scene'
  have hturn : Walk.advance g finish (g.visit finish scene').result = .stop .completed :=
    Graph.advance_of_isEnd (v := g.visit finish scene') hend
  rw [hturn] at hstep
  have hall := hsteps.append (.cons hstep (.refl _))
  have hroute : (visits ++ [g.visit finish scene']).map (·.id) =
      nest.route outerRounds innerRounds := by
    rw [List.map_append, hids, List.map_singleton, Graph.id_visit, Graph.id_of_block? hfound]
    rfl
  refine ⟨_, _, Graph.isRun_of_steps hall rfl ?_ hnever, hroute⟩
  rw [← hroute, List.length_map] at hleft
  exact hleft

/-- A nest begins at its entry. -/
theorem start_eq (h : w.IsNest catalog registry nest outerRounds innerRounds)
    (hg : Graph.IsGraphOf catalog registry w g) : g.start = nest.start.id :=
  hg.start_of_isA (h.blocks.mem_iff.mpr List.mem_cons_self) h.start

end Workflow.IsNest

/-! ## A nest over the standard handlers -/

/-- The standard catalog has a type with the name of each standard handler. -/
theorem Workflow.exists_standardTypeId {limits : Limits} {handler : Handler}
    (hhandler : handler ∈ Blocks.standard limits) :
    ∃ t, Catalog.standard.get? (standardTypeId handler.typeName) = some t ∧
      t.isNamed handler.typeName = true := by
  have hnames : (Blocks.standard limits).map (·.typeName) = Catalog.standardTypes.map (·.1) := rfl
  have hname : handler.typeName ∈ Catalog.standardTypes.map (·.1) := by
    rw [← hnames]
    exact List.mem_map_of_mem hhandler
  have hnamed : ∀ typeName ∈ Catalog.standardTypes.map (·.1),
      (Catalog.standard.get? (standardTypeId typeName)).any (·.isNamed typeName) = true := by
    decide +kernel
  have hany := hnamed handler.typeName hname
  cases htype : Catalog.standard.get? (standardTypeId handler.typeName) with
  | none =>
      rw [htype] at hany
      cases hany
  | some t =>
      rw [htype] at hany
      exact ⟨t, rfl, hany⟩

/-- A block that is made with the name of a standard handler is executed by that handler. -/
theorem Workflow.standardBlock_isA (handler : Handler) {limits : Limits} {typeName : String}
    (hhandler : handler ∈ Blocks.standard limits) (hname : handler.typeName = typeName)
    (id : Identifier) (name : String) (settings : Option Json.Value) :
    (standardBlock id name typeName settings).IsA .standard (.standard limits) typeName
      handler := by
  subst hname
  obtain ⟨t, htype, hnamed⟩ := exists_standardTypeId hhandler
  exact ⟨t, htype, hnamed, Registry.handler?_of_isNamed hhandler hnamed⟩

/-- A handler that always says it succeeded, and keeps the loop counters, goes on. -/
theorem Handler.goesOn_of_success {h : Handler} {b : Block} {t : BlockType}
    (hsuccess : ∀ outgoing scene, ∃ description,
      (h.run ⟨b, t, outgoing⟩ scene).1 = .success description)
    (hcounters : ∀ outgoing scene,
      (h.run ⟨b, t, outgoing⟩ scene).2.counters = scene.counters) : h.GoesOn b t where
  isError outgoing scene := by
    obtain ⟨description, hdescription⟩ := hsuccess outgoing scene
    rw [hdescription]
    rfl
  branchKey outgoing scene := by
    obtain ⟨description, hdescription⟩ := hsuccess outgoing scene
    rw [hdescription]
    rfl
  counters := hcounters

/-- A calculation that knows its operation goes on. -/
theorem Blocks.calculation_goesOn {b : Block} {t : BlockType} {operation : Operation}
    (h : Operation.ofName? (Settings.ofBlock CalculationSettings.record b).operation =
      some operation) : calculation.GoesOn b t := by
  refine Handler.goesOn_of_success (fun outgoing scene => ?_) fun outgoing scene => ?_
  · obtain ⟨notes, hread⟩ :=
      Settings.exists_read_eq CalculationSettings.record ⟨b, t, outgoing⟩ scene
    rw [calculation, Handler.run_named]
    simp only [runCalculation, hread, h]
    split <;> exact ⟨_, rfl⟩
  · rw [calculation, Handler.run_named]
    exact (runCalculation_alters ⟨b, t, outgoing⟩ scene).counters

/-- The workflow that consists of a nest. -/
def LoopNest.workflow (nest : LoopNest) : Workflow :=
  { Workflow.empty .nil "Nest" with blocks := nest.blocks, connections := nest.links }

/-- The links of a nest have no identifiers. -/
theorem LoopNest.anonymous_of_mem_links {nest : LoopNest} {c : Connection}
    (h : c ∈ nest.links) : c.anonymous = c := by
  have hchain {last : Identifier} {ids : List Identifier} (h : c ∈ chainLinks last ids) :
      c.anonymous = c := by
    induction ids with
    | nil => cases h
    | cons a rest ih =>
        rcases List.mem_cons.mp h with rfl | hrest
        · rfl
        · exact ih hrest
  rcases List.mem_append.mp h with hloops | hlinks
  · simp only [List.mem_cons, List.not_mem_nil, or_false] at hloops
    rcases hloops with rfl | rfl | rfl | rfl | rfl <;> rfl
  · exact hchain hlinks

/-- A nest that adds in each round of its inner loop, and then adds once more. -/
def LoopNest.adding (outerRounds innerRounds : Nat) : LoopNest where
  start := Workflow.standardBlock (.ofNat 1) "Start" "Start" none
  outer := Workflow.standardBlock (.ofNat 2) "Rows" "Loop"
    (some (Blocks.LoopSettings.document outerRounds))
  inner := Workflow.standardBlock (.ofNat 3) "Columns" "Loop"
    (some (Blocks.LoopSettings.document innerRounds))
  body := [
    Workflow.standardBlock (.ofNat 4) "Add" "Calculation" (some Workflow.addSettings),
    Workflow.standardBlock (.ofNat 5) "Add again" "Calculation" (some Workflow.addSettings)]
  finish := Workflow.standardBlock (.ofNat 6) "End" "End" none

/-- Such a nest is one over the standard handlers, whatever the numbers of rounds. -/
theorem LoopNest.adding_isNest (limits : Limits) (outerRounds innerRounds : Nat) :
    (adding outerRounds innerRounds).workflow.IsNest .standard (.standard limits)
      (adding outerRounds innerRounds) outerRounds innerRounds where
  blocks := .refl _
  distinct := by
    show [Identifier.ofNat 1, .ofNat 2, .ofNat 3, .ofNat 6, .ofNat 4, .ofNat 5].Nodup
    decide +kernel
  links c := by
    have hmap : (adding outerRounds innerRounds).links.map (·.anonymous) =
        (adding outerRounds innerRounds).links :=
      (List.map_congr_left fun _ => anonymous_of_mem_links).trans (List.map_id' _)
    rw [workflow, hmap]
  start := Workflow.standardBlock_isA Blocks.start (by simp [Blocks.standard]) rfl _ _ _
  outer := Workflow.standardBlock_isA Blocks.loop (by simp [Blocks.standard]) rfl _ _ _
  inner := Workflow.standardBlock_isA Blocks.loop (by simp [Blocks.standard]) rfl _ _ _
  finish := Workflow.standardBlock_isA Blocks.finish (by simp [Blocks.standard]) rfl _ _ _
  body b hb := by
    have hisA : b.IsA .standard (.standard limits) "Calculation" Blocks.calculation := by
      rcases List.mem_pair.mp hb with rfl | rfl
      · exact Workflow.standardBlock_isA Blocks.calculation (by simp [Blocks.standard]) rfl _ _ _
      · exact Workflow.standardBlock_isA Blocks.calculation (by simp [Blocks.standard]) rfl _ _ _
    have hoperation : Blocks.Operation.ofName?
        (Settings.ofBlock Blocks.CalculationSettings.record b).operation = some .add := by
      rcases List.mem_pair.mp hb with rfl | rfl <;> decide +kernel
    obtain ⟨t, htype, hname, hhandler⟩ := hisA
    refine ⟨t, _, htype, ?_, ?_, hhandler, Blocks.calculation_goesOn hoperation⟩
    all_goals
      rw [BlockType.isNamed_eq hname]
      decide +kernel
  outerRounds := Block.loopsFor_of_config rfl
  innerRounds := Block.loopsFor_of_config rfl

/-! ## Runs of a nest -/

namespace Engine

/-- A run of a workflow with a loop inside a loop, whatever the body of the inner loop does to
variables, visits each block of the body once for each round of the inner loop in each round of the
outer one, and is completed after as many steps as that takes, if the limit of steps allows for
them and nothing cancels the run. -/
theorem execute_repeats_body (engine : Engine) (w : Workflow) (nest : LoopNest)
    (outerRounds innerRounds : Nat) (request : RunRequest) (houter : outerRounds < 2 ^ 32)
    (hinner : innerRounds < 2 ^ 32)
    (hnest : w.IsNest engine.catalog engine.registry nest outerRounds innerRounds)
    (hsteps : 2 + (outerRounds + 1) + outerRounds * (innerRounds + 1) +
      nest.body.length * outerRounds * innerRounds ≤ engine.config.maxSteps)
    (hnever : ∀ g visits p, engine.graph w = .ok g → visits.length ≤ engine.config.maxSteps →
      g.Steps (opening engine.config g w request) visits p → p.scene.clock.cancelled = false) :
    ∃ result, (engine.execute w request).1 = .ok result ∧
      result.record.outcome = .completed ∧ result.record.truncated = false ∧
      result.record.steps = 2 + (outerRounds + 1) + outerRounds * (innerRounds + 1) +
        nest.body.length * outerRounds * innerRounds ∧
      result.startedBlocks = nest.route outerRounds innerRounds ∧
      ∀ b ∈ nest.body, result.startedBlocks.count b.id = outerRounds * innerRounds := by
  obtain ⟨g, hgraph⟩ : ∃ g, engine.graph w = .ok g :=
    Graph.exists_ofWorkflow_iff.mpr hnest.isRunnable
  have hg := isGraphOf_of_graph hgraph
  have hstart := hnest.start_eq hg
  have hopening : opening engine.config g w request =
      ⟨.goOn nest.start.id, openingScene engine.config w request⟩ := by
    rw [opening, hstart]
  have hsafe := fun visits p => hnever g visits p hgraph
  rw [← LoopNest.length_route] at hsteps ⊢
  rw [hopening] at hsafe
  obtain ⟨visits, scene, hrun, hroute⟩ := hnest.exists_isRun hg houter hinner rfl hsteps hsafe
  rw [← hopening] at hrun
  have hstarted : (RunResult.ofVisits engine.config w request visits
      ⟨.stop .completed, scene⟩).startedBlocks = nest.route outerRounds innerRounds := by
    rw [RunResult.startedBlocks_ofVisits, hroute]
  refine ⟨_, by rw [execute_of_isRun hgraph hrun], rfl, rfl, ?_, hstarted, fun b hb => ?_⟩
  · rw [← hroute]
    exact (List.length_map _).symm
  · rw [hstarted]
    exact LoopNest.count_route (LoopNest.distinct_of_nodup hnest.distinct)
      (List.mem_map_of_mem hb)

/-- Two rounds of three rounds with two additions each are six visits to each addition. -/
theorem adding_repeats_body : ∃ result,
    ((create (.standard {}) .standard { maxSteps := 25 }).execute
      (LoopNest.adding 2 3).workflow default).1 = .ok result ∧
    result.record.outcome = .completed ∧ result.record.truncated = false ∧
    result.record.steps = 25 ∧
    ∀ b ∈ (LoopNest.adding 2 3).body, result.startedBlocks.count b.id = 6 := by
  obtain ⟨result, hresult, houtcome, hcut, hsteps, _, hcount⟩ := execute_repeats_body
    (create (.standard {}) .standard { maxSteps := 25 }) (LoopNest.adding 2 3).workflow
    (LoopNest.adding 2 3) 2 3 default (by decide) (by decide) (LoopNest.adding_isNest {} 2 3)
    (by decide) fun _ _ _ hgraph _ h => uncancelled_of_standard hgraph rfl rfl h
  exact ⟨result, hresult, houtcome, hcut, hsteps, hcount⟩

end Engine
end Flowchart
