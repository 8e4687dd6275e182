import Mathlib.Data.List.Forall2
import Flowchart.Proofs.Blocks.Likeness
import Flowchart.Proofs.Command.Example
import Flowchart.Proofs.Run.Frame

/-!
# Runs that differ in a disguise

Two graphs are alike under a disguise when they have the same blocks under other identifiers and
every verdict leads to the same block in both (`Disguise.Graphs`). If no block looks up anything
hidden, each step of a run on one of them is made on the other one too (`Graph.Step.alike`), so that
both runs make the same visits and leave records that differ in hidden variables only
(`Engine.exists_execute_alike`).

What a workflow may look up is written in the settings of its blocks (`Workflow.reads`). Two runs
over the standard handlers whose inputs differ in a variable that is not among it cannot be told
apart by anything but that variable itself (`Engine.execute_ignores_unread`).
-/

namespace Flowchart

/-- A resolved block under another identifier. -/
def ResolvedBlock.renamed (rename : Identifier → Identifier) (b : ResolvedBlock) : ResolvedBlock :=
  { b with block := b.block.renamed rename }

/-- What follows a visit, under other identifiers. -/
def Turn.renamed (rename : Identifier → Identifier) : Turn → Turn
  | .goOn id => .goOn (rename id)
  | .stop outcome => .stop outcome

/-- Results that differ in their events and in hidden variables only. -/
structure RunResult.Alike (hidden : String → Prop) (result result' : RunResult) : Prop where
  path : result'.record.path = result.record.path
  actions : result'.record.actions = result.record.actions
  outcome : result'.record.outcome = result.record.outcome
  truncated : result'.record.truncated = result.record.truncated
  steps : result'.record.steps = result.record.steps
  resultData : ∀ x, ¬ hidden x →
    result'.record.resultData.get? x = result.record.resultData.get? x
  server : result'.server = result.server

namespace Disguise

/-- Graphs with the same blocks under other identifiers, in which every verdict leads to the same
block and the same labels are found. -/
structure Graphs (d : Disguise) (g g' : Graph) : Prop where
  start : g'.start = d.rename g.start
  block : ∀ id, g'.block? (d.rename id) = (g.block? id).map (·.renamed d.rename)
  target : ∀ branch id,
    (selectConnection branch (g'.outgoing (d.rename id))).map (·.target) =
      (selectConnection branch (g.outgoing id)).map fun c => d.rename c.target
  hasBranch : ∀ id key, (g'.outgoing (d.rename id)).any (·.matchesLabel key) =
    (g.outgoing id).any (·.matchesLabel key)

/-- No block of a graph looks up anything hidden. -/
def Spares (d : Disguise) (g : Graph) : Prop :=
  ∀ r ∈ g.blocks, ∃ footprint, Handler.ReadsOnly r.handler.run footprint ∧
    ∀ x ∈ (footprint r.block).reads, ¬ d.hidden x

/-- Positions from which runs go on to the same block, on scenes that are alike. -/
structure Positions (d : Disguise) (p p' : Position) : Prop where
  turn : p'.turn = p.turn.renamed d.rename
  scene : d.Scenes p.scene p'.scene

/-- Visits of the same block with the same verdict, which leave scenes that are alike. -/
structure Visits (d : Disguise) (v v' : Visit) : Prop where
  block : v'.block = v.block.renamed d.rename
  result : v'.result = v.result
  left : d.Scenes v.left v'.left

variable {d : Disguise} {g g' : Graph} {p p' : Position} {config : EngineConfig}

/-- A graph is like itself if no identifier is changed. -/
theorem graphs_self (hrename : d.rename = id) : d.Graphs g g := by
  obtain ⟨_, hinjective, hidden⟩ := d
  obtain rfl := hrename
  refine ⟨rfl, fun id => ?_, fun _ _ => rfl, fun _ _ => rfl⟩
  show g.block? id = (g.block? id).map fun b => b
  rw [Option.map_id']

/-- The same block is visited in the same way on both graphs. -/
theorem Graphs.visits (hg : d.Graphs g g') (hspares : d.Spares g) {b : ResolvedBlock}
    (hb : b ∈ g.blocks) {scene scene' : Scene} (hs : d.Scenes scene scene') :
    d.Visits (g.visit b scene) (g'.visit (b.renamed d.rename) scene') := by
  obtain ⟨footprint, hreads, hvisible⟩ := hspares b hb
  have hc : d.Contexts ⟨b.block, b.type, g.outgoing b.block.id⟩
      ⟨b.block.renamed d.rename, b.type, g'.outgoing (d.rename b.block.id)⟩ :=
    ⟨rfl, rfl, fun key => hg.hasBranch b.block.id key⟩
  obtain ⟨hresult, hleft⟩ := hreads hc hs hvisible
  exact ⟨rfl, hresult, hleft⟩

/-- The same verdict on the same block has the same consequence on both graphs. -/
theorem Graphs.advance_eq (hg : d.Graphs g g') (b : ResolvedBlock) (result : StepResult) :
    Walk.advance g' (b.renamed d.rename) result =
      (Walk.advance g b result).renamed d.rename := by
  have htarget := hg.target result.desiredBranch b.block.id
  have hend : (b.renamed d.rename).isEnd = b.isEnd := rfl
  have hid : (b.renamed d.rename).block.id = d.rename b.block.id := rfl
  unfold Walk.advance
  rw [hend, hid]
  split
  · rfl
  · cases hc : selectConnection result.desiredBranch (g.outgoing b.block.id) with
    | none =>
        rw [hc, Option.map_none, Option.map_eq_none_iff] at htarget
        rw [htarget]
        rfl
    | some c =>
        rw [hc, Option.map_some, Option.map_eq_some_iff] at htarget
        obtain ⟨c', hc', hto⟩ := htarget
        rw [hc']
        exact congrArg Turn.goOn hto

/-- Runs that end at positions that are alike end in the same way and with the same note. -/
theorem Positions.ends_alike (h : d.Positions p p') (maxSteps : Nat) :
    p'.outcome = p.outcome ∧ p'.isCut = p.isCut ∧ p'.notes maxSteps = p.notes maxSteps := by
  obtain ⟨turn, scene⟩ := p
  obtain ⟨_, scene'⟩ := p'
  obtain ⟨rfl, hs⟩ := h
  cases turn with
  | stop outcome => exact ⟨rfl, rfl, rfl⟩
  | goOn id =>
      -- Without an outcome it is only the clock that decides.
      have hclock : scene'.clock = scene.clock := hs.clock
      simp [Turn.renamed, Position.outcome, Position.isCut, Position.notes, hclock]

/-- Runs with visits that are alike, which end at positions that are alike, leave results that are
alike. -/
theorem alike_ofVisits {visits visits' : List Visit} {last last' : Position}
    (hvisits : List.Forall₂ d.Visits visits visits') (hlast : d.Positions last last')
    (w w' : Workflow) (request request' : RunRequest) :
    RunResult.Alike d.hidden (.ofVisits config w request visits last)
      (.ofVisits config w' request' visits' last') where
  path := by
    have hnames : List.Forall₂ (· = ·) (visits.map (·.name)) (visits'.map (·.name)) :=
      List.rel_map (fun _ _ hv => (congrArg (·.block.name) hv.block).symm) hvisits
    rw [List.forall₂_eq_eq_eq] at hnames
    exact hnames.symm
  actions := by
    have hdescriptions : List.Forall₂ (· = ·) (visits.map (·.result.description))
        (visits'.map (·.result.description)) :=
      List.rel_map (fun _ _ hv => (congrArg (·.description) hv.result).symm) hvisits
    rw [List.forall₂_eq_eq_eq] at hdescriptions
    show visits'.map (·.result.description) ++ last'.notes config.maxSteps = _
    rw [← hdescriptions, (hlast.ends_alike config.maxSteps).2.2]
    rfl
  outcome := (hlast.ends_alike config.maxSteps).1
  truncated := (hlast.ends_alike config.maxSteps).2.1
  steps := hvisits.length_eq.symm
  resultData x hx := (hlast.scene.store x hx).symm
  server := hlast.scene.server

end Disguise

namespace Graph

variable {d : Disguise} {g g' : Graph} {left : Nat} {p p' q last : Position} {v : Visit}
  {visits : List Visit}

/-- A step on one graph is made on the other one too. -/
theorem Step.alike (hg : d.Graphs g g') (hspares : d.Spares g) (h : g.Step p v q)
    (hp : d.Positions p p') : ∃ v' q', g'.Step p' v' q' ∧ d.Visits v v' ∧ d.Positions q q' := by
  obtain ⟨id, hid, hv, rfl⟩ := step_iff.mp h
  have hmem : v.block ∈ g.blocks := hv.block_mem
  have hvisits := hg.visits hspares hmem hp.scene
  rw [← hv.made] at hvisits
  have hturn : p'.turn = .goOn (d.rename id) := by
    rw [hp.turn, hid]
    rfl
  have hfound : g'.block? (d.rename id) = some (v.block.renamed d.rename) := by
    rw [hg.block, hv.found]
    rfl
  refine ⟨_, _, step_iff.mpr ⟨d.rename id, hturn, ⟨hfound, rfl⟩, rfl⟩, hvisits, ?_, ?_⟩
  · show Walk.advance g' (v.block.renamed d.rename) _ = _
    rw [hvisits.result, hg.advance_eq]
  · exact ⟨hvisits.left.store, hvisits.left.counters, hvisits.left.clock, hvisits.left.server⟩

/-- A run on one graph is made on the other one too. -/
theorem IsRun.alike (hg : d.Graphs g g') (hspares : d.Spares g)
    (h : g.IsRun left p visits last) (hp : d.Positions p p') :
    ∃ visits' last', g'.IsRun left p' visits' last' ∧
      List.Forall₂ d.Visits visits visits' ∧ d.Positions last last' := by
  -- The induction is on the visits; each is made from a position like the one before it.
  induction visits generalizing left p p' with
  | nil =>
      obtain rfl := h.eq_of_nil
      refine ⟨[], p', isRun_nil fun id' hid' => ?_, .nil, hp⟩
      rw [hp.turn] at hid'
      cases hturn : last.turn with
      | stop outcome =>
          rw [hturn] at hid'
          cases hid'
      | goOn id =>
          rw [hp.scene.clock]
          exact (h.maximal id hturn).imp_right Eq.symm
  | cons v visits ih =>
      obtain ⟨q, n, rfl, hcancelled, hstep, hrest⟩ := h.exists_of_cons
      obtain ⟨v', q', hstep', hv, hq⟩ := hstep.alike hg hspares hp
      obtain ⟨visits', last', hrun', hvisits, hlast⟩ := ih hrest hq
      refine ⟨v' :: visits', last', isRun_cons ?_ hstep' hrun', .cons hv hvisits, hlast⟩
      rw [hp.scene.clock]
      exact hcancelled

/-- Over the standard handlers, blocks look up nothing hidden if nothing hidden is among what the
workflow looks up. -/
theorem IsGraphOf.spares {catalog : Catalog} {limits : Limits} {w : Workflow}
    (h : IsGraphOf catalog (.standard limits) w g)
    (hreads : ∀ x ∈ w.reads catalog, ¬ d.hidden x) : d.Spares g := by
  intro r hr
  have hfits := h.fits r hr
  refine ⟨_, Registry.readsOnly_of_handler? hfits.handler, fun x hx => hreads x ?_⟩
  rw [← hfits.footprint_eq] at hx
  exact List.mem_flatMap.mpr ⟨r.block, h.mem_blocks hr, hx⟩

end Graph

namespace Engine

variable {engine : Engine} {d : Disguise} {w w' : Workflow} {g g' : Graph}
  {request : RunRequest} {result : RunResult} {limits : Limits}

/-- Runs on graphs that are alike, from variables that differ in hidden ones only, leave results
that differ in hidden variables only. -/
theorem exists_execute_alike (hgraph : engine.graph w = .ok g) (hgraph' : engine.graph w' = .ok g')
    (hg : d.Graphs g g') (hspares : d.Spares g) (request request' : RunRequest)
    (hseed : (Trail.seed w request.inputs).AgreesOff d.hidden (Trail.seed w' request'.inputs))
    (hserver : request'.server = request.server)
    (hcancelled : request'.cancelled = request.cancelled) :
    ∃ result result', (engine.execute w request).1 = .ok result ∧
      (engine.execute w' request').1 = .ok result' ∧ result.Alike d.hidden result' := by
  obtain ⟨visits, last, hrun, hresult⟩ := exists_execute_eq hgraph request
  have hopening : d.Positions (opening engine.config g w request)
      (opening engine.config g' w' request') := by
    refine ⟨congrArg Turn.goOn hg.start, hseed, fun _ => rfl, ?_, hserver⟩
    show Clock.start _ request'.cancelled = Clock.start _ request.cancelled
    rw [hcancelled]
  obtain ⟨visits', last', hrun', hvisits, hlast⟩ := hrun.alike hg hspares hopening
  refine ⟨_, _, hresult, congrArg Prod.fst (execute_of_isRun hgraph' hrun'), ?_⟩
  exact Disguise.alike_ofVisits hvisits hlast w w' request request'

/-- The variables of a record are in order. -/
theorem sorted_resultData (hregistry : engine.registry = .standard limits)
    (hresult : (engine.execute w request).1 = .ok result) :
    result.record.resultData.Sorted := by
  have hassigns := assigns_of_execute hregistry hresult
  obtain ⟨g, visits, last, hgraph, hrun, rfl⟩ := exists_isRun_of_execute hresult
  exact hassigns.sorted (Store.sorted_ofList _)

/-- Runs on graphs that are alike, from the same variables and with nothing hidden, leave the same
record and the same server. -/
theorem exists_execute_same (hregistry : engine.registry = .standard limits)
    (hgraph : engine.graph w = .ok g) (hgraph' : engine.graph w' = .ok g')
    (hg : d.Graphs g g') (hnone : ∀ x, ¬ d.hidden x) (hid : w'.id = w.id) (request : RunRequest)
    (hseed : Trail.seed w' request.inputs = Trail.seed w request.inputs) :
    ∃ result result', (engine.execute w request).1 = .ok result ∧
      (engine.execute w' request).1 = .ok result' ∧ result'.record = result.record ∧
      result'.server = result.server := by
  have hspares : d.Spares g :=
    (hregistry ▸ isGraphOf_of_graph hgraph : g.IsGraphOf engine.catalog (.standard limits) w).spares
      fun x _ => hnone x
  obtain ⟨result, result', hresult, hresult', halike⟩ := exists_execute_alike hgraph hgraph' hg
    hspares request request (hseed ▸ Store.AgreesOff.refl _ _) rfl rfl
  -- Variables in order that agree everywhere are the same.
  have hdata : result'.record.resultData = result.record.resultData :=
    (sorted_resultData hregistry hresult').ext (sorted_resultData hregistry hresult)
      fun x => halike.resultData x (hnone x)
  refine ⟨result, result', hresult, hresult', ?_, halike.server⟩
  obtain ⟨_, visits, last, _, _, rfl⟩ := exists_isRun_of_execute hresult
  obtain ⟨_, visits', last', _, _, rfl⟩ := exists_isRun_of_execute hresult'
  show RunResult.recordOf _ w' request visits' last' = RunResult.recordOf _ w request visits last
  unfold RunResult.recordOf
  rw [RunRecord.mk.injEq]
  exact ⟨rfl, hid, rfl, congrArg Store.snapshot hseed, hdata, halike.path, halike.actions,
    halike.outcome, halike.truncated, halike.steps⟩

end Engine

/-! ## Variables that nothing looks up -/

/-- Runs whose inputs agree but for hidden variables start from variables that do so too. -/
theorem Trail.seed_agreesOff {hidden : String → Prop} {inputs inputs' : List (String × String)}
    (w : Workflow) (h : (Store.ofList inputs).AgreesOff hidden (Store.ofList inputs')) :
    (seed w inputs).AgreesOff hidden (seed w inputs') := by
  intro x hx
  unfold seed
  rw [Store.get?_ofList_append, Store.get?_ofList_append, h x hx]

namespace Engine

/-- Two runs of a workflow over the standard handlers, whose inputs agree on all variables but one
that no block looks up, visit the same blocks with the same descriptions and end in the same way.
They send the same requests, and their results agree on all other variables. -/
theorem execute_ignores_unread (engine : Engine) (limits : Limits) (w : Workflow) (g : Graph)
    (x : String) (request : RunRequest) (inputs : List (String × String))
    (hregistry : engine.registry = .standard limits) (hgraph : engine.graph w = .ok g)
    (hx : x ∉ w.reads engine.catalog)
    (hinputs : (Store.ofList request.inputs).AgreesOff (· = x) (Store.ofList inputs)) :
    ∃ result result', (engine.execute w request).1 = .ok result ∧
      (engine.execute w { request with inputs }).1 = .ok result' ∧
      result'.record.path = result.record.path ∧
      result'.record.actions = result.record.actions ∧
      result'.record.outcome = result.record.outcome ∧
      result'.record.truncated = result.record.truncated ∧
      result'.server = result.server ∧
      ∀ y, y ≠ x → result'.record.resultData.get? y = result.record.resultData.get? y := by
  let d : Disguise := ⟨id, Function.injective_id, (· = x)⟩
  have hg : g.IsGraphOf engine.catalog (.standard limits) w :=
    hregistry ▸ isGraphOf_of_graph hgraph
  have hspares : d.Spares g := hg.spares fun y hy heq => hx (heq ▸ hy)
  obtain ⟨result, result', hresult, hresult', halike⟩ := exists_execute_alike hgraph hgraph
    (Disguise.graphs_self rfl) hspares request { request with inputs }
    (Trail.seed_agreesOff w hinputs) rfl rfl
  exact ⟨result, result', hresult, hresult', halike.path, halike.actions, halike.outcome,
    halike.truncated, halike.server, halike.resultData⟩

/-- Runs of the example do the same whatever is put into a variable of which it knows nothing. -/
theorem example_ignores_unread : ∃ result result',
    ((create (.standard {}) .standard {}).execute (Workflow.exampleOf .ofNat) default).1 =
      .ok result ∧
    ((create (.standard {}) .standard {}).execute (Workflow.exampleOf .ofNat)
      { (default : RunRequest) with inputs := [("D", "7")] }).1 = .ok result' ∧
    result'.record.path = result.record.path ∧
    result'.record.resultData.get? "C" = result.record.resultData.get? "C" := by
  obtain ⟨g, hg⟩ := Workflow.exists_ofWorkflow_exampleOf {} .ofNat
  have hunread : "D" ∉ (Workflow.exampleOf .ofNat).reads .standard := by decide +kernel
  have hinputs : (Store.ofList []).AgreesOff (· = "D") (Store.ofList [("D", "7")]) := by
    intro y hy
    have hname : variableName "D" = "D" := by decide +kernel
    show _ = (Store.empty.set "D" "7").values.get? y
    rw [Store.get?_set, if_neg fun h => hy (h.1.trans hname)]
    rfl
  obtain ⟨result, result', hresult, hresult', hpath, _, _, _, _, hdata⟩ :=
    execute_ignores_unread (create (.standard {}) .standard {}) {} _ g "D" default [("D", "7")]
      rfl hg hunread hinputs
  exact ⟨result, result', hresult, hresult', hpath, hdata "C" (by decide)⟩

end Engine
end Flowchart
