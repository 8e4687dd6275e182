import Flowchart.Proofs.Graph.Construction
import Flowchart.Run.Walk

/-!
# Visits and the step relation of runs

A run stands at a position: a turn, which names the block to visit next or the outcome, and the
scene for it. `Graph.Step` is one visit, from a position to the next one, and `Graph.Steps` a list
of visits one after another. `Step.unique` and `Steps.unique` say that both are deterministic.
`Steps.finds` is the invariant of runs on a closed graph: what is to be visited next is a block.
-/

namespace Flowchart

/-- One visit of a run: the block, its verdict, the scene before it, and the scene as the handler
left it with its notes. -/
structure Visit where
  block : ResolvedBlock
  before : Scene
  result : StepResult
  left : Scene

namespace Visit

/-- The identifier of the visited block. -/
def id (v : Visit) : Identifier := v.block.block.id

/-- The name of the visited block. -/
def name (v : Visit) : String := v.block.block.name

/-- The scene for the next visit, in which all notes have been announced. -/
def after (v : Visit) : Scene := { v.left with notes := [] }

/-- The connection that the verdict chooses among those that leave the block. -/
def choice (g : Graph) (v : Visit) : Option Connection :=
  selectConnection v.result.desiredBranch (g.outgoing v.id)

end Visit

/-- Where a run stands: what it does next, and the scene for it. -/
structure Position where
  turn : Turn
  scene : Scene

namespace Graph

/-- The visit of a block on a scene. -/
def visit (g : Graph) (b : ResolvedBlock) (scene : Scene) : Visit :=
  let (result, left) := b.handler.run ⟨b.block, b.type, g.outgoing b.block.id⟩ scene
  ⟨b, scene, result, left⟩

/-- A visit made for an identifier on a scene: that of the block with the identifier. -/
structure IsVisit (g : Graph) (id : Identifier) (scene : Scene) (v : Visit) : Prop where
  found : g.block? id = some v.block
  made : v = g.visit v.block scene

/-- One step of a run. The visit of an End block completes it; any other visit leads on to the
target of the chosen connection, or to a dead end if there is none. -/
inductive Step (g : Graph) : Position → Visit → Position → Prop where
  | complete {id scene v} (hv : g.IsVisit id scene v) (hend : v.block.isEnd = true) :
      Step g ⟨.goOn id, scene⟩ v ⟨.stop .completed, v.after⟩
  | follow {id scene v c} (hv : g.IsVisit id scene v) (hend : v.block.isEnd = false)
      (hc : v.choice g = some c) : Step g ⟨.goOn id, scene⟩ v ⟨.goOn c.target, v.after⟩
  | strand {id scene v} (hv : g.IsVisit id scene v) (hend : v.block.isEnd = false)
      (hc : v.choice g = none) : Step g ⟨.goOn id, scene⟩ v ⟨.stop .deadEnd, v.after⟩

/-- Steps one after another, with their visits. -/
inductive Steps (g : Graph) : Position → List Visit → Position → Prop where
  | refl (p) : Steps g p [] p
  | cons {p q r v visits} : Step g p v q → Steps g q visits r → Steps g p (v :: visits) r

variable {g : Graph} {p q r : Position} {u v : Visit} {visits rest : List Visit}

/-! ## Single steps -/

/-- The visit of a block is one of that block. -/
theorem block_visit (b : ResolvedBlock) (scene : Scene) : (g.visit b scene).block = b := rfl

/-- A visit is known by the block that it visits. -/
theorem id_visit (b : ResolvedBlock) (scene : Scene) : (g.visit b scene).id = b.block.id := rfl

/-- The block with an identifier has that identifier. -/
theorem id_of_block? {id : Identifier} {b : ResolvedBlock} (h : g.block? id = some b) :
    b.block.id = id := by
  simpa using List.find?_some h

/-- There is one visit for an identifier and a scene. -/
theorem IsVisit.unique {id : Identifier} {scene : Scene} (hu : g.IsVisit id scene u)
    (hv : g.IsVisit id scene v) : u = v := by
  have hblock : u.block = v.block := Option.some.inj (hu.found.symm.trans hv.found)
  rw [hu.made, hv.made, hblock]

/-- A visit is made on its scene. -/
theorem IsVisit.before_eq {id : Identifier} {scene : Scene} (hv : g.IsVisit id scene v) :
    v.before = scene := by
  rw [hv.made]
  rfl

/-- The block that is visited is one of the graph. -/
theorem IsVisit.block_mem {id : Identifier} {scene : Scene} (hv : g.IsVisit id scene v) :
    v.block ∈ g.blocks :=
  List.mem_of_find?_eq_some hv.found

/-- After an End block a run stops. -/
theorem advance_of_isEnd (hend : v.block.isEnd = true) :
    Walk.advance g v.block v.result = .stop .completed := by
  rw [Walk.advance, if_pos hend]

/-- After any other block a run goes on to the target of the chosen connection. -/
theorem advance_of_some {c : Connection} (hend : v.block.isEnd = false)
    (hc : v.choice g = some c) : Walk.advance g v.block v.result = .goOn c.target := by
  have hselect : selectConnection v.result.desiredBranch (g.outgoing v.block.block.id) = some c :=
    hc
  simp only [Walk.advance, hend, hselect, Bool.false_eq_true, if_false]

/-- Without a chosen connection a run stops at a dead end. -/
theorem advance_of_none (hend : v.block.isEnd = false) (hc : v.choice g = none) :
    Walk.advance g v.block v.result = .stop .deadEnd := by
  have hselect : selectConnection v.result.desiredBranch (g.outgoing v.block.block.id) = none :=
    hc
  simp only [Walk.advance, hend, hselect, Bool.false_eq_true, if_false]

/-- The verdict of a visit decides the next turn. -/
theorem step_iff : g.Step p v q ↔ ∃ id, p.turn = .goOn id ∧ g.IsVisit id p.scene v ∧
    q = ⟨Walk.advance g v.block v.result, v.after⟩ := by
  constructor
  · intro h
    cases h with
    | complete hv hend => exact ⟨_, rfl, hv, by rw [advance_of_isEnd hend]⟩
    | follow hv hend hc => exact ⟨_, rfl, hv, by rw [advance_of_some hend hc]⟩
    | strand hv hend hc => exact ⟨_, rfl, hv, by rw [advance_of_none hend hc]⟩
  · rintro ⟨id, hp, hv, rfl⟩
    obtain ⟨_, scene⟩ := p
    cases hp
    cases hend : v.block.isEnd with
    | true =>
        rw [advance_of_isEnd hend]
        exact .complete hv hend
    | false =>
        cases hc : v.choice g with
        | some c =>
            rw [advance_of_some hend hc]
            exact .follow hv hend hc
        | none =>
            rw [advance_of_none hend hc]
            exact .strand hv hend hc

/-- The visit of a block of a graph is a step, on any scene. -/
theorem step_visit {id : Identifier} {b : ResolvedBlock} (h : g.block? id = some b)
    (scene : Scene) : g.Step ⟨.goOn id, scene⟩ (g.visit b scene)
      ⟨Walk.advance g b (g.visit b scene).result, (g.visit b scene).after⟩ :=
  step_iff.mpr ⟨id, rfl, ⟨h, rfl⟩, rfl⟩

/-- A step is determined by the position it starts from. -/
theorem Step.unique {q' : Position} (h : g.Step p u q) (h' : g.Step p v q') : u = v ∧ q = q' := by
  obtain ⟨id, hp, hu, rfl⟩ := step_iff.mp h
  obtain ⟨id', hp', hv, rfl⟩ := step_iff.mp h'
  obtain rfl : id = id' := Turn.goOn.inj (hp.symm.trans hp')
  obtain rfl := hu.unique hv
  exact ⟨rfl, rfl⟩

/-- The block that a step visits is one of the graph. -/
theorem Step.block_mem (h : g.Step p v q) : v.block ∈ g.blocks := by
  obtain ⟨_, -, hv, -⟩ := step_iff.mp h
  exact hv.block_mem

/-- A visit is made on the scene of the position. -/
theorem Step.before_eq (h : g.Step p v q) : v.before = p.scene := by
  obtain ⟨_, _, hv, _⟩ := step_iff.mp h
  exact hv.before_eq

/-- The next position has the scene that the visit left. -/
theorem Step.scene_eq (h : g.Step p v q) : q.scene = v.after := by
  obtain ⟨_, _, _, rfl⟩ := step_iff.mp h
  rfl

/-- What a position asks to visit next is in the graph. -/
def Finds (g : Graph) (p : Position) : Prop :=
  ∀ id, p.turn = .goOn id → (g.block? id).isSome = true

/-- A chosen connection is one of those that leave the block. -/
theorem mem_of_choice {c : Connection} (h : v.choice g = some c) :
    c ∈ g.connections ∧ c.source = v.id := by
  have hqualified : c ∈ (g.outgoing v.id).filter v.result.desiredBranch.qualifies := by
    rcases Option.or_eq_some_iff.mp h with hfind | ⟨_, hhead⟩
    · exact List.mem_of_find?_eq_some hfind
    · exact List.mem_of_head? hhead
  simpa [outgoing] using (List.mem_filter.mp hqualified).1

/-- A step gives the verdict and the scene of the handler of the block. -/
theorem Step.run_eq (h : g.Step p v q) :
    v.block.handler.run ⟨v.block.block, v.block.type, g.outgoing v.id⟩ v.before =
      (v.result, v.left) := by
  obtain ⟨_, _, hv, _⟩ := step_iff.mp h
  rw [hv.before_eq]
  exact (Prod.ext (congrArg Visit.result hv.made) (congrArg Visit.left hv.made)).symm

/-- In a closed graph, what is to be visited after a step is found. -/
theorem Step.finds (hclosed : g.Closed) (h : g.Step p v q) : g.Finds q := by
  intro id hid
  cases h with
  | complete => cases hid
  | follow hv hend hc =>
      cases hid
      exact hclosed.target _ (mem_of_choice hc).1
  | strand => cases hid

/-! ## Lists of steps -/

/-- Steps with as many visits from one position make the same visits and end at the same place. -/
theorem Steps.unique {r' : Position} {visits' : List Visit} (h : g.Steps p visits r)
    (h' : g.Steps p visits' r') (hlength : visits.length = visits'.length) :
    visits = visits' ∧ r = r' := by
  induction h generalizing visits' with
  | refl p =>
      cases h' with
      | refl => exact ⟨rfl, rfl⟩
      | cons _ _ => simp at hlength
  | cons hstep _ ih =>
      cases h' with
      | refl => simp at hlength
      | cons hstep' hsteps' =>
          -- The first steps agree, so both lists go on from the same position.
          obtain ⟨rfl, rfl⟩ := hstep.unique hstep'
          obtain ⟨rfl, rfl⟩ := ih hsteps' (by simpa using hlength)
          exact ⟨rfl, rfl⟩

/-- Steps that begin at an outcome make no visit. -/
theorem Steps.eq_of_stop {outcome : Outcome} (h : g.Steps p visits r)
    (hp : p.turn = .stop outcome) : visits = [] ∧ r = p := by
  cases h with
  | refl => exact ⟨rfl, rfl⟩
  | cons hstep _ =>
      obtain ⟨_, hturn, _⟩ := step_iff.mp hstep
      exact absurd (hp.symm.trans hturn) (by simp)

/-- What every step preserves is preserved by steps one after another. -/
theorem Steps.preserves {P : Position → Prop} (hP : ∀ {p v q}, g.Step p v q → P p → P q)
    (h : g.Steps p visits r) (hp : P p) : P r := by
  induction h with
  | refl => exact hp
  | cons hstep _ ih => exact ih (hP hstep hp)

/-- In a closed graph, a run that finds its first block finds all others. -/
theorem Steps.finds (hclosed : g.Closed) (h : g.Steps p visits r) (hp : g.Finds p) : g.Finds r :=
  h.preserves (fun hstep _ => hstep.finds hclosed) hp

/-- Steps from where other steps end make the visits of both. -/
theorem Steps.append (h : g.Steps p visits q) (h' : g.Steps q rest r) :
    g.Steps p (visits ++ rest) r := by
  induction h with
  | refl => exact h'
  | cons hstep _ ih => exact .cons hstep (ih h')

/-- Steps with the visits of two lists pass through a position between them. -/
theorem Steps.split (h : g.Steps p (visits ++ rest) r) :
    ∃ q, g.Steps p visits q ∧ g.Steps q rest r := by
  induction visits generalizing p with
  | nil => exact ⟨p, .refl p, h⟩
  | cons v visits ih =>
      cases h with
      | cons hstep hsteps =>
          obtain ⟨q, hfirst, hlast⟩ := ih hsteps
          exact ⟨q, .cons hstep hfirst, hlast⟩

/-- Each visit of steps one after another is a step. -/
theorem Steps.exists_of_mem (h : g.Steps p visits r) (hv : v ∈ visits) :
    ∃ q q', g.Step q v q' := by
  obtain ⟨earlier, later, rfl⟩ := List.append_of_mem hv
  obtain ⟨q, _, hlater⟩ := h.split
  cases hlater with
  | cons hstep _ => exact ⟨q, _, hstep⟩

/-- What holds of every scene that fewer steps lead to holds before each visit. -/
theorem Steps.forall_before {P : Scene → Prop} (h : g.Steps p visits r)
    (hP : ∀ earlier q, earlier.length < visits.length → g.Steps p earlier q → P q.scene) :
    ∀ v ∈ visits, P v.before := by
  intro v hv
  obtain ⟨earlier, later, rfl⟩ := List.append_of_mem hv
  obtain ⟨q, hearlier, hlater⟩ := h.split
  cases hlater with
  | cons hstep _ =>
      rw [hstep.before_eq]
      exact hP earlier q (by simp) hearlier

end Graph
end Flowchart
