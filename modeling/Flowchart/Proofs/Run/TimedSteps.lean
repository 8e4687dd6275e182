import Mathlib.Algebra.Ring.Nat
import Flowchart.Proofs.Blocks.Standard
import Flowchart.Proofs.Run.Clock

/-!
# Steps and the time that they take

In the graph of a workflow without requests, a step takes the delay of its wait or no time at all
(`Step.clock_eq`). A limit of time leaves alone what is over by then (`Step.limited`) and cancels
the wait in which it falls (`Step.cut`), so that a run under a limit makes the same visits as the
run without one, up to that wait (`IsRun.limited`, `IsRun.cut`).
-/

namespace Flowchart

namespace Clock

variable {c : Clock} {limit millis : Nat}

/-- A clock that has not been cancelled and is not past its deadline. -/
structure InTime (c : Clock) : Prop where
  uncancelled : c.cancelled = false
  now_le : ∀ deadline, c.deadline = some deadline → c.now ≤ deadline

/-- The clock with a limit of time. -/
def limited (limit : Nat) (c : Clock) : Clock := { c with deadline := some limit }

/-- A free clock is in time. -/
theorem IsFree.inTime (h : c.IsFree) : c.InTime where
  uncancelled := h.uncancelled
  now_le deadline hdeadline := by simp [h.unlimited] at hdeadline

/-- A free clock is in time under a limit that has not passed. -/
theorem IsFree.inTime_limited (h : c.IsFree) (hnow : c.now ≤ limit) : (c.limited limit).InTime where
  uncancelled := h.uncancelled
  now_le deadline hdeadline := by
    cases hdeadline
    exact hnow

/-- In time, waiting for nothing always succeeds. -/
theorem InTime.wait_zero (h : c.InTime) : c.wait 0 = (true, c) := by
  obtain ⟨now, deadline, cancelled⟩ := c
  obtain ⟨rfl, hnow⟩ := h
  cases deadline with
  | none => rfl
  | some deadline => simp [wait, hnow deadline rfl]

/-- On a free clock every wait comes to its end. -/
theorem IsFree.wait_eq (h : c.IsFree) (millis : Nat) :
    c.wait millis = (true, { c with now := c.now + millis }) := by
  simp [wait, h.uncancelled, h.unlimited]

/-- A wait that is over by the limit comes to its end. -/
theorem IsFree.limited_wait_of_le (h : c.IsFree) (hle : c.now + millis ≤ limit) :
    (c.limited limit).wait millis = (true, { c with now := c.now + millis }.limited limit) := by
  have hnot : ¬limit < c.now + millis := by omega
  simp [wait, limited, h.uncancelled, hnot]

/-- A wait that would take longer is cancelled at the limit. -/
theorem IsFree.limited_wait_of_lt (h : c.IsFree) (hnow : c.now ≤ limit)
    (hlt : limit < c.now + millis) :
    (c.limited limit).wait millis = (false, ⟨limit, some limit, true⟩) := by
  simp [wait, limited, h.uncancelled, hlt, hnow]

end Clock

/-- Whether a block is a wait. -/
def ResolvedBlock.isWait (b : ResolvedBlock) : Bool := b.type.isNamed "Wait"

/-- Whether some block of a workflow has a type of a name. -/
def Workflow.uses (catalog : Catalog) (w : Workflow) (typeName : String) : Bool :=
  w.blocks.any fun b => (catalog.get? b.typeId).any (·.isNamed typeName)

/-- The scene with a limit of time. -/
def Scene.limited (limit : Nat) (scene : Scene) : Scene :=
  scene.onClock (scene.clock.limited limit)

/-- The visit under a limit of time that has not passed when it is over. -/
def Visit.limited (limit : Nat) (v : Visit) : Visit :=
  { v with before := v.before.limited limit, left := v.left.limited limit }

namespace Visit

variable (limit : Nat) (v : Visit)

/-- A limit that has not passed does not change which block is visited. -/
@[simp] theorem name_limited : (v.limited limit).name = v.name := rfl

/-- A limit that has not passed does not change a verdict. -/
@[simp] theorem result_limited : (v.limited limit).result = v.result := rfl

end Visit

/-- The position under a limit of time. -/
def Position.limited (limit : Nat) (p : Position) : Position :=
  { p with scene := p.scene.limited limit }

namespace Graph

/-- The time in milliseconds that a block takes on a scene. -/
def delay (limits : Limits) (g : Graph) (b : ResolvedBlock) (scene : Scene) : Nat :=
  if b.isWait then
    Blocks.waitDelay limits.maxWaitMs ⟨b.block, b.type, g.outgoing b.block.id⟩ scene
  else 0

/-- Waits are executed as waits, and the handlers of all other blocks know nothing of the time. -/
def KeepsTime (limits : Limits) (g : Graph) : Prop :=
  ∀ r ∈ g.blocks,
    if r.isWait then r.handler = Blocks.wait limits.maxWaitMs else r.handler.Timeless

end Graph

/-- The time in milliseconds that a visit takes. -/
def Visit.delay (limits : Limits) (g : Graph) (v : Visit) : Nat := g.delay limits v.block v.before

/-- The visit of a wait in which a limit of time falls. -/
def Visit.cut (limits : Limits) (g : Graph) (limit : Nat) (v : Visit) : Visit where
  block := v.block
  before := v.before.limited limit
  result := Blocks.waitVerdict (v.delay limits g) false
  left := v.left.onClock ⟨limit, some limit, true⟩

/-- A wait that is cancelled is a visit of the same block. -/
@[simp] theorem Visit.name_cut (limits : Limits) (g : Graph) (limit : Nat) (v : Visit) :
    (v.cut limits g limit).name = v.name := rfl

namespace Graph

variable {limits : Limits} {g : Graph} {limit left : Nat} {p q last : Position} {v : Visit}
  {visits earlier later : List Visit} {id : Identifier} {scene : Scene}

/-- In the graph of a workflow without requests under the standard registry, only waits know of the
time. -/
theorem IsGraphOf.keepsTime {catalog : Catalog} {w : Workflow}
    (h : IsGraphOf catalog (.standard limits) w g)
    (hrequests : w.uses catalog "HttpRequest" = false) : g.KeepsTime limits := by
  intro r hr
  have hfits := h.fits r hr
  split
  case isTrue hwait =>
    have hmem : Blocks.wait limits.maxWaitMs ∈ Blocks.standard limits := by simp [Blocks.standard]
    exact (h.handler_of_isNamed hr hmem hwait).1
  case isFalse hwait =>
    rcases Registry.isNamed_of_handler? hfits.handler with ⟨hmem, hname⟩ | hfallback
    · rcases Blocks.standard_cases limits hmem with htimeless | hhandler | hhandler
      · exact htimeless
      · rw [hhandler] at hname
        exact absurd hname hwait
      · have hnot := List.any_eq_false.mp hrequests r.block (h.mem_blocks hr)
        rw [hhandler] at hname
        simp only [hfits.type, Option.any_some] at hnot
        exact absurd hname hnot
    · rw [hfallback]
      exact Blocks.passthrough_timeless

/-- A visit makes the same changes on any clock in time, and then waits for its delay. -/
theorem exists_visit_onClock (hg : g.KeepsTime limits) {b : ResolvedBlock} (hb : b ∈ g.blocks)
    (scene : Scene) : ∃ (verdict : Bool → StepResult) (changed : Scene),
      (b.isWait = true → verdict = Blocks.waitVerdict (g.delay limits b scene)) ∧
      ∀ c : Clock, c.InTime → g.visit b (scene.onClock c) =
        ⟨b, scene.onClock c, verdict (c.wait (g.delay limits b scene)).1,
          changed.onClock (c.wait (g.delay limits b scene)).2⟩ := by
  have hhandler := hg b hb
  cases hwait : b.isWait with
  | true =>
      obtain ⟨noted, hrun⟩ := Blocks.exists_runWait_onClock limits.maxWaitMs
        ⟨b.block, b.type, g.outgoing b.block.id⟩ scene
      rw [if_pos hwait] at hhandler
      refine ⟨Blocks.waitVerdict (g.delay limits b scene), noted, fun _ => rfl, fun c _ => ?_⟩
      have hdelay : g.delay limits b scene = Blocks.waitDelay limits.maxWaitMs
          ⟨b.block, b.type, g.outgoing b.block.id⟩ scene := if_pos hwait
      have hwaits : b.handler.run ⟨b.block, b.type, g.outgoing b.block.id⟩ (scene.onClock c) = _ :=
        (congrArg (fun h : Handler => h.run _ _) hhandler).trans (hrun c)
      simp only [visit, hwaits, hdelay]
  | false =>
      rw [if_neg (by simp [hwait])] at hhandler
      let ran := b.handler.run ⟨b.block, b.type, g.outgoing b.block.id⟩ scene
      refine ⟨fun _ => ran.1, ran.2, ⟨Bool.noConfusion, fun c hc => ?_⟩⟩
      have hdelay : g.delay limits b scene = 0 := if_neg (by simp [hwait])
      simp only [visit, hhandler _ _ c, hdelay, hc.wait_zero, ran]

/-! ## Single visits -/

/-- The visit of a block on a free clock, and what it would be on another one. -/
theorem IsVisit.exists_onClock (hg : g.KeepsTime limits) (hv : g.IsVisit id scene v)
    (hfree : scene.clock.IsFree) : ∃ (verdict : Bool → StepResult) (changed : Scene),
      (v.block.isWait = true → verdict = Blocks.waitVerdict (v.delay limits g)) ∧
      v.result = verdict true ∧
      v.left = changed.onClock
        { scene.clock with now := scene.clock.now + v.delay limits g } ∧
      ∀ c : Clock, c.InTime → g.visit v.block (scene.onClock c) =
        ⟨v.block, scene.onClock c, verdict (c.wait (v.delay limits g)).1,
          changed.onClock (c.wait (v.delay limits g)).2⟩ := by
  obtain ⟨verdict, changed, hwait, hvisit⟩ :=
    exists_visit_onClock hg hv.block_mem scene
  have hdelay : v.delay limits g = g.delay limits v.block scene := by
    rw [Visit.delay, hv.before_eq]
  have hmade : v = _ := hv.made.trans (hvisit scene.clock hfree.inTime)
  rw [hfree.wait_eq] at hmade
  rw [hdelay]
  exact ⟨verdict, changed, hwait, congrArg Visit.result hmade, congrArg Visit.left hmade, hvisit⟩

/-- On a free clock a visit takes its delay. -/
theorem IsVisit.left_clock (hg : g.KeepsTime limits) (hv : g.IsVisit id scene v)
    (hfree : scene.clock.IsFree) :
    v.left.clock = { scene.clock with now := scene.clock.now + v.delay limits g } := by
  obtain ⟨_, _, _, _, hleft, _⟩ := hv.exists_onClock hg hfree
  rw [hleft]
  rfl

/-- On a free clock a wait comes to its end. -/
theorem IsVisit.result_of_isWait (hg : g.KeepsTime limits) (hv : g.IsVisit id scene v)
    (hfree : scene.clock.IsFree) (hwait : v.block.isWait = true) :
    v.result = Blocks.waitVerdict (v.delay limits g) true := by
  obtain ⟨_, _, hverdict, hresult, _⟩ := hv.exists_onClock hg hfree
  rw [hresult, hverdict hwait]

/-- A visit that is over by a limit is the same under it. -/
theorem IsVisit.limited (hg : g.KeepsTime limits) (hv : g.IsVisit id scene v)
    (hfree : scene.clock.IsFree) (hle : v.left.clock.now ≤ limit) :
    g.IsVisit id (scene.limited limit) (v.limited limit) where
  found := hv.found
  made := by
    obtain ⟨verdict, changed, _, hresult, hleft, hvisit⟩ := hv.exists_onClock hg hfree
    have hends : scene.clock.now + v.delay limits g ≤ limit := by
      rw [hv.left_clock hg hfree] at hle
      exact hle
    have hlimited := hvisit _ (hfree.inTime_limited (Nat.le_of_add_right_le hends))
    rw [hfree.limited_wait_of_le hends] at hlimited
    show v.limited limit = g.visit v.block _
    rw [Scene.limited, hlimited, Visit.limited, hresult, hleft, hv.before_eq]
    rfl

/-- A visit in which a limit falls is that of a wait, which is cancelled at the limit. -/
theorem IsVisit.cut (hg : g.KeepsTime limits) (hv : g.IsVisit id scene v)
    (hfree : scene.clock.IsFree) (hnow : scene.clock.now ≤ limit)
    (hlt : limit < v.left.clock.now) : v.block.isWait = true ∧
      g.IsVisit id (scene.limited limit) (v.cut limits g limit) := by
  obtain ⟨verdict, changed, hverdict, _, hleft, hvisit⟩ := hv.exists_onClock hg hfree
  have hends : limit < scene.clock.now + v.delay limits g := by
    rw [hv.left_clock hg hfree] at hlt
    exact hlt
  have hwait : v.block.isWait = true := by
    by_contra hnot
    have hdelay : v.delay limits g = 0 := if_neg hnot
    omega
  have hlimited := hvisit _ (hfree.inTime_limited hnow)
  rw [hfree.limited_wait_of_lt hnow hends, hverdict hwait] at hlimited
  refine ⟨hwait, hv.found, ?_⟩
  show v.cut limits g limit = g.visit v.block _
  rw [Scene.limited, hlimited, Visit.cut, hleft, hv.before_eq]
  rfl

/-! ## Steps -/

/-- On a free clock a step takes the delay of its visit. -/
theorem Step.clock_eq (hg : g.KeepsTime limits) (h : g.Step p v q)
    (hfree : v.before.clock.IsFree) :
    q.scene.clock = { p.scene.clock with now := p.scene.clock.now + v.delay limits g } := by
  obtain ⟨id, _, hv, rfl⟩ := step_iff.mp h
  exact hv.left_clock hg (hv.before_eq ▸ hfree)

/-- On a free clock a visit is over after its delay. -/
theorem Step.left_now (hg : g.KeepsTime limits) (h : g.Step p v q)
    (hfree : v.before.clock.IsFree) :
    v.left.clock.now = p.scene.clock.now + v.delay limits g := by
  have hclock : v.left.clock = q.scene.clock := by
    rw [h.scene_eq]
    rfl
  rw [hclock, h.clock_eq hg hfree]

/-- A step that is over by a limit is the same under it. -/
theorem Step.limited (hg : g.KeepsTime limits) (h : g.Step p v q) (hfree : v.before.clock.IsFree)
    (hle : v.left.clock.now ≤ limit) :
    g.Step (p.limited limit) (v.limited limit) (q.limited limit) := by
  obtain ⟨id, hid, hv, rfl⟩ := step_iff.mp h
  exact step_iff.mpr ⟨id, hid, hv.limited hg (hv.before_eq ▸ hfree) hle, rfl⟩

/-- A step in which a limit falls is that of a wait, and what follows is decided when that has been
cancelled at the limit. -/
theorem Step.cut (hg : g.KeepsTime limits) (h : g.Step p v q) (hfree : v.before.clock.IsFree)
    (hnow : p.scene.clock.now ≤ limit) (hlt : limit < v.left.clock.now) :
    v.block.isWait = true ∧ v.result = Blocks.waitVerdict (v.delay limits g) true ∧
      ∃ r, g.Step (p.limited limit) (v.cut limits g limit) r ∧
        r.scene.clock = ⟨limit, some limit, true⟩ := by
  obtain ⟨id, hid, hv, rfl⟩ := step_iff.mp h
  have hscene : p.scene.clock.IsFree := hv.before_eq ▸ hfree
  obtain ⟨hwait, hcut⟩ := hv.cut hg hscene hnow hlt
  exact ⟨hwait, hv.result_of_isWait hg hscene hwait, _, step_iff.mpr ⟨id, hid, hcut, rfl⟩, rfl⟩

/-- Steps on free clocks take the delays of their visits. -/
theorem Steps.now_eq (hg : g.KeepsTime limits) (h : g.Steps p visits q)
    (hfree : ∀ v ∈ visits, v.before.clock.IsFree) :
    q.scene.clock.now = p.scene.clock.now + (visits.map (·.delay limits g)).sum := by
  induction h with
  | refl => rfl
  | cons hstep _ ih =>
      obtain ⟨hfirst, hrest⟩ := List.forall_mem_cons.mp hfree
      rw [ih hrest, hstep.clock_eq hg hfirst, List.map_cons, List.sum_cons, Nat.add_assoc]

/-- Where steps end later than they start, some wait among them has ended. -/
theorem Steps.exists_wait (hg : g.KeepsTime limits) (h : g.Steps p visits q)
    (hfree : ∀ v ∈ visits, v.before.clock.IsFree) (hne : q.scene.clock.now ≠ p.scene.clock.now) :
    ∃ v ∈ visits, v.block.isWait = true ∧ v.left.clock.now = q.scene.clock.now := by
  induction h with
  | refl => exact absurd rfl hne
  | @cons p r q v visits hstep _ ih =>
      obtain ⟨hfirst, hrest⟩ := List.forall_mem_cons.mp hfree
      by_cases hlater : q.scene.clock.now = r.scene.clock.now
      · -- The rest takes no time, so it is the first visit that does.
        have hclock := hstep.left_now hg hfirst
        have hleft : v.left.clock.now = q.scene.clock.now := by
          rw [hlater, hstep.scene_eq]
          rfl
        refine ⟨v, List.mem_cons_self, ?_, hleft⟩
        by_contra hnot
        have hdelay : v.delay limits g = 0 := if_neg hnot
        omega
      · obtain ⟨u, hu, hwait⟩ := ih hrest hlater
        exact ⟨u, List.mem_cons_of_mem v hu, hwait⟩

/-- Steps that start by a limit and are all over by then end by then. -/
theorem Steps.now_le (hg : g.KeepsTime limits) (h : g.Steps p visits q)
    (hfree : ∀ v ∈ visits, v.before.clock.IsFree) (hp : p.scene.clock.now ≤ limit)
    (hle : ∀ v ∈ visits, v.left.clock.now ≤ limit) : q.scene.clock.now ≤ limit := by
  by_cases hsame : q.scene.clock.now = p.scene.clock.now
  · rw [hsame]
    exact hp
  · obtain ⟨v, hv, _, hends⟩ := h.exists_wait hg hfree hsame
    rw [← hends]
    exact hle v hv

/-- Steps that neither start at a time nor have a wait that ends then do not end then. -/
theorem Steps.now_ne (hg : g.KeepsTime limits) (h : g.Steps p visits q)
    (hfree : ∀ v ∈ visits, v.before.clock.IsFree) (hp : p.scene.clock.now ≠ limit)
    (hne : ∀ v ∈ visits, v.block.isWait = true → v.left.clock.now ≠ limit) :
    q.scene.clock.now ≠ limit := by
  by_cases hsame : q.scene.clock.now = p.scene.clock.now
  · rw [hsame]
    exact hp
  · obtain ⟨v, hv, hwait, hends⟩ := h.exists_wait hg hfree hsame
    rw [← hends]
    exact hne v hv hwait

/-- Steps that are all over by a limit are the same under it. -/
theorem Steps.limited (hg : g.KeepsTime limits) (h : g.Steps p visits q)
    (hfree : ∀ v ∈ visits, v.before.clock.IsFree) (hle : ∀ v ∈ visits, v.left.clock.now ≤ limit) :
    g.Steps (p.limited limit) (visits.map (·.limited limit)) (q.limited limit) := by
  induction h with
  | refl => exact .refl _
  | cons hstep _ ih =>
      obtain ⟨hfirst, hrest⟩ := List.forall_mem_cons.mp hfree
      obtain ⟨hover, hothers⟩ := List.forall_mem_cons.mp hle
      exact .cons (hstep.limited hg hfirst hover) (ih hrest hothers)

/-! ## Runs -/

/-- The visits of a run without a limit of time begin on free clocks. -/
theorem IsRun.isFree (hg : g.KeepsTime limits) (h : g.IsRun left p visits last)
    (hp : p.scene.clock.deadline = none) : ∀ v ∈ visits, v.before.clock.IsFree := by
  induction visits generalizing left p with
  | nil => simp
  | cons v visits ih =>
      obtain ⟨q, n, rfl, hcancelled, hstep, hrest⟩ := h.exists_of_cons
      have hfree : v.before.clock.IsFree := by
        rw [hstep.before_eq]
        exact ⟨hcancelled, hp⟩
      have hq : q.scene.clock.deadline = none := by
        rw [hstep.clock_eq hg hfree]
        exact hp
      exact List.forall_mem_cons.mpr ⟨hfree, ih hrest hq⟩

/-- A run that is over by a limit is the same under it. -/
theorem IsRun.limited (hg : g.KeepsTime limits) (h : g.IsRun left p visits last)
    (hfree : ∀ v ∈ visits, v.before.clock.IsFree) (hle : ∀ v ∈ visits, v.left.clock.now ≤ limit) :
    g.IsRun left (p.limited limit) (visits.map (·.limited limit)) (last.limited limit) where
  steps := h.steps.limited hg hfree hle
  length_le := by
    rw [List.length_map]
    exact h.length_le
  uncancelled := List.forall_mem_map.mpr h.uncancelled
  maximal id hid := by
    rw [List.length_map]
    exact h.maximal id hid

/-- Under a limit that falls in one of its visits, a run ends with that visit, which is that of a
wait and is cancelled at the limit. -/
theorem IsRun.cut (hg : g.KeepsTime limits) (h : g.IsRun left p (earlier ++ v :: later) last)
    (hfree : ∀ u ∈ earlier ++ v :: later, u.before.clock.IsFree)
    (hle : ∀ u ∈ earlier, u.left.clock.now ≤ limit) (hnow : p.scene.clock.now ≤ limit)
    (hlt : limit < v.left.clock.now) :
    v.block.isWait = true ∧ v.result = Blocks.waitVerdict (v.delay limits g) true ∧
      limit < p.scene.clock.now + (earlier.map (·.delay limits g)).sum + v.delay limits g ∧
      ∃ final, g.IsRun left (p.limited limit)
          (earlier.map (·.limited limit) ++ [v.cut limits g limit]) final ∧
        final.scene.clock = ⟨limit, some limit, true⟩ := by
  obtain ⟨hfreeEarlier, hfreeLater⟩ := List.forall_mem_append.mp hfree
  obtain ⟨huncancelled, huncancelledLater⟩ := List.forall_mem_append.mp h.uncancelled
  obtain ⟨q, hbefore, hafter⟩ := h.steps.split
  have hq : q.scene.clock.now ≤ limit := hbefore.now_le hg hfreeEarlier hnow hle
  cases hafter with
  | cons hstep _ =>
      have hfreeVisit := hfreeLater v List.mem_cons_self
      obtain ⟨hwait, hresult, final, hcut, hclock⟩ := hstep.cut hg hfreeVisit hq hlt
      rw [hstep.left_now hg hfreeVisit, hbefore.now_eq hg hfreeEarlier] at hlt
      refine ⟨hwait, hresult, hlt, final, ?_, hclock⟩
      constructor
      · exact (hbefore.limited hg hfreeEarlier hle).append (.cons hcut (.refl final))
      · have hlength := h.length_le
        simp only [List.length_append, List.length_map, List.length_cons, List.length_nil]
          at hlength ⊢
        omega
      · rw [List.forall_mem_append, List.forall_mem_map, List.forall_mem_singleton]
        exact ⟨huncancelled, huncancelledLater v List.mem_cons_self⟩
      · intro _ _
        rw [hclock]
        exact Or.inl rfl

end Graph
end Flowchart
