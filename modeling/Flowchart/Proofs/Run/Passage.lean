import Flowchart.Proofs.Blocks.Loop
import Flowchart.Proofs.Run.Visits

/-!
# Passages through a graph

A passage goes from one block to another whatever the scene, and is known by the blocks that it
visits and by what it makes of the loop counters (`Graph.Passes`). Passages one after another are a
passage. `Passes.rounds` is the one fact about loops: where each round brings a run back to the loop
with the counters as they were, a run goes through all rounds and leaves the loop with its counter
at zero. A loop inside another one is a round of it.
-/

namespace Flowchart

/-- The loop counters of a run, as numbers of rounds. -/
abbrev Rounds := Identifier → Nat

/-- Whatever the rest of the scene, a run with some counters at one block goes on through blocks
with some identifiers, and comes to another block with other counters. -/
def Graph.Passes (g : Graph) (source : Identifier) (before : Rounds) (ids : List Identifier)
    (target : Identifier) (after : Rounds) : Prop :=
  ∀ scene : Scene, scene.counters.rounds = before → ∃ visits scene',
    g.Steps ⟨.goOn source, scene⟩ visits ⟨.goOn target, scene'⟩ ∧ visits.map (·.id) = ids ∧
      scene'.counters.rounds = after

/-- A loop that goes on as long as it has begun fewer rounds than a number, and then leaves. -/
structure Graph.LoopsAt (g : Graph) (id enter leave : Identifier) (rounds : Nat) : Prop where
  again : ∀ f : Rounds, f id < rounds → g.Passes id f [id] enter (Function.update f id (f id + 1))
  exit : ∀ f : Rounds, f id = rounds → g.Passes id f [id] leave (Function.update f id 0)

namespace Graph

variable {g : Graph} {source middle target last : Identifier} {f before between after : Rounds}
  {first second ids : List Identifier}

/-- Without a visit a run stays where it is. -/
theorem Passes.refl (source : Identifier) (f : Rounds) : g.Passes source f [] source f :=
  fun scene hscene => ⟨[], scene, .refl _, rfl, hscene⟩

/-- One passage after another is a passage. -/
theorem Passes.trans (h : g.Passes source before first middle between)
    (h' : g.Passes middle between second target after) :
    g.Passes source before (first ++ second) target after := by
  intro scene hscene
  obtain ⟨visits, scene', hsteps, hids, hscene'⟩ := h scene hscene
  obtain ⟨visits', scene'', hsteps', hids', hscene''⟩ := h' scene' hscene'
  exact ⟨visits ++ visits', scene'', hsteps.append hsteps', by rw [List.map_append, hids, hids'],
    hscene''⟩

/-- A block is passed by a handler that asks for a branch on which a connection is chosen. -/
theorem Passes.step {b : ResolvedBlock} {branch : Branch} (hb : g.block? source = some b)
    (hend : b.isEnd = false)
    (hchoice : ∃ c, selectConnection branch (g.outgoing source) = some c ∧ c.target = target)
    (hrun : ∀ scene : Scene, scene.counters.rounds = before →
      (b.handler.run ⟨b.block, b.type, g.outgoing source⟩ scene).1.desiredBranch = branch ∧
      (b.handler.run ⟨b.block, b.type, g.outgoing source⟩ scene).2.counters.rounds = after) :
    g.Passes source before [source] target after := by
  intro scene hscene
  obtain rfl := id_of_block? hb
  obtain ⟨c, hchosen, rfl⟩ := hchoice
  obtain ⟨hbranch, hafter⟩ := hrun scene hscene
  have hstep := step_visit hb scene
  have hturn : Walk.advance g b (g.visit b scene).result = .goOn c.target := by
    refine advance_of_some (v := g.visit b scene) hend ?_
    show selectConnection (b.handler.run ⟨b.block, b.type, g.outgoing b.block.id⟩
      scene).1.desiredBranch (g.outgoing b.block.id) = some c
    rw [hbranch, hchosen]
  rw [hturn] at hstep
  exact ⟨[g.visit b scene], (g.visit b scene).after, .cons hstep (.refl _), rfl, hafter⟩

/-- A chain of blocks that leave the counters as they are is passed from its first one to where the
last one leads; a chain without blocks is passed at once. -/
theorem Passes.chain (h : ∀ front a rest, ids = front ++ a :: rest →
    g.Passes a f [a] (rest.headD last) f) : g.Passes (ids.headD last) f ids last f := by
  induction ids with
  | nil => exact .refl last f
  | cons a rest ih =>
      have hfirst := h [] a rest rfl
      have hrest := ih fun front b more heq => h (a :: front) b more (by rw [heq]; rfl)
      exact hfirst.trans hrest

/-- The identifiers that a loop visits in so many rounds and at its exit. -/
def loopRoute (id : Identifier) (body : List Identifier) (rounds : Nat) : List Identifier :=
  (List.replicate rounds (id :: body)).flatten ++ [id]

/-- If each round of a loop brings a run back with the counters as they were, the run goes through
all rounds that are left, and leaves the loop with its counter at zero. The rounds may need counters
with some property `P`, which the counter of the loop itself does not matter to. -/
theorem Passes.rounds {id enter leave : Identifier} {rounds : Nat} {P : Rounds → Prop}
    (hloop : g.LoopsAt id enter leave rounds) (hP : ∀ f n, P f → P (Function.update f id n))
    (hround : ∀ f, P f → g.Passes enter f ids id f) (left : Nat) (f : Rounds) (hf : P f)
    (hleft : f id + left = rounds) :
    g.Passes id f (loopRoute id ids left) leave (Function.update f id 0) := by
  -- The induction is on the rounds left; each takes one of them and adds one to the counter.
  induction left generalizing f with
  | zero => exact hloop.exit f hleft
  | succ left ih =>
      have hagain := hloop.again f (by omega)
      have hback := hround _ (hP f (f id + 1) hf)
      have hrest := ih (Function.update f id (f id + 1)) (hP f (f id + 1) hf) (by
        rw [Function.update_self]
        omega)
      rw [Function.update_idem] at hrest
      have hroute : loopRoute id ids (left + 1) = [id] ++ ids ++ loopRoute id ids left := by
        simp [loopRoute, List.replicate_succ]
      rw [hroute]
      exact (hagain.trans hback).trans hrest

/-! ## How long a loop is -/

/-- A loop visits itself once for each round and once at its exit, and its body in each round. -/
theorem length_loopRoute (id : Identifier) (body : List Identifier) (rounds : Nat) :
    (loopRoute id body rounds).length = rounds * (body.length + 1) + 1 := by
  simp [loopRoute]

/-- A block other than the loop is visited in each round as often as it is in the body. -/
theorem count_loopRoute {id a : Identifier} (h : a ≠ id) (body : List Identifier) (rounds : Nat) :
    (loopRoute id body rounds).count a = rounds * body.count a := by
  have hne : id ≠ a := h.symm
  simp [loopRoute, List.count_flatten, hne]

end Graph
end Flowchart
