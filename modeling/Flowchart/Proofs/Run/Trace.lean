import Flowchart.Proofs.Run.Visits

/-!
# Complete traces

`Graph.IsRun` describes the visits of a run from a position with so many steps left: they follow the
step relation and none of them begins after a cancellation, and the run ends where it is stopped by
an outcome, by a cancellation or by the limit of steps, whichever it meets first. `isRun_trace` and
`IsRun.unique` say that on a closed graph there is exactly one, and `Graph.trace` computes it.
-/

namespace Flowchart

namespace Position

/-- The outcome of a run that ends at a position. -/
def outcome : Position → Outcome
  | ⟨.stop outcome, _⟩ => outcome
  | ⟨.goOn _, scene⟩ => if scene.clock.cancelled then .cancelled else .completed

/-- Whether a run that ends at a position was cut at the limit of steps. -/
def isCut : Position → Bool
  | ⟨.stop _, _⟩ => false
  | ⟨.goOn _, scene⟩ => !scene.clock.cancelled

/-- The note of a run that ends at a position other than by an outcome. -/
def notes (maxSteps : Nat) : Position → List String
  | ⟨.stop _, _⟩ => []
  | ⟨.goOn _, scene⟩ =>
      if scene.clock.cancelled then ["Execution cancelled"]
      else [s!"Execution truncated: step limit of {maxSteps} reached"]

end Position

namespace Graph

/-- The visits of a run from a position with so many steps left, and the position where it ends. -/
structure IsRun (g : Graph) (left : Nat) (p : Position) (visits : List Visit) (last : Position) :
    Prop where
  steps : g.Steps p visits last
  length_le : visits.length ≤ left
  uncancelled : ∀ v ∈ visits, v.before.clock.cancelled = false
  maximal : ∀ id, last.turn = .goOn id → last.scene.clock.cancelled = true ∨ visits.length = left

variable {g : Graph} {left : Nat} {p q last : Position} {v : Visit} {visits : List Visit}

/-- A run makes no visit where it has an outcome, where it is cancelled, or without steps left. -/
theorem isRun_nil (h : ∀ id, p.turn = .goOn id → p.scene.clock.cancelled = true ∨ left = 0) :
    g.IsRun left p [] p where
  steps := .refl p
  length_le := Nat.zero_le left
  uncancelled := by simp
  maximal id hid := (h id hid).imp_right Eq.symm

/-- A run that is not cancelled makes a step and goes on with one step less. -/
theorem isRun_cons (hp : p.scene.clock.cancelled = false) (hstep : g.Step p v q)
    (hrest : g.IsRun left q visits last) : g.IsRun (left + 1) p (v :: visits) last where
  steps := .cons hstep hrest.steps
  length_le := Nat.succ_le_succ hrest.length_le
  uncancelled := by
    rw [List.forall_mem_cons, hstep.before_eq]
    exact ⟨hp, hrest.uncancelled⟩
  maximal id hid := (hrest.maximal id hid).imp_right (congrArg (· + 1))

/-- A run that makes no visit ends where it starts. -/
theorem IsRun.eq_of_nil (h : g.IsRun left p [] last) : last = p := by
  cases h.steps
  rfl

/-- A run with an outcome has ended. -/
theorem IsRun.eq_of_stop {outcome : Outcome} {scene : Scene}
    (h : g.IsRun left ⟨.stop outcome, scene⟩ visits last) :
    visits = [] ∧ last = ⟨.stop outcome, scene⟩ :=
  h.steps.eq_of_stop rfl

/-- The first visit of a run is a step, and the others are those of a run with one step less. -/
theorem IsRun.exists_of_cons (h : g.IsRun left p (v :: visits) last) :
    ∃ q n, left = n + 1 ∧ p.scene.clock.cancelled = false ∧ g.Step p v q ∧
      g.IsRun n q visits last := by
  obtain ⟨hsteps, hlength, huncancelled, hmaximal⟩ := h
  cases hsteps with
  | @cons _ q _ _ _ hstep hsteps =>
      rw [List.forall_mem_cons, hstep.before_eq] at huncancelled
      obtain ⟨n, rfl⟩ : ∃ n, left = n + 1 := ⟨left - 1, by simp at hlength; omega⟩
      refine ⟨q, n, rfl, huncancelled.1, hstep, hsteps, ?_, huncancelled.2, ?_⟩
      · simpa using hlength
      · intro id hid
        exact (hmaximal id hid).imp_right (by simp)

/-- The visits of a run from a position, and where it ends. -/
def trace (g : Graph) : Nat → Position → List Visit × Position
  | 0, p => ([], p)
  | left + 1, p =>
      match p.turn with
      | .stop _ => ([], p)
      | .goOn id =>
          if p.scene.clock.cancelled then ([], p)
          else match g.block? id with
            | none => ([], p)
            | some b =>
                let v := g.visit b p.scene
                let (visits, last) := g.trace left ⟨Walk.advance g b v.result, v.after⟩
                (v :: visits, last)

/-- On a closed graph a trace is a run from every position that finds its block. -/
theorem isRun_trace (hclosed : g.Closed) (hfinds : g.Finds p) (left : Nat) :
    g.IsRun left p (g.trace left p).1 (g.trace left p).2 := by
  -- The induction is on the steps left; that the next block is found carries over to the rest.
  induction left generalizing p with
  | zero => exact isRun_nil fun _ _ => Or.inr rfl
  | succ left ih =>
      obtain ⟨turn, scene⟩ := p
      cases turn with
      | stop outcome => exact isRun_nil fun id hid => by cases hid
      | goOn id =>
          cases hcancelled : scene.clock.cancelled with
          | true =>
              simp only [trace, hcancelled, if_true]
              exact isRun_nil fun _ _ => Or.inl hcancelled
          | false =>
              obtain ⟨b, hb⟩ := Option.isSome_iff_exists.mp (hfinds id rfl)
              simp only [trace, hcancelled, hb]
              have hstep := step_visit hb scene
              exact isRun_cons hcancelled hstep (ih (hstep.finds hclosed))

/-- On a closed graph, steps within the limit are the first ones of a run, if none of their visits
begins after a cancellation. -/
theorem Steps.exists_isRun (hclosed : g.Closed) (hfinds : g.Finds p) (h : g.Steps p visits q)
    (hlength : visits.length ≤ left)
    (huncancelled : ∀ v ∈ visits, v.before.clock.cancelled = false) :
    ∃ rest last, g.IsRun left p (visits ++ rest) last := by
  induction h generalizing left with
  | refl p => exact ⟨_, _, isRun_trace hclosed hfinds left⟩
  | cons hstep _ ih =>
      obtain ⟨n, rfl⟩ : ∃ n, left = n + 1 := ⟨left - 1, by simp at hlength; omega⟩
      rw [List.forall_mem_cons, hstep.before_eq] at huncancelled
      obtain ⟨rest, last, hrun⟩ :=
        ih (hstep.finds hclosed) (by simpa using hlength) huncancelled.2
      exact ⟨rest, last, isRun_cons huncancelled.1 hstep hrun⟩

/-- A run that can make a visit makes one. -/
theorem IsRun.ne_nil {id : Identifier} (h : g.IsRun (left + 1) p visits last)
    (hp : p.turn = .goOn id) (hcancelled : p.scene.clock.cancelled = false) : visits ≠ [] := by
  rintro rfl
  obtain rfl := h.eq_of_nil
  rcases h.maximal id hp with hmax | hmax
  · rw [hcancelled] at hmax
    cases hmax
  · cases hmax

/-- There is at most one run from a position. -/
theorem IsRun.unique {visits' : List Visit} {last' : Position} (h : g.IsRun left p visits last)
    (h' : g.IsRun left p visits' last') : visits = visits' ∧ last = last' := by
  induction visits generalizing left p visits' with
  | nil =>
      obtain rfl := h.eq_of_nil
      cases visits' with
      | nil => exact ⟨rfl, h'.eq_of_nil.symm⟩
      | cons v visits' =>
          obtain ⟨q, n, rfl, hcancelled, hstep, _⟩ := h'.exists_of_cons
          obtain ⟨id, hid, _⟩ := step_iff.mp hstep
          exact absurd rfl (h.ne_nil hid hcancelled)
  | cons v visits ih =>
      obtain ⟨q, n, rfl, hcancelled, hstep, hrest⟩ := h.exists_of_cons
      cases visits' with
      | nil =>
          obtain ⟨id, hid, _⟩ := step_iff.mp hstep
          exact absurd rfl (h'.ne_nil hid hcancelled)
      | cons v' visits' =>
          obtain ⟨q', n', hn, _, hstep', hrest'⟩ := h'.exists_of_cons
          obtain rfl : n = n' := Nat.succ.inj hn
          obtain ⟨rfl, rfl⟩ := hstep.unique hstep'
          obtain ⟨rfl, rfl⟩ := ih hrest hrest'
          exact ⟨rfl, rfl⟩

end Graph
end Flowchart
