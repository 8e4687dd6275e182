import Flowchart.Proofs.Command.Example
import Flowchart.Proofs.Run.Execution

/-!
# Where runs begin

A graph names its entry by the identifier of the only Start block, and finds the block to visit by
that identifier. If a later block has the same one, it is found in the place of the Start block, and
this is the only way for a run to begin elsewhere (`Workflow.KeepsStart`).
-/

namespace Flowchart

/-- No block declared after a Start block has the identifier of that Start block. -/
def Workflow.KeepsStart (catalog : Catalog) (w : Workflow) : Prop :=
  w.blocks.Pairwise fun a b => catalog.isStart a = true → b.id ≠ a.id

/-- Blocks are compared one by one. -/
instance (catalog : Catalog) (w : Workflow) : Decidable (w.KeepsStart catalog) :=
  inferInstanceAs (Decidable (w.blocks.Pairwise _))

namespace Graph

variable {catalog : Catalog} {registry : Registry} {w : Workflow} {g : Graph}

/-- The blocks of a workflow stand around its only Start block. -/
structure IsAround (g : Graph) (earlier : List ResolvedBlock) (s : ResolvedBlock)
    (later : List ResolvedBlock) : Prop where
  blocks : g.blocks.reverse = earlier ++ s :: later
  entry : g.start = s.block.id
  isStart : s.isStart = true
  earlier : ∀ r ∈ earlier, r.isStart = false
  later : ∀ r ∈ later, r.isStart = false

variable {s : ResolvedBlock} {earlier later : List ResolvedBlock}

/-- The graph of a workflow has its blocks around one Start block. -/
theorem IsGraphOf.exists_isAround (h : IsGraphOf catalog registry w g) :
    ∃ earlier s later, g.IsAround earlier s later := by
  obtain ⟨s, hs, hentry⟩ := h.start
  obtain ⟨earlier, later, hblocks, hearlier, hisStart, hlater⟩ := List.filter_eq_cons_iff.mp hs
  refine ⟨earlier, s, later, hblocks, hentry, hisStart, ?_, ?_⟩
  · simpa using hearlier
  · simpa using List.filter_eq_nil_iff.mp hlater

/-- The block found at the entry is the last of the later ones with its identifier, or else the
Start block. -/
theorem IsAround.block?_start (h : g.IsAround earlier s later) :
    g.block? g.start = (later.reverse.find? (·.block.id = s.block.id)).or (some s) := by
  have hblocks : g.blocks = later.reverse ++ s :: earlier.reverse := by
    rw [← List.reverse_reverse g.blocks, h.blocks]
    simp
  rw [block?, hblocks, h.entry, List.find?_append, List.find?_cons_of_pos (by simp)]

/-- The block found at the entry is the Start block, or one declared later. -/
theorem IsAround.finds_start_iff (h : g.IsAround earlier s later) :
    (∃ b, g.block? g.start = some b ∧ b.isStart = true) ↔
      ∀ r ∈ later, r.block.id ≠ s.block.id := by
  rw [h.block?_start]
  cases hfound : later.reverse.find? (·.block.id = s.block.id) with
  | none =>
      have hdistinct : ∀ r ∈ later, r.block.id ≠ s.block.id := by
        simpa using List.find?_eq_none.mp hfound
      exact iff_of_true ⟨s, rfl, h.isStart⟩ hdistinct
  | some r =>
      have hmem : r ∈ later := by simpa using List.mem_of_find?_eq_some hfound
      have hid : r.block.id = s.block.id := by simpa using List.find?_some hfound
      refine iff_of_false ?_ fun hdistinct => hdistinct r hmem hid
      rintro ⟨b, hb, hstart⟩
      cases hb
      rw [h.later r hmem] at hstart
      cases hstart

/-- A workflow keeps its Start block when no later block has its identifier. -/
theorem IsAround.keepsStart_iff (hg : IsGraphOf catalog registry w g)
    (h : g.IsAround earlier s later) :
    w.KeepsStart catalog ↔ ∀ r ∈ later, r.block.id ≠ s.block.id := by
  -- Only pairs with the Start block in front are constrained, and these are pairs with later ones.
  have hstart : ∀ r ∈ earlier ++ s :: later, catalog.isStart r.block = r.isStart := by
    intro r hr
    rw [← h.blocks, List.mem_reverse] at hr
    exact (hg.fits r hr).isStart_eq
  have hearlier : ∀ r ∈ earlier, catalog.isStart r.block = false := fun r hr =>
    (hstart r (List.mem_append_left _ hr)).trans (h.earlier r hr)
  have hlater : ∀ r ∈ later, catalog.isStart r.block = false := fun r hr =>
    (hstart r (by simp [hr])).trans (h.later r hr)
  have hs : catalog.isStart s.block = true := (hstart s (by simp)).trans h.isStart
  have hnone {rs : List ResolvedBlock} (hrs : ∀ r ∈ rs, catalog.isStart r.block = false) :
      rs.Pairwise fun a b => catalog.isStart a.block = true → b.block.id ≠ a.block.id := by
    refine List.pairwise_of_forall_mem_list fun a ha b _ hstart => ?_
    rw [hrs a ha] at hstart
    cases hstart
  rw [Workflow.KeepsStart, ← hg.blocks, h.blocks, List.pairwise_map, List.pairwise_append,
    List.pairwise_cons]
  constructor
  · rintro ⟨_, ⟨hdistinct, _⟩, _⟩ r hr
    exact hdistinct r hr hs
  · intro hdistinct
    refine ⟨hnone hearlier, ⟨fun r hr _ => hdistinct r hr, hnone hlater⟩, ?_⟩
    intro a ha b _ hstart
    rw [hearlier a ha] at hstart
    cases hstart

/-- A Start block is found at the entry of a graph exactly when the workflow keeps it. -/
theorem IsGraphOf.finds_start_iff (h : IsGraphOf catalog registry w g) :
    (∃ b, g.block? g.start = some b ∧ b.isStart = true) ↔ w.KeepsStart catalog := by
  obtain ⟨earlier, s, later, haround⟩ := h.exists_isAround
  rw [haround.finds_start_iff, haround.keepsStart_iff h]

/-- A block of a graph is the only Start block of the workflow if it is one at all. -/
theorem IsGraphOf.filter_isStart_iff (h : IsGraphOf catalog registry w g) {b : ResolvedBlock}
    (hb : b ∈ g.blocks) :
    w.blocks.filter catalog.isStart = [b.block] ↔ b.isStart = true := by
  obtain ⟨s, hs, _⟩ := h.start
  have hfilter : w.blocks.filter catalog.isStart = [s.block] := by
    have hcongr : g.blocks.reverse.filter (catalog.isStart ·.block) = [s] := by
      rw [← hs]
      exact List.filter_congr fun r hr => (h.fits r (List.mem_reverse.mp hr)).isStart_eq
    rw [← h.blocks, List.filter_map]
    exact congrArg (List.map (·.block)) hcongr
  rw [hfilter, List.singleton_inj]
  constructor
  · intro heq
    have hmem : s ∈ g.blocks.reverse.filter (·.isStart) := by simp [hs]
    rw [List.mem_filter, List.mem_reverse] at hmem
    rw [← (h.fits b hb).isStart_eq, ← heq, (h.fits s hmem.1).isStart_eq]
    exact hmem.2
  · intro hstart
    have hmem : b ∈ g.blocks.reverse.filter (·.isStart) :=
      List.mem_filter.mpr ⟨List.mem_reverse.mpr hb, hstart⟩
    rw [hs, List.mem_singleton] at hmem
    rw [hmem]

/-- The block that a run visits first is the one found at the entry of its graph. -/
theorem IsRun.block?_start {left : Nat} {p last : Position} {v : Visit} {visits : List Visit}
    (h : g.IsRun left p (v :: visits) last) (hp : p.turn = .goOn g.start) :
    g.block? g.start = some v.block := by
  obtain ⟨q, n, _, _, hstep, _⟩ := h.exists_of_cons
  obtain ⟨id, hid, hv, _⟩ := step_iff.mp hstep
  obtain rfl : g.start = id := Turn.goOn.inj (hp.symm.trans hid)
  exact hv.found

/-- A Start block is found at the entry of a graph exactly when no later block of the workflow has
the identifier of the Start block, and exactly then every run that may visit a block at all visits
the only Start block of the workflow first. -/
theorem begins_at_start_iff (catalog : Catalog) (registry : Registry) (w : Workflow) (g : Graph)
    (hgraph : ofWorkflow catalog registry w = .ok g) :
    ((∃ b, g.block? g.start = some b ∧ b.isStart = true) ↔ w.KeepsStart catalog) ∧
    ∀ (config : EngineConfig) (request : RunRequest),
      1 ≤ config.maxSteps → request.cancelled = false →
      ∃ v visits last,
        g.IsRun config.maxSteps (Engine.opening config g w request) (v :: visits) last ∧
        Engine.runGraph config g w request =
          .ok (.ofVisits config w request (v :: visits) last) ∧
        (w.blocks.filter catalog.isStart = [v.block.block] ↔ w.KeepsStart catalog) := by
  have hg := ofWorkflow_eq_ok_iff.mp hgraph
  refine ⟨hg.finds_start_iff, fun config request hsteps hrequest => ?_⟩
  obtain ⟨visits, last, hrun, hresult⟩ :=
    Engine.exists_runGraph_eq hg.closed config w request
  obtain ⟨left, hleft⟩ : ∃ left, config.maxSteps = left + 1 := ⟨config.maxSteps - 1, by omega⟩
  cases visits with
  | nil => exact absurd rfl (IsRun.ne_nil (hleft ▸ hrun) rfl hrequest)
  | cons v visits =>
      have hfound : g.block? g.start = some v.block := hrun.block?_start rfl
      refine ⟨v, visits, last, hrun, hresult, ?_⟩
      rw [hg.filter_isStart_iff (List.mem_of_find?_eq_some hfound), ← hg.finds_start_iff, hfound]
      simp

/-- A run of the example workflow begins at its Start block. -/
theorem example_begins_at_start :
    ∃ g, ofWorkflow .standard (.standard {}) (Workflow.exampleOf .ofNat) = .ok g ∧
      ∃ b, g.block? g.start = some b ∧ b.isStart = true := by
  obtain ⟨g, hg⟩ := Workflow.exists_ofWorkflow_exampleOf {} .ofNat
  exact ⟨g, hg, (begins_at_start_iff _ _ _ g hg).1.mpr (by decide +kernel)⟩

/-- A workflow in which a wait has the identifier of the Start block. -/
def shadowedStart : Workflow :=
  let w := Workflow.empty (.ofNat 9) "Shadowed"
  let w := w.addBlock (Workflow.standardBlock (.ofNat 1) "Start" "Start" none)
  let w := w.addBlock (Workflow.standardBlock (.ofNat 1) "Wait" "Wait" none)
  let w := w.addBlock (Workflow.standardBlock (.ofNat 2) "End" "End" none)
  w.connect (.ofNat 3) (.ofNat 1) (.ofNat 2) .success

/-- The graph of this workflow has no Start block at its entry, and a run begins with the wait. -/
theorem shadowed_begins_elsewhere :
    (∃ g, ofWorkflow .standard (.standard {}) shadowedStart = .ok g ∧
      ¬ ∃ b, g.block? g.start = some b ∧ b.isStart = true) ∧
    ((Engine.create (.standard {}) .standard {}).execute shadowedStart
      default).1.toOption.map (·.record.path) = some ["Wait", "End"] := by
  have hfaults : shadowedStart.faults .standard (.standard {}) = [] := by decide +kernel
  obtain ⟨g, hg⟩ := exists_ofWorkflow_iff.mpr (Workflow.faults_eq_nil_iff.mp hfaults)
  refine ⟨⟨g, hg, ?_⟩, by decide +kernel⟩
  rw [(ofWorkflow_eq_ok_iff.mp hg).finds_start_iff]
  decide +kernel

end Graph
end Flowchart
