import Flowchart.Proofs.Graph.Choice
import Flowchart.Proofs.Graph.Reachability
import Flowchart.Proofs.Run.Execution
import Flowchart.Proofs.Run.Passage

/-!
# A loop inside a loop

`Workflow.IsNest` describes a workflow that consists of an entry, an outer loop, an inner loop with
a chain of blocks as its body, and an end. Such a workflow can be run (`IsNest.isRunnable`). In its
graph each connection is followed when its label or none is asked for, and this makes the parts of
the nest the passages that `IsNest.passes` puts together.
-/

namespace Flowchart

/-- If all connections that qualify for a branch lead to the same block and there is one, the chosen
one leads there. -/
theorem exists_selectConnection {branch : Branch} {outgoing : List Connection}
    {target : Identifier} (hsome : ∃ c ∈ outgoing, branch.qualifies c = true)
    (hall : ∀ c ∈ outgoing, branch.qualifies c = true → c.target = target) :
    ∃ c, selectConnection branch outgoing = some c ∧ c.target = target := by
  obtain ⟨c, hc, hfits, hchosen⟩ := exists_selectConnection_of_fits
    (hsome.imp fun _ h => ⟨h.1, Branch.qualifies_iff.mp h.2⟩)
  exact ⟨c, hchosen, hall c hc (Branch.qualifies_iff.mpr hfits)⟩

/-- A connection without an identifier of its own. -/
def Connection.anonymous (c : Connection) : Connection := { c with id := .nil }

/-- A handler goes on from a block whatever the scene: it succeeds without naming a branch, and
leaves the loop counters as they are. -/
structure Handler.GoesOn (h : Handler) (b : Block) (t : BlockType) : Prop where
  isError : ∀ outgoing scene, (h.run ⟨b, t, outgoing⟩ scene).1.isError = false
  branchKey : ∀ outgoing scene, (h.run ⟨b, t, outgoing⟩ scene).1.branchKey = none
  counters : ∀ outgoing scene, (h.run ⟨b, t, outgoing⟩ scene).2.counters = scene.counters

/-- A handler that goes on asks for a connection on success. -/
theorem Handler.GoesOn.desiredBranch {h : Handler} {b : Block} {t : BlockType} (hh : h.GoesOn b t)
    (outgoing : List Connection) (scene : Scene) :
    (h.run ⟨b, t, outgoing⟩ scene).1.desiredBranch = .ofKind .success := by
  simp [StepResult.desiredBranch, hh.branchKey, hh.isError]

/-- The type of a block has a name, and a handler executes it. -/
def Block.IsA (catalog : Catalog) (registry : Registry) (name : String) (handler : Handler)
    (b : Block) : Prop :=
  ∃ t, catalog.get? b.typeId = some t ∧ t.isNamed name = true ∧ registry.handler? t = some handler

/-- A block is neither the entry nor the end of its workflow, and its handler always goes on. -/
def Block.GoesOn (catalog : Catalog) (registry : Registry) (b : Block) : Prop :=
  ∃ t handler, catalog.get? b.typeId = some t ∧ t.isNamed "Start" = false ∧
    t.isNamed "End" = false ∧ registry.handler? t = some handler ∧ handler.GoesOn b t

/-- The parts of a nest of loops: the entry, the two loops, the chain of blocks that each round of
the inner loop goes through, and the end. -/
structure LoopNest where
  start : Block
  outer : Block
  inner : Block
  body : List Block
  finish : Block

namespace LoopNest

/-- The blocks of a nest. -/
def blocks (nest : LoopNest) : List Block :=
  nest.start :: nest.outer :: nest.inner :: nest.finish :: nest.body

/-- The identifiers of the body. -/
def bodyIds (nest : LoopNest) : List Identifier := nest.body.map (·.id)

/-- Where a round of the inner loop begins. -/
def first (nest : LoopNest) : Identifier := nest.bodyIds.headD nest.inner.id

/-- A connection on success. -/
def link (source target : Identifier) (label : Option String) : Connection :=
  ⟨.nil, source, target, .success, label⟩

/-- Connections without labels along a chain of blocks and on to another one. -/
def chainLinks (last : Identifier) : List Identifier → List Connection
  | [] => []
  | a :: rest => link a (rest.headD last) none :: chainLinks last rest

/-- The connections of a nest. -/
def links (nest : LoopNest) : List Connection := [
  link nest.start.id nest.outer.id none,
  link nest.outer.id nest.inner.id (some Blocks.loopBranch),
  link nest.outer.id nest.finish.id (some Blocks.exitBranch),
  link nest.inner.id nest.first (some Blocks.loopBranch),
  link nest.inner.id nest.outer.id (some Blocks.exitBranch)] ++
  chainLinks nest.inner.id nest.bodyIds

/-- The identifiers that a run of a nest visits, if the loops have so many rounds. -/
def route (nest : LoopNest) (outerRounds innerRounds : Nat) : List Identifier :=
  nest.start.id ::
    Graph.loopRoute nest.outer.id (Graph.loopRoute nest.inner.id nest.bodyIds innerRounds)
      outerRounds ++ [nest.finish.id]

end LoopNest

/-- A workflow consists of the parts of a nest: its blocks, which have different identifiers, in any
order, and its connections. The loops ask for so many rounds, and the body always goes on. -/
structure Workflow.IsNest (catalog : Catalog) (registry : Registry) (w : Workflow)
    (nest : LoopNest) (outerRounds innerRounds : Nat) : Prop where
  blocks : w.blocks.Perm nest.blocks
  distinct : (nest.blocks.map (·.id)).Nodup
  links : ∀ c, c ∈ w.connections.map (·.anonymous) ↔ c ∈ nest.links
  start : nest.start.IsA catalog registry "Start" Blocks.start
  outer : nest.outer.IsA catalog registry "Loop" Blocks.loop
  inner : nest.inner.IsA catalog registry "Loop" Blocks.loop
  finish : nest.finish.IsA catalog registry "End" Blocks.finish
  body : ∀ b ∈ nest.body, b.GoesOn catalog registry
  outerRounds : nest.outer.LoopsFor outerRounds
  innerRounds : nest.inner.LoopsFor innerRounds

namespace LoopNest

variable {nest : LoopNest} {a last : Identifier} {ids front rest : List Identifier}

/-! ## The links of a nest -/

/-- A link along a chain leaves one of its blocks. -/
theorem filter_chainLinks_of_not_mem (h : a ∉ ids) :
    (chainLinks last ids).filter (·.source = a) = [] := by
  induction ids with
  | nil => rfl
  | cons b rest ih =>
      obtain ⟨hne, hrest⟩ := not_or.mp (mt List.mem_cons.mpr h)
      rw [chainLinks, List.filter_cons_of_neg (by simpa [link] using Ne.symm hne), ih hrest]

/-- From a block of a chain one link leads to the next one, or on if there is none. -/
theorem filter_chainLinks (last : Identifier) (h : (front ++ a :: rest).Nodup) :
    (chainLinks last (front ++ a :: rest)).filter (·.source = a) =
      [link a (rest.headD last) none] := by
  induction front with
  | nil =>
      have ha : a ∉ rest := (List.nodup_cons.mp h).1
      rw [List.nil_append, chainLinks, List.filter_cons_of_pos (by simp [link]),
        filter_chainLinks_of_not_mem ha]
  | cons b front ih =>
      obtain ⟨hb, hfront⟩ := List.nodup_cons.mp h
      have hne : b ≠ a := by
        rintro rfl
        exact hb (by simp)
      rw [List.cons_append, chainLinks, List.filter_cons_of_neg (by simpa [link] using hne),
        ih hfront]

/-- A link along a chain joins blocks of the chain, or the last of them to where it leads. -/
theorem ends_of_mem_chainLinks {c : Connection} (h : c ∈ chainLinks last ids) :
    c.source ∈ ids ∧ c.target ∈ last :: ids := by
  induction ids with
  | nil => cases h
  | cons b rest ih =>
      rcases List.mem_cons.mp h with rfl | hrest
      · refine ⟨List.mem_cons_self, ?_⟩
        show rest.headD last ∈ last :: b :: rest
        cases rest <;> simp
      · obtain ⟨hsource, htarget⟩ := ih hrest
        refine ⟨List.mem_cons_of_mem _ hsource, ?_⟩
        rcases List.mem_cons.mp htarget with hlast | hmem
        · simp [hlast]
        · simp [hmem]

/-- The links of a nest join its blocks. -/
theorem ends_of_mem_links {c : Connection} (h : c ∈ nest.links) :
    c.source ∈ nest.blocks.map (·.id) ∧ c.target ∈ nest.blocks.map (·.id) := by
  have hids : nest.blocks.map (·.id) =
      nest.start.id :: nest.outer.id :: nest.inner.id :: nest.finish.id :: nest.bodyIds := rfl
  have hfirst : nest.first ∈ nest.inner.id :: nest.bodyIds := by
    unfold first
    cases nest.bodyIds <;> simp
  rw [hids]
  rcases List.mem_append.mp h with hloops | hchain
  · simp only [List.mem_cons, List.not_mem_nil, or_false] at hloops hfirst ⊢
    rcases hloops with rfl | rfl | rfl | rfl | rfl <;> simp [link]
    rcases hfirst with hfirst | hfirst <;> simp [hfirst]
  · obtain ⟨hsource, htarget⟩ := ends_of_mem_chainLinks hchain
    refine ⟨by simp [hsource], ?_⟩
    rcases List.mem_cons.mp htarget with hinner | hmem
    · simp [hinner]
    · simp [hmem]

/-- All identifiers of a nest are different. -/
structure Distinct (nest : LoopNest) : Prop where
  start_ne_outer : nest.start.id ≠ nest.outer.id
  start_ne_inner : nest.start.id ≠ nest.inner.id
  outer_ne_inner : nest.outer.id ≠ nest.inner.id
  start_not_mem : nest.start.id ∉ nest.bodyIds
  outer_not_mem : nest.outer.id ∉ nest.bodyIds
  inner_not_mem : nest.inner.id ∉ nest.bodyIds
  finish_not_mem : nest.finish.id ∉ nest.bodyIds
  body_nodup : nest.bodyIds.Nodup

/-- Blocks with different identifiers make different parts. -/
theorem distinct_of_nodup (h : (nest.blocks.map (·.id)).Nodup) : nest.Distinct := by
  have hids : nest.blocks.map (·.id) =
      nest.start.id :: nest.outer.id :: nest.inner.id :: nest.finish.id :: nest.bodyIds := rfl
  rw [hids] at h
  simp only [List.nodup_cons, List.mem_cons, not_or] at h
  obtain ⟨⟨hso, hsi, _, hs⟩, ⟨hoi, _, ho⟩, ⟨_, hi⟩, hf, hbody⟩ := h
  exact ⟨hso, hsi, hoi, hs, ho, hi, hf, hbody⟩

variable (hd : nest.Distinct)
include hd

/-- One link leads from the entry to the outer loop. -/
theorem filter_links_start : nest.links.filter (·.source = nest.start.id) =
    [link nest.start.id nest.outer.id none] := by
  simp [links, link, filter_chainLinks_of_not_mem hd.start_not_mem, hd.start_ne_outer.symm,
    hd.start_ne_inner.symm]

/-- Two links lead from the outer loop to the inner one and to the end. -/
theorem filter_links_outer : nest.links.filter (·.source = nest.outer.id) =
    [link nest.outer.id nest.inner.id (some Blocks.loopBranch),
      link nest.outer.id nest.finish.id (some Blocks.exitBranch)] := by
  simp [links, link, filter_chainLinks_of_not_mem hd.outer_not_mem, hd.start_ne_outer,
    hd.outer_ne_inner.symm]

/-- Two links lead from the inner loop to its body and back to the outer one. -/
theorem filter_links_inner : nest.links.filter (·.source = nest.inner.id) =
    [link nest.inner.id nest.first (some Blocks.loopBranch),
      link nest.inner.id nest.outer.id (some Blocks.exitBranch)] := by
  simp [links, link, filter_chainLinks_of_not_mem hd.inner_not_mem, hd.start_ne_inner,
    hd.outer_ne_inner]

/-- One link leads from each block of the body to the next one, or back to the inner loop. -/
theorem filter_links_body (h : nest.bodyIds = front ++ a :: rest) :
    nest.links.filter (·.source = a) = [link a (rest.headD nest.inner.id) none] := by
  have ha : a ∈ nest.bodyIds := by simp [h]
  have hne {b : Identifier} (hb : b ∉ nest.bodyIds) : b ≠ a := fun hba => hb (hba ▸ ha)
  have hchain := filter_chainLinks nest.inner.id (h ▸ hd.body_nodup)
  rw [links, List.filter_append, h, hchain]
  simp [link, hne hd.start_not_mem, hne hd.outer_not_mem, hne hd.inner_not_mem]

end LoopNest

/-! ## Blocks in graphs -/

namespace Graph.IsGraphOf

variable {catalog : Catalog} {registry : Registry} {w : Workflow} {g : Graph} {b : Block}
  {handler : Handler} {name : String} (hg : g.IsGraphOf catalog registry w)
include hg

/-- The graph of a workflow starts at the identifier of its Start block. -/
theorem start_of_isA (hb : b ∈ w.blocks) (h : b.IsA catalog registry "Start" handler) :
    g.start = b.id := by
  obtain ⟨t, htype, hname, hhandler⟩ := h
  obtain ⟨s, hs, hstart⟩ := hg.start
  have hmem : (⟨b, t, handler⟩ : ResolvedBlock) ∈ g.blocks.reverse.filter (·.isStart) := by
    rw [List.mem_filter, List.mem_reverse, hg.mem_blocks_iff]
    exact ⟨⟨hb, htype, hhandler⟩, hname⟩
  rw [hs, List.mem_singleton] at hmem
  rw [hstart, ← hmem]

/-- The last block that a workflow declares under an identifier is found under it, with a type and
its handler. -/
theorem exists_block?_of_isA {id : Identifier}
    (hb : w.blocks.reverse.find? (·.id = id) = some b)
    (h : b.IsA catalog registry name handler) :
    ∃ t, t.isNamed name = true ∧ g.block? id = some ⟨b, t, handler⟩ := by
  obtain ⟨t, htype, hname, hhandler⟩ := h
  rw [← hg.map_block?, Option.map_eq_some_iff] at hb
  obtain ⟨r, hr, rfl⟩ := hb
  have hfits := hg.fits r (List.mem_of_find?_eq_some hr)
  have hresolved : r = ⟨r.block, t, handler⟩ := hfits.unique ⟨htype, hhandler⟩ rfl
  exact ⟨t, hname, hresolved ▸ hr⟩

end Graph.IsGraphOf

/-! ## The graph of a nest -/

/-- A type has one name, in whatever case it is written. -/
theorem BlockType.isNamed_eq {t : BlockType} {name : String} (h : t.isNamed name = true)
    (other : String) : t.isNamed other = Text.equalAsciiCase name other := by
  have hname : Text.asciiLower t.name = Text.asciiLower name := beq_iff_eq.mp h
  rw [isNamed, Text.equalAsciiCase, hname]
  rfl

/-- The identifier of a connection of its own plays no part in the choice among connections. -/
theorem Branch.qualifies_anonymous (branch : Branch) (c : Connection) :
    branch.qualifies c.anonymous = branch.qualifies c := by
  cases branch <;> rfl

namespace Workflow.IsNest

variable {catalog : Catalog} {registry : Registry} {w : Workflow} {nest : LoopNest}
  {outerRounds innerRounds : Nat} {g : Graph}

/-- The blocks of a workflow with a nest have different identifiers. -/
theorem nodup (h : w.IsNest catalog registry nest outerRounds innerRounds) :
    (w.blocks.map (·.id)).Nodup :=
  (h.blocks.map _).nodup_iff.mpr h.distinct

/-- A workflow with a nest can be run. -/
theorem isRunnable (h : w.IsNest catalog registry nest outerRounds innerRounds) :
    w.IsRunnable catalog registry where
  resolved b hb := by
    have hhandles {t : BlockType} {handler : Handler} (hh : registry.handler? t = some handler) :
        registry.Handles t := by
      rw [← Registry.handler?_isSome_iff, hh]
      rfl
    have hisA {name : String} {handler : Handler} (hb : b.IsA catalog registry name handler) :
        ∃ t, catalog.get? b.typeId = some t ∧ registry.Handles t := by
      obtain ⟨t, htype, _, hh⟩ := hb
      exact ⟨t, htype, hhandles hh⟩
    have hmem := h.blocks.mem_iff.mp hb
    simp only [LoopNest.blocks, List.mem_cons] at hmem
    rcases hmem with rfl | rfl | rfl | rfl | hbody
    · exact hisA h.start
    · exact hisA h.outer
    · exact hisA h.inner
    · exact hisA h.finish
    · obtain ⟨t, _, htype, _, _, hh, _⟩ := h.body b hbody
      exact ⟨t, htype, hhandles hh⟩
  start := by
    have hisA {b : Block} {name : String} {handler : Handler}
        (hb : b.IsA catalog registry name handler) :
        catalog.isStart b = Text.equalAsciiCase name "Start" := by
      obtain ⟨t, htype, hname, _⟩ := hb
      rw [Catalog.isStart, htype, Option.any_some, BlockType.isNamed_eq hname]
    have hbody : nest.body.countP catalog.isStart = 0 := by
      rw [List.countP_eq_zero]
      intro b hb
      obtain ⟨t, _, htype, hname, _⟩ := h.body b hb
      simp [Catalog.isStart, htype, hname]
    have hloop : Text.equalAsciiCase "Loop" "Start" = false := by decide +kernel
    have hend : Text.equalAsciiCase "End" "Start" = false := by decide +kernel
    have hstart : Text.equalAsciiCase "Start" "Start" = true := by decide +kernel
    rw [h.blocks.countP_eq]
    simp [LoopNest.blocks, hisA h.start, hisA h.outer, hisA h.inner,
      hisA h.finish, hbody, hloop, hend, hstart]
  joined c hc := by
    have hdeclares {id : Identifier} (hid : id ∈ nest.blocks.map (·.id)) : w.Declares id := by
      obtain ⟨b, hb, rfl⟩ := List.mem_map.mp hid
      exact ⟨b, h.blocks.mem_iff.mpr hb, rfl⟩
    obtain ⟨hsource, htarget⟩ := LoopNest.ends_of_mem_links
      ((h.links c.anonymous).mp (List.mem_map_of_mem hc))
    exact ⟨hdeclares hsource, hdeclares htarget⟩

variable (hg : Graph.IsGraphOf catalog registry w g)
  (h : w.IsNest catalog registry nest outerRounds innerRounds)
include hg h

/-- A block of a nest is found under its identifier with its type and its handler. -/
theorem block?_eq {b : Block} {t : BlockType} {handler : Handler} (hb : b ∈ nest.blocks)
    (htype : catalog.get? b.typeId = some t) (hhandler : registry.handler? t = some handler) :
    g.block? b.id = some ⟨b, t, handler⟩ :=
  hg.block?_of_nodup (r := ⟨b, t, handler⟩) h.nodup
    (hg.mem_blocks_iff.mpr ⟨h.blocks.mem_iff.mpr hb, htype, hhandler⟩)

/-- Of the links that leave a block, the one that a branch asks for is followed. -/
theorem exists_choice {a : Identifier} {l : Connection} {links : List Connection}
    {branch : Branch} (hlinks : nest.links.filter (·.source = a) = links) (hl : l ∈ links)
    (hqualifies : branch.qualifies l = true)
    (honly : ∀ d ∈ links, branch.qualifies d = true → d.target = l.target) :
    ∃ c, selectConnection branch (g.outgoing a) = some c ∧ c.target = l.target := by
  have hmem (c : Connection) : c ∈ g.outgoing a ↔ c ∈ w.connections ∧ c.source = a := by
    simp [Graph.outgoing, hg.connections]
  refine exists_selectConnection ?_ fun c hc hcq => ?_
  · rw [← hlinks, List.mem_filter] at hl
    obtain ⟨c, hc, rfl⟩ := List.mem_map.mp ((h.links l).mpr hl.1)
    rw [Branch.qualifies_anonymous] at hqualifies
    exact ⟨c, (hmem c).mpr ⟨hc, of_decide_eq_true hl.2⟩, hqualifies⟩
  · obtain ⟨hw, hsource⟩ := (hmem c).mp hc
    have hlink : c.anonymous ∈ links := by
      rw [← hlinks, List.mem_filter]
      exact ⟨(h.links _).mp (List.mem_map_of_mem hw), decide_eq_true hsource⟩
    rw [← Branch.qualifies_anonymous] at hcq
    exact honly c.anonymous hlink hcq

/-- A block whose handler goes on is passed to where its only link leads. -/
theorem passes_of_goesOn {b : Block} {t : BlockType} {handler : Handler} {next : Identifier}
    (hb : b ∈ nest.blocks) (htype : catalog.get? b.typeId = some t)
    (hhandler : registry.handler? t = some handler) (hend : t.isNamed "End" = false)
    (hgoesOn : handler.GoesOn b t)
    (hlinks : nest.links.filter (·.source = b.id) = [LoopNest.link b.id next none]) (f : Rounds) :
    g.Passes b.id f [b.id] next f := by
  refine Graph.Passes.step (h.block?_eq hg hb htype hhandler) hend ?_
    fun scene hscene => ⟨hgoesOn.desiredBranch _ scene, ?_⟩
  · exact h.exists_choice hg hlinks List.mem_cons_self rfl (by simp)
  · rw [hgoesOn.counters, hscene]

/-- Of the two links that leave a loop, each of its labels is taken for the one that carries it. -/
theorem exists_choice_of_label {a enter leave : Identifier}
    (hlinks : nest.links.filter (·.source = a) =
      [LoopNest.link a enter (some Blocks.loopBranch),
        LoopNest.link a leave (some Blocks.exitBranch)]) :
    (∃ c, selectConnection (.labeled Blocks.loopBranch) (g.outgoing a) = some c ∧
      c.target = enter) ∧
    ∃ c, selectConnection (.labeled Blocks.exitBranch) (g.outgoing a) = some c ∧
      c.target = leave := by
  have hqualifies (label key : String) (target : Identifier) :
      (Branch.labeled key).qualifies (LoopNest.link a target (some label)) =
        (LoopNest.link .nil .nil (some label)).matchesLabel key := rfl
  have hlabels : (LoopNest.link .nil .nil (some Blocks.loopBranch)).matchesLabel
        Blocks.loopBranch = true ∧
      (LoopNest.link .nil .nil (some Blocks.exitBranch)).matchesLabel Blocks.loopBranch = false ∧
      (LoopNest.link .nil .nil (some Blocks.loopBranch)).matchesLabel Blocks.exitBranch = false ∧
      (LoopNest.link .nil .nil (some Blocks.exitBranch)).matchesLabel Blocks.exitBranch = true := by
    decide +kernel
  constructor
  · exact h.exists_choice hg hlinks List.mem_cons_self (by simp [hqualifies, hlabels])
      (by simp [hqualifies, hlabels])
  · exact h.exists_choice hg hlinks (List.mem_cons_of_mem _ List.mem_cons_self)
      (by simp [hqualifies, hlabels]) (by simp [hqualifies, hlabels])

/-- A loop whose links lead to its body and out of it goes through its rounds. -/
theorem loopsAt {b : Block} {enter leave : Identifier} {rounds : Nat} (hb : b ∈ nest.blocks)
    (hloop : b.IsA catalog registry "Loop" Blocks.loop) (hrounds : rounds < 2 ^ 32)
    (hsettings : b.LoopsFor rounds)
    (hlinks : nest.links.filter (·.source = b.id) =
      [LoopNest.link b.id enter (some Blocks.loopBranch),
        LoopNest.link b.id leave (some Blocks.exitBranch)]) :
    g.LoopsAt b.id enter leave rounds := by
  obtain ⟨t, htype, hname, hhandler⟩ := hloop
  have hfound := h.block?_eq hg hb htype hhandler
  have hend : t.isNamed "End" = false := by
    rw [BlockType.isNamed_eq hname]
    decide +kernel
  obtain ⟨henter, hleave⟩ := h.exists_choice_of_label hg hlinks
  constructor
  · intro f hf
    refine Graph.Passes.step hfound hend henter ?_
    rintro scene rfl
    dsimp only
    rw [Blocks.loop_run]
    exact Blocks.runLoop_of_lt ⟨b, t, g.outgoing b.id⟩ scene hsettings hrounds hf
  · intro f hf
    refine Graph.Passes.step hfound hend hleave ?_
    rintro scene rfl
    dsimp only
    rw [Blocks.loop_run]
    exact Blocks.runLoop_of_le ⟨b, t, g.outgoing b.id⟩ scene hsettings hrounds hf.ge

/-- The body is passed from its first block to the inner loop. -/
theorem passes_body (f : Rounds) : g.Passes nest.first f nest.bodyIds nest.inner.id f := by
  refine Graph.Passes.chain fun front a rest hids => ?_
  have ha : a ∈ nest.bodyIds := by simp [hids]
  obtain ⟨b, hb, rfl⟩ := List.mem_map.mp ha
  obtain ⟨t, handler, htype, _, hend, hhandler, hgoesOn⟩ := h.body b hb
  exact h.passes_of_goesOn hg (by simp [LoopNest.blocks, hb]) htype hhandler hend hgoesOn
    (LoopNest.filter_links_body (LoopNest.distinct_of_nodup h.distinct) hids) f

/-- A run of a nest goes from the entry through all rounds of both loops to the end. -/
theorem passes (houter : outerRounds < 2 ^ 32) (hinner : innerRounds < 2 ^ 32) :
    ∃ after, g.Passes nest.start.id (fun _ => 0)
      (nest.start.id :: Graph.loopRoute nest.outer.id
        (Graph.loopRoute nest.inner.id nest.bodyIds innerRounds) outerRounds)
      nest.finish.id after := by
  have hd := LoopNest.distinct_of_nodup h.distinct
  have hloopOuter := h.loopsAt hg (by simp [LoopNest.blocks]) h.outer houter h.outerRounds
    (LoopNest.filter_links_outer hd)
  have hloopInner := h.loopsAt hg (by simp [LoopNest.blocks]) h.inner hinner h.innerRounds
    (LoopNest.filter_links_inner hd)
  -- Each round of the outer loop finds the counter of the inner one at zero and leaves it there.
  have hround (f : Rounds) (hf : f nest.inner.id = 0) : g.Passes nest.inner.id f
      (Graph.loopRoute nest.inner.id nest.bodyIds innerRounds) nest.outer.id f := by
    have hrounds := Graph.Passes.rounds (P := fun _ => True) hloopInner (fun _ _ _ => trivial)
      (fun f _ => h.passes_body hg f) innerRounds f trivial (by omega)
    rwa [Function.update_eq_self_iff.mpr hf.symm] at hrounds
  have hrounds := Graph.Passes.rounds (P := fun f => f nest.inner.id = 0) hloopOuter
    (fun f n hf => by rwa [Function.update_of_ne hd.outer_ne_inner.symm]) hround outerRounds
    (fun _ => 0) rfl (by omega)
  have hstart : g.Passes nest.start.id (fun _ => 0) [nest.start.id] nest.outer.id
      (fun _ => 0) := by
    obtain ⟨t, htype, hname, hhandler⟩ := h.start
    have hend : t.isNamed "End" = false := by
      rw [BlockType.isNamed_eq hname]
      decide +kernel
    exact h.passes_of_goesOn hg List.mem_cons_self htype hhandler hend ⟨fun _ _ => rfl,
      fun _ _ => rfl, fun _ _ => rfl⟩ (LoopNest.filter_links_start hd) _
  exact ⟨_, hstart.trans hrounds⟩

end Workflow.IsNest
end Flowchart
