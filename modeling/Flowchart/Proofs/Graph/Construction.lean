import Flowchart.Graph.Index
import Flowchart.Proofs.Refusal

/-!
# The graph of a workflow

`Workflow.faults` lists all that keeps a workflow from being run, in the order in which it is looked
for: the faults of the blocks, then the number of Start blocks, then the ends of the connections.
`Workflow.IsRunnable` says without any order when there is none. `ofWorkflow_eq_error_iff` shows
that the construction of a graph reports exactly the first fault of the list, and
`exists_ofWorkflow_iff` that it succeeds for exactly the workflows that can be run.

`ofWorkflow_eq_ok_iff` describes the graph when it is not refused. In such a graph a run never loses
its block: the start and both ends of every connection are identifiers of blocks (`Graph.Closed`),
whether or not several blocks share one.
-/

namespace Flowchart

/-- Whether a block is a Start block under a catalog. -/
def Catalog.isStart (catalog : Catalog) (b : Block) : Bool :=
  (catalog.get? b.typeId).any (·.isNamed "Start")

/-- Whether a type has a handler of its own or the one of last resort. -/
def Registry.Handles (registry : Registry) (t : BlockType) : Prop :=
  (∃ h ∈ registry.handlers, h.accepts t = true) ∨ registry.fallback.isSome = true

/-- A type has a handler exactly when it is handled. -/
theorem Registry.handler?_isSome_iff {registry : Registry} {t : BlockType} :
    (registry.handler? t).isSome = true ↔ registry.Handles t := by
  simp [Registry.handler?, Registry.Handles, Option.isSome_or]

namespace Workflow

/-- Whether a workflow declares a block with an identifier. -/
def Declares (w : Workflow) (id : Identifier) : Prop := ∃ b ∈ w.blocks, b.id = id

/-- Declarations are found by looking at each block. -/
instance (w : Workflow) (id : Identifier) : Decidable (w.Declares id) :=
  inferInstanceAs (Decidable (∃ b ∈ w.blocks, b.id = id))

/-- The fault of a block, which lacks a type or else a handler. -/
def blockFaults (catalog : Catalog) (registry : Registry) (b : Block) : List GraphFault :=
  match catalog.get? b.typeId with
  | none => [.unknownType b.name b.typeId]
  | some t => if (registry.handler? t).isSome then [] else [.noHandler t.name]

/-- The fault of a number of Start blocks. -/
def startFaults : Nat → List GraphFault
  | 0 => [.noStart]
  | 1 => []
  | n + 2 => [.manyStarts (n + 2)]

/-- The fault of one end of a connection. -/
def endFaults (w : Workflow) (c : Connection) (which : End) (id : Identifier) : List GraphFault :=
  if w.Declares id then [] else [.unknownEnd c.id which id]

/-- The faults of a connection, that of its source first. -/
def connectionFaults (w : Workflow) (c : Connection) : List GraphFault :=
  w.endFaults c .source c.source ++ w.endFaults c .target c.target

/-- The faults of a workflow in the order in which they are looked for. -/
def faults (catalog : Catalog) (registry : Registry) (w : Workflow) : List GraphFault :=
  w.blocks.flatMap (blockFaults catalog registry) ++
    startFaults (w.blocks.countP catalog.isStart) ++
    w.connections.flatMap w.connectionFaults

/-- All blocks have a type and a handler, exactly one is a Start block, and every connection joins
two of them. -/
structure IsRunnable (catalog : Catalog) (registry : Registry) (w : Workflow) : Prop where
  resolved : ∀ b ∈ w.blocks, ∃ t, catalog.get? b.typeId = some t ∧ registry.Handles t
  start : w.blocks.countP catalog.isStart = 1
  joined : ∀ c ∈ w.connections, w.Declares c.source ∧ w.Declares c.target

/-- A block without faults has a type that is handled. -/
theorem blockFaults_eq_nil_iff {catalog : Catalog} {registry : Registry} {b : Block} :
    blockFaults catalog registry b = [] ↔
      ∃ t, catalog.get? b.typeId = some t ∧ registry.Handles t := by
  unfold blockFaults
  cases catalog.get? b.typeId with
  | none => simp
  | some t => simp [Registry.handler?_isSome_iff]

/-- Only a single Start block is no fault. -/
theorem startFaults_eq_nil_iff {n : Nat} : startFaults n = [] ↔ n = 1 := by
  match n with
  | 0 => simp [startFaults]
  | 1 => simp [startFaults]
  | n + 2 => simp [startFaults]

/-- A connection without faults joins two blocks of the workflow. -/
theorem connectionFaults_eq_nil_iff {w : Workflow} {c : Connection} :
    w.connectionFaults c = [] ↔ w.Declares c.source ∧ w.Declares c.target := by
  simp [connectionFaults, endFaults]

/-- The workflows without faults are those that can be run. -/
theorem faults_eq_nil_iff {catalog : Catalog} {registry : Registry} {w : Workflow} :
    w.faults catalog registry = [] ↔ w.IsRunnable catalog registry := by
  simp only [faults, List.append_eq_nil_iff, List.flatMap_eq_nil_iff, blockFaults_eq_nil_iff,
    startFaults_eq_nil_iff, connectionFaults_eq_nil_iff]
  exact ⟨fun ⟨⟨hresolved, hstart⟩, hjoined⟩ => ⟨hresolved, hstart, hjoined⟩,
    fun h => ⟨⟨h.resolved, h.start⟩, h.joined⟩⟩

/-- No fault of a workflow is that of a run that lost its block. -/
theorem blockNotFound_not_mem_faults {catalog : Catalog} {registry : Registry} {w : Workflow}
    (id : Identifier) : GraphFault.blockNotFound id ∉ w.faults catalog registry := by
  intro hmem
  simp only [faults, List.mem_append, List.mem_flatMap] at hmem
  rcases hmem with (⟨b, _, hb⟩ | hs) | ⟨c, _, hc⟩
  · unfold blockFaults at hb
    split at hb
    · simp at hb
    · split at hb <;> simp at hb
  · unfold startFaults at hs
    split at hs <;> simp at hs
  · simp only [connectionFaults, endFaults, List.mem_append] at hc
    rcases hc with hc | hc <;> split at hc <;> simp at hc

end Workflow

/-! ## Graphs -/

variable {catalog : Catalog} {registry : Registry} {w : Workflow}

/-- A resolved block has the type that its block refers to, and the handler of that type. -/
structure ResolvedBlock.Fits (catalog : Catalog) (registry : Registry) (r : ResolvedBlock) :
    Prop where
  type : catalog.get? r.block.typeId = some r.type
  handler : registry.handler? r.type = some r.handler

/-- A resolved block is a Start block exactly when the block it comes from is. -/
theorem ResolvedBlock.Fits.isStart_eq {r : ResolvedBlock} (h : r.Fits catalog registry) :
    catalog.isStart r.block = r.isStart := by
  simp [Catalog.isStart, ResolvedBlock.isStart, h.type]

/-- A block is resolved in one way only. -/
theorem ResolvedBlock.Fits.unique {r s : ResolvedBlock}
    (hr : r.Fits catalog registry) (hs : s.Fits catalog registry) (hblock : r.block = s.block) :
    r = s := by
  obtain ⟨block, type, handler⟩ := r
  obtain ⟨_, type', handler'⟩ := s
  obtain rfl : block = _ := hblock
  obtain rfl : type = type' := Option.some.inj (hr.type.symm.trans hs.type)
  obtain rfl : handler = handler' := Option.some.inj (hr.handler.symm.trans hs.handler)
  rfl

namespace Graph

/-- The graph of a workflow holds its blocks, the last declared one first, with its connections,
and starts at its only Start block. -/
structure IsGraphOf (catalog : Catalog) (registry : Registry) (w : Workflow) (g : Graph) :
    Prop where
  blocks : g.blocks.reverse.map (·.block) = w.blocks
  fits : ∀ r ∈ g.blocks, r.Fits catalog registry
  start : ∃ s, g.blocks.reverse.filter (·.isStart) = [s] ∧ g.start = s.block.id
  connections : g.connections = w.connections
  joined : ∀ c ∈ w.connections, w.Declares c.source ∧ w.Declares c.target

/-- The start, the blocks and the ends of all connections have identifiers of blocks. -/
structure Closed (g : Graph) : Prop where
  start : (g.block? g.start).isSome = true
  block : ∀ r ∈ g.blocks, (g.block? r.block.id).isSome = true
  source : ∀ c ∈ g.connections, (g.block? c.source).isSome = true
  target : ∀ c ∈ g.connections, (g.block? c.target).isSome = true

/-! ## The parts of the construction -/

/-- A block is resolved to itself with the type and handler that fit. -/
theorem resolveBlock_eq_ok_iff {b : Block} {r : ResolvedBlock} :
    resolveBlock catalog registry b = .ok r ↔ r.block = b ∧ r.Fits catalog registry := by
  obtain ⟨block, type, handler⟩ := r
  unfold resolveBlock
  cases ht : catalog.get? b.typeId with
  | none =>
      simp only [reduceCtorEq, false_iff, not_and]
      rintro rfl ⟨htype, _⟩
      rw [ht] at htype
      cases htype
  | some t =>
      simp only [Registry.resolve]
      cases hh : registry.handler? t with
      | none =>
          simp only [Except.map, reduceCtorEq, false_iff, not_and]
          rintro rfl ⟨htype, hhandler⟩
          obtain rfl : t = type := Option.some.inj (ht.symm.trans htype)
          rw [hh] at hhandler
          cases hhandler
      | some h =>
          simp only [Except.map, Except.ok.injEq, ResolvedBlock.mk.injEq]
          constructor
          · rintro ⟨rfl, rfl, rfl⟩
            exact ⟨rfl, ht, hh⟩
          · rintro ⟨rfl, htype, hhandler⟩
            obtain rfl : t = type := Option.some.inj (ht.symm.trans htype)
            exact ⟨rfl, rfl, Option.some.inj (hh.symm.trans hhandler)⟩

/-- A block is refused with its fault. -/
theorem resolveBlock_eq_error_iff {b : Block} {fault : GraphFault} :
    resolveBlock catalog registry b = .error fault ↔
      (Workflow.blockFaults catalog registry b).head? = some fault := by
  unfold resolveBlock Workflow.blockFaults
  cases catalog.get? b.typeId with
  | none => simp
  | some t => cases hh : registry.handler? t <;> simp [Registry.resolve, hh, Except.map]

/-- The blocks of a workflow are resolved in their order. -/
theorem resolveBlocks_eq_ok_iff {rs : List ResolvedBlock} :
    w.blocks.mapM (resolveBlock catalog registry) = .ok rs ↔
      rs.map (·.block) = w.blocks ∧ ∀ r ∈ rs, r.Fits catalog registry := by
  rw [mapM_eq_ok_iff fun _ _ h => (resolveBlock_eq_ok_iff.mp h).1]
  simp only [resolveBlock_eq_ok_iff, true_and]

/-- Resolved blocks hold as many Start blocks as the workflow. -/
theorem length_filter_isStart {rs : List ResolvedBlock} (hblocks : rs.map (·.block) = w.blocks)
    (hfits : ∀ r ∈ rs, r.Fits catalog registry) :
    (rs.filter (·.isStart)).length = w.blocks.countP catalog.isStart := by
  rw [← List.countP_eq_length_filter, ← hblocks, List.countP_map]
  exact List.countP_congr fun r hr => by simp [(hfits r hr).isStart_eq]

/-- The entry is the identifier of the only Start block. -/
theorem findStart_eq_ok_iff {rs : List ResolvedBlock} {id : Identifier} :
    findStart rs = .ok id ↔ ∃ s, rs.filter (·.isStart) = [s] ∧ id = s.block.id := by
  unfold findStart
  generalize rs.filter (·.isStart) = starts
  match starts with
  | [] => simp
  | [s] => simp [eq_comm]
  | s :: t :: rest => simp

/-- Any other number of Start blocks is refused with its fault. -/
theorem findStart_eq_error_iff {rs : List ResolvedBlock} {fault : GraphFault} :
    findStart rs = .error fault ↔
      (Workflow.startFaults (rs.filter (·.isStart)).length).head? = some fault := by
  unfold findStart
  generalize rs.filter (·.isStart) = starts
  match starts with
  | [] => simp [Workflow.startFaults]
  | [s] => simp [Workflow.startFaults]
  | s :: t :: rest => simp [Workflow.startFaults]

/-- The identifiers of resolved blocks are those that the workflow declares. -/
theorem any_block_id_eq {rs : List ResolvedBlock} (hblocks : rs.map (·.block) = w.blocks)
    (id : Identifier) : rs.any (·.block.id = id) = decide (w.Declares id) := by
  rw [Bool.eq_iff_iff, List.any_eq_true, decide_eq_true_iff, Workflow.Declares, ← hblocks]
  simp only [List.mem_map, decide_eq_true_eq]
  constructor
  · rintro ⟨r, hr, hid⟩
    exact ⟨r.block, ⟨r, hr, rfl⟩, hid⟩
  · rintro ⟨_, ⟨r, hr, rfl⟩, hid⟩
    exact ⟨r, hr, hid⟩

section Connections

variable {known : Identifier → Bool} (hknown : ∀ id, known id = decide (w.Declares id))
include hknown

/-- A connection is refused with the fault of its source, or else of its target. -/
theorem checkConnection_eq_error_iff (c : Connection) (fault : GraphFault) :
    checkConnection known c = .error fault ↔ (w.connectionFaults c).head? = some fault := by
  unfold checkConnection Workflow.connectionFaults Workflow.endFaults
  simp only [hknown]
  by_cases hs : w.Declares c.source
  · by_cases ht : w.Declares c.target <;> simp [hs, ht]
  · simp [hs]

/-- A connection passes when both its ends are declared. -/
theorem checkConnection_eq_ok_iff (c : Connection) :
    checkConnection known c = .ok () ↔ w.Declares c.source ∧ w.Declares c.target := by
  unfold checkConnection
  simp only [hknown]
  by_cases hs : w.Declares c.source
  · by_cases ht : w.Declares c.target <;> simp [hs, ht]
  · simp [hs]

end Connections

/-! ## The construction as a whole -/

/-- The construction is refused with the first fault of the workflow. -/
theorem ofWorkflow_eq_error_iff {fault : GraphFault} :
    ofWorkflow catalog registry w = .error fault ↔
      (w.faults catalog registry).head? = some fault := by
  -- The three lists of faults are those of the three parts of the construction, in this order.
  unfold ofWorkflow Workflow.faults
  rw [List.append_assoc, List.head?_append, List.head?_append, List.head?_flatMap,
    List.head?_flatMap]
  refine bind_eq_error_iff
    (mapM_eq_error_iff (fun _ _ => resolveBlock_eq_error_iff) w.blocks) (fun rs hrs => ?_) fault
  obtain ⟨hblocks, hfits⟩ := resolveBlocks_eq_ok_iff.mp hrs
  -- From here on the resolved blocks stand for those of the workflow.
  have hcount := length_filter_isStart hblocks hfits
  have hcheck := checkConnection_eq_error_iff (any_block_id_eq hblocks)
  refine bind_eq_error_iff (fun _ => hcount ▸ findStart_eq_error_iff) (fun id _ e => ?_)
  rw [← Option.or_none (o := w.connections.findSome? _)]
  exact bind_eq_error_iff (forM_eq_error_iff hcheck w.connections)
    (fun _ _ _ => by simp [pure, Except.pure]) e

/-- A graph exists for exactly the workflows that can be run. -/
theorem exists_ofWorkflow_iff :
    (∃ g, ofWorkflow catalog registry w = .ok g) ↔ w.IsRunnable catalog registry := by
  rw [exists_eq_ok_iff, ← Workflow.faults_eq_nil_iff, ← List.head?_eq_none_iff,
    Option.eq_none_iff_forall_ne_some]
  simp only [ne_eq, ofWorkflow_eq_error_iff]

/-- The graph of a workflow, if it has one, holds what the workflow declares. -/
theorem ofWorkflow_eq_ok_iff {g : Graph} :
    ofWorkflow catalog registry w = .ok g ↔ IsGraphOf catalog registry w g := by
  unfold ofWorkflow
  simp only [bind_eq_ok_iff, resolveBlocks_eq_ok_iff, findStart_eq_ok_iff]
  constructor
  · rintro ⟨rs, ⟨hblocks, hfits⟩, start, hstart, _, hjoined, hg⟩
    cases hg
    rw [forM_eq_ok_iff] at hjoined
    refine ⟨by simpa using hblocks, by simpa using hfits, by simpa using hstart, rfl, ?_⟩
    exact fun c hc => (checkConnection_eq_ok_iff (any_block_id_eq hblocks) c).mp (hjoined c hc)
  · rintro ⟨hblocks, hfits, hstart, hconnections, hjoined⟩
    refine ⟨g.blocks.reverse, ⟨hblocks, by simpa using hfits⟩, g.start, hstart, (), ?_, ?_⟩
    · rw [forM_eq_ok_iff]
      exact fun c hc =>
        (checkConnection_eq_ok_iff (any_block_id_eq hblocks) c).mpr (hjoined c hc)
    · simp [pure, Except.pure, ← hconnections]

/-- The blocks of a graph are blocks of its workflow. -/
theorem IsGraphOf.mem_blocks {g : Graph} {r : ResolvedBlock} (h : IsGraphOf catalog registry w g)
    (hr : r ∈ g.blocks) : r.block ∈ w.blocks := by
  rw [← h.blocks]
  exact List.mem_map_of_mem (List.mem_reverse.mpr hr)

/-- The blocks of a graph are those of its workflow, resolved. -/
theorem IsGraphOf.mem_blocks_iff (h : IsGraphOf catalog registry w g) {r : ResolvedBlock} :
    r ∈ g.blocks ↔ r.block ∈ w.blocks ∧ r.Fits catalog registry := by
  constructor
  · exact fun hr => ⟨h.mem_blocks hr, h.fits r hr⟩
  · rintro ⟨hblock, hfits⟩
    rw [← h.blocks] at hblock
    obtain ⟨s, hs, heq⟩ := List.mem_map.mp hblock
    have hmem : s ∈ g.blocks := List.mem_reverse.mp hs
    rw [← (h.fits s hmem).unique hfits heq]
    exact hmem

/-- A graph finds a block for each identifier that its workflow declares. -/
theorem IsGraphOf.block?_isSome_iff {g : Graph} (h : IsGraphOf catalog registry w g)
    (id : Identifier) : (g.block? id).isSome = true ↔ w.Declares id := by
  have hany := any_block_id_eq h.blocks id
  rw [List.any_reverse] at hany
  rw [block?, List.find?_isSome, ← List.any_eq_true, hany, decide_eq_true_iff]

/-- Of the blocks that a workflow declares under an identifier, its graph finds the last one. -/
theorem IsGraphOf.map_block? {g : Graph} (h : IsGraphOf catalog registry w g) (id : Identifier) :
    (g.block? id).map (·.block) = w.blocks.reverse.find? (·.id = id) := by
  rw [← h.blocks, ← List.map_reverse, List.reverse_reverse, List.find?_map]
  rfl

/-- The only Start block is declared under the identifier where runs start. -/
theorem IsGraphOf.declares_start {g : Graph} (h : IsGraphOf catalog registry w g) :
    w.Declares g.start := by
  obtain ⟨s, hs, hstart⟩ := h.start
  have hmem : s ∈ g.blocks.reverse.filter (·.isStart) := by simp [hs]
  refine ⟨s.block, ?_, hstart.symm⟩
  rw [← h.blocks]
  exact List.mem_map_of_mem (List.mem_filter.mp hmem).1

/-- Nothing that a run or a search looks up in the graph of a workflow is missing. -/
theorem IsGraphOf.closed {g : Graph} (h : IsGraphOf catalog registry w g) : g.Closed where
  start := (h.block?_isSome_iff _).mpr h.declares_start
  block r hr := List.find?_isSome.mpr ⟨r, hr, by simp⟩
  source c hc := (h.block?_isSome_iff _).mpr (h.joined c (h.connections ▸ hc)).1
  target c hc := (h.block?_isSome_iff _).mpr (h.joined c (h.connections ▸ hc)).2

end Graph
end Flowchart
