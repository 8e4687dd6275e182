import Flowchart.Registry
import Flowchart.Step

/-!
# Graphs of workflows

A workflow can be run if every block has a known type and a handler, exactly one block is a Start
block, and every connection joins blocks of the workflow. `Graph.ofWorkflow` checks this and
resolves the blocks; the first fault found is reported, blocks before connections and each in the
order of declaration. Of several blocks with one identifier the last is visited.

A verdict asks for a branch, and the branch qualifies some of the outgoing connections. Of these the
preferred ones come first, and of several the one declared first is taken (`selectConnection`).
-/

namespace Flowchart

/-- A block with its type and handler. -/
structure ResolvedBlock where
  block : Block
  type : BlockType
  handler : Handler

namespace ResolvedBlock

/-- Whether a block is the entry of its workflow. -/
def isStart (b : ResolvedBlock) : Bool := b.type.isNamed "Start"

/-- Whether a run stops after a block. -/
def isEnd (b : ResolvedBlock) : Bool := b.type.isNamed "End"

end ResolvedBlock

/-- A workflow that can be run: its resolved blocks, the last declared one first, its connections,
and where runs start. -/
structure Graph where
  blocks : List ResolvedBlock
  connections : List Connection
  start : Identifier

namespace Graph

/-- Resolves a block. -/
def resolveBlock (catalog : Catalog) (registry : Registry) (b : Block) :
    Except GraphFault ResolvedBlock :=
  match catalog.get? b.typeId with
  | none => .error (.unknownType b.name b.typeId)
  | some type => (registry.resolve type).map fun handler => ⟨b, type, handler⟩

/-- The entry of a workflow, which must be the only one. -/
def findStart (blocks : List ResolvedBlock) : Except GraphFault Identifier :=
  match blocks.filter (·.isStart) with
  | [] => .error .noStart
  | [b] => .ok b.block.id
  | many => .error (.manyStarts many.length)

/-- Checks that a connection joins blocks of a list. -/
def checkConnection (known : Identifier → Bool) (c : Connection) : Except GraphFault Unit :=
  if !known c.source then .error (.unknownEnd c.id .source c.source)
  else if !known c.target then .error (.unknownEnd c.id .target c.target)
  else .ok ()

/-- The graph of a workflow. -/
def ofWorkflow (catalog : Catalog) (registry : Registry) (w : Workflow) :
    Except GraphFault Graph := do
  let blocks ← w.blocks.mapM (resolveBlock catalog registry)
  let start ← findStart blocks
  let known (id : Identifier) : Bool := blocks.any (·.block.id = id)
  w.connections.forM (checkConnection known)
  return { blocks := blocks.reverse, connections := w.connections, start }

/-- The block with an identifier. -/
def block? (g : Graph) (id : Identifier) : Option ResolvedBlock :=
  g.blocks.find? (·.block.id = id)

/-- The connections that leave a block, in the order of declaration. -/
def outgoing (g : Graph) (id : Identifier) : List Connection :=
  g.connections.filter (·.source = id)

/-- The number of distinct identifiers of blocks. -/
def size (g : Graph) : Nat :=
  (g.blocks.map (·.block.id)).eraseDups.length

/-- The identifiers that can be reached from a list of pending ones, added to those already
visited. The first argument bounds the number of identifiers looked at. -/
def explore (g : Graph) : Nat → List Identifier → List Identifier → List Identifier
  | 0, _, visited => visited
  | _, [], visited => visited
  | fuel + 1, id :: pending, visited =>
      if visited.contains id then explore g fuel pending visited
      else explore g fuel ((g.outgoing id).map (·.target) ++ pending) (id :: visited)

/-- The identifiers that a run could visit. Each connection is looked at once. -/
def reachable (g : Graph) : List Identifier :=
  g.explore (g.connections.length + 2) [g.start] []

/-- Whether a run could stop at an End block. -/
def endReachable (g : Graph) : Bool :=
  g.reachable.any fun id => (g.block? id).any (·.isEnd)

end Graph

/-- Whether a connection may be taken for a branch: one labelled with the key, or of the kind. -/
def Branch.qualifies : Branch → Connection → Bool
  | .labeled key, c => c.matchesLabel key
  | .ofKind kind, c => c.kind = kind

/-- Whether a connection is preferred: those for success among labelled ones, and those without
label among the ones of a kind. -/
def Branch.prefers : Branch → Connection → Bool
  | .labeled _, c => c.kind = .success
  | .ofKind _, c => c.label?.isNone

/-- The connection to follow for a branch. -/
def selectConnection (branch : Branch) (outgoing : List Connection) : Option Connection :=
  let qualified := outgoing.filter branch.qualifies
  (qualified.find? branch.prefers).or qualified.head?

end Flowchart
