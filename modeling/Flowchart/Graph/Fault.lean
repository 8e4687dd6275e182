import Flowchart.Identifier

/-!
# Faults of graphs

The causes for which a workflow cannot be run at all, with their wording.
-/

namespace Flowchart

/-- The two ends of a connection. -/
inductive End where
  | source
  | target
  deriving DecidableEq, Inhabited, Repr

/-- The name of an end. -/
def End.name : End → String
  | .source => "source"
  | .target => "target"

/-- The causes for which a workflow cannot be run. -/
inductive GraphFault where
  | noStart
  | manyStarts (count : Nat)
  | unknownType (block : String) (type : Identifier)
  | noHandler (type : String)
  | blockNotFound (block : Identifier)
  | unknownEnd (connection : Identifier) (which : End) (block : Identifier)
  deriving DecidableEq, Inhabited

/-- The wording of a cause. -/
def GraphFault.message : GraphFault → String
  | .noStart => "Workflow has no Start block"
  | .manyStarts count => s!"Workflow has {count} Start blocks, expected exactly one"
  | .unknownType block type => s!"Block '{block}' references unknown system block {type.text}"
  | .noHandler type => s!"No handler registered for block type: {type}"
  | .blockNotFound block => s!"Block not found: {block.text}"
  | .unknownEnd id which block =>
      s!"Invalid connection: connection {id.text} has unknown {which.name} block {block.text}"

/-- The wording of a cause for which a run was refused. -/
def GraphFault.refusal (fault : GraphFault) : String :=
  s!"Workflow error: {fault.message}"

end Flowchart
