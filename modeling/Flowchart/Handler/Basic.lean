import Flowchart.Clock
import Flowchart.Event.Basic
import Flowchart.Http.Message
import Flowchart.Variables.Store

/-!
# Handlers

A handler executes the blocks of one type. It sees the block with its type and connections
(`Context`) and works on a scene: the variables, the loop counters, the clock, the server at the
other end of all connections, and the notes made so far. It always answers with a verdict.
-/

namespace Flowchart

/-- The loop counters of a run, by block. -/
structure Counters where
  entries : List (Identifier × UInt32)
  deriving Inhabited

namespace Counters

/-- The counter of a block, if it has one. -/
def get? (counters : Counters) (id : Identifier) : Option UInt32 :=
  counters.entries.lookup id

/-- Sets the counter of a block. -/
def set (counters : Counters) (id : Identifier) (n : UInt32) : Counters :=
  ⟨(id, n) :: counters.entries.filter fun entry => entry.1 ≠ id⟩

end Counters

/-- What a handler works on. -/
structure Scene where
  store : Store
  counters : Counters
  clock : Clock
  server : Http.Server
  notes : List Note
  deriving Inhabited

namespace Scene

/-- Adds a note. -/
def note (scene : Scene) (n : Note) : Scene :=
  { scene with notes := scene.notes ++ [n] }

/-- Adds a note of information. -/
def info (scene : Scene) (message : String) : Scene := scene.note (.info message)

/-- Adds a warning. -/
def warn (scene : Scene) (message : String) : Scene := scene.note (.warning message)

/-- Sets a variable. -/
def set (scene : Scene) (name value : String) : Scene :=
  { scene with store := scene.store.set name value }

/-- Sets a variable, unless its name is blank. -/
def setNamed (scene : Scene) (name value : String) : Scene :=
  if Text.isBlankText name then scene else scene.set name value

end Scene

/-- What a handler knows of the block it executes. -/
structure Context where
  block : Block
  type : BlockType
  outgoing : List Connection
  deriving Inhabited

namespace Context

/-- The settings of the block; blank ones count as none. -/
def settings? (context : Context) : Option String :=
  match context.block.config with
  | none => none
  | some text => if Text.isBlankText text then none else some text

/-- Whether some connection of the block has a label equal to a key. -/
def hasBranch (context : Context) (key : String) : Bool :=
  context.outgoing.any (·.matchesLabel key)

/-- The name of the block in descriptions: its own, or the description of its type. -/
def displayName (context : Context) : String :=
  if Text.isBlankText context.block.name then context.type.description else context.block.name

end Context

/-- What listings say of a handler. -/
structure HandlerInfo where
  description : String
  category : String
  deriving DecidableEq, Inhabited

/-- The listing of a handler that says nothing of itself. -/
def HandlerInfo.general : HandlerInfo := ⟨"", "general"⟩

/-- A handler: the name of its type, the types it accepts, what listings say of it, and what it
does. -/
structure Handler where
  typeName : String
  accepts : BlockType → Bool
  info : HandlerInfo
  run : Context → Scene → StepResult × Scene

/-- A handler that accepts the type of its name. -/
def Handler.named (typeName : String) (info : HandlerInfo)
    (run : Context → Scene → StepResult × Scene) : Handler :=
  { typeName, accepts := fun t => t.isNamed typeName, info, run }

end Flowchart
