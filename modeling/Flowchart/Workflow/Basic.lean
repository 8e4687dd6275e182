import Flowchart.Identifier
import Flowchart.Text.Blank

/-!
# Workflows

A workflow is a graph of blocks and connections with the variables it starts from. Workflows are
put together by adding one part after another; each new part brings its own identifier.

Each block refers to a type of the catalog by its identifier. The standard catalog holds the eleven
types of this library under the identifiers 1 to 11. Type names are compared without regard to the
case of ASCII letters.

A connection leads from one block to another. It is taken on success or on error, and may carry a
label. Labels are compared without blanks around them and without regard to the case of ASCII
letters; a blank label counts as none.
-/

namespace Flowchart

/-! ## The catalog of block types -/

/-- A type of blocks. -/
structure BlockType where
  id : Identifier
  name : String
  description : String
  deriving DecidableEq, Inhabited

/-- Whether a type has a name. -/
def BlockType.isNamed (t : BlockType) (name : String) : Bool :=
  Text.equalAsciiCase t.name name

/-- Block types by identifier, in ascending order. -/
structure Catalog where
  types : List BlockType
  deriving Inhabited

namespace Catalog

/-- Puts a type in its place; one with the same identifier is replaced. -/
def insertType (t : BlockType) : List BlockType → List BlockType
  | [] => [t]
  | u :: rest =>
      if t.id = u.id then t :: rest
      else if t.id.value < u.id.value then t :: u :: rest
      else u :: insertType t rest

/-- The catalog of a list of types; of several with one identifier the last is kept. -/
def ofList (types : List BlockType) : Catalog :=
  ⟨types.foldl (fun sorted t => insertType t sorted) []⟩

/-- The type with an identifier. -/
def get? (catalog : Catalog) (id : Identifier) : Option BlockType :=
  catalog.types.find? (·.id = id)

/-- The first type with a name. -/
def byName? (catalog : Catalog) (name : String) : Option BlockType :=
  catalog.types.find? (·.isNamed name)

/-- The names and descriptions of the standard types, in the order of their identifiers. -/
def standardTypes : List (String × String) := [
  ("Start", "Workflow entry point"),
  ("End", "Workflow terminus"),
  ("Calculation", "Arithmetic or concatenation on two operands"),
  ("If", "Compare two values and branch"),
  ("Switch", "Branch on the value of an expression"),
  ("Loop", "Repeat a branch a fixed number of times"),
  ("Wait", "Pause the run"),
  ("TextTransform", "Trim or change the case of text"),
  ("TextReplace", "Literal or regex replacements"),
  ("Parser", "Extract values from JSON or XML"),
  ("HttpRequest", "Outbound HTTP call")]

/-- The standard types with their identifiers. -/
def standardList : List BlockType :=
  standardTypes.zipIdx.map fun ((name, description), i) => ⟨.ofNat (i + 1), name, description⟩

/-- The standard catalog. -/
def standard : Catalog := ofList standardList

end Catalog

/-! ## Connections -/

/-- Which verdict of a block a connection answers to. -/
inductive ConnectionKind where
  | success
  | error
  deriving DecidableEq, Inhabited, Repr

/-- The name of a kind of connection. -/
def ConnectionKind.name : ConnectionKind → String
  | .success => "Success"
  | .error => "Error"

/-- A directed connection between two blocks. -/
structure Connection where
  id : Identifier
  source : Identifier
  target : Identifier
  kind : ConnectionKind
  label : Option String
  deriving DecidableEq, Inhabited

namespace Connection

/-- The label without blanks around it; a blank label is none. -/
def label? (c : Connection) : Option String :=
  match c.label with
  | none => none
  | some l => if Text.isBlankText l then none else some (Text.trim l)

/-- Whether a connection has a label equal to a key. -/
def matchesLabel (c : Connection) (key : String) : Bool :=
  match c.label? with
  | none => false
  | some l => Text.equalAsciiCase l (Text.trim key)

end Connection

/-! ## Parts of workflows -/

/-- A block of a workflow. Its settings are a text, usually a Json document. -/
structure Block where
  id : Identifier
  name : String
  workflowId : Identifier
  typeId : Identifier
  config : Option String
  deriving DecidableEq, Inhabited

/-- A variable with the value it has when a run starts. -/
structure Variable where
  id : Identifier
  name : String
  initial : Option String
  workflowId : Identifier
  deriving DecidableEq, Inhabited

/-- A workflow. -/
structure Workflow where
  id : Identifier
  name : String
  description : Option String
  blocks : List Block
  connections : List Connection
  vars : List Variable
  deriving DecidableEq, Inhabited

namespace Workflow

/-- The workflow without parts. -/
def empty (id : Identifier) (name : String) : Workflow :=
  { id, name, description := none, blocks := [], connections := [], vars := [] }

/-- Adds a block, which from now on belongs to this workflow. -/
def addBlock (w : Workflow) (b : Block) : Workflow :=
  { w with blocks := w.blocks ++ [{ b with workflowId := w.id }] }

/-- Adds a connection. -/
def addConnection (w : Workflow) (c : Connection) : Workflow :=
  { w with connections := w.connections ++ [c] }

/-- Connects two blocks without a label. -/
def connect (w : Workflow) (id source target : Identifier) (kind : ConnectionKind) : Workflow :=
  w.addConnection { id, source, target, kind, label := none }

/-- Connects two blocks on success with a label. -/
def connectLabeled (w : Workflow) (id source target : Identifier) (label : String) : Workflow :=
  w.addConnection { id, source, target, kind := .success, label := some label }

/-- Adds a variable. -/
def addVariable (w : Workflow) (id : Identifier) (name : String) (initial : Option String) :
    Workflow :=
  { w with vars := w.vars ++ [{ id, name, initial, workflowId := w.id }] }

end Workflow
end Flowchart
