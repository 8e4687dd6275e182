import Flowchart.Graph.Fault
import Flowchart.Handler.Basic

/-!
# Registries of handlers

The handlers in the order in which they were registered, and possibly one of last resort. The first
handler that accepts a type executes its blocks.
-/

namespace Flowchart

/-- Registered handlers. -/
structure Registry where
  handlers : List Handler
  fallback : Option Handler

namespace Registry

/-- The registry without handlers. -/
def empty : Registry := ⟨[], none⟩

/-- The handler for a type, if there is one. -/
def handler? (registry : Registry) (t : BlockType) : Option Handler :=
  (registry.handlers.find? (·.accepts t)).or registry.fallback

/-- The handler for a type. -/
def resolve (registry : Registry) (t : BlockType) : Except GraphFault Handler :=
  match registry.handler? t with
  | some handler => .ok handler
  | none => .error (.noHandler t.name)

/-- The names of the registered types, without that of last resort. -/
def typeNames (registry : Registry) : List String :=
  registry.handlers.map (·.typeName)

/-- What listings say of a type. -/
def info? (registry : Registry) (typeName : String) : Option HandlerInfo :=
  (registry.handlers.find? fun h => Text.equalAsciiCase h.typeName typeName).map (·.info)

end Registry
end Flowchart
