import Mathlib.Data.List.Nodup
import Flowchart.Blocks.Standard
import Flowchart.Proofs.Graph.Construction

/-!
# The standard handlers by name

Each standard handler accepts the types of its own name, and no two of them share a name. A type
with the name of a standard handler is therefore executed by that handler and by no other one, and
so are the blocks of that type in the graph of a workflow (`IsGraphOf.handler_of_isNamed`).
-/

namespace Flowchart

variable {limits : Limits} {h : Handler} {t : BlockType}

/-- A handler with a name does what its function does. -/
theorem Handler.run_named (typeName : String) (info : HandlerInfo)
    (run : Context → Scene → StepResult × Scene) : (Handler.named typeName info run).run = run :=
  rfl

namespace Blocks

/-- A standard handler accepts the types of its name. -/
theorem accepts_eq_isNamed (hh : h ∈ standard limits) (t : BlockType) :
    h.accepts t = t.isNamed h.typeName := by
  simp only [standard, List.mem_cons, List.not_mem_nil, or_false] at hh
  rcases hh with rfl | rfl | rfl | rfl | rfl | rfl | rfl | rfl | rfl | rfl | rfl <;> rfl

/-- No two standard handlers share a name, in whatever case it is written. -/
theorem nodup_typeNames (limits : Limits) :
    ((standard limits).map fun h => Text.asciiLower h.typeName).Nodup := by
  show (["Start", "End", "Calculation", "If", "Switch", "Loop", "Wait", "TextTransform",
    "TextReplace", "Parser", "HttpRequest"].map Text.asciiLower).Nodup
  decide +kernel

/-- The standard handler that is found for a type has the name of the type. -/
theorem isNamed_of_find? (hfound : (standard limits).find? (·.accepts t) = some h) :
    h ∈ standard limits ∧ t.isNamed h.typeName = true := by
  have hmem := List.mem_of_find?_eq_some hfound
  have haccepts : h.accepts t = true := by simpa using List.find?_some hfound
  exact ⟨hmem, (accepts_eq_isNamed hmem t).symm.trans haccepts⟩

end Blocks

/-- A type with the name of a standard handler is executed by that handler. -/
theorem Registry.handler?_of_isNamed (hh : h ∈ Blocks.standard limits)
    (ht : t.isNamed h.typeName = true) : (Registry.standard limits).handler? t = some h := by
  have haccepts : h.accepts t = true := (Blocks.accepts_eq_isNamed hh t).trans ht
  obtain ⟨found, hfound⟩ : ∃ found, (Blocks.standard limits).find? (·.accepts t) = some found :=
    Option.isSome_iff_exists.mp (List.find?_isSome.mpr ⟨h, hh, haccepts⟩)
  obtain ⟨hmem, hname⟩ := Blocks.isNamed_of_find? hfound
  -- Both names are that of the type, in the same case.
  have hlower : Text.asciiLower found.typeName = Text.asciiLower h.typeName :=
    (beq_iff_eq.mp hname).symm.trans (beq_iff_eq.mp ht)
  obtain rfl := List.inj_on_of_nodup_map (Blocks.nodup_typeNames limits) hmem hh hlower
  exact Option.or_eq_some_iff.mpr (Or.inl hfound)

/-- The handler that executes a type has the name of the type, or is the one of last resort. -/
theorem Registry.isNamed_of_handler? (hh : (Registry.standard limits).handler? t = some h) :
    (h ∈ Blocks.standard limits ∧ t.isNamed h.typeName = true) ∨ h = Blocks.passthrough := by
  rcases Option.or_eq_some_iff.mp hh with hfound | ⟨_, hfallback⟩
  · exact Or.inl (Blocks.isNamed_of_find? hfound)
  · exact Or.inr (Option.some.inj hfallback).symm

/-- In the graph of a workflow under the standard registry, the blocks of a type with the name of a
standard handler are executed by that handler, and are End blocks just if it is the one of these. -/
theorem Graph.IsGraphOf.handler_of_isNamed {catalog : Catalog} {w : Workflow} {g : Graph}
    (hgraph : IsGraphOf catalog (.standard limits) w g) {r : ResolvedBlock} (hr : r ∈ g.blocks)
    (hh : h ∈ Blocks.standard limits) (hname : r.type.isNamed h.typeName = true) :
    r.handler = h ∧ r.isEnd = Text.equalAsciiCase h.typeName "End" := by
  have hlower : Text.asciiLower r.type.name = Text.asciiLower h.typeName := beq_iff_eq.mp hname
  constructor
  · have hregistered := Registry.handler?_of_isNamed hh hname
    exact Option.some.inj ((hgraph.fits r hr).handler.symm.trans hregistered)
  · rw [ResolvedBlock.isEnd, BlockType.isNamed, Text.equalAsciiCase, Text.equalAsciiCase, hlower]

end Flowchart
