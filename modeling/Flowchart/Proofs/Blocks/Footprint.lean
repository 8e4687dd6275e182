import Flowchart.Proofs.Blocks.Standard
import Flowchart.Proofs.Variables.Lookup

/-!
# Footprints of blocks

The settings of a block fix which variables it may look up and to which ones it may assign
(`Footprint`); values never add to them. A standard handler assigns to the outputs in the footprint
of its block only, and counts rounds of its own block only, if it is a loop
(`Handler.WritesOnly`). What a handler looks up is the subject of
`Flowchart.Proofs.Blocks.Likeness`.
-/

namespace Flowchart

/-- The variables that a block may look up, and those that it names as outputs. -/
structure Footprint where
  reads : List String
  writes : List String
  deriving DecidableEq, Repr

/-- The footprint of a block that has nothing to do with variables. -/
def Footprint.empty : Footprint := ⟨[], []⟩

/-! ## Settings -/

/-- The settings that a block holds, or the defaults in their place. -/
def Settings.ofBlock {σ : Type} (record : Json.Decoder.Record σ) (b : Block) : σ :=
  (read record ⟨b, default, []⟩ default).1

/-- Reading settings gives those of the block, and does nothing to the scene but to add notes. -/
theorem Settings.exists_read_eq {σ : Type} (record : Json.Decoder.Record σ) (context : Context)
    (scene : Scene) :
    ∃ notes, read record context scene = (ofBlock record context.block, { scene with notes }) := by
  have hsettings : Context.settings? ⟨context.block, default, []⟩ = context.settings? := rfl
  unfold ofBlock read
  rw [hsettings]
  cases context.settings? with
  | none => exact ⟨scene.notes, rfl⟩
  | some text =>
      dsimp only
      cases decode record text with
      | ok settings => exact ⟨scene.notes, rfl⟩
      | error reason => exact ⟨_, rfl⟩

namespace Blocks

/-- A calculation looks up its operands if it knows the operation. -/
def CalculationSettings.footprint (settings : CalculationSettings) : Footprint where
  reads :=
    match Operation.ofName? settings.operation with
    | none => []
    | some _ => tokenLookups settings.firstVariable ++ tokenLookups settings.secondVariable
  writes := [variableName settings.resultVariable]

/-- A condition looks up its operands if it knows the comparison. -/
def ConditionSettings.footprint (settings : ConditionSettings) : Footprint where
  reads :=
    match Comparison.ofName? settings.operator with
    | none => []
    | some _ => tokenLookups settings.first ++ tokenLookups settings.second
  writes := []

/-- A switch looks up its expression. -/
def SwitchSettings.footprint (settings : SwitchSettings) : Footprint where
  reads := tokenLookups settings.expression
  writes := []

/-- A loop looks up the number of its rounds. -/
def LoopSettings.footprint (settings : LoopSettings) : Footprint where
  reads := tokenLookups settings.iterations
  writes := [variableName settings.counterVariable]

/-- A wait looks up its delay, under the name of a variable or as a token. -/
def WaitSettings.footprint (settings : WaitSettings) : Footprint where
  reads :=
    (if Text.isBlankText settings.delayVariable then []
      else [variableName settings.delayVariable]) ++ tokenLookups settings.delayMs
  writes := []

/-- A transformation looks up its input. -/
def TransformSettings.footprint (settings : TransformSettings) : Footprint where
  reads := inputLookups settings.input settings.inputVariable
  writes := [variableName settings.resultVariable]

/-- A replacement looks up its input. -/
def ReplacementSettings.footprint (settings : ReplacementSettings) : Footprint where
  reads := inputLookups settings.input settings.inputVariable
  writes := [variableName settings.resultVariable]

/-- An extraction looks up its document if it knows the format. -/
def ExtractionSettings.footprint (settings : ExtractionSettings) : Footprint where
  reads :=
    match Format.ofName? (Text.asciiLower (Text.trim settings.format)) with
    | none => []
    | some _ => [variableName settings.sourceVariable]
  writes := settings.mappings.map fun m => variableName m.target

namespace RequestSettings

/-- The texts that credentials are made of, if the settings know their kind. -/
def credentialTexts? (settings : RequestSettings) : Option (List String) :=
  match Text.asciiLower (Text.trim settings.authType) with
  | "" | "none" => some []
  | "basic" => some [settings.username, settings.password]
  | "bearer" | "token" => some [settings.token]
  | "apikey" => some [settings.apiKey]
  | _ => none

/-- The values of the header fields that have names. -/
def fieldTexts (settings : RequestSettings) : List String :=
  (settings.headers.filter fun h => !Text.isBlankText h.name).map (·.value)

/-- The body, unless the request is for reading. -/
def bodyTexts (settings : RequestSettings) : List String :=
  if settings.methodName = "GET" ∨ settings.methodName = "HEAD" then [] else [settings.body]

/-- A request looks up what its url needs, then what its fields need if it knows the method, and
then the rest if it knows the kind of credentials. -/
def footprint (settings : RequestSettings) : Footprint where
  reads := textLookups settings.url ++
    if !Http.isToken settings.methodName then [] else
      settings.fieldTexts.flatMap textLookups ++
        match settings.credentialTexts? with
        | none => []
        | some texts =>
            (texts ++ settings.bodyTexts).flatMap textLookups ++ tokenLookups settings.timeoutMs
  writes := [statusVariable, bodyVariable, settings.responseVariable].map variableName

end RequestSettings

/-- The footprints of blocks by the name of their type, in lower case. -/
def footprints : List (String × (Block → Footprint)) := [
  ("calculation", fun b => (Settings.ofBlock CalculationSettings.record b).footprint),
  ("if", fun b => (Settings.ofBlock ConditionSettings.record b).footprint),
  ("switch", fun b => (Settings.ofBlock SwitchSettings.record b).footprint),
  ("loop", fun b => (Settings.ofBlock LoopSettings.record b).footprint),
  ("wait", fun b => (Settings.ofBlock WaitSettings.record b).footprint),
  ("texttransform", fun b => (Settings.ofBlock TransformSettings.record b).footprint),
  ("textreplace", fun b => (Settings.ofBlock ReplacementSettings.record b).footprint),
  ("parser", fun b => (Settings.ofBlock ExtractionSettings.record b).footprint),
  ("httprequest", fun b => (Settings.ofBlock RequestSettings.record b).footprint)]

/-- The footprint of a block under the name of its type; all other types have nothing to do with
variables. -/
def footprintOf (typeName : String) (b : Block) : Footprint :=
  match footprints.lookup (Text.asciiLower typeName) with
  | some footprint => footprint b
  | none => .empty

end Blocks

/-- The footprint of a block under the types of a catalog. -/
def Catalog.footprint (catalog : Catalog) (b : Block) : Footprint :=
  match catalog.get? b.typeId with
  | some t => Blocks.footprintOf t.name b
  | none => .empty

/-- The variables that the blocks of a workflow may look up. -/
def Workflow.reads (catalog : Catalog) (w : Workflow) : List String :=
  w.blocks.flatMap fun b => (catalog.footprint b).reads

/-- The variables that the blocks of a workflow name as outputs. -/
def Workflow.writes (catalog : Catalog) (w : Workflow) : List String :=
  w.blocks.flatMap fun b => (catalog.footprint b).writes

/-! ## Loop counters -/

/-- A counter is found under the block for which it was set. -/
theorem Counters.get?_set (counters : Counters) (id other : Identifier) (n : UInt32) :
    (counters.set id n).get? other = if other = id then some n else counters.get? other := by
  unfold get? set
  by_cases h : other = id
  · subst h
    simp
  · rw [if_neg h, List.lookup_cons, beq_false_of_ne h]
    show List.lookup other (counters.entries.filter fun entry => decide (entry.1 ≠ id)) = _
    induction counters.entries with
    | nil => rfl
    | cons entry rest ih =>
        obtain ⟨key, m⟩ := entry
        by_cases hkey : key = id
        · have hne : (other == key) = false := beq_false_of_ne (hkey ▸ h)
          rw [List.filter_cons_of_neg (by simpa using hkey), ih, List.lookup_cons, hne]
        · rw [List.filter_cons_of_pos (by simpa using hkey), List.lookup_cons, List.lookup_cons, ih]

/-! ## What a handler may change -/

/-- A scene has come from another one by assignments to some variables, with all loop counters as
they were. -/
structure Scene.Alters (names : List String) (scene after : Scene) : Prop where
  store : scene.store.Assigns names after.store
  counters : after.counters = scene.counters

namespace Scene.Alters

variable {names : List String} {scene after : Scene} {name value message : String}

/-- Notes alter nothing. -/
theorem notes (notes : List Note) : scene.Alters names { scene with notes } := ⟨.refl, rfl⟩

/-- An assignment to one of the variables can follow. -/
theorem set (h : scene.Alters names after) (hname : variableName name ∈ names) :
    scene.Alters names (after.set name value) :=
  ⟨h.store.set value hname, h.counters⟩

/-- An assignment that a blank name leaves out can follow. -/
theorem setNamed (h : scene.Alters names after) (hname : variableName name ∈ names) :
    scene.Alters names (after.setNamed name value) := by
  unfold Scene.setNamed
  split
  · exact h
  · exact h.set hname

/-- A warning can follow. -/
theorem warn (h : scene.Alters names after) : scene.Alters names (after.warn message) :=
  ⟨h.store, h.counters⟩

/-- A note of information can follow. -/
theorem info (h : scene.Alters names after) : scene.Alters names (after.info message) :=
  ⟨h.store, h.counters⟩

end Scene.Alters

/-- A handler assigns to the outputs of its block only, and sets the loop counter of no other
block. -/
structure Handler.WritesOnly (h : Handler) (footprint : Block → Footprint) : Prop where
  store : ∀ (context : Context) (scene : Scene),
    scene.store.Assigns (footprint context.block).writes (h.run context scene).2.store
  counters : ∀ (context : Context) (scene : Scene) (id : Identifier), id ≠ context.block.id →
    (h.run context scene).2.counters.get? id = scene.counters.get? id

/-- A handler with a name writes as little as its function does. -/
theorem Handler.writesOnly_named {run : Context → Scene → StepResult × Scene}
    {footprint : Block → Footprint}
    (hstore : ∀ (context : Context) (scene : Scene),
      scene.store.Assigns (footprint context.block).writes (run context scene).2.store)
    (hcounters : ∀ (context : Context) (scene : Scene) (id : Identifier), id ≠ context.block.id →
      (run context scene).2.counters.get? id = scene.counters.get? id)
    (typeName : String) (info : HandlerInfo) :
    (Handler.named typeName info run).WritesOnly footprint :=
  ⟨hstore, hcounters⟩

/-- A handler that alters nothing but outputs assigns to outputs only. -/
theorem Handler.writesOnly_of_alters {h : Handler} {footprint : Block → Footprint}
    (halters : ∀ (context : Context) (scene : Scene),
      scene.Alters (footprint context.block).writes (h.run context scene).2) :
    h.WritesOnly footprint where
  store context scene := (halters context scene).store
  counters context scene id _ := by rw [(halters context scene).counters]

namespace Blocks

variable (limits : Limits) (limit : Nat) (context : Context) (scene : Scene)

/-- A calculation alters its result variable only. -/
theorem runCalculation_alters :
    scene.Alters (footprintOf "Calculation" context.block).writes
      (runCalculation context scene).2 := by
  show scene.Alters (Settings.ofBlock CalculationSettings.record context.block).footprint.writes _
  obtain ⟨notes, hread⟩ := Settings.exists_read_eq CalculationSettings.record context scene
  simp only [runCalculation, hread]
  generalize Settings.ofBlock CalculationSettings.record context.block = settings
  have hresult : variableName settings.resultVariable ∈ settings.footprint.writes :=
    List.mem_cons_self
  cases Operation.ofName? settings.operation with
  | none => exact .notes notes
  | some operation =>
      -- With a note or without, the result goes to its variable if that has a name.
      simp only
      obtain ⟨result, note⟩ := calculate operation _ _
      cases note with
      | none =>
          simp only
          split
          · exact .notes notes
          · exact (Scene.Alters.notes notes).set hresult
      | some note =>
          simp only
          split
          · exact (Scene.Alters.notes notes).warn
          · exact (Scene.Alters.notes notes).warn.set hresult

/-- A condition alters nothing. -/
theorem runCondition_alters :
    scene.Alters (footprintOf "If" context.block).writes (runCondition context scene).2 := by
  show scene.Alters [] _
  obtain ⟨notes, hread⟩ := Settings.exists_read_eq ConditionSettings.record context scene
  simp only [runCondition, hread]
  split
  · exact .notes notes
  · split <;> exact .notes notes

/-- A switch alters nothing. -/
theorem runSwitch_alters :
    scene.Alters (footprintOf "Switch" context.block).writes (runSwitch context scene).2 := by
  show scene.Alters [] _
  obtain ⟨notes, hread⟩ := Settings.exists_read_eq SwitchSettings.record context scene
  simp only [runSwitch, hread]
  split <;> exact .notes notes

/-- A wait alters nothing. -/
theorem runWait_alters :
    scene.Alters (footprintOf "Wait" context.block).writes (runWait limit context scene).2 := by
  show scene.Alters [] _
  obtain ⟨notes, hread⟩ := Settings.exists_read_eq WaitSettings.record context scene
  simp only [runWait, hread]
  split <;> split <;> exact ⟨.refl, rfl⟩

/-- A transformation alters its result variable only. -/
theorem runTransform_alters :
    scene.Alters (footprintOf "TextTransform" context.block).writes
      (runTransform context scene).2 := by
  show scene.Alters (Settings.ofBlock TransformSettings.record context.block).footprint.writes _
  obtain ⟨notes, hread⟩ := Settings.exists_read_eq TransformSettings.record context scene
  simp only [runTransform, hread]
  split <;> exact (Scene.Alters.notes notes).setNamed List.mem_cons_self

/-- Warnings alter nothing. -/
theorem foldl_warn_alters {names : List String} {after : Scene} (h : scene.Alters names after)
    (message : String → String) (reasons : List String) :
    scene.Alters names
      (reasons.foldl (fun scene reason => scene.warn (message reason)) after) := by
  induction reasons generalizing after with
  | nil => exact h
  | cons reason rest ih => exact ih h.warn

/-- A replacement alters its result variable only, however many rules are skipped. -/
theorem runReplacement_alters :
    scene.Alters (footprintOf "TextReplace" context.block).writes
      (runReplacement limits context scene).2 := by
  show scene.Alters (Settings.ofBlock ReplacementSettings.record context.block).footprint.writes _
  obtain ⟨notes, hread⟩ := Settings.exists_read_eq ReplacementSettings.record context scene
  simp only [runReplacement, hread]
  exact (foldl_warn_alters scene (.notes notes) _ _).setNamed List.mem_cons_self

/-- A mapping alters its target only. -/
theorem applyMapping_alters {names : List String} (state : Nat × Scene) {m : Mapping}
    (h : scene.Alters names state.2) (hm : variableName m.target ∈ names) (name : String)
    (document : SourceDocument) :
    scene.Alters names (applyMapping name document state m).2 := by
  unfold applyMapping
  simp only
  split
  · exact h
  · split
    · exact h.set hm
    · exact h.warn

/-- Several mappings alter their targets only. -/
theorem foldl_applyMapping_alters {names : List String} {mappings : List Mapping}
    (hmappings : ∀ m ∈ mappings, variableName m.target ∈ names) (name : String)
    (document : SourceDocument) (state : Nat × Scene) (h : scene.Alters names state.2) :
    scene.Alters names (mappings.foldl (applyMapping name document) state).2 := by
  induction mappings generalizing state with
  | nil => exact h
  | cons m rest ih =>
      rw [List.forall_mem_cons] at hmappings
      exact ih hmappings.2 _ (applyMapping_alters scene state h hmappings.1 name document)

/-- An extraction alters the targets of its mappings only. -/
theorem runExtraction_alters :
    scene.Alters (footprintOf "Parser" context.block).writes (runExtraction context scene).2 := by
  show scene.Alters (Settings.ofBlock ExtractionSettings.record context.block).footprint.writes _
  obtain ⟨notes, hread⟩ := Settings.exists_read_eq ExtractionSettings.record context scene
  simp only [runExtraction, hread]
  generalize Settings.ofBlock ExtractionSettings.record context.block = settings
  have htargets : ∀ m ∈ settings.mappings, variableName m.target ∈ settings.footprint.writes :=
    fun m hm => List.mem_map_of_mem hm
  split
  · exact .notes notes
  · split
    · exact .notes notes
    · exact foldl_applyMapping_alters scene htargets _ _ (0, _) (.notes notes)

/-- Sending alters nothing. -/
theorem sendWithin_alters {names : List String} {after : Scene} (h : scene.Alters names after)
    (timeout : Nat) (call : Except Http.SendFault Http.Call) :
    scene.Alters names (sendWithin timeout call after).2 := by
  simp only [sendWithin]
  split
  · exact h
  · split
    · exact h
    · split
      · exact h
      · split
        · exact ⟨h.store, h.counters⟩
        · split <;> exact ⟨h.store, h.counters⟩
        · exact ⟨h.store, h.counters⟩

/-- Keeping a response alters the variables for it. -/
theorem keepResponse_alters {after : Scene} {settings : RequestSettings}
    (h : scene.Alters settings.footprint.writes after) (status : Nat) (body : String) :
    scene.Alters settings.footprint.writes (keepResponse settings status body after) := by
  unfold keepResponse
  refine Scene.Alters.setNamed (Scene.Alters.set (Scene.Alters.set h ?_) ?_) ?_
  · exact List.mem_map_of_mem (by simp)
  · exact List.mem_map_of_mem (by simp)
  · exact List.mem_map_of_mem (by simp)

/-- A request alters the variables for its response only. -/
theorem runRequest_alters :
    scene.Alters (footprintOf "HttpRequest" context.block).writes
      (runRequest limit context scene).2 := by
  show scene.Alters (Settings.ofBlock RequestSettings.record context.block).footprint.writes _
  obtain ⟨notes, hread⟩ := Settings.exists_read_eq RequestSettings.record context scene
  simp only [runRequest, hread]
  generalize Settings.ofBlock RequestSettings.record context.block = settings
  split
  · exact .notes notes
  · split
    · exact .notes notes
    · split
      · exact .notes notes
      · generalize hsent : sendWithin _ _ _ = sent
        have halters : scene.Alters settings.footprint.writes sent.2 := by
          rw [← hsent]
          exact sendWithin_alters scene (Scene.Alters.notes notes).info _ _
        obtain ⟨fault | ⟨status, body⟩, after⟩ := sent
        · exact halters
        · exact keepResponse_alters scene halters.info status body

/-- A loop assigns to its counter variable only. -/
theorem runLoop_assigns : scene.store.Assigns (footprintOf "Loop" context.block).writes
    (runLoop context scene).2.store := by
  show scene.store.Assigns (Settings.ofBlock LoopSettings.record context.block).footprint.writes _
  obtain ⟨notes, hread⟩ := Settings.exists_read_eq LoopSettings.record context scene
  simp only [runLoop, hread]
  generalize Settings.ofBlock LoopSettings.record context.block = settings
  split
  · show scene.store.Assigns _ (Scene.setNamed _ settings.counterVariable _).store
    unfold Scene.setNamed
    split
    · exact .refl
    · exact .set _ .refl List.mem_cons_self
  · exact .refl

/-- A loop counts its own rounds only. -/
theorem runLoop_counters {id : Identifier} (hid : id ≠ context.block.id) :
    (runLoop context scene).2.counters.get? id = scene.counters.get? id := by
  obtain ⟨notes, hread⟩ := Settings.exists_read_eq LoopSettings.record context scene
  have hset (n : UInt32) :
      (scene.counters.set context.block.id n).get? id = scene.counters.get? id := by
    rw [Counters.get?_set, if_neg hid]
  simp only [runLoop, hread]
  split
  · unfold Scene.setNamed
    split <;> exact hset _
  · exact hset 0

/-- A standard handler other than that of loops alters the outputs of its block only. -/
theorem standard_alters {h : Handler} (hh : h ∈ standard limits) :
    (∀ (context : Context) (scene : Scene),
      scene.Alters (footprintOf h.typeName context.block).writes (h.run context scene).2) ∨
      h = loop := by
  simp only [standard, List.mem_cons, List.not_mem_nil, or_false] at hh
  rcases hh with rfl | rfl | rfl | rfl | rfl | rfl | rfl | rfl | rfl | rfl | rfl
  · exact Or.inl fun _ scene => .notes scene.notes
  · exact Or.inl fun _ scene => .notes scene.notes
  · exact Or.inl runCalculation_alters
  · exact Or.inl runCondition_alters
  · exact Or.inl runSwitch_alters
  · exact Or.inr rfl
  · exact Or.inl (runWait_alters limits.maxWaitMs)
  · exact Or.inl runTransform_alters
  · exact Or.inl (runReplacement_alters limits)
  · exact Or.inl runExtraction_alters
  · exact Or.inl (runRequest_alters limits.httpTimeoutMs)

/-- The standard handlers assign to the outputs of their blocks only. -/
theorem standard_writesOnly {h : Handler} (hh : h ∈ standard limits) :
    h.WritesOnly (footprintOf h.typeName) := by
  rcases standard_alters limits hh with halters | rfl
  · exact Handler.writesOnly_of_alters halters
  · show loop.WritesOnly (footprintOf "Loop")
    exact Handler.writesOnly_named runLoop_assigns (fun _ _ _ => runLoop_counters _ _) _ _

/-- The handler of last resort alters nothing. -/
theorem passthrough_alters (names : List String) :
    scene.Alters names (passthrough.run context scene).2 :=
  .notes scene.notes

/-- The footprint of a block depends on the case of the name of its type as little as the handler
does. -/
theorem footprintOf_eq_of_isNamed {t : BlockType} {typeName : String}
    (h : t.isNamed typeName = true) : footprintOf t.name = footprintOf typeName := by
  have hlower : Text.asciiLower t.name = Text.asciiLower typeName := beq_iff_eq.mp h
  unfold footprintOf
  rw [hlower]

end Blocks

/-- Under the standard registry, a block assigns to its outputs only. -/
theorem Registry.writesOnly_of_handler? {limits : Limits} {t : BlockType} {h : Handler}
    (hh : (Registry.standard limits).handler? t = some h) :
    h.WritesOnly (Blocks.footprintOf t.name) := by
  rcases isNamed_of_handler? hh with ⟨hmem, hname⟩ | rfl
  · rw [Blocks.footprintOf_eq_of_isNamed hname]
    exact Blocks.standard_writesOnly limits hmem
  · refine Handler.writesOnly_of_alters fun context scene => ?_
    exact Blocks.passthrough_alters context scene _

end Flowchart
