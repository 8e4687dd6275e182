import Flowchart.Proofs.Blocks.Footprint
import Flowchart.Proofs.Json.Outcome

/-!
# What settings govern

Each standard handler except those of Start and End has settings of its own (`Blocks.HasSettings`).
It reads them once; from then on it goes by what it has read, however that was written
(`Settings.Governs`). The notes from before make no difference either: a handler adds its own ones
after them.

That notes or the time make no difference is proved for both at once. A handler that looks at
variables and counters only does the same, whatever else about the scene is changed
(`Scene.Unseen`, `Settings.GovernsUnder`).
-/

namespace Flowchart

/-- The context with other settings for its block. -/
def Context.configured (context : Context) (config : Option String) : Context :=
  { context with block := { context.block with config } }

/-- A scene after some more notes. -/
def Scene.after (scene : Scene) (notes : List Note) : Scene :=
  { scene with notes := notes ++ scene.notes }

namespace Context

variable (context : Context) (config : Option String)

/-- Descriptions do not depend on settings. -/
@[simp] theorem displayName_configured :
    (context.configured config).displayName = context.displayName := rfl

/-- Branches do not depend on settings. -/
@[simp] theorem hasBranch_configured (key : String) :
    (context.configured config).hasBranch key = context.hasBranch key := rfl

/-- Of several settings for a block the last ones are left. -/
@[simp] theorem configured_configured (config' : Option String) :
    (context.configured config).configured config' = context.configured config' := rfl

/-- Settings do not change the identifier of a block. -/
@[simp] theorem id_configured : (context.configured config).block.id = context.block.id := rfl

end Context

namespace Scene

variable (scene : Scene) (notes : List Note)

/-- A scene is after no notes as it is. -/
@[simp] theorem after_nil : scene.after [] = scene := rfl

/-- Variables do not depend on notes. -/
@[simp] theorem store_after : (scene.after notes).store = scene.store := rfl

/-- The clock does not depend on notes. -/
@[simp] theorem clock_after : (scene.after notes).clock = scene.clock := rfl

/-- The server does not depend on notes. -/
@[simp] theorem server_after : (scene.after notes).server = scene.server := rfl

/-- A note follows all that there are. -/
@[simp] theorem note_after (n : Note) :
    (scene.after notes).note n = (scene.note n).after notes := by
  simp [note, after]

/-- A warning follows all notes that there are. -/
@[simp] theorem warn_after (message : String) :
    (scene.after notes).warn message = (scene.warn message).after notes := note_after ..

/-- Information follows all notes that there are. -/
@[simp] theorem info_after (message : String) :
    (scene.after notes).info message = (scene.info message).after notes := note_after ..

/-- Setting a variable has nothing to do with notes. -/
@[simp] theorem set_after (name value : String) :
    (scene.after notes).set name value = (scene.set name value).after notes := rfl

/-- Setting a variable that may have no name has nothing to do with notes. -/
@[simp] theorem setNamed_after (name value : String) :
    (scene.after notes).setNamed name value = (scene.setNamed name value).after notes := by
  unfold setNamed
  split <;> rfl

end Scene

/-! ## Changes that handlers do not see -/

/-- A change of scenes that leaves variables and counters as they are, and may as well be made after
a warning, after setting a variable or after counting. -/
structure Scene.Unseen (change : Scene → Scene) : Prop where
  store (scene : Scene) : (change scene).store = scene.store
  counters (scene : Scene) : (change scene).counters = scene.counters
  warn (scene : Scene) (message : String) :
    (change scene).warn message = change (scene.warn message)
  set (scene : Scene) (name value : String) :
    (change scene).set name value = change (scene.set name value)
  count (scene : Scene) (counters : Counters) :
    { change scene with counters } = change { scene with counters }

/-- Notes from before are not seen. -/
theorem Scene.unseen_after (notes : List Note) : Unseen (·.after notes) where
  store _ := rfl
  counters _ := rfl
  warn _ _ := warn_after ..
  set _ _ _ := rfl
  count _ _ := rfl

namespace Scene.Unseen

variable {change : Scene → Scene}

/-- Setting a variable that may have no name may as well come first. -/
theorem setNamed (h : Unseen change) (scene : Scene) (name value : String) :
    (change scene).setNamed name value = change (scene.setNamed name value) := by
  unfold Scene.setNamed
  split
  · rfl
  · exact h.set ..

/-- Several warnings may as well come first. -/
theorem foldl_warn (h : Unseen change) {α : Type} (message : α → String) (as : List α)
    (scene : Scene) : as.foldl (fun scene a => scene.warn (message a)) (change scene) =
      change (as.foldl (fun scene a => scene.warn (message a)) scene) :=
  List.foldl_hom change fun _ _ => h.warn ..

end Scene.Unseen

namespace Settings

variable {σ : Type} {record : Json.Decoder.Record σ} {context : Context} {scene : Scene}

/-- What a handler does is governed by the settings that it has read, whatever other form they could
have had; the notes from before stay before its own ones. -/
def Governs (record : Json.Decoder.Record σ) (run : Context → Scene → StepResult × Scene) : Prop :=
  ∀ ⦃context : Context⦄ ⦃config : Option String⦄ ⦃scene scene' noted : Scene⦄ ⦃settings : σ⦄
    ⦃notes : List Note⦄, read record context scene = (settings, noted.after notes) →
      read record (context.configured config) scene' = (settings, noted) →
      run context scene = ((run (context.configured config) scene').1,
        (run (context.configured config) scene').2.after notes)

/-- What a handler does is governed by the settings that it has read, and a change of the scene on
which it reads them may as well be made to what it leaves behind. -/
def GovernsUnder (change : Scene → Scene) (record : Json.Decoder.Record σ)
    (run : Context → Scene → StepResult × Scene) : Prop :=
  ∀ ⦃context : Context⦄ ⦃config : Option String⦄ ⦃scene scene' noted : Scene⦄ ⦃settings : σ⦄,
    read record context scene = (settings, change noted) →
      read record (context.configured config) scene' = (settings, noted) →
      run context scene = ((run (context.configured config) scene').1,
        change (run (context.configured config) scene').2)

/-- Settings that govern a handler, whatever change of the scene it does not see, govern it. -/
theorem GovernsUnder.governs {run : Context → Scene → StepResult × Scene}
    (hrun : ∀ {change : Scene → Scene}, Scene.Unseen change → GovernsUnder change record run) :
    Governs record run :=
  fun _ _ _ _ _ _ notes => @hrun _ (Scene.unseen_after notes) _ _ _ _ _ _

/-- Without settings the defaults hold. -/
theorem read_of_none (h : context.settings? = none) :
    read record context scene = (record.start, scene) := by
  simp only [read, h]

/-- Settings that can be decoded hold. -/
theorem read_of_ok {text : String} {settings : σ} (h : context.settings? = some text)
    (hdecode : decode record text = .ok settings) :
    read record context scene = (settings, scene) := by
  simp only [read, h, hdecode]

/-- The warning that the settings of a block could not be decoded. -/
def warning (context : Context) (reason : String) : String :=
  s!"Block '{context.block.name}' has an invalid config ({reason}); using defaults"

/-- In place of settings that cannot be decoded the defaults hold, with a warning. -/
theorem read_of_error {text reason : String} (h : context.settings? = some text)
    (hdecode : decode record text = .error reason) :
    read record context scene = (record.start, scene.warn (warning context reason)) := by
  simp only [read, h, hdecode]
  rfl

/-- Settings that are not blank are those of their block. -/
theorem settings?_configured {text : String} (h : Text.isBlankText text = false) :
    (context.configured (some text)).settings? = some text :=
  if_neg (Bool.eq_false_iff.mp h)

/-- Settings that are a document hold as what its normal form is decoded to. -/
theorem read_of_document {text : String} {document : Json.Value} {settings : σ}
    (hread : Json.Value.ofText text = .ok document)
    (hdecode : record.decoder.ofValue (normalize document) = .ok settings) :
    read record (context.configured (some text)) scene = (settings, scene) := by
  refine read_of_ok (settings?_configured (Json.Value.isBlankText_of_ofText hread)) ?_
  simp only [decode, hread, hdecode]

/-- A handler with a name is governed by the settings that govern its function. -/
theorem governs_named {run : Context → Scene → StepResult × Scene} (hrun : Governs record run)
    (typeName : String) (info : HandlerInfo) :
    Governs record (Handler.named typeName info run).run :=
  hrun

end Settings

namespace Blocks

open Settings

variable (limits : Limits) (limit : Nat) {change : Scene → Scene}

/-- A calculation is governed by its settings. -/
theorem runCalculation_governed (h : Scene.Unseen change) :
    GovernsUnder change CalculationSettings.record runCalculation := by
  intro context config scene scene' noted settings hread hread'
  simp only [runCalculation, hread, hread', Context.displayName_configured, h.store]
  split
  · rfl
  · split <;> split <;> simp only [h.warn, h.set]

/-- A condition is governed by its settings. -/
theorem runCondition_governed (h : Scene.Unseen change) :
    GovernsUnder change ConditionSettings.record runCondition := by
  intro context config scene scene' noted settings hread hread'
  simp only [runCondition, hread, hread', Context.displayName_configured, h.store]
  split
  · rfl
  · split <;> rfl

/-- A switch is governed by its settings. -/
theorem runSwitch_governed (h : Scene.Unseen change) :
    GovernsUnder change SwitchSettings.record runSwitch := by
  intro context config scene scene' noted settings hread hread'
  simp only [runSwitch, hread, hread', Context.hasBranch_configured, h.store]
  split <;> rfl

/-- A loop is governed by its settings. -/
theorem runLoop_governed (h : Scene.Unseen change) :
    GovernsUnder change LoopSettings.record runLoop := by
  intro context config scene scene' noted settings hread hread'
  have hrounds : requestedRounds (change noted).store settings.iterations =
      requestedRounds noted.store settings.iterations := by rw [h.store]
  simp only [runLoop, hread, hread', Context.id_configured, h.counters, hrounds]
  split
  · have hcounted := h.count noted
    dsimp only at hcounted ⊢
    rw [hcounted, h.setNamed]
  · exact Prod.ext rfl (h.count noted _)

/-- A transformation is governed by its settings. -/
theorem runTransform_governed (h : Scene.Unseen change) :
    GovernsUnder change TransformSettings.record runTransform := by
  intro context config scene scene' noted settings hread hread'
  simp only [runTransform, hread, hread', Context.displayName_configured, h.store]
  split <;> simp only [h.setNamed]

/-- A replacement is governed by its settings, however many rules are skipped. -/
theorem runReplacement_governed (h : Scene.Unseen change) :
    GovernsUnder change ReplacementSettings.record (runReplacement limits) := by
  intro context config scene scene' noted settings hread hread'
  simp only [runReplacement, hread, hread', Context.displayName_configured, h.store]
  rw [h.foldl_warn, h.setNamed]

/-- A mapping warns and sets variables only. -/
theorem applyMapping_unseen (h : Scene.Unseen change) (name : String) (document : SourceDocument)
    (state : Nat × Scene) (m : Mapping) :
    applyMapping name document (state.1, change state.2) m =
      ((applyMapping name document state m).1, change (applyMapping name document state m).2) := by
  simp only [applyMapping]
  split
  · rfl
  · split
    · rw [h.set]
    · rw [h.warn]

/-- Several mappings warn and set variables only. -/
theorem foldl_applyMapping_unseen (h : Scene.Unseen change) (name : String)
    (document : SourceDocument) (count : Nat) (scene : Scene) (mappings : List Mapping) :
    mappings.foldl (applyMapping name document) (count, change scene) =
      ((mappings.foldl (applyMapping name document) (count, scene)).1,
        change (mappings.foldl (applyMapping name document) (count, scene)).2) :=
  @List.foldl_hom _ _ _ (fun state : Nat × Scene => (state.1, change state.2))
    (applyMapping name document) (applyMapping name document) mappings (count, scene)
    fun _ _ => applyMapping_unseen h ..

/-- An extraction is governed by its settings. -/
theorem runExtraction_governed (h : Scene.Unseen change) :
    GovernsUnder change ExtractionSettings.record runExtraction := by
  intro context config scene scene' noted settings hread hread'
  simp only [runExtraction, hread, hread', Context.displayName_configured, h.store]
  split
  · rfl
  · split
    · rfl
    · rw [foldl_applyMapping_unseen h]

/-- A wait is governed by its settings. -/
theorem runWait_governed : Governs WaitSettings.record (runWait limit) := by
  intro context config scene scene' noted settings notes hread hread'
  simp only [runWait, hread, hread', Context.displayName_configured, Scene.store_after]
  -- Whether the delay was cut or not, all that is left is to wait for it.
  split
  · simp only [Scene.warn_after, Scene.info_after, Scene.clock_after]
    split <;> rfl
  · simp only [Scene.info_after, Scene.clock_after]
    split <;> rfl

/-- Sending makes no notes. -/
theorem sendWithin_after (timeout : Nat) (call : Except Http.SendFault Http.Call) (scene : Scene)
    (notes : List Note) : sendWithin timeout call (scene.after notes) =
      ((sendWithin timeout call scene).1, (sendWithin timeout call scene).2.after notes) := by
  cases hcancelled : scene.clock.cancelled with
  | true => simp only [sendWithin, Scene.clock_after, hcancelled, if_true]
  | false =>
      simp only [sendWithin, Scene.clock_after, Scene.server_after, hcancelled,
        Bool.false_eq_true, if_false]
      cases call with
      | error fault => rfl
      | ok call =>
          simp only
          split
          · rfl
          · cases (call.send scene.server).1 with
            | failed fault => rfl
            | answered method response => simp only; split <;> rfl
            | hanging => rfl

/-- Keeping a response makes no notes. -/
theorem keepResponse_after (settings : RequestSettings) (status : Nat) (body : String)
    (scene : Scene) (notes : List Note) : keepResponse settings status body (scene.after notes) =
      (keepResponse settings status body scene).after notes := by
  simp only [keepResponse, Scene.set_after, Scene.setNamed_after]

/-- A request is governed by its settings. -/
theorem runRequest_governed : Governs RequestSettings.record (runRequest limit) := by
  intro context config scene scene' noted settings notes hread hread'
  simp only [runRequest, hread, hread', Scene.store_after]
  split
  · rfl
  · split
    · rfl
    · split
      · rfl
      · rw [Scene.info_after, sendWithin_after]
        generalize sendWithin _ _ (noted.info _) = sent
        obtain ⟨fault | ⟨status, body⟩, after⟩ := sent
        · rfl
        · simp only [Scene.info_after, keepResponse_after]

/-- The standard handlers that have settings, and the fields of these. -/
inductive HasSettings : Handler → {σ : Type} → Json.Decoder.Record σ → Prop
  | calculation : HasSettings calculation CalculationSettings.record
  | condition : HasSettings condition ConditionSettings.record
  | switch : HasSettings switch SwitchSettings.record
  | loop : HasSettings loop LoopSettings.record
  | wait : HasSettings (wait limits.maxWaitMs) WaitSettings.record
  | textTransform : HasSettings textTransform TransformSettings.record
  | textReplace : HasSettings (textReplace limits) ReplacementSettings.record
  | extraction : HasSettings extraction ExtractionSettings.record
  | httpRequest : HasSettings (httpRequest limits) RequestSettings.record

variable {limits}

/-- A handler that has settings is governed by them. -/
theorem HasSettings.governs {h : Handler} {σ : Type} {record : Json.Decoder.Record σ}
    (hh : HasSettings limits h record) : Governs record h.run := by
  cases hh with
  | calculation => exact governs_named (GovernsUnder.governs runCalculation_governed) _ _
  | condition => exact governs_named (GovernsUnder.governs runCondition_governed) _ _
  | switch => exact governs_named (GovernsUnder.governs runSwitch_governed) _ _
  | loop => exact governs_named (GovernsUnder.governs runLoop_governed) _ _
  | wait => exact governs_named (runWait_governed limits.maxWaitMs) _ _
  | textTransform => exact governs_named (GovernsUnder.governs runTransform_governed) _ _
  | textReplace => exact governs_named (GovernsUnder.governs (runReplacement_governed limits)) _ _
  | extraction => exact governs_named (GovernsUnder.governs runExtraction_governed) _ _
  | httpRequest => exact governs_named (runRequest_governed limits.httpTimeoutMs) _ _

/-- All standard handlers but those of Start and End have settings. -/
theorem standard_hasSettings {h : Handler} (hh : h ∈ standard limits) :
    h = start ∨ h = finish ∨
      ∃ (σ : Type) (record : Json.Decoder.Record σ), HasSettings limits h record := by
  simp only [standard, List.mem_cons, List.not_mem_nil, or_false] at hh
  rcases hh with rfl | rfl | rfl | rfl | rfl | rfl | rfl | rfl | rfl | rfl | rfl
  · exact Or.inl rfl
  · exact Or.inr (Or.inl rfl)
  · exact Or.inr (Or.inr ⟨_, _, .calculation⟩)
  · exact Or.inr (Or.inr ⟨_, _, .condition⟩)
  · exact Or.inr (Or.inr ⟨_, _, .switch⟩)
  · exact Or.inr (Or.inr ⟨_, _, .loop⟩)
  · exact Or.inr (Or.inr ⟨_, _, .wait⟩)
  · exact Or.inr (Or.inr ⟨_, _, .textTransform⟩)
  · exact Or.inr (Or.inr ⟨_, _, .textReplace⟩)
  · exact Or.inr (Or.inr ⟨_, _, .extraction⟩)
  · exact Or.inr (Or.inr ⟨_, _, .httpRequest⟩)

end Blocks
end Flowchart
