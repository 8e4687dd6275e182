import Mathlib.Logic.Function.Basic
import Flowchart.Proofs.Blocks.Footprint

/-!
# What handlers cannot tell apart

Two runs may differ in the identifiers of their blocks, in the connections that lead nowhere else,
and in the values of hidden variables (`Disguise`). A standard handler that looks up nothing hidden
cannot tell them apart: it gives the same verdict in both, and leaves scenes behind that differ in
nothing else (`Handler.ReadsOnly`).
-/

namespace Flowchart

/-- What two runs may differ in: the identifiers of blocks, and the values of hidden variables. -/
structure Disguise where
  rename : Identifier → Identifier
  injective : Function.Injective rename
  hidden : String → Prop

/-- A block under another identifier. -/
def Block.renamed (rename : Identifier → Identifier) (b : Block) : Block :=
  { b with id := rename b.id }

namespace Disguise

/-- Scenes that differ in the identifiers of loops and in hidden variables only. Notes are left out:
they are announced, and nothing in a run depends on them. -/
structure Scenes (d : Disguise) (scene scene' : Scene) : Prop where
  store : scene.store.AgreesOff d.hidden scene'.store
  counters : ∀ id, scene'.counters.get? (d.rename id) = scene.counters.get? id
  clock : scene'.clock = scene.clock
  server : scene'.server = scene.server

/-- Contexts that differ in identifiers only, and in connections that are no branches of their
own. -/
structure Contexts (d : Disguise) (context context' : Context) : Prop where
  block : context'.block = context.block.renamed d.rename
  type : context'.type = context.type
  hasBranch : ∀ key, context'.hasBranch key = context.hasBranch key

/-- The same answers, with scenes that differ as before. -/
structure Answers {α : Type} (d : Disguise) (answer answer' : α × Scene) : Prop where
  verdict : answer'.1 = answer.1
  scenes : d.Scenes answer.2 answer'.2

variable {d : Disguise} {scene scene' : Scene} {context context' : Context}

/-- The same assignment can follow in both scenes. -/
theorem Scenes.set (h : d.Scenes scene scene') (name value : String) :
    d.Scenes (scene.set name value) (scene'.set name value) :=
  ⟨h.store.set name value, h.counters, h.clock, h.server⟩

/-- The same assignment, which a blank name leaves out, can follow in both scenes. -/
theorem Scenes.setNamed (h : d.Scenes scene scene') (name value : String) :
    d.Scenes (scene.setNamed name value) (scene'.setNamed name value) := by
  unfold Scene.setNamed
  split
  · exact h
  · exact h.set name value

/-- Warnings can follow in both scenes. -/
theorem Scenes.warn (h : d.Scenes scene scene') (message : String) :
    d.Scenes (scene.warn message) (scene'.warn message) :=
  ⟨h.store, h.counters, h.clock, h.server⟩

/-- Notes of information can follow in both scenes. -/
theorem Scenes.info (h : d.Scenes scene scene') (message : String) :
    d.Scenes (scene.info message) (scene'.info message) :=
  ⟨h.store, h.counters, h.clock, h.server⟩

/-- A loop can count in both scenes. -/
theorem Scenes.count (h : d.Scenes scene scene') (id : Identifier) (n : UInt32) :
    d.Scenes { scene with counters := scene.counters.set id n }
      { scene' with counters := scene'.counters.set (d.rename id) n } where
  store := h.store
  counters other := by
    simp only [Counters.get?_set, d.injective.eq_iff, h.counters]
  clock := h.clock
  server := h.server

/-- Both blocks are described by the same name. -/
theorem Contexts.displayName_eq (h : d.Contexts context context') :
    context'.displayName = context.displayName := by
  unfold Context.displayName
  rw [h.block, h.type]
  rfl

/-- The settings of a block do not depend on its identifier. -/
theorem ofBlock_renamed {σ : Type} (record : Json.Decoder.Record σ)
    (rename : Identifier → Identifier) (b : Block) :
    Settings.ofBlock record (b.renamed rename) = Settings.ofBlock record b := by
  have hsettings : Context.settings? ⟨b.renamed rename, default, []⟩ =
      Context.settings? ⟨b, default, []⟩ := rfl
  unfold Settings.ofBlock Settings.read
  rw [hsettings]
  rfl

/-- Reading settings gives the same ones in both contexts. If nothing that they look up is hidden,
both stores agree on it. -/
theorem Contexts.exists_read_eq {σ : Type} (hc : d.Contexts context context')
    (hs : d.Scenes scene scene') (record : Json.Decoder.Record σ) (footprint : σ → Footprint)
    (hreads : ∀ x ∈ (footprint (Settings.ofBlock record context.block)).reads, ¬ d.hidden x) :
    ∃ settings noted noted',
      Settings.read record context scene = (settings, noted) ∧
      Settings.read record context' scene' = (settings, noted') ∧
      d.Scenes noted noted' ∧ noted.store.AgreesOn (footprint settings).reads noted'.store := by
  obtain ⟨notes, hread⟩ := Settings.exists_read_eq record context scene
  obtain ⟨notes', hread'⟩ := Settings.exists_read_eq record context' scene'
  rw [hc.block, ofBlock_renamed] at hread'
  exact ⟨_, _, _, hread, hread', ⟨hs.store, hs.counters, hs.clock, hs.server⟩,
    hs.store.agreesOn hreads⟩

end Disguise

/-- What a handler does depends on nothing but what its block looks up: under any disguise that
hides none of it, the verdict is the same, and all else changes in the same way. -/
def Handler.ReadsOnly (run : Context → Scene → StepResult × Scene)
    (footprint : Block → Footprint) : Prop :=
  ∀ ⦃d : Disguise⦄ ⦃context context' : Context⦄ ⦃scene scene' : Scene⦄,
    d.Contexts context context' → d.Scenes scene scene' →
    (∀ x ∈ (footprint context.block).reads, ¬ d.hidden x) →
    d.Answers (run context scene) (run context' scene')

/-- A handler with a name depends on as little as its function does. -/
theorem Handler.readsOnly_named {run : Context → Scene → StepResult × Scene}
    {footprint : Block → Footprint} (hrun : Handler.ReadsOnly run footprint) (typeName : String)
    (info : HandlerInfo) : Handler.ReadsOnly (Handler.named typeName info run).run footprint :=
  hrun

open Store

namespace Blocks

/-! ## Parts of requests -/

namespace RequestSettings

variable {settings : RequestSettings} {s t : Store} {texts : List String}

/-- Stores that agree on the variables of several free texts expand each of them to the same
text. -/
theorem expand_congr_of_mem {text : String} (h : s.AgreesOn (texts.flatMap textLookups) t)
    (htext : text ∈ texts) : s.expand text = t.expand text :=
  expand_congr fun x hx => h x (List.mem_flatMap.mpr ⟨text, htext, hx⟩)

/-- Stores that agree on the texts of credentials give the same credentials. -/
theorem credentials_congr
    (h : ∀ texts, settings.credentialTexts? = some texts →
      s.AgreesOn (texts.flatMap textLookups) t) :
    settings.credentials s = settings.credentials t := by
  unfold credentialTexts? at h
  unfold credentials
  generalize Text.asciiLower (Text.trim settings.authType) = kind at h ⊢
  split
  · rfl
  · rfl
  · have hagrees := h _ rfl
    rw [expand_congr_of_mem hagrees (by simp), expand_congr_of_mem hagrees (by simp)]
  · rw [expand_congr_of_mem (h _ rfl) (by simp)]
  · rw [expand_congr_of_mem (h _ rfl) (by simp)]
  · rw [expand_congr_of_mem (h _ rfl) (by simp)]
  · rfl

/-- Credentials of a kind that is not known do not depend on the store. -/
theorem exists_credentials_eq_error (h : settings.credentialTexts? = none) :
    ∃ fault, ∀ s, settings.credentials s = .error fault := by
  unfold credentialTexts? at h
  unfold credentials
  generalize Text.asciiLower (Text.trim settings.authType) = kind at h ⊢
  split at h <;> simp_all

/-- Stores that agree on the values of header fields give the same fields. -/
theorem listedFields_congr (h : s.AgreesOn (settings.fieldTexts.flatMap textLookups) t) :
    settings.listedFields s = settings.listedFields t := by
  refine List.map_congr_left fun field hfield => ?_
  rw [expand_congr_of_mem h (List.mem_map_of_mem hfield)]

/-- Stores that agree on the header fields and the body describe the same request. -/
theorem call_congr (hfields : s.AgreesOn (settings.fieldTexts.flatMap textLookups) t)
    (hbody : s.AgreesOn (settings.bodyTexts.flatMap textLookups) t) (url : String)
    (credentials : Credentials) :
    settings.call s url credentials = settings.call t url credentials := by
  unfold call
  rw [listedFields_congr hfields]
  unfold bodyTexts at hbody
  by_cases hmethod : settings.methodName = "GET" ∨ settings.methodName = "HEAD"
  · simp only [← or_assoc, hmethod, true_or, if_true]
  · rw [if_neg hmethod] at hbody
    rw [expand_congr_of_mem hbody List.mem_cons_self]

/-- Stores that agree on the token for the time allow the same time. -/
theorem timeout_congr (h : s.AgreesOn (tokenLookups settings.timeoutMs) t) (limit : Nat) :
    settings.timeout s limit = settings.timeout t limit := by
  rw [timeout, timeout, resolveNumber_congr h]

/-- Stores that agree on what a request by a known method looks up give the same credentials. With
them they describe the same request, and allow the same time for it. -/
theorem description_congr (h : s.AgreesOn settings.footprint.reads t)
    (hmethod : Http.isToken settings.methodName = true) :
    settings.credentials s = settings.credentials t ∧
    ∀ credentials, settings.credentials t = .ok credentials →
      (∀ url, settings.call s url credentials = settings.call t url credentials) ∧
      ∀ limit, settings.timeout s limit = settings.timeout t limit := by
  have hrest := h.right
  rw [hmethod, Bool.not_true, if_neg Bool.false_ne_true] at hrest
  cases htexts : settings.credentialTexts? with
  | none =>
      -- A fault over the credentials comes before all that depends on the rest of the footprint.
      obtain ⟨fault, hfault⟩ := exists_credentials_eq_error htexts
      refine ⟨by rw [hfault, hfault], fun credentials hcredentials => ?_⟩
      rw [hfault] at hcredentials
      cases hcredentials
  | some texts =>
      simp only [htexts, List.flatMap_append] at hrest
      refine ⟨credentials_congr fun texts' htexts' => ?_, fun credentials _ => ⟨fun url => ?_, ?_⟩⟩
      · obtain rfl := Option.some.inj (htexts.symm.trans htexts')
        exact hrest.right.left.left
      · exact call_congr hrest.left hrest.right.left.right url credentials
      · exact timeout_congr hrest.right.right

end RequestSettings

/-! ## The standard handlers -/

variable (limits : Limits) (limit : Nat) {d : Disguise} {context context' : Context}
  {scene scene' : Scene}

/-- A calculation depends on its operands only. -/
theorem runCalculation_readsOnly :
    Handler.ReadsOnly runCalculation (footprintOf "Calculation") := by
  intro d context context' scene scene' hc hs hreads
  obtain ⟨settings, noted, noted', hread, hread', hnoted, hagrees⟩ :=
    hc.exists_read_eq hs CalculationSettings.record CalculationSettings.footprint hreads
  simp only [runCalculation, hread, hread', hc.displayName_eq]
  unfold CalculationSettings.footprint at hagrees
  cases hoperation : Operation.ofName? settings.operation with
  | none => exact ⟨rfl, hnoted⟩
  | some operation =>
      simp only [hoperation] at hagrees
      simp only [resolve_congr hagrees.left, resolve_congr hagrees.right]
      obtain ⟨result, note⟩ := calculate operation _ _
      cases note with
      | none =>
          simp only
          split
          · exact ⟨rfl, hnoted⟩
          · exact ⟨rfl, hnoted.set _ _⟩
      | some note =>
          simp only
          split
          · exact ⟨rfl, hnoted.warn _⟩
          · exact ⟨rfl, (hnoted.warn _).set _ _⟩

/-- A condition depends on its operands only. -/
theorem runCondition_readsOnly :
    Handler.ReadsOnly runCondition (footprintOf "If") := by
  intro d context context' scene scene' hc hs hreads
  obtain ⟨settings, noted, noted', hread, hread', hnoted, hagrees⟩ :=
    hc.exists_read_eq hs ConditionSettings.record ConditionSettings.footprint hreads
  simp only [runCondition, hread, hread', hc.displayName_eq]
  unfold ConditionSettings.footprint at hagrees
  cases hcomparison : Comparison.ofName? settings.operator with
  | none => exact ⟨rfl, hnoted⟩
  | some comparison =>
      simp only [hcomparison] at hagrees
      simp only [resolve_congr hagrees.left, resolve_congr hagrees.right]
      split <;> exact ⟨rfl, hnoted⟩

/-- A switch depends on its expression and on the labels of its connections only. -/
theorem runSwitch_readsOnly :
    Handler.ReadsOnly runSwitch (footprintOf "Switch") := by
  intro d context context' scene scene' hc hs hreads
  obtain ⟨settings, noted, noted', hread, hread', hnoted, hagrees⟩ :=
    hc.exists_read_eq hs SwitchSettings.record SwitchSettings.footprint hreads
  simp only [runSwitch, hread, hread', hc.hasBranch]
  simp only [resolve_congr hagrees]
  split <;> exact ⟨rfl, hnoted⟩

/-- A loop depends on the number of its rounds and on its own counter only. -/
theorem runLoop_readsOnly :
    Handler.ReadsOnly runLoop (footprintOf "Loop") := by
  intro d context context' scene scene' hc hs hreads
  obtain ⟨settings, noted, noted', hread, hread', hnoted, hagrees⟩ :=
    hc.exists_read_eq hs LoopSettings.record LoopSettings.footprint hreads
  -- The counter is found under the identifier that the block has in each run.
  have hid : context'.block.id = d.rename context.block.id := by
    rw [hc.block]
    rfl
  simp only [runLoop, hread, hread', hid, hnoted.counters]
  have hrounds : requestedRounds noted.store settings.iterations =
      requestedRounds noted'.store settings.iterations := by
    unfold requestedRounds
    rw [resolveNumber_congr hagrees]
  rw [hrounds]
  split
  · exact ⟨rfl, (hnoted.count _ _).setNamed _ _⟩
  · exact ⟨rfl, hnoted.count _ _⟩

/-- Stores that agree on what a wait looks up ask for the same delay. -/
theorem requestedDelay_congr {settings : WaitSettings} {s t : Store}
    (h : s.AgreesOn settings.footprint.reads t) :
    requestedDelay settings s = requestedDelay settings t := by
  have hvariable : delayFromVariable s settings.delayVariable =
      delayFromVariable t settings.delayVariable := by
    have hagrees := h.left
    unfold delayFromVariable
    split
    · rfl
    · next hnamed =>
        rw [if_neg hnamed] at hagrees
        rw [get?_congr hagrees]
  unfold requestedDelay
  rw [hvariable, resolveNumber_congr h.right]

/-- Waiting ends in the same way on scenes that are alike. -/
theorem waited_alike (h : d.Scenes scene scene') (delay : Nat) : d.Answers
    (if (scene.clock.wait delay).1 then
        (StepResult.success s!"Waited {delay}ms",
          { scene with clock := (scene.clock.wait delay).2 })
      else (.failure s!"Wait of {delay}ms cancelled",
          { scene with clock := (scene.clock.wait delay).2 }))
    (if (scene'.clock.wait delay).1 then
        (StepResult.success s!"Waited {delay}ms",
          { scene' with clock := (scene'.clock.wait delay).2 })
      else (.failure s!"Wait of {delay}ms cancelled",
          { scene' with clock := (scene'.clock.wait delay).2 })) := by
  rw [h.clock]
  split <;> exact ⟨rfl, h.store, h.counters, rfl, h.server⟩

/-- A wait depends on its delay and on the clock only. -/
theorem runWait_readsOnly :
    Handler.ReadsOnly (runWait limit) (footprintOf "Wait") := by
  intro d context context' scene scene' hc hs hreads
  obtain ⟨settings, noted, noted', hread, hread', hnoted, hagrees⟩ :=
    hc.exists_read_eq hs WaitSettings.record WaitSettings.footprint hreads
  simp only [runWait, hread, hread', hc.displayName_eq]
  rw [requestedDelay_congr hagrees]
  obtain ⟨delay, isCut⟩ := cutDelay (requestedDelay settings noted'.store) limit
  cases isCut with
  | false => exact waited_alike (hnoted.info _) delay
  | true => exact waited_alike ((hnoted.warn _).info _) delay

/-- A transformation depends on its input only. -/
theorem runTransform_readsOnly :
    Handler.ReadsOnly runTransform (footprintOf "TextTransform") := by
  intro d context context' scene scene' hc hs hreads
  obtain ⟨settings, noted, noted', hread, hread', hnoted, hagrees⟩ :=
    hc.exists_read_eq hs TransformSettings.record TransformSettings.footprint hreads
  simp only [runTransform, hread, hread', hc.displayName_eq]
  rw [inputText_congr hagrees]
  split <;> exact ⟨rfl, hnoted.setNamed _ _⟩

/-- The same warnings can follow in both scenes. -/
theorem foldl_warn_alike (hs : d.Scenes scene scene') (message : String → String)
    (reasons : List String) :
    d.Scenes (reasons.foldl (fun scene reason => scene.warn (message reason)) scene)
      (reasons.foldl (fun scene reason => scene.warn (message reason)) scene') := by
  induction reasons generalizing scene scene' with
  | nil => exact hs
  | cons reason rest ih => exact ih (hs.warn _)

/-- A replacement depends on its input only. -/
theorem runReplacement_readsOnly :
    Handler.ReadsOnly (runReplacement limits) (footprintOf "TextReplace") := by
  intro d context context' scene scene' hc hs hreads
  obtain ⟨settings, noted, noted', hread, hread', hnoted, hagrees⟩ :=
    hc.exists_read_eq hs ReplacementSettings.record ReplacementSettings.footprint hreads
  simp only [runReplacement, hread, hread', hc.displayName_eq]
  rw [inputText_congr hagrees]
  exact ⟨rfl, (foldl_warn_alike hnoted _ _).setNamed _ _⟩

/-- A mapping depends on the document only. -/
theorem applyMapping_alike {state state' : Nat × Scene} (h : d.Answers state state')
    (name : String) (document : SourceDocument) (m : Mapping) :
    d.Answers (applyMapping name document state m) (applyMapping name document state' m) := by
  obtain ⟨count, scene⟩ := state
  obtain ⟨count', scene'⟩ := state'
  obtain ⟨hcount, hs⟩ := h
  obtain rfl : count' = count := hcount
  unfold applyMapping
  simp only
  split
  · exact ⟨rfl, hs⟩
  · split
    · exact ⟨rfl, hs.set _ _⟩
    · exact ⟨rfl, hs.warn _⟩

/-- Several mappings depend on the document only. -/
theorem foldl_applyMapping_alike {state state' : Nat × Scene} (h : d.Answers state state')
    (name : String) (document : SourceDocument) (mappings : List Mapping) :
    d.Answers (mappings.foldl (applyMapping name document) state)
      (mappings.foldl (applyMapping name document) state') := by
  induction mappings generalizing state state' with
  | nil => exact h
  | cons m rest ih => exact ih (applyMapping_alike h name document m)

/-- An extraction depends on its document only. -/
theorem runExtraction_readsOnly :
    Handler.ReadsOnly runExtraction (footprintOf "Parser") := by
  intro d context context' scene scene' hc hs hreads
  obtain ⟨settings, noted, noted', hread, hread', hnoted, hagrees⟩ :=
    hc.exists_read_eq hs ExtractionSettings.record ExtractionSettings.footprint hreads
  simp only [runExtraction, hread, hread', hc.displayName_eq]
  unfold ExtractionSettings.footprint at hagrees
  cases hformat : Format.ofName? (Text.asciiLower (Text.trim settings.format)) with
  | none => exact ⟨rfl, hnoted⟩
  | some format =>
      simp only [hformat] at hagrees
      simp only [getD_congr hagrees]
      cases SourceDocument.ofText format (noted'.store.getD settings.sourceVariable) with
      | error reason => exact ⟨rfl, hnoted⟩
      | ok document =>
          have hstart : d.Answers (0, noted) (0, noted') := ⟨rfl, hnoted⟩
          obtain ⟨hcount, hscenes⟩ :=
            foldl_applyMapping_alike hstart context.displayName document settings.mappings
          exact ⟨by simp only [hcount], hscenes⟩

/-- Sending depends on the request, the clock and the server only. -/
theorem sendWithin_alike (hs : d.Scenes scene scene') (timeout : Nat)
    (call : Except Http.SendFault Http.Call) :
    d.Answers (sendWithin timeout call scene) (sendWithin timeout call scene') := by
  simp only [sendWithin, hs.clock, hs.server]
  split
  · exact ⟨rfl, hs⟩
  · cases call with
    | error fault => exact ⟨rfl, hs⟩
    | ok call =>
        simp only
        split
        · exact ⟨rfl, hs⟩
        · obtain ⟨exchange, server⟩ := call.send scene.server
          cases exchange with
          | failed fault => exact ⟨rfl, hs.store, hs.counters, rfl, rfl⟩
          | answered method response =>
              simp only
              split <;> exact ⟨rfl, hs.store, hs.counters, rfl, rfl⟩
          | hanging => exact ⟨rfl, hs.store, hs.counters, rfl, rfl⟩

/-- The same response can be kept in both scenes. -/
theorem keepResponse_alike (hs : d.Scenes scene scene') (settings : RequestSettings)
    (status : Nat) (body : String) :
    d.Scenes (keepResponse settings status body scene)
      (keepResponse settings status body scene') :=
  ((hs.set _ _).set _ _).setNamed _ _

/-- A request depends on what it is described by, on the clock and on the server only. -/
theorem runRequest_readsOnly :
    Handler.ReadsOnly (runRequest limit) (footprintOf "HttpRequest") := by
  intro d context context' scene scene' hc hs hreads
  obtain ⟨settings, noted, noted', hread, hread', hnoted, hagrees⟩ :=
    hc.exists_read_eq hs RequestSettings.record RequestSettings.footprint hreads
  simp only [runRequest, hread, hread']
  rw [expand_congr hagrees.left]
  split
  · exact ⟨rfl, hnoted⟩
  · split
    · exact ⟨rfl, hnoted⟩
    · next hmethod =>
        have htoken : Http.isToken settings.methodName = true := by simpa using hmethod
        obtain ⟨hcredentials, hdescription⟩ := RequestSettings.description_congr hagrees htoken
        rw [hcredentials]
        cases hknown : settings.credentials noted'.store with
        | error fault => exact ⟨rfl, hnoted⟩
        | ok credentials =>
            obtain ⟨hcall, htimeout⟩ := hdescription credentials hknown
            simp only [hcall, htimeout]
            -- From here on nothing is looked up any more.
            generalize hsent : sendWithin _ _ (noted.info _) = sent
            generalize hsent' : sendWithin _ _ (noted'.info _) = sent'
            have halike : d.Answers sent sent' := by
              rw [← hsent, ← hsent']
              exact sendWithin_alike (hnoted.info _) _ _
            obtain ⟨outcome, after⟩ := sent
            obtain ⟨outcome', after'⟩ := sent'
            obtain ⟨houtcome, hafter⟩ := halike
            obtain rfl : outcome' = outcome := houtcome
            cases outcome' with
            | error fault => exact ⟨rfl, hafter⟩
            | ok response => exact ⟨rfl, keepResponse_alike (hafter.info _) _ _ _⟩

/-- The standard handlers depend on nothing but what their blocks look up. -/
theorem standard_readsOnly {h : Handler} (hh : h ∈ standard limits) :
    Handler.ReadsOnly h.run (footprintOf h.typeName) := by
  simp only [standard, List.mem_cons, List.not_mem_nil, or_false] at hh
  rcases hh with rfl | rfl | rfl | rfl | rfl | rfl | rfl | rfl | rfl | rfl | rfl
  · refine Handler.readsOnly_named (fun _ _ _ _ _ hc hs _ => ⟨?_, hs⟩) _ _
    simp only [hc.displayName_eq]
  · refine Handler.readsOnly_named (fun _ _ _ _ _ hc hs _ => ⟨?_, hs⟩) _ _
    simp only [hc.displayName_eq]
  · exact Handler.readsOnly_named runCalculation_readsOnly _ _
  · exact Handler.readsOnly_named runCondition_readsOnly _ _
  · exact Handler.readsOnly_named runSwitch_readsOnly _ _
  · exact Handler.readsOnly_named runLoop_readsOnly _ _
  · exact Handler.readsOnly_named (runWait_readsOnly limits.maxWaitMs) _ _
  · exact Handler.readsOnly_named runTransform_readsOnly _ _
  · exact Handler.readsOnly_named (runReplacement_readsOnly limits) _ _
  · exact Handler.readsOnly_named runExtraction_readsOnly _ _
  · exact Handler.readsOnly_named (runRequest_readsOnly limits.httpTimeoutMs) _ _

/-- The handler of last resort depends on no variables at all. -/
theorem passthrough_readsOnly (footprint : Block → Footprint) :
    Handler.ReadsOnly passthrough.run footprint :=
  fun _ _ _ _ _ hc hs _ => ⟨by simp only [passthrough, hc.displayName_eq], hs⟩

end Blocks

/-- Under the standard registry, a block depends on nothing but what it looks up. -/
theorem Registry.readsOnly_of_handler? {limits : Limits} {t : BlockType} {h : Handler}
    (hh : (Registry.standard limits).handler? t = some h) :
    Handler.ReadsOnly h.run (Blocks.footprintOf t.name) := by
  rcases isNamed_of_handler? hh with ⟨hmem, hname⟩ | rfl
  · rw [Blocks.footprintOf_eq_of_isNamed hname]
    exact Blocks.standard_readsOnly limits hmem
  · exact Blocks.passthrough_readsOnly _

end Flowchart
