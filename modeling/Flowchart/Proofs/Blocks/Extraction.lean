import Flowchart.Blocks.Extraction
import Flowchart.Proofs.Blocks.Settings
import Flowchart.Proofs.Json.NumberTexts
import Flowchart.Proofs.Json.Reread
import Flowchart.Proofs.Settings.Fields
import Flowchart.Proofs.Variables.Names

/-!
# Extraction in two steps

An extraction puts what a path selects into a variable, or skips the path with a warning
(`stores_or_skips`). A part of a document can be put into a variable and extracted from there: that
skips in the same cases as one path to both would, and stores the same text, but with each number
read again (`extraction_in_two_steps`). The text is the same exactly if all numbers in it are
printed the same after having been read again, and there are numbers for which that does not hold
(`two_steps_change_number`).
-/

namespace Flowchart.Blocks

open Json (Value)

/-- A block has a mapping of a path in the Json document of one variable to another variable, and
all its other mappings are to other ones. -/
structure Extracts (b : Block) (source path target : String) : Prop where
  format : Format.ofName?
    (Text.asciiLower (Text.trim (Settings.ofBlock ExtractionSettings.record b).format)) = some .json
  source : variableName (Settings.ofBlock ExtractionSettings.record b).sourceVariable =
    variableName source
  mappings : ∃ before m after,
    (Settings.ofBlock ExtractionSettings.record b).mappings = before ++ m :: after ∧
      m.path = path ∧ variableName m.target = variableName target ∧
      ∀ other ∈ before ++ after, variableName other.target ≠ variableName target
  target : variableName target ≠ ""

/-- After a block was executed a variable has a text. -/
def Stores (context : Context) (scene : Scene) (target text : String) : Prop :=
  (runExtraction context scene).2.store.get? target = some text

/-- A block leaves a variable as it was, and warns of a path. -/
def Skips (context : Context) (scene : Scene) (path target : String) : Prop :=
  (runExtraction context scene).2.store.get? target = scene.store.get? target ∧
    .warning s!"Parser '{context.displayName}': path '{path}' not found, skipped" ∈
      (runExtraction context scene).2.notes

theorem Stores.getD_eq {context : Context} {scene : Scene} {target text : String}
    (h : Stores context scene target text) :
    (runExtraction context scene).2.store.getD target = text :=
  congrArg (·.getD "") h

/-! ## Mappings -/

variable {target : String} {mappings : List Mapping}

/-- A mapping to a variable with a name sets it, or warns of its path. -/
theorem applyMapping_json {m : Mapping} (h : variableName m.target ≠ "") (name : String)
    (root : Value) (state : Nat × Scene) :
    applyMapping name (.json root) state m =
      match root.select m.path with
      | some w => (state.1 + 1, state.2.set m.target w.scalarText)
      | none =>
          (state.1, state.2.warn s!"Parser '{name}': path '{m.path}' not found, skipped") := by
  have hblank : Text.isBlankText m.target = false := by
    by_contra hblank
    exact h (variableName_of_isBlankText (Bool.not_eq_false _ ▸ hblank))
  simp only [applyMapping, hblank, SourceDocument.select]
  cases root.select m.path <;> rfl

/-- A mapping to another variable leaves a variable and all notes as they are. -/
theorem applyMapping_keeps {m : Mapping} (h : variableName m.target ≠ variableName target)
    (name : String) (document : SourceDocument) (state : Nat × Scene) :
    (applyMapping name document state m).2.store.get? target = state.2.store.get? target ∧
      state.2.notes ⊆ (applyMapping name document state m).2.notes := by
  unfold applyMapping
  dsimp only
  split
  · exact ⟨rfl, fun _ => id⟩
  · split
    · refine ⟨?_, fun _ => id⟩
      exact (Store.get?_set _ _ _ _).trans (if_neg fun heq => h heq.1.symm)
    · exact ⟨rfl, List.subset_append_left _ _⟩

/-- So do several mappings to other variables. -/
theorem foldl_applyMapping_keeps
    (h : ∀ m ∈ mappings, variableName m.target ≠ variableName target) (name : String)
    (document : SourceDocument) (state : Nat × Scene) :
    (mappings.foldl (applyMapping name document) state).2.store.get? target =
        state.2.store.get? target ∧
      state.2.notes ⊆ (mappings.foldl (applyMapping name document) state).2.notes := by
  induction mappings generalizing state with
  | nil => exact ⟨rfl, fun _ => id⟩
  | cons m rest ih =>
      obtain ⟨hm, hrest⟩ := List.forall_mem_cons.mp h
      obtain ⟨hstore, hnotes⟩ := applyMapping_keeps hm name document state
      obtain ⟨hstore', hnotes'⟩ := ih hrest (applyMapping name document state m)
      exact ⟨hstore'.trans hstore, List.Subset.trans hnotes hnotes'⟩

/-! ## One block -/

variable {context : Context} {scene : Scene} {source path : String} {root : Value}

/-- Such a block does what its mappings do with the document. -/
theorem Extracts.exists_run_eq (h : Extracts context.block source path target)
    (hread : Value.ofText (scene.store.getD source) = .ok root) :
    ∃ notes, (runExtraction context scene).2 =
      ((Settings.ofBlock ExtractionSettings.record context.block).mappings.foldl
        (applyMapping context.displayName (.json root)) (0, { scene with notes })).2 := by
  obtain ⟨notes, hsettings⟩ := Settings.exists_read_eq ExtractionSettings.record context scene
  have hsource : scene.store.getD
      (Settings.ofBlock ExtractionSettings.record context.block).sourceVariable =
        scene.store.getD source := by
    rw [Store.getD, Store.get?, h.source]
    rfl
  refine ⟨notes, ?_⟩
  simp only [runExtraction, hsettings, h.format, hsource, SourceDocument.ofText, hread]
  rfl

/-- A block puts what a path selects into a variable, or skips the path if it selects nothing. -/
theorem stores_or_skips (h : Extracts context.block source path target)
    (hread : Value.ofText (scene.store.getD source) = .ok root) :
    match root.select path with
    | some w => Stores context scene target w.scalarText
    | none => Skips context scene path target := by
  obtain ⟨notes, hrun⟩ := h.exists_run_eq hread
  obtain ⟨before, m, after, hmappings, rfl, htarget, hothers⟩ := h.mappings
  rw [List.forall_mem_append] at hothers
  rw [hmappings, List.foldl_append, List.foldl_cons] at hrun
  set first := before.foldl (applyMapping context.displayName (.json root))
    (0, { scene with notes })
  have hfirst : first.2.store.get? target = scene.store.get? target :=
    (foldl_applyMapping_keeps hothers.1 context.displayName _ _).1
  obtain ⟨hstore, hnotes⟩ := foldl_applyMapping_keeps hothers.2 context.displayName (.json root)
    (applyMapping context.displayName (.json root) first m)
  rw [← hrun, applyMapping_json (htarget ▸ h.target)] at hstore hnotes
  cases hselect : root.select m.path with
  | some w =>
      rw [hselect] at hstore
      exact hstore.trans ((Store.get?_set _ _ _ _).trans (if_pos ⟨htarget.symm, h.target⟩))
  | none =>
      rw [hselect] at hstore hnotes
      exact ⟨hstore.trans hfirst, hnotes (List.mem_append_right _ List.mem_cons_self)⟩

/-! ## Two blocks -/

/-- An array or object. -/
def IsContainer : Value → Prop
  | .array _ | .object _ => True
  | .null | .bool _ | .number _ | .string _ => False

instance : DecidablePred IsContainer
  | .array _ | .object _ => inferInstanceAs (Decidable True)
  | .null | .bool _ | .number _ | .string _ => inferInstanceAs (Decidable False)

variable {first second direct : Context} {later : Scene} {middle p q : String} {part : Value}

/-- One block puts an array or object of a document into a variable, and another one extracts
something from there, or nothing. Both do so in the same cases in which a single block does with one
path to both; and what they get is the same text with its numbers read again. -/
theorem extraction_in_two_steps (hp : ∀ c ∈ p.toList.getLast?, Text.isBlank c = false)
    (hq : ∀ c ∈ q.toList.head?, c = '.' ∨ c = '[')
    (hroot : Value.ofText (scene.store.getD source) = .ok root)
    (hpart : root.select ("$" ++ p) = some part) (hcontainer : IsContainer part)
    (hfirst : Extracts first.block source ("$" ++ p) middle)
    (hlater : later.store.get? middle = (runExtraction first scene).2.store.get? middle)
    (hsecond : Extracts second.block middle ("$" ++ q) target)
    (hdirect : Extracts direct.block source ("$" ++ p ++ q) target) :
    (∃ w, root.select ("$" ++ p ++ q) = some w ∧ Stores direct scene target w.scalarText ∧
        Stores second later target w.reread.scalarText ∧
        (w.reread.scalarText = w.scalarText ↔ ∀ n ∈ w.numbers, n.reread.text = n.text)) ∨
      root.select ("$" ++ p ++ q) = none ∧
        Skips direct scene ("$" ++ p ++ q) target ∧ Skips second later ("$" ++ q) target := by
  obtain ⟨hreread, hselect⟩ := Json.select_reread hroot hp hq hpart
  have hmiddle : later.store.getD middle = part.compact := by
    have hstores := stores_or_skips hfirst hroot
    rw [hpart] at hstores
    have htext : part.scalarText = part.compact := by
      cases part <;> first | rfl | cases hcontainer
    rw [Store.getD, hlater, hstores, htext]
    rfl
  have hone := stores_or_skips hdirect hroot
  have htwo := stores_or_skips hsecond (hmiddle ▸ hreread)
  rw [hselect] at htwo
  cases hw : root.select ("$" ++ p ++ q) with
  | some w =>
      rw [hw] at hone htwo
      exact Or.inl ⟨w, rfl, hone, htwo, Json.scalarText_mapNumbers_eq_iff⟩
  | none =>
      rw [hw] at hone htwo
      exact Or.inr ⟨rfl, hone, htwo⟩

/-! ## Blocks with some mappings -/

/-- A mapping as it is written in settings. -/
def mappingItem (m : Mapping) : Value :=
  .object [("Path", .string m.path), ("Variable", .string m.target)]

/-- The settings of a block with some mappings. -/
def mappingsDocument (source : String) (mappings : List Mapping) : Value := .object [
  ("Mappings", .array (mappings.map mappingItem)), ("SourceVariable", .string source)]

/-- A block with some mappings. -/
def mappingsContext (source : String) (mappings : List Mapping) : Context :=
  Context.configured default (some (mappingsDocument source mappings).compact)

theorem ofText_mappingsDocument (source : String) (mappings : List Mapping) :
    Value.ofText (mappingsDocument source mappings).compact =
      .ok (mappingsDocument source mappings) := by
  refine Value.ofText_compact ?_ ?_
  · have houter : "Mappings" < "SourceVariable" := by decide
    have hinner : "Path" < "Variable" := by decide
    simp only [mappingsDocument, mappingItem, Value.IsOrdered, Json.elementsOrdered_iff,
      Json.MembersOrdered, List.forall_mem_map, and_true]
    exact ⟨List.pairwise_pair.mpr houter, fun _ _ => List.pairwise_pair.mpr hinner⟩
  · simp [mappingsDocument, mappingItem, Value.Fits, Json.elementsFit_iff, Json.MembersFit,
      Json.depthLimit]

/-- The normal form of such settings has the names of the fields. -/
theorem normalize_mappingsDocument (source : String) (mappings : List Mapping) :
    Settings.normalize (mappingsDocument source mappings) = .object [
      ("mappings", .array (mappings.map fun m =>
        .object [("path", .string m.path), ("variable", .string m.target)])),
      ("sourcevariable", .string source)] := by
  have hnames : ["Mappings", "SourceVariable", "Path", "Variable"].map Settings.normalName =
      ["mappings", "sourcevariable", "path", "variable"] := by decide
  simp only [List.map_cons, List.map_nil, List.cons.injEq, and_true] at hnames
  obtain ⟨hmappings, hsource, hpath, hvariable⟩ := hnames
  have hitem (m : Mapping) : Settings.normalize (mappingItem m) =
      .object [("path", .string m.path), ("variable", .string m.target)] := by
    simp only [mappingItem, Settings.normalize, Settings.normalizeMembers, hpath, hvariable]
    rfl
  simp only [mappingsDocument, Settings.normalize, Settings.normalizeMembers, hmappings, hsource,
    Settings.normalizeElements_eq_map, List.map_map, Function.comp_def, hitem]
  rfl

/-- A block with some mappings has these mappings. -/
theorem read_mappingsContext (source : String) (mappings : List Mapping) (scene : Scene) :
    Settings.read ExtractionSettings.record (mappingsContext source mappings) scene =
      ({ sourceVariable := source, mappings }, scene) := by
  have hitems : Mapping.record.decoder.list.ofValue (.array (mappings.map fun m =>
      .object [("path", .string m.path), ("variable", .string m.target)])) = .ok mappings :=
    Json.Decoder.list_ofValue_map (fun _ => rfl) mappings
  have hdecode (items : Value) (h : Mapping.record.decoder.list.ofValue items = .ok mappings) :
      ExtractionSettings.record.decoder.ofValue
        (.object [("mappings", items), ("sourcevariable", .string source)]) =
          .ok { sourceVariable := source, mappings } := by
    have hassign := Json.Decoder.ofValue_map h fun v (s : ExtractionSettings) =>
      { s with mappings := v }
    show (Json.Decoder.map (fun v (s : ExtractionSettings) => { s with mappings := v })
      Mapping.record.decoder.list).ofValue items >>= _ = _
    rw [hassign]
    rfl
  refine Settings.read_of_document (ofText_mappingsDocument source mappings) ?_
  rw [normalize_mappingsDocument, hdecode _ hitems]

/-- These are its settings. -/
theorem ofBlock_mappingsContext (source : String) (mappings : List Mapping) :
    Settings.ofBlock ExtractionSettings.record (mappingsContext source mappings).block =
      { sourceVariable := source, mappings } :=
  congrArg Prod.fst (read_mappingsContext source mappings default)

/-- A block with one mapping extracts what it says. -/
theorem extracts_mappingsContext (source path : String) (htarget : variableName target ≠ "") :
    Extracts (mappingsContext source [⟨path, target⟩]).block source path target := by
  refine ⟨?_, ?_, ?_, htarget⟩
  all_goals rw [ofBlock_mappingsContext]
  · show Format.ofName? (Text.asciiLower (Text.trim "")) = some .json
    decide
  · exact ⟨[], ⟨path, target⟩, [], rfl, rfl, rfl, by simp⟩

/-- The part of a text that a path selects. -/
def partOfText? (text path : String) : Option Value :=
  (Value.ofText text).toOption.bind (·.select path)

theorem partOfText?_eq_some_iff {text : String} : partOfText? text path = some part ↔
    ∃ root, Value.ofText text = .ok root ∧ root.select path = some part := by
  cases h : Value.ofText text <;> simp [partOfText?, h, Except.toOption]

/-- A block puts the text of a part of a document into a variable. -/
theorem stores_of_partOfText? (h : Extracts context.block source path target) {text : String}
    (hpart : (partOfText? (scene.store.getD source) path).map (·.scalarText) = some text) :
    Stores context scene target text := by
  obtain ⟨part, hsome, rfl⟩ := Option.map_eq_some_iff.mp hpart
  obtain ⟨root, hroot, hselect⟩ := partOfText?_eq_some_iff.mp hsome
  have hstores := stores_or_skips h hroot
  rwa [hselect] at hstores

/-- A scene with a variable. -/
def sceneOf (name value : String) : Scene :=
  { (default : Scene) with store := .ofList [(name, value)] }

/-- A document with an array that has numbers inside an object. -/
def numbersText : String := "\x7b\"a\": \x7b\"x\": [7, 25e-1], \"k\": \"t\"\x7d\x7d"

theorem numbers_in_two_steps :
    let scene := sceneOf "doc" numbersText
    let direct := mappingsContext "doc" [⟨"$" ++ ".a" ++ ".x", "x"⟩]
    let first := mappingsContext "doc" [⟨"$" ++ ".a", "part"⟩]
    let second := mappingsContext "part" [⟨"$" ++ ".x", "x"⟩]
    let later := (runExtraction first scene).2
    ∃ root part, Value.ofText (scene.store.getD "doc") = .ok root ∧
      root.select ("$" ++ ".a") = some part ∧ IsContainer part ∧
      Extracts first.block "doc" ("$" ++ ".a") "part" ∧
      Extracts second.block "part" ("$" ++ ".x") "x" ∧
      Extracts direct.block "doc" ("$" ++ ".a" ++ ".x") "x" ∧
      Stores direct scene "x" "[7,2.5]" ∧
      ((∃ w, root.select ("$" ++ ".a" ++ ".x") = some w ∧ Stores direct scene "x" w.scalarText ∧
          Stores second later "x" w.reread.scalarText ∧
          (w.reread.scalarText = w.scalarText ↔ ∀ n ∈ w.numbers, n.reread.text = n.text)) ∨
        root.select ("$" ++ ".a" ++ ".x") = none ∧
          Skips direct scene ("$" ++ ".a" ++ ".x") "x" ∧ Skips second later ("$" ++ ".x") "x") := by
  intro scene direct first second later
  have hfirst : Extracts first.block "doc" ("$" ++ ".a") "part" :=
    extracts_mappingsContext _ _ (by decide)
  have hsecond : Extracts second.block "part" ("$" ++ ".x") "x" :=
    extracts_mappingsContext _ _ (by decide)
  have hdirect : Extracts direct.block "doc" ("$" ++ ".a" ++ ".x") "x" :=
    extracts_mappingsContext _ _ (by decide)
  have hstored : Stores direct scene "x" "[7,2.5]" :=
    stores_of_partOfText? hdirect (by decide +kernel)
  have hcontainer : ∃ part ∈ partOfText? (scene.store.getD "doc") ("$" ++ ".a"), IsContainer part :=
    by decide +kernel
  obtain ⟨part, hpart, hcontainer⟩ := hcontainer
  obtain ⟨root, hroot, hselect⟩ := partOfText?_eq_some_iff.mp hpart
  exact ⟨root, part, hroot, hselect, hcontainer, hfirst, hsecond, hdirect, hstored,
    extraction_in_two_steps (by simp [Text.isBlank]) (by simp) hroot hselect hcontainer hfirst rfl
      hsecond hdirect⟩

/-- A document with a very small number inside an object. -/
def smallNumberText : String := "\x7b\"a\":\x7b\"x\":1e-24\x7d\x7d"

/-- In one step the number gets other digits than it was written with, as what is read is not the
nearest number; and in two steps it is read again from those. -/
theorem two_steps_change_number :
    let scene := sceneOf "doc" smallNumberText
    (∃ root part, Value.ofText (scene.store.getD "doc") = .ok root ∧
      root.select "$.a" = some part ∧ IsContainer part) ∧
    Stores (mappingsContext "doc" [⟨"$.a.x", "x"⟩]) scene "x" "1.0000000000000001e-24" ∧
    Stores (mappingsContext "part" [⟨"$.x", "x"⟩])
      (runExtraction (mappingsContext "doc" [⟨"$.a", "part"⟩]) scene).2 "x" "1e-24" := by
  intro scene
  have hcontainer : ∃ part ∈ partOfText? (scene.store.getD "doc") "$.a", IsContainer part := by
    decide +kernel
  have hfirst : Stores (mappingsContext "doc" [⟨"$.a", "part"⟩]) scene "part"
      "\x7b\"x\":1.0000000000000001e-24\x7d" :=
    stores_of_partOfText? (extracts_mappingsContext _ _ (by decide)) (by decide +kernel)
  obtain ⟨part, hpart, hcontainer⟩ := hcontainer
  obtain ⟨root, hroot, hselect⟩ := partOfText?_eq_some_iff.mp hpart
  refine ⟨⟨root, part, hroot, hselect, hcontainer⟩, ?_, ?_⟩
  · exact stores_of_partOfText? (extracts_mappingsContext _ _ (by decide)) (by decide +kernel)
  · refine stores_of_partOfText? (extracts_mappingsContext _ _ (by decide)) ?_
    rw [hfirst.getD_eq]
    decide +kernel

end Flowchart.Blocks
