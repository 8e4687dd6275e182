import Flowchart.Proofs.Blocks.Extraction

/-!
# What the mappings of an extraction do

An extraction reads its document once, before its first mapping, and what each mapping takes out of
it (`Mapping.value?`) does not depend on the variables any more. So all that the mappings do is to
make a list of assignments (`assignments`) and a list of warnings (`foldl_applyMapping_eq`): nothing
is assigned if there is no document, and mappings to different variables can be carried out in any
order (`extraction_assigns`).

The description counts the mappings that have a value. Of these a mapping is written if its variable
has the value right after it was carried out (`written`), which fails for targets like `$` that are
not blank and name no variable (`counts_written_iff`).
-/

namespace Flowchart.Blocks

open Json (Value)

/-- The document that an extraction takes its values out of, if its format is known and its source
can be read. -/
def ExtractionSettings.document? (settings : ExtractionSettings) (store : Store) :
    Option SourceDocument := do
  let format ← Format.ofName? (Text.asciiLower (Text.trim settings.format))
  (SourceDocument.ofText format (store.getD settings.sourceVariable)).toOption

namespace Mapping

/-- The text that a mapping takes out of a document: none if its target is blank, or if its path
selects nothing. -/
def value? (document : SourceDocument) (m : Mapping) : Option String :=
  if Text.isBlankText m.target then none else document.select m.path

/-- Whether a mapping has a target that is not blank, and a path that selects nothing. -/
def isMissing (document : SourceDocument) (m : Mapping) : Bool :=
  !Text.isBlankText m.target && (document.select m.path).isNone

/-- The note that the path of a mapping was skipped. -/
def skipNote (displayName : String) (m : Mapping) : Note :=
  .warning s!"Parser '{displayName}': path '{m.path}' not found, skipped"

/-- Whether a variable has the text that a mapping takes out of a document. -/
def isHeld (document : SourceDocument) (store : Store) (m : Mapping) : Bool :=
  (m.value? document).any fun value => store.get? m.target = some value

end Mapping

/-- The assignments that mappings make, in their order. -/
def assignments (document : SourceDocument) (mappings : List Mapping) : List (String × String) :=
  mappings.filterMap fun m => (m.value? document).map (m.target, ·)

/-- The mappings whose variables have their texts right after they were carried out. -/
def written (displayName : String) (document : SourceDocument) : Scene → List Mapping → List Mapping
  | _, [] => []
  | scene, m :: rest =>
      let after := (applyMapping displayName document (0, scene) m).2
      if m.isHeld document after.store then m :: written displayName document after rest
      else written displayName document after rest

variable {document : SourceDocument} {mappings : List Mapping} {m : Mapping} {value : String}

/-! ## One mapping -/

/-- A mapping with a value counts and assigns it. -/
theorem applyMapping_of_value? (h : m.value? document = some value) (displayName : String)
    (state : Nat × Scene) :
    applyMapping displayName document state m = (state.1 + 1, state.2.set m.target value) := by
  obtain ⟨hblank, hselect⟩ := Option.ite_none_left_eq_some.mp h
  simp only [applyMapping, if_neg hblank, hselect]

/-- A mapping without a value does nothing but to warn of its path, and only if that selects
nothing. -/
theorem applyMapping_of_none (h : m.value? document = none) (displayName : String)
    (state : Nat × Scene) :
    applyMapping displayName document state m =
      if m.isMissing document then (state.1, state.2.note (m.skipNote displayName)) else state := by
  cases hblank : Text.isBlankText m.target with
  | true => simp [applyMapping, Mapping.isMissing, hblank]
  | false =>
      have hselect : document.select m.path = none := by
        rwa [Mapping.value?, hblank, if_neg Bool.false_ne_true] at h
      simp only [applyMapping, Mapping.isMissing, hblank, hselect]
      rfl

/-- A mapping with a value is not missing. -/
theorem isMissing_of_value? (h : m.value? document = some value) :
    m.isMissing document = false := by
  obtain ⟨-, hselect⟩ := Option.ite_none_left_eq_some.mp h
  simp [Mapping.isMissing, hselect]

/-- A missing mapping does nothing but to warn of its path. -/
theorem applyMapping_of_isMissing (h : m.isMissing document = true) (displayName : String)
    (state : Nat × Scene) :
    applyMapping displayName document state m =
      (state.1, state.2.note (m.skipNote displayName)) := by
  have hnone : m.value? document = none := by
    cases hvalue : m.value? document with
    | none => rfl
    | some value => cases h.symm.trans (isMissing_of_value? hvalue)
  rw [applyMapping_of_none hnone, if_pos h]

/-! ## Several mappings -/

/-- Mappings make their assignments and their warnings, both in order, and count the assignments. -/
theorem foldl_applyMapping_eq (displayName : String) (document : SourceDocument)
    (mappings : List Mapping) (state : Nat × Scene) :
    mappings.foldl (applyMapping displayName document) state =
      (state.1 + (assignments document mappings).length,
        { state.2 with
          store := (assignments document mappings).foldl
            (fun store (name, value) => store.set name value) state.2.store
          notes := state.2.notes ++
            (mappings.filter (·.isMissing document)).map (·.skipNote displayName) }) := by
  induction mappings generalizing state with
  | nil => simp [assignments]
  | cons m rest ih =>
      rw [List.foldl_cons, ih]
      cases hvalue : m.value? document with
      | some value =>
          have hcons : assignments document (m :: rest) =
              (m.target, value) :: assignments document rest :=
            List.filterMap_cons_some (congrArg (Option.map _) hvalue)
          rw [applyMapping_of_value? hvalue, hcons, List.filter_cons, isMissing_of_value? hvalue]
          simp only [List.length_cons, List.foldl_cons, Nat.add_assoc, Nat.add_comm 1]
          rfl
      | none =>
          have hcons : assignments document (m :: rest) = assignments document rest :=
            List.filterMap_cons_none (congrArg (Option.map _) hvalue)
          rw [applyMapping_of_none hvalue, hcons, List.filter_cons]
          split
          · simp [Scene.note]
          · rfl

/-- A mapping leaves what is found under names of no variable as it was. -/
theorem get?_applyMapping_of_nameless {name : String} (h : variableName name = "")
    (displayName : String) (state : Nat × Scene) :
    (applyMapping displayName document state m).2.store.get? name = state.2.store.get? name := by
  cases hvalue : m.value? document with
  | some value =>
      rw [applyMapping_of_value? hvalue]
      exact (Store.get?_set _ _ _ _).trans (if_neg fun hand => hand.2 h)
  | none =>
      rw [applyMapping_of_none hvalue]
      split <;> rfl

/-- Whether the value of a mapping is found under its target once it was assigned to it: that names
a variable, or the value was there before. -/
def Mapping.lands (document : SourceDocument) (store : Store) (m : Mapping) : Bool :=
  (m.value? document).any fun value =>
    variableName m.target ≠ "" || store.get? m.target = some value

/-- A mapping is held right after it was carried out exactly if it lands. -/
theorem isHeld_applyMapping (displayName : String) (scene : Scene) (m : Mapping) :
    m.isHeld document (applyMapping displayName document (0, scene) m).2.store =
      m.lands document scene.store := by
  cases hvalue : m.value? document with
  | none => simp [Mapping.isHeld, Mapping.lands, hvalue]
  | some value =>
      by_cases hname : variableName m.target = ""
      · simp [Mapping.isHeld, Mapping.lands, hvalue, get?_applyMapping_of_nameless hname, hname]
      · have hset : (scene.store.set m.target value).get? m.target = some value :=
          (Store.get?_set _ _ _ _).trans (if_pos ⟨rfl, hname⟩)
        rw [applyMapping_of_value? hvalue]
        simp [Mapping.isHeld, Mapping.lands, hvalue, hname, Scene.set, hset]

/-- Whether a mapping lands does not depend on the mappings before. -/
theorem lands_applyMapping (displayName : String) (scene : Scene) (m other : Mapping) :
    other.lands document (applyMapping displayName document (0, scene) m).2.store =
      other.lands document scene.store := by
  by_cases hname : variableName other.target = ""
  · simp only [Mapping.lands, get?_applyMapping_of_nameless hname]
  · simp [Mapping.lands, hname]

/-- Written are the mappings that land. -/
theorem written_eq (displayName : String) (document : SourceDocument) (scene : Scene)
    (mappings : List Mapping) :
    written displayName document scene mappings =
      mappings.filter (·.lands document scene.store) := by
  induction mappings generalizing scene with
  | nil => rfl
  | cons m rest ih =>
      simp only [written, ih, isHeld_applyMapping, lands_applyMapping, List.filter_cons]

/-- All mappings with a value are written exactly if each of them lands. -/
theorem countP_eq_length_written_iff (displayName : String) (scene : Scene) :
    mappings.countP (fun m => (m.value? document).isSome) =
        (written displayName document scene mappings).length ↔
      ∀ m ∈ mappings, ∀ value, m.value? document = some value →
        variableName m.target ≠ "" ∨ scene.store.get? m.target = some value := by
  have hfilter : mappings.filter (·.lands document scene.store) =
      (mappings.filter fun m => (m.value? document).isSome).filter
        (·.lands document scene.store) := by
    rw [List.filter_filter]
    refine List.filter_congr fun m _ => ?_
    cases hvalue : m.value? document <;> simp [Mapping.lands, hvalue]
  rw [written_eq, hfilter, List.countP_eq_length_filter, eq_comm,
    List.length_filter_eq_length_iff]
  simp only [List.mem_filter, and_imp]
  refine forall₂_congr fun m _ => ?_
  cases hvalue : m.value? document <;> simp [Mapping.lands, hvalue]

/-! ## Order -/

/-- Mappings to different variables make the same assignments in any order. -/
theorem foldl_assignments_eq_of_perm {order : List Mapping} (hperm : mappings.Perm order)
    (hnodup : ((mappings.map fun m => variableName m.target).filter (· ≠ "")).Nodup)
    (store : Store) :
    (assignments document order).foldl (fun store (name, value) => store.set name value) store =
      (assignments document mappings).foldl (fun store (name, value) => store.set name value)
        store := by
  have hconsistent : Store.Consistent (assignments document mappings) := by
    intro p hp q hq hpq hname
    obtain ⟨m, hm, hmvalue⟩ := List.mem_filterMap.mp hp
    obtain ⟨n, hn, hnvalue⟩ := List.mem_filterMap.mp hq
    obtain ⟨v, hv, rfl⟩ := Option.map_eq_some_iff.mp hmvalue
    obtain ⟨w, hw, rfl⟩ := Option.map_eq_some_iff.mp hnvalue
    rw [List.filter_map] at hnodup
    have hsame : m = n := List.inj_on_of_nodup_map hnodup
      (List.mem_filter.mpr ⟨hm, by simpa using hname⟩)
      (List.mem_filter.mpr ⟨hn, by simpa [← hpq] using hname⟩) hpq
    subst hsame
    exact Option.some.inj (hv.symm.trans hw)
  exact (hconsistent.foldl_set_eq_of_perm (hperm.filterMap _) store).symm

/-! ## The block -/

section Block

variable {context : Context} {scene noted : Scene} {settings : ExtractionSettings}

/-- There is no document if the format is not known or the source cannot be read. -/
theorem document?_eq_none_iff {store : Store} : settings.document? store = none ↔
    ∀ format, Format.ofName? (Text.asciiLower (Text.trim settings.format)) = some format →
      ∃ reason, SourceDocument.ofText format (store.getD settings.sourceVariable) =
        .error reason := by
  rw [ExtractionSettings.document?, Option.bind_eq_bind, Option.bind_eq_none_iff]
  refine forall₂_congr fun format _ => ?_
  cases SourceDocument.ofText format (store.getD settings.sourceVariable) <;>
    simp [Except.toOption]

/-- A document is one of a known format that the source was read as. -/
theorem document?_eq_some_iff {store : Store} : settings.document? store = some document ↔
    ∃ format, Format.ofName? (Text.asciiLower (Text.trim settings.format)) = some format ∧
      SourceDocument.ofText format (store.getD settings.sourceVariable) = .ok document := by
  rw [ExtractionSettings.document?, Option.bind_eq_bind, Option.bind_eq_some_iff]
  refine exists_congr fun format => and_congr_right fun _ => ?_
  cases SourceDocument.ofText format (store.getD settings.sourceVariable) <;>
    simp [Except.toOption]

/-- Without a document an extraction fails and does nothing else. -/
theorem runExtraction_of_no_document
    (hread : Settings.read ExtractionSettings.record context scene = (settings, noted))
    (h : settings.document? noted.store = none) :
    ∃ reason, runExtraction context scene = (.failure reason, noted) := by
  simp only [runExtraction, hread]
  split
  case h_1 => exact ⟨_, rfl⟩
  case h_2 format hformat =>
    obtain ⟨reason, hreason⟩ := document?_eq_none_iff.mp h format hformat
    simp only [hreason]
    exact ⟨_, rfl⟩

/-- With a document an extraction succeeds, and does what its mappings do. -/
theorem runExtraction_of_document
    (hread : Settings.read ExtractionSettings.record context scene = (settings, noted))
    (h : settings.document? noted.store = some document) :
    ∃ format, Format.ofName? (Text.asciiLower (Text.trim settings.format)) = some format ∧
      runExtraction context scene =
        (.success s!"Parser ({format.name}): mapped {(assignments document settings.mappings).length
          } of {settings.mappings.length} paths from '{settings.sourceVariable}'",
          { noted with
            store := (assignments document settings.mappings).foldl
              (fun store (name, value) => store.set name value) noted.store
            notes := noted.notes ++ (settings.mappings.filter (·.isMissing document)).map
              (·.skipNote context.displayName) }) := by
  obtain ⟨format, hformat, hdocument⟩ := document?_eq_some_iff.mp h
  refine ⟨format, hformat, ?_⟩
  simp only [runExtraction, hread, hformat, hdocument, foldl_applyMapping_eq, Nat.zero_add]

/-- If its format is not known or its source cannot be read, an extraction fails and does nothing
else. In any other case it succeeds and makes, one after the other, the assignments of the mappings
whose targets are not blank and whose paths select something in the source as it was before; of each
mapping whose path selects nothing, and whose target is not blank, it warns once, and that is all it
does with it. Mappings to different variables can be carried out in any order. -/
theorem extraction_assigns (context : Context) (scene : Scene) :
    let settings := Settings.ofBlock ExtractionSettings.record context.block
    let noted := (Settings.read ExtractionSettings.record context scene).2
    let run := runExtraction context scene
    (settings.document? scene.store = none →
      run.1.isError = true ∧ run.2 = noted ∧ noted.store = scene.store) ∧
    (∀ document, settings.document? scene.store = some document →
      run.1.isError = false ∧
      run.2 = { noted with
        store := (assignments document settings.mappings).foldl
          (fun store (name, value) => store.set name value) scene.store
        notes := noted.notes ++ (settings.mappings.filter (·.isMissing document)).map
          (·.skipNote context.displayName) } ∧
      ∀ (m : Mapping) (state : Nat × Scene), m.isMissing document = true →
        applyMapping context.displayName document state m =
          (state.1, state.2.note (m.skipNote context.displayName))) ∧
    ∀ (other : Context) (order : List Mapping),
      Settings.ofBlock ExtractionSettings.record other.block =
        { settings with mappings := order } →
      settings.mappings.Perm order →
      ((settings.mappings.map fun m => variableName m.target).filter (· ≠ "")).Nodup →
      (runExtraction other scene).2.store = run.2.store := by
  obtain ⟨notes, hread⟩ := Settings.exists_read_eq ExtractionSettings.record context scene
  rw [hread]
  generalize Settings.ofBlock ExtractionSettings.record context.block = settings at hread ⊢
  dsimp only
  refine ⟨fun h => ?_, fun document h => ?_, fun other order hother hperm hnodup => ?_⟩
  · obtain ⟨reason, hrun⟩ := runExtraction_of_no_document hread h
    rw [hrun]
    exact ⟨rfl, rfl, rfl⟩
  · obtain ⟨format, -, hrun⟩ := runExtraction_of_document hread h
    rw [hrun]
    exact ⟨rfl, rfl, fun _ state hmissing => applyMapping_of_isMissing hmissing _ state⟩
  · obtain ⟨notes', hread'⟩ := Settings.exists_read_eq ExtractionSettings.record other scene
    rw [hother] at hread'
    -- The other block has the same document, or none either.
    cases h : settings.document? scene.store with
    | none =>
        obtain ⟨_, hrun⟩ := runExtraction_of_no_document hread h
        obtain ⟨_, hrun'⟩ := runExtraction_of_no_document hread' h
        rw [hrun, hrun']
    | some document =>
        obtain ⟨_, -, hrun⟩ := runExtraction_of_document hread h
        obtain ⟨_, -, hrun'⟩ := runExtraction_of_document hread' h
        rw [hrun, hrun']
        exact foldl_assignments_eq_of_perm hperm hnodup scene.store

end Block

/-- A document with two members. -/
def pairDocument : Value := .object [("a", .number (.integer 1)), ("b", .number (.integer 2))]

/-- A scene in which a variable has that document. -/
def pairScene : Scene := sceneOf "doc" pairDocument.compact

/-- A mapping to the source itself, one to another variable, and one of a path that selects
nothing. -/
def overwriting : List Mapping := [⟨"$.a", "$doc"⟩, ⟨"$.b", "x"⟩, ⟨"$.c", "y"⟩]

theorem ofText_pairDocument : Value.ofText pairDocument.compact = .ok pairDocument := by
  refine Value.ofText_compact ?_ ?_
  · simp only [pairDocument, Value.IsOrdered, Json.MembersOrdered, and_true]
    exact List.pairwise_pair.mpr (by decide)
  · simp [pairDocument, Value.Fits, Json.MembersFit, Json.Number.IsWhole, Json.maxWord,
      Json.depthLimit]

/-- An extraction from the variable with that document finds it. -/
theorem document?_pairScene (mappings : List Mapping) :
    ExtractionSettings.document? { sourceVariable := "doc", mappings } pairScene.store =
      some (.json pairDocument) := by
  have hsource : pairScene.store.getD "doc" = pairDocument.compact := by decide
  have hformat : Format.ofName? (Text.asciiLower (Text.trim "")) = some .json := by decide
  refine document?_eq_some_iff.mpr ⟨.json, hformat, ?_⟩
  simp only [hsource, SourceDocument.ofText, ofText_pairDocument]
  rfl

/-- The second mapping takes its text out of the source as it was before the first one overwrote it,
and of the third one there is one warning. In another order the mappings do the same. -/
theorem overwriting_assigns :
    let context := mappingsContext "doc" overwriting
    let other := mappingsContext "doc" overwriting.reverse
    (runExtraction context pairScene).2.store = (pairScene.store.set "$doc" "1").set "x" "2" ∧
    (runExtraction context pairScene).2.notes =
      [.warning "Parser '': path '$.c' not found, skipped"] ∧
    overwriting.Perm overwriting.reverse ∧
    ((overwriting.map fun m => variableName m.target).filter (· ≠ "")).Nodup ∧
    (runExtraction other pairScene).2.store = (runExtraction context pairScene).2.store := by
  intro context other
  have hread : Settings.read ExtractionSettings.record context pairScene =
      ({ sourceVariable := "doc", mappings := overwriting }, pairScene) := read_mappingsContext ..
  have hsettings : Settings.ofBlock ExtractionSettings.record context.block =
      { sourceVariable := "doc", mappings := overwriting } := ofBlock_mappingsContext ..
  have hother : Settings.ofBlock ExtractionSettings.record other.block =
      { sourceVariable := "doc", mappings := overwriting.reverse } := ofBlock_mappingsContext ..
  have hassigned : assignments (.json pairDocument) overwriting = [("$doc", "1"), ("x", "2")] := by
    decide +kernel
  have hmissing : overwriting.filter (·.isMissing (.json pairDocument)) = [⟨"$.c", "y"⟩] := by
    decide +kernel
  have hperm : overwriting.Perm overwriting.reverse := (List.reverse_perm _).symm
  have hnodup : ((overwriting.map fun m => variableName m.target).filter (· ≠ "")).Nodup := by
    decide +kernel
  obtain ⟨-, hassigns, horder⟩ := extraction_assigns context pairScene
  rw [hsettings, hread] at hassigns
  rw [hsettings] at horder
  obtain ⟨-, hrun, -⟩ := hassigns _ (document?_pairScene overwriting)
  refine ⟨?_, ?_, hperm, hnodup, horder other overwriting.reverse hother hperm hnodup⟩
  · simp only [hrun, hassigned, List.foldl_cons, List.foldl_nil]
  · simp only [hrun, hmissing]
    decide +kernel

/-- The description of an extraction counts the mappings with a value. So many are written exactly
if all of them have targets that name a variable, but for values that were there before. -/
theorem counts_written_iff (context : Context) (scene : Scene) (document : SourceDocument) :
    let settings := Settings.ofBlock ExtractionSettings.record context.block
    let noted := (Settings.read ExtractionSettings.record context scene).2
    let source := settings.sourceVariable
    let count := settings.mappings.length
    settings.document? scene.store = some document →
      ∃ format mapped, Format.ofName? (Text.asciiLower (Text.trim settings.format)) = some format ∧
        (runExtraction context scene).1 =
          .success s!"Parser ({format.name}): mapped {mapped} of {count} paths from '{source}'" ∧
        mapped = settings.mappings.countP (fun m => (m.value? document).isSome) ∧
        (mapped = (written context.displayName document noted settings.mappings).length ↔
          ∀ m ∈ settings.mappings, ∀ value, m.value? document = some value →
            variableName m.target ≠ "" ∨ scene.store.get? m.target = some value) := by
  obtain ⟨notes, hread⟩ := Settings.exists_read_eq ExtractionSettings.record context scene
  rw [hread]
  generalize Settings.ofBlock ExtractionSettings.record context.block = settings at hread ⊢
  intro settings noted source count h
  obtain ⟨format, hformat, hrun⟩ := runExtraction_of_document hread h
  have hcount : (assignments document settings.mappings).length =
      settings.mappings.countP fun m => (m.value? document).isSome := by
    rw [assignments, List.length_filterMap_eq_countP]
    exact List.countP_congr fun m _ => by simp
  refine ⟨format, _, hformat, congrArg Prod.fst hrun, hcount, ?_⟩
  rw [hcount]
  exact countP_eq_length_written_iff context.displayName _

/-- All targets name variables. Two of the three mappings have values, so many are counted, and so
many are written. -/
theorem overwriting_counts_written :
    let context := mappingsContext "doc" overwriting
    ExtractionSettings.document? { sourceVariable := "doc", mappings := overwriting }
      pairScene.store = some (.json pairDocument) ∧
    (∀ m ∈ overwriting, variableName m.target ≠ "") ∧
    (runExtraction context pairScene).1 =
      .success "Parser (json): mapped 2 of 3 paths from 'doc'" ∧
    2 = (written context.displayName (.json pairDocument) pairScene overwriting).length := by
  intro context
  have hread : Settings.read ExtractionSettings.record context pairScene =
      ({ sourceVariable := "doc", mappings := overwriting }, pairScene) := read_mappingsContext ..
  have hsettings : Settings.ofBlock ExtractionSettings.record context.block =
      { sourceVariable := "doc", mappings := overwriting } := ofBlock_mappingsContext ..
  have hnames : ∀ m ∈ overwriting, variableName m.target ≠ "" := by decide +kernel
  have htwo : overwriting.countP (fun m => (m.value? (.json pairDocument)).isSome) = 2 := by
    decide +kernel
  have hcounts := counts_written_iff context pairScene (.json pairDocument)
  rw [hread] at hcounts
  simp only [hsettings, htwo] at hcounts
  obtain ⟨format, _, hformat, hrun, rfl, hwritten⟩ := hcounts (document?_pairScene overwriting)
  obtain rfl : Format.json = format := Option.some.inj hformat
  refine ⟨document?_pairScene overwriting, hnames, ?_, ?_⟩
  · rw [hrun]
    decide +kernel
  · exact hwritten.mpr fun m hm _ _ => Or.inl (hnames m hm)

/-- The target `$` is not blank, but names no variable: the mapping is counted, and nothing is
written. -/
theorem sigil_counts_unwritten :
    let context := mappingsContext "doc" [⟨"$.a", "$"⟩]
    (runExtraction context pairScene).1 =
      .success "Parser (json): mapped 1 of 1 paths from 'doc'" ∧
    (runExtraction context pairScene).2.store = pairScene.store ∧
    (runExtraction context pairScene).2.store.get? "$" = none ∧
    written "" (.json pairDocument) pairScene [⟨"$.a", "$"⟩] = [] := by
  intro context
  have hread : Settings.read ExtractionSettings.record context pairScene =
      ({ sourceVariable := "doc", mappings := [⟨"$.a", "$"⟩] }, pairScene) :=
    read_mappingsContext ..
  have hassigned : assignments (.json pairDocument) [⟨"$.a", "$"⟩] = [("$", "1")] := by
    decide +kernel
  have hset : pairScene.store.set "$" "1" = pairScene.store := if_pos (by decide)
  have hnone : pairScene.store.get? "$" = none := by decide +kernel
  have hwritten : written "" (.json pairDocument) pairScene [⟨"$.a", "$"⟩] = [] := by
    decide +kernel
  obtain ⟨format, hformat, hrun⟩ := runExtraction_of_document hread (document?_pairScene _)
  obtain rfl : Format.json = format := Option.some.inj hformat
  simp only [hassigned, List.foldl_cons, List.foldl_nil, hset] at hrun
  rw [hrun]
  exact ⟨by decide +kernel, rfl, hnone, hwritten⟩

end Flowchart.Blocks
