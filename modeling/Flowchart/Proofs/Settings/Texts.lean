import Flowchart.Proofs.Blocks.Refused
import Flowchart.Proofs.Json.Outcome
import Flowchart.Proofs.Settings.Fields

/-!
# The texts of settings

The settings of the standard handlers have text fields, which take any document (`IsText`), some of
them in the items of a list (`TextAt`). A handler works with the text of the normal form of what a
text field is given, and that is the text of what was written exactly if all names in it are in
normal form (`reads_texts_as_written_iff`).
-/

namespace Flowchart

open Json Json.Decoder

namespace Settings

open Blocks

variable {σ τ : Type} {record : Record σ} {name : String}

/-- The text fields of the settings of the standard handlers and of their items, with the parts of
the records where they are kept. -/
inductive IsText : {σ : Type} → Record σ → String → (σ → String) → Prop
  | calculation {name : String} {get : CalculationSettings → String}
      (h : (name, get) ∈ [("operation", CalculationSettings.operation),
        ("firstvariable", CalculationSettings.firstVariable),
        ("secondvariable", CalculationSettings.secondVariable),
        ("resultvariable", CalculationSettings.resultVariable)]) :
      IsText CalculationSettings.record name get
  | condition {name : String} {get : ConditionSettings → String}
      (h : (name, get) ∈ [("first", ConditionSettings.first), ("second", ConditionSettings.second),
        ("datatype", ConditionSettings.dataType), ("operator", ConditionSettings.operator)]) :
      IsText ConditionSettings.record name get
  | switch {name : String} {get : SwitchSettings → String}
      (h : (name, get) ∈ [("expression", SwitchSettings.expression)]) :
      IsText SwitchSettings.record name get
  | loop {name : String} {get : LoopSettings → String}
      (h : (name, get) ∈ [("iterations", LoopSettings.iterations),
        ("countervariable", LoopSettings.counterVariable)]) : IsText LoopSettings.record name get
  | wait {name : String} {get : WaitSettings → String}
      (h : (name, get) ∈ [("delayms", WaitSettings.delayMs),
        ("delayvariable", WaitSettings.delayVariable)]) : IsText WaitSettings.record name get
  | transform {name : String} {get : TransformSettings → String}
      (h : (name, get) ∈ [("input", TransformSettings.input),
        ("inputvariable", TransformSettings.inputVariable),
        ("operation", TransformSettings.operation),
        ("resultvariable", TransformSettings.resultVariable)]) :
      IsText TransformSettings.record name get
  | replacement {name : String} {get : ReplacementSettings → String}
      (h : (name, get) ∈ [("input", ReplacementSettings.input),
        ("inputvariable", ReplacementSettings.inputVariable),
        ("resultvariable", ReplacementSettings.resultVariable)]) :
      IsText ReplacementSettings.record name get
  | rule {name : String} {get : ReplacementRule → String}
      (h : (name, get) ∈ [("from", ReplacementRule.source), ("to", ReplacementRule.target)]) :
      IsText ReplacementRule.record name get
  | extraction {name : String} {get : ExtractionSettings → String}
      (h : (name, get) ∈ [("format", ExtractionSettings.format),
        ("sourcevariable", ExtractionSettings.sourceVariable)]) :
      IsText ExtractionSettings.record name get
  | mapping {name : String} {get : Mapping → String}
      (h : (name, get) ∈ [("path", Mapping.path), ("variable", Mapping.target)]) :
      IsText Mapping.record name get
  | request {name : String} {get : RequestSettings → String}
      (h : (name, get) ∈ [("method", RequestSettings.method), ("url", RequestSettings.url),
        ("body", RequestSettings.body), ("contenttype", RequestSettings.contentType),
        ("authtype", RequestSettings.authType), ("username", RequestSettings.username),
        ("password", RequestSettings.password), ("token", RequestSettings.token),
        ("apikeyheader", RequestSettings.apiKeyHeader), ("apikey", RequestSettings.apiKey),
        ("timeoutms", RequestSettings.timeoutMs),
        ("responsevariable", RequestSettings.responseVariable)]) :
      IsText RequestSettings.record name get
  | header {name : String} {get : HeaderSettings → String}
      (h : (name, get) ∈ [("name", HeaderSettings.name), ("value", HeaderSettings.value)]) :
      IsText HeaderSettings.record name get

/-- The fields of settings that take a list of items, with the record of an item. -/
inductive IsList : {σ τ : Type} → Record σ → String → Record τ → (σ → List τ) → Prop
  | rules : IsList ReplacementSettings.record "replacements" ReplacementRule.record (·.rules)
  | mappings : IsList ExtractionSettings.record "mappings" Mapping.record (·.mappings)
  | headers : IsList RequestSettings.record "headers" HeaderSettings.record (·.headers)

/-- A document gives a value for a text field of a record, or for one of an item in a list of it;
`get` finds the text in the record. -/
inductive TextAt : {σ : Type} → Record σ → Value → Value → (σ → Option String) → Prop
  | field {σ : Type} {record : Record σ} {name : String} {get : σ → String} {document v : Value}
      (htext : IsText record name get) (hgives : Gives record name document v) :
      TextAt record document v fun s => some (get s)
  | item {σ τ : Type} {record : Record σ} {item : Record τ} {name : String} {get : σ → List τ}
      {part : τ → Option String} {document v w : Value} {ws : List Value} {i : Nat}
      (hlist : IsList record name item get) (hgives : Gives record name document (.array ws))
      (hitem : ws[i]? = some w) (hplace : TextAt item w v part) :
      TextAt record document v fun s => (get s)[i]?.bind part

/-- A field decodes a part of a record if the field of its name sets that part and all others leave
it alone. -/
theorem decodes_of_fields {α : Type} {d : Decoder α} {get : σ → α}
    (hnodup : (record.fields.map (·.name)).Nodup)
    (hfields : ∀ f ∈ record.fields, (f.name = name ∧ f.Sets d get) ∨
      (f.name ≠ name ∧ f.Leaves get)) : record.Decodes name d get where
  nodup := hnodup
  sets f hf hname := ((hfields f hf).resolve_right fun h => h.1 hname).2
  leaves f hf hname := ((hfields f hf).resolve_left fun h => hname h.1).2

/-- The text fields of a table decode the parts that it says. -/
theorem decodes_of_table {texts : List (String × (σ → String))} {get : σ → String}
    (hnodup : (record.fields.map (·.name)).Nodup)
    (hfields : ∀ p ∈ texts, ∀ f ∈ record.fields, (f.name = p.1 ∧ f.Sets lenientText p.2) ∨
      (f.name ≠ p.1 ∧ f.Leaves p.2)) (h : (name, get) ∈ texts) :
    record.Decodes name lenientText get :=
  decodes_of_fields hnodup (hfields _ h)

/-- A text field is decoded to the text of what it is given. -/
theorem IsText.decodes {get : σ → String} (h : IsText record name get) :
    record.Decodes name lenientText get := by
  cases h
  all_goals
    refine decodes_of_table (by decide) ?_ (by assumption)
    simp only [CalculationSettings.record, ConditionSettings.record, SwitchSettings.record,
      LoopSettings.record, WaitSettings.record, TransformSettings.record,
      ReplacementSettings.record, ReplacementRule.record, ExtractionSettings.record,
      Mapping.record, RequestSettings.record, HeaderSettings.record, List.forall_mem_cons]
    and_intros
    all_goals first
      | exact Or.inl ⟨rfl, sets_defaulted fun _ _ => rfl⟩
      | exact Or.inr ⟨by decide, leaves_defaulted fun _ _ => rfl⟩
      | exact fun _ h => absurd h List.not_mem_nil

/-- A list field is decoded item by item. -/
theorem IsList.decodes {item : Record τ} {get : σ → List τ} (h : IsList record name item get) :
    record.Decodes name (list item.decoder) get := by
  cases h
  all_goals
    refine decodes_of_fields (by decide) ?_
    simp only [ReplacementSettings.record, ExtractionSettings.record, RequestSettings.record,
      List.forall_mem_cons]
    and_intros
    all_goals first
      | exact Or.inl ⟨rfl, sets_defaulted fun _ _ => rfl⟩
      | exact Or.inr ⟨by decide, leaves_defaulted fun _ _ => rfl⟩
      | exact fun _ h => absurd h List.not_mem_nil

/-- What is related to an element of a list stands in its place. -/
theorem exists_getElem?_of_forall₂ {α β : Type} {R : α → β → Prop} {as : List α} {bs : List β}
    {i : Nat} {a : α} (h : List.Forall₂ R as bs) (ha : as[i]? = some a) :
    ∃ b, bs[i]? = some b ∧ R a b := by
  induction h generalizing i with
  | nil => cases ha
  | cons hab _ ih =>
      cases i with
      | zero =>
          cases ha
          exact ⟨_, rfl, hab⟩
      | succ i => exact ih ha

/-- What a document gives for a text is in order if the document is. -/
theorem TextAt.isOrdered {document v : Value} {get : σ → Option String}
    (h : TextAt record document v get) (hordered : document.IsOrdered) : v.IsOrdered := by
  induction h with
  | field _ hgives => exact hgives.isOrdered hordered
  | item _ hgives hitem _ ih =>
      exact ih (elementsOrdered_iff.mp (hgives.isOrdered hordered) _ (List.mem_of_getElem? hitem))

/-- A text of a record is that of the normal form of what it is given. -/
theorem TextAt.get_eq {document v : Value} {get : σ → Option String} {s : σ}
    (h : TextAt record document v get)
    (hdecode : record.decoder.ofValue (normalize document) = .ok s) :
    get s = some (normalize v).scalarText := by
  induction h with
  | field htext hgives =>
      have hvalue := hgives.ofValue_eq htext.decodes hdecode
      exact congrArg some (Except.ok.inj hvalue).symm
  | @item _ _ _ item _ get part _ _ w ws i hlist hgives hitem _ ih =>
      have hitems : (ws.map normalize).mapM item.decoder.ofValue = .ok (get s) := by
        rw [← normalizeElements_eq_map]
        exact hgives.ofValue_eq hlist.decodes hdecode
      have hplace : (ws.map normalize)[i]? = some (normalize w) := by
        rw [List.getElem?_map, hitem]
        rfl
      obtain ⟨a, ha, hdecoded⟩ :=
        exists_getElem?_of_forall₂ (mapM_eq_ok_iff_forall₂.mp hitems) hplace
      show (get s)[i]?.bind part = _
      rw [ha]
      exact ih hdecoded

end Settings

namespace Blocks

open Settings

variable {limits : Limits} {h : Handler} {σ : Type} {record : Record σ} {text : String}
  {document v : Value} {get : σ → Option String}

/-- A handler is governed by what it reads in its settings, and what it reads there as a text is the
text of the normal form of what was written. That is the text of what was written, such as its
compact form with the names as they were, exactly if all names in it are in normal form. -/
theorem reads_texts_as_written_iff (hh : HasSettings limits h record)
    (hread : Value.ofText text = .ok document) (haccepted : ¬Refused record text)
    (hplace : TextAt record document v get) (context : Context) (scene : Scene) :
    Governs record h.run ∧ ∃ settings,
      read record (context.configured (some text)) scene = (settings, scene) ∧
      get settings = some (normalize v).scalarText ∧
      (get settings = some v.scalarText ↔ HasNormalNames v) := by
  cases hdecode : record.decoder.ofValue (normalize document) with
  | error fault => exact absurd (.undecodable hread hdecode) haccepted
  | ok settings =>
      have hordered := hplace.isOrdered (Value.isOrdered_of_ofText hread)
      have hget := hplace.get_eq hdecode
      have hdecoded : decode record text = .ok settings := by
        simp only [decode, hread, hdecode]
      refine ⟨hh.governs, settings, ?_, hget, ?_⟩
      · exact read_of_ok (settings?_configured (Value.isBlankText_of_ofText hread)) hdecoded
      · rw [hget, Option.some_inj]
        exact scalarText_normalize_eq_iff hordered

/-- The document that a rule has in place of the text to look for. -/
def ruleSource : Value := .object [("id", .array [.number (.integer 7), .null])]

/-- The settings of a replacement with that rule. -/
def ruleDocument : Value := .object [("Input", .string "x"),
  ("Rules", .array [.object [("From", ruleSource), ("To", .string "y")]])]

/-- A replacement looks for the document in its rule as it was written. -/
theorem replacement_reads_rule_as_written :
    Value.ofText ruleDocument.compact = .ok ruleDocument ∧
    ¬Refused ReplacementSettings.record ruleDocument.compact ∧
    TextAt ReplacementSettings.record ruleDocument ruleSource
      (fun s => s.rules[0]?.bind fun rule => some rule.source) ∧
    HasNormalNames ruleSource ∧
    Governs ReplacementSettings.record (textReplace {}).run ∧ ∃ settings,
      read ReplacementSettings.record (Context.configured default (some ruleDocument.compact))
        busyScene = (settings, busyScene) ∧
      settings.rules[0]?.bind (fun rule => some rule.source) =
        some (normalize ruleSource).scalarText ∧
      (settings.rules[0]?.bind (fun rule => some rule.source) = some ruleSource.scalarText ↔
        HasNormalNames ruleSource) := by
  have hread : Value.ofText ruleDocument.compact = .ok ruleDocument := by
    refine Value.ofText_compact ?_ ?_
    · simp only [ruleDocument, ruleSource, Value.IsOrdered, ElementsOrdered, MembersOrdered]
      decide +kernel
    · simp [ruleDocument, ruleSource, Value.Fits, ElementsFit, MembersFit, Number.IsWhole, maxWord,
        depthLimit]
  have haccepted : ¬Refused ReplacementSettings.record ruleDocument.compact := by decide +kernel
  have hplace : TextAt ReplacementSettings.record ruleDocument ruleSource
      (fun s => s.rules[0]?.bind fun rule => some rule.source) := by
    have hrules : Gives ReplacementSettings.record "replacements" ruleDocument
        (.array [.object [("From", ruleSource), ("To", .string "y")]]) :=
      .of_nodup "rules" (List.mem_cons_of_mem _ List.mem_cons_self) (by decide +kernel)
        (by decide +kernel) rfl rfl
    have hsource : Gives ReplacementRule.record "from"
        (.object [("From", ruleSource), ("To", .string "y")]) ruleSource :=
      .of_nodup "from" List.mem_cons_self (by decide +kernel) (by decide +kernel) rfl rfl
    exact .item .rules hrules rfl (.field (.rule List.mem_cons_self) hsource)
  have hnames : HasNormalNames ruleSource := by
    simp only [ruleSource, HasNormalNames, MembersHaveNormalNames, ElementsHaveNormalNames]
    decide +kernel
  exact ⟨hread, haccepted, hplace, hnames,
    reads_texts_as_written_iff .textReplace hread haccepted hplace default busyScene⟩

/-- A document whose names are not in normal form. -/
def namedInput : Value := .object [("UserName", .string "Ada"), ("user_id", .number (.integer 1))]

/-- The settings of a transformation of that document. -/
def namedDocument : Value := .object [("Input", namedInput), ("Operation", .string "trim"),
  ("ResultVariable", .string "r")]

/-- A transformation works on that document with its names changed, and so in another order, and not
on the text of what was written. -/
theorem transform_changes_names :
    namedInput.scalarText = "\x7b\"UserName\":\"Ada\",\"user_id\":1\x7d" ∧
    (textTransform.run (Context.configured default (some namedDocument.compact))
      default).2.store.get? "r" = some "\x7b\"userid\":1,\"username\":\"Ada\"\x7d" ∧
    (textTransform.run (Context.configured default (some namedDocument.compact))
      default).2.store.get? "r" ≠ some namedInput.scalarText := by
  have htext : namedInput.scalarText = "\x7b\"UserName\":\"Ada\",\"user_id\":1\x7d" := by
    decide +kernel
  have hresult : (textTransform.run (Context.configured default (some namedDocument.compact))
      default).2.store.get? "r" = some "\x7b\"userid\":1,\"username\":\"Ada\"\x7d" := by
    decide +kernel
  refine ⟨htext, hresult, ?_⟩
  rw [htext, hresult]
  decide +kernel

end Blocks
end Flowchart
