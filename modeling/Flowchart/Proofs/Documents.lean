import Flowchart.Event.Basic
import Flowchart.Proofs.Identifier
import Flowchart.Proofs.Json.Thinned
import Flowchart.Schedule

/-!
# Values are read back from their documents

Workflows, schedules, verdicts, records of runs and events are read back from the text of their
documents, also if members that hold their default were left out of it
(`documents_read_back`). For each type the fields lead through the members of its document in order.
-/

namespace Flowchart

open Json Json.Decoder

variable {omissible : List (String × Value)}

/-! ## Identifiers, instants and texts -/

/-- An identifier is restored from its written form. -/
theorem Identifier.recovers (id : Identifier) :
    Identifier.decoder.Recovers omissible 1 id.toJson id := by
  refine (restores_parsed ?_ _).recovers True.intro
  rw [Identifier.parse_text]

/-- The nil identifier is what its written form stands for. -/
theorem Identifier.ofValue_nil :
    Identifier.decoder.ofValue Identifier.nil.toJson = .ok Identifier.nil := by
  have hnil : Identifier.decoder.Recovers [] 1 _ Identifier.nil := Identifier.recovers .nil
  exact hnil.restores.ofValue

/-- An instant is read as itself from its written form. -/
def Instant.ReadsBack (t : Instant) : Prop := Instant.parse t.text = .ok t

/-- An instant that is read back is restored from its written form. -/
theorem Instant.ReadsBack.restores {t : Instant} (h : t.ReadsBack) :
    Instant.decoder.Restores 1 t.toJson t := by
  refine restores_parsed ?_ _
  rw [h]

/-- A text that may be missing is restored. -/
theorem recovers_optionalText (s : Option String) :
    Decoder.string.option.Recovers omissible 1 (.ofOptionalText s) s := by
  cases s with
  | none => exact (restores_none _).recovers True.intro
  | some s => exact (restores_string s).some.recovers True.intro

/-- A text is restored. -/
theorem recovers_text (s : String) : Decoder.string.Recovers omissible 1 (.string s) s :=
  (restores_string s).recovers True.intro

/-! ## Workflows -/

/-- The members of workflows and of their parts that may be left out, with their defaults. -/
def Workflow.defaults : List (String × Value) := [
  ("description", .null),
  ("blocks", .array []),
  ("connections", .array []),
  ("variables", .array []),
  ("workflow_id", Identifier.nil.toJson),
  ("json_config", .null),
  ("label", .null),
  ("default_value", .null)]

/-- A kind of connection is restored from its name. -/
theorem ConnectionKind.recovers (k : ConnectionKind) :
    ConnectionKind.decoder.Recovers omissible 1 k.toJson k := by
  refine (restores_enumeration ?_).recovers True.intro
  cases k <;> rfl

/-- A connection is recovered from its document. -/
theorem Connection.recovers (c : Connection) :
    Connection.decoder.Recovers Workflow.defaults 2 c.toJson c := by
  refine Record.Rebuilds.recovers ?_ (by decide) (by decide) le_rfl
  exact .required (Identifier.recovers c.id) le_rfl rfl <|
    .required (Identifier.recovers c.source) le_rfl rfl <|
    .required (Identifier.recovers c.target) le_rfl rfl <|
    .required (ConnectionKind.recovers c.kind) le_rfl rfl <|
    -- The label has a default, which is decoded to what the connection holds so far.
    .defaulted (recovers_optionalText c.label) le_rfl rfl rfl rfl <|
    .nil c

/-- A block is recovered from its document. -/
theorem Block.recovers (b : Block) : Block.decoder.Recovers Workflow.defaults 2 b.toJson b := by
  refine Record.Rebuilds.recovers ?_ (by decide) (by decide) le_rfl
  exact .required (Identifier.recovers b.id) le_rfl rfl <|
    .required (recovers_text b.name) le_rfl rfl <|
    .defaulted (Identifier.recovers b.workflowId) le_rfl rfl Identifier.ofValue_nil rfl <|
    .required (Identifier.recovers b.typeId) le_rfl rfl <|
    .defaulted (recovers_optionalText b.config) le_rfl rfl rfl rfl <|
    .nil b

/-- A variable is recovered from its document. -/
theorem Variable.recovers (x : Variable) :
    Variable.decoder.Recovers Workflow.defaults 2 x.toJson x := by
  refine Record.Rebuilds.recovers ?_ (by decide) (by decide) le_rfl
  exact .required (Identifier.recovers x.id) le_rfl rfl <|
    .required (recovers_text x.name) le_rfl rfl <|
    .defaulted (recovers_optionalText x.initial) le_rfl rfl rfl rfl <|
    .defaulted (Identifier.recovers x.workflowId) le_rfl rfl Identifier.ofValue_nil rfl <|
    .nil x

/-- A workflow is recovered from its document. -/
theorem Workflow.recovers (w : Workflow) :
    Workflow.decoder.Recovers Workflow.defaults 4 w.toJson w := by
  have hblocks : Block.decoder.list.Recovers defaults 3 _ w.blocks :=
    recovers_list (fun b _ => Block.recovers b) (by decide)
  have hconnections : Connection.decoder.list.Recovers defaults 3 _ w.connections :=
    recovers_list (fun c _ => Connection.recovers c) (by decide)
  have hvars : Variable.decoder.list.Recovers defaults 3 _ w.vars :=
    recovers_list (fun x _ => Variable.recovers x) (by decide)
  refine Record.Rebuilds.recovers ?_ (by decide) (by decide) (by decide)
  exact .required (Identifier.recovers w.id) (by decide) rfl <|
    .required (recovers_text w.name) (by decide) rfl <|
    .defaulted (recovers_optionalText w.description) (by decide) rfl rfl rfl <|
    .defaulted hblocks le_rfl rfl rfl rfl <|
    .defaulted hconnections le_rfl rfl rfl rfl <|
    .defaulted hvars le_rfl rfl rfl rfl <|
    .nil w

/-! ## Schedules and verdicts -/

/-- A trigger is restored from its name. -/
theorem Trigger.recovers (k : Trigger) :
    Trigger.decoder.Recovers omissible 1 k.toJson k := by
  cases k <;> exact (restores_enumeration rfl).recovers True.intro

namespace Schedule

/-- The members of schedules that may be left out, with their defaults. -/
def defaults : List (String × Value) := [
  ("interval_minutes", .ofInt 0),
  ("last_run_at", .null),
  ("enabled", .bool true)]

/-- The times of a schedule are read back, and its interval has 64 bits. -/
structure IsStorable (s : Schedule) : Prop where
  startAt : s.startAt.ReadsBack
  lastRunAt : ∀ t ∈ s.lastRunAt, t.ReadsBack
  low : -0x8000000000000000 ≤ s.intervalMinutes
  high : s.intervalMinutes ≤ 0x7FFFFFFFFFFFFFFF

/-- A time that may be missing is restored. -/
theorem recovers_time {t : Option Instant} (h : ∀ u ∈ t, u.ReadsBack) :
    Instant.decoder.option.Recovers omissible 1 (timeToJson t) t := by
  cases t with
  | none => exact (restores_none _).recovers True.intro
  | some t => exact (h t rfl).restores.some.recovers True.intro

/-- A schedule is recovered from its document. -/
theorem recovers {s : Schedule} (h : s.IsStorable) : decoder.Recovers defaults 2 s.toJson s := by
  have hinterval : signedWord.Recovers defaults 1 _ s.intervalMinutes :=
    (restores_signedWord h.low h.high).recovers True.intro
  refine Record.Rebuilds.recovers ?_ (by decide) (by decide) le_rfl
  exact .required (Trigger.recovers s.trigger) le_rfl rfl <|
    .required (h.startAt.restores.recovers True.intro) le_rfl rfl <|
    .defaulted hinterval le_rfl rfl rfl rfl <|
    .defaulted (recovers_time h.lastRunAt) le_rfl rfl rfl rfl <|
    .defaulted ((restores_bool s.enabled).recovers True.intro) le_rfl rfl rfl rfl <|
    .nil s

end Schedule

/-- The member of verdicts that may be left out, with its default. -/
def StepResult.defaults : List (String × Value) := [("branch_key", .null)]

/-- A verdict is recovered from its document. -/
theorem StepResult.recovers (r : StepResult) :
    StepResult.decoder.Recovers StepResult.defaults 2 r.toJson r := by
  refine Record.Rebuilds.recovers ?_ (by decide) (by decide) le_rfl
  exact .required ((restores_bool r.isError).recovers True.intro) le_rfl rfl <|
    .required (recovers_text r.description) le_rfl rfl <|
    .omissible rfl rfl (recovers_optionalText r.branchKey) le_rfl rfl rfl rfl <|
    .nil r

/-! ## Records of runs -/

/-- An outcome is restored from its name. -/
theorem Outcome.restores (o : Outcome) : Outcome.decoder.Restores 1 o.toJson o := by
  cases o <;> exact restores_enumeration rfl

/-- A list of texts is restored. -/
theorem restores_texts (texts : List String) :
    Decoder.string.list.Restores 2 (.array (texts.map .string)) texts := by
  have hlist : Decoder.string.list.Recovers [] 2 _ texts :=
    recovers_list (fun s _ => recovers_text s) le_rfl
  exact hlist.restores

/-- A dictionary of texts in order is restored. -/
theorem restores_textsToJson {texts : Dictionary String} (h : texts.Sorted) :
    (dictionary Decoder.string).Restores 2 (textsToJson texts) texts :=
  restores_dictionary h (fun p _ => restores_string p.2) le_rfl

namespace RunRecord

/-- The time of a record is read back, its variables are in order and its steps have 64 bits. -/
structure IsStorable (r : RunRecord) : Prop where
  executedAt : r.executedAt.ReadsBack
  inputData : r.inputData.Sorted
  resultData : r.resultData.Sorted
  steps : r.steps ≤ maxWord

/-- A record of a run is restored from its document. -/
theorem restores {r : RunRecord} (h : r.IsStorable) : decoder.Restores 3 r.toJson r := by
  have hmembers : Record.Rebuilds [] 2 record.fields _ record.start r :=
    .required (Identifier.recovers r.id) (by decide) rfl <|
    .required (Identifier.recovers r.workflowId) (by decide) rfl <|
    .required h.executedAt.restores.recovers_whole (by decide) rfl <|
    .required (restores_textsToJson h.inputData).recovers_whole le_rfl rfl <|
    .required (restores_textsToJson h.resultData).recovers_whole le_rfl rfl <|
    .required (restores_texts r.path).recovers_whole le_rfl rfl <|
    .required (restores_texts r.actions).recovers_whole le_rfl rfl <|
    .required (Outcome.restores r.outcome).recovers_whole (by decide) rfl <|
    .required (restores_bool r.truncated).recovers_whole (by decide) rfl <|
    .required (restores_word h.steps _).recovers_whole (by decide) rfl <|
    .nil r
  have hrecovers : decoder.Recovers [] 3 r.toJson r :=
    hmembers.recovers (by decide) (by decide) (by decide)
  exact hrecovers.restores

end RunRecord

/-! ## Events -/

/-- A note is restored from its document. -/
theorem Note.restores (note : Note) : Note.decoder.Restores 2 note.toJson note := by
  cases note with
  | info message =>
      refine Tagged.restores_rebuilt rfl ?_ rfl (by decide) (by decide) le_rfl
      exact .required (recovers_text message) le_rfl rfl (.nil message)
  | warning message =>
      refine Tagged.restores_rebuilt rfl ?_ rfl (by decide) (by decide) le_rfl
      exact .required (recovers_text message) le_rfl rfl (.nil message)

namespace Event

/-- The time of an event is read back, and its numbers have 64 bits. -/
def IsStorable : Event → Prop
  | .runStarted _ _ time => time.ReadsBack
  | .runCompleted _ _ steps durationMs time =>
      time.ReadsBack ∧ steps ≤ maxWord ∧ durationMs ≤ maxWord
  | .blockStarted _ _ _ _ time => time.ReadsBack
  | .blockCompleted _ _ _ _ durationMs time => time.ReadsBack ∧ durationMs ≤ maxWord
  | .noted _ _ _ time => time.ReadsBack

/-- An event is restored from its document. -/
theorem restores {e : Event} (h : e.IsStorable) : decoder.Restores 3 e.toJson e := by
  cases e with
  | runStarted run workflow time =>
      let fields : Fields := { (default : Fields) with run, other := workflow, time }
      refine Tagged.restores_rebuilt (s := fields) rfl ?_ rfl (by decide) (by decide) (by decide)
      exact .required (Identifier.recovers run) (by decide) rfl <|
        .required (Identifier.recovers workflow) (by decide) rfl <|
        .required h.restores.recovers_whole (by decide) rfl <|
        .nil fields
  | runCompleted run outcome steps durationMs time =>
      obtain ⟨htime, hsteps, hduration⟩ := h
      let fields : Fields := { (default : Fields) with run, outcome, steps, durationMs, time }
      refine Tagged.restores_rebuilt (s := fields) rfl ?_ rfl (by decide) (by decide) (by decide)
      exact .required (Identifier.recovers run) (by decide) rfl <|
        .required (Outcome.restores outcome).recovers_whole (by decide) rfl <|
        .required (restores_word hsteps _).recovers_whole (by decide) rfl <|
        .required (restores_word hduration _).recovers_whole (by decide) rfl <|
        .required htime.restores.recovers_whole (by decide) rfl <|
        .nil fields
  | blockStarted run block name type time =>
      let fields : Fields :=
        { (default : Fields) with run, other := block, text := name, type, time }
      refine Tagged.restores_rebuilt (s := fields) rfl ?_ rfl (by decide) (by decide) (by decide)
      exact .required (Identifier.recovers run) (by decide) rfl <|
        .required (Identifier.recovers block) (by decide) rfl <|
        .required (recovers_text name) (by decide) rfl <|
        .required (recovers_text type) (by decide) rfl <|
        .required h.restores.recovers_whole (by decide) rfl <|
        .nil fields
  | blockCompleted run block description isError durationMs time =>
      obtain ⟨htime, hduration⟩ := h
      let fields : Fields :=
        { (default : Fields) with
          run, other := block, text := description, isError, durationMs, time }
      refine Tagged.restores_rebuilt (s := fields) rfl ?_ rfl (by decide) (by decide) (by decide)
      exact .required (Identifier.recovers run) (by decide) rfl <|
        .required (Identifier.recovers block) (by decide) rfl <|
        .required (recovers_text description) (by decide) rfl <|
        .required (restores_bool isError).recovers_whole (by decide) rfl <|
        .required (restores_word hduration _).recovers_whole (by decide) rfl <|
        .required htime.restores.recovers_whole (by decide) rfl <|
        .nil fields
  | noted run block note time =>
      let fields : Fields := { (default : Fields) with run, other := block, note, time }
      refine Tagged.restores_rebuilt (s := fields) rfl ?_ rfl (by decide) (by decide) (by decide)
      exact .required (Identifier.recovers run) (by decide) rfl <|
        .required (Identifier.recovers block) (by decide) rfl <|
        .required (Note.restores note).recovers_whole le_rfl rfl <|
        .required h.restores.recovers_whole (by decide) rfl <|
        .nil fields

end Event

/-! ## All documents -/

/-- Workflows, schedules and verdicts are read back from their documents, whichever of the members
that hold their default are left out, at whatever depth and be it none of them. Records of runs and
events are read back from theirs. -/
theorem documents_read_back :
    (∀ (w : Workflow) (v : Value), Thinned Workflow.defaults w.toJson v →
      Workflow.decoder.ofText v.compact = .ok w) ∧
    (∀ (s : Schedule) (v : Value), s.IsStorable → Thinned Schedule.defaults s.toJson v →
      Schedule.decoder.ofText v.compact = .ok s) ∧
    (∀ (r : StepResult) (v : Value), Thinned StepResult.defaults r.toJson v →
      StepResult.decoder.ofText v.compact = .ok r) ∧
    (∀ r : RunRecord, r.IsStorable → RunRecord.decoder.ofText r.toJson.compact = .ok r) ∧
    (∀ e : Event, e.IsStorable → Event.decoder.ofText e.toJson.compact = .ok e) := by
  refine ⟨fun w v hthinned => ?_, fun s v hs hthinned => ?_, fun r v hthinned => ?_,
    fun r hr => ?_, fun e he => ?_⟩
  · exact (Workflow.recovers w hthinned).ofText (by decide)
  · exact (Schedule.recovers hs hthinned).ofText (by decide)
  · exact (StepResult.recovers r hthinned).ofText (by decide)
  · exact (RunRecord.restores hr).ofText (by decide)
  · exact (Event.restores he).ofText (by decide)

/-- A workflow with one block, both without anything that may be left out. -/
def Workflow.bare : Workflow :=
  { empty (.ofNat 1) "bare" with blocks := [⟨.ofNat 2, "start", .nil, .ofNat 3, none⟩] }

/-- The document of the workflow without anything that may be left out. -/
def Workflow.bareDocument : Value := .object [
  ("id", (Identifier.ofNat 1).toJson),
  ("name", .string "bare"),
  ("blocks", .array [.object [
    ("id", (Identifier.ofNat 2).toJson),
    ("name", .string "start"),
    ("system_block_id", (Identifier.ofNat 3).toJson)]])]

/-- A schedule, a verdict, a record and an event are read back like the bare workflow. -/
theorem bare_documents_read_back :
    let start : Instant := ⟨19783, 32400, 0⟩
    let record : RunRecord :=
      ⟨.ofNat 4, .ofNat 1, start, [("n", "1")], [("n", "\n")], ["start"], [], .deadEnd, false, 1⟩
    let event : Event := .noted (.ofNat 4) (.ofNat 2) (.warning "é") start
    Workflow.decoder.ofText Workflow.bareDocument.compact = .ok .bare ∧
    Schedule.decoder.ofText (Value.object [("trigger_type", .string "Daily"),
      ("start_at", start.toJson)]).compact = .ok (.create .daily start 0) ∧
    StepResult.decoder.ofText (Value.object [("is_error", .bool true),
      ("description", .string "no")]).compact = .ok (.failure "no") ∧
    RunRecord.decoder.ofText record.toJson.compact = .ok record ∧
    Event.decoder.ofText event.toJson.compact = .ok event := by
  obtain ⟨hworkflow, hschedule, hverdict, hrecord, hevent⟩ := documents_read_back
  have hstart : Instant.ReadsBack ⟨19783, 32400, 0⟩ := by rfl
  have hblock : Thinned Workflow.defaults
      (Block.toJson ⟨.ofNat 2, "start", .nil, .ofNat 3, none⟩) _ :=
    .object (.keep (.refl _ _) (.keep (.refl _ _) (.leave rfl (.keep (.refl _ _)
      (.leave rfl .nil)))))
  refine ⟨hworkflow .bare _ ?_, hschedule (.create .daily _ 0) _ ?_ ?_,
    hverdict (.failure "no") _ ?_, hrecord _ ?_, hevent _ hstart⟩
  · exact .object (.keep (.refl _ _) (.keep (.refl _ _) (.leave rfl
      (.keep (.array (.cons hblock .nil)) (.leave rfl (.leave rfl .nil))))))
  · exact {
      startAt := hstart
      lastRunAt := fun _ h => nomatch h
      low := by decide
      high := by decide }
  · exact .object (.keep (.refl _ _) (.keep (.refl _ _)
      (.leave rfl (.leave rfl (.leave rfl .nil)))))
  · exact .object (.keep (.refl _ _) (.keep (.refl _ _) (.leave rfl .nil)))
  · exact ⟨hstart, by decide, by decide, by decide⟩

end Flowchart
