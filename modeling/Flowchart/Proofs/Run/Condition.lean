import Flowchart.Proofs.Blocks.Condition
import Flowchart.Proofs.Graph.Choice
import Flowchart.Proofs.Run.Execution

/-!
# Conditions in a run

A condition decides by its verdict alone whether a run goes on along a connection for success or
along one for errors (`Graph.Takes`). A condition that is to compare numbers fails if one of its
operands is none, and the run takes the branch for errors, unless the comparison is a question about
texts to which the answer is yes (`Graph.Step.failsClosed_iff`).
-/

namespace Flowchart

open Blocks (Asks Comparison ConditionSettings Succeeds)

namespace Visit

/-- What the handler knows of a visited block. -/
def context (g : Graph) (v : Visit) : Context := ⟨v.block.block, v.block.type, g.outgoing v.id⟩

/-- The settings of a visited condition. -/
def conditionSettings (v : Visit) : ConditionSettings :=
  Settings.ofBlock ConditionSettings.record v.block.block

/-- The operand on the left of a visited condition. -/
def leftOperand (v : Visit) : String := v.before.store.resolve v.conditionSettings.first

/-- The operand on the right of a visited condition. -/
def rightOperand (v : Visit) : String := v.before.store.resolve v.conditionSettings.second

/-- A visited condition is to compare numbers. -/
def ComparesNumbers (v : Visit) : Prop :=
  Text.equalAsciiCase (Text.trim v.conditionSettings.dataType) "number" = true

/-- An operand of a visited condition is no number. -/
def LacksNumber (v : Visit) : Prop :=
  parseNumber v.leftOperand = none ∨ parseNumber v.rightOperand = none

/-- A visited condition asks a question about texts, and the answer is yes. -/
def HoldsForTexts (v : Visit) : Prop :=
  ∃ comparison question, Comparison.ofName? v.conditionSettings.operator = some comparison ∧
    comparison.textQuestion? = some question ∧ question v.leftOperand v.rightOperand = true

end Visit

namespace Graph

/-- After a visit a run takes the branch of a kind: it goes on along a connection of that kind if
there is one, and else comes to a dead end. -/
structure Takes (g : Graph) (v : Visit) (kind : ConnectionKind) (q : Position) : Prop where
  follows : (∃ c ∈ g.outgoing v.id, c.kind = kind) →
    ∃ c ∈ g.outgoing v.id, c.kind = kind ∧ q.turn = .goOn c.target
  stranded : (∀ c ∈ g.outgoing v.id, c.kind ≠ kind) → q.turn = .stop .deadEnd

/-- A visit fails closed: its verdict is an error, and the run takes the branch for errors. -/
structure FailsClosed (g : Graph) (v : Visit) (q : Position) : Prop where
  failed : v.result.isError = true
  takes_error : g.Takes v .error q

variable {g : Graph} {p q : Position} {v : Visit}

/-- A connection fits the branch of its kind only. -/
theorem fits_ofKind_iff {kind : ConnectionKind} {c : Connection} :
    (Branch.ofKind kind).Fits c ↔ c.kind = kind := by
  constructor
  · intro h
    cases h with
    | ofKind hkind => exact hkind
  · exact .ofKind

/-- A verdict without a key takes the branch of its kind. -/
theorem Step.takes (h : g.Step p v q) (hend : v.block.isEnd = false)
    (hkey : v.result.branchKey = none) :
    g.Takes v (if v.result.isError then .error else .success) q := by
  obtain ⟨_, -, -, rfl⟩ := step_iff.mp h
  have hchoice : v.choice g = selectConnection
      (.ofKind (if v.result.isError then .error else .success)) (g.outgoing v.id) := by
    rw [Visit.choice, StepResult.desiredBranch, hkey]
  constructor
  · intro hsome
    simp only [← fits_ofKind_iff] at hsome ⊢
    obtain ⟨c, hc, hfits, hselect⟩ := exists_selectConnection_of_fits hsome
    exact ⟨c, hc, hfits, advance_of_some hend (hchoice.trans hselect)⟩
  · intro hnone
    simp only [Ne, ← fits_ofKind_iff] at hnone
    exact advance_of_none hend (hchoice.trans (selectConnection_eq_none_iff.mpr hnone))

end Graph

/-- The verdict of a condition names no branch. -/
theorem Blocks.branchKey_runCondition (context : Context) (scene : Scene) :
    (runCondition context scene).1.branchKey = none := by
  obtain ⟨notes, hread⟩ := Settings.exists_read_eq ConditionSettings.record context scene
  simp only [runCondition, hread]
  split
  · rfl
  · split <;> rfl

/-- A comparison of numbers has the answer yes, though an operand is none, just if it is a question
about texts to which the answer is yes. -/
theorem Blocks.succeeds_true_iff_of_none {comparison : Comparison} {a b : String}
    (h : parseNumber a = none ∨ parseNumber b = none) : Succeeds true comparison a b ↔
      ∃ question, comparison.textQuestion? = some question ∧ question a b = true := by
  cases hquestion : comparison.textQuestion? with
  | some question =>
      rw [Succeeds, evaluate_of_textQuestion hquestion]
      simp
  | none =>
      have hnone : ¬ Succeeds true comparison a b := by
        rw [succeeds_iff hquestion]
        rintro ⟨o, ho, -⟩
        obtain ⟨x, y, hx, hy, -⟩ := operandOrder_true_eq_some_iff.mp ho
        rcases h with h | h
        · exact absurd (hx.symm.trans h) (Option.some_ne_none x)
        · exact absurd (hy.symm.trans h) (Option.some_ne_none y)
      refine iff_of_false hnone ?_
      rintro ⟨question, hsome, -⟩
      cases hsome

namespace Graph

variable {g : Graph} {p q : Position} {v : Visit}

/-- A visited condition that is to compare numbers, but lacks one, fails just if it is not about
texts to which the answer is yes. -/
theorem Step.isError_eq_false_iff (h : g.Step p v q) (hhandler : v.block.handler = Blocks.condition)
    (hmode : v.ComparesNumbers) (hlacks : v.LacksNumber) :
    v.result.isError = false ↔ v.HoldsForTexts := by
  obtain ⟨_, -, hvisit, -⟩ := step_iff.mp h
  have hresult : v.result = (Blocks.condition.run (v.context g) v.before).1 := by
    rw [hvisit.before_eq, ← hhandler]
    exact congrArg Visit.result hvisit.made
  have hsettings : Settings.ofBlock ConditionSettings.record (v.context g).block =
      v.conditionSettings := rfl
  rw [hresult]
  cases hoperator : Comparison.ofName? v.conditionSettings.operator with
  | none =>
      have hfailed : (Blocks.condition.run (v.context g) v.before).1.isError = true :=
        Blocks.isError_condition_of_unknown (by rw [hsettings, hoperator]) v.before
      refine iff_of_false (by simp [hfailed]) ?_
      rintro ⟨comparison, question, hsome, -⟩
      exact absurd (hsome.symm.trans hoperator) (Option.some_ne_none comparison)
  | some comparison =>
      have hasks : Asks (v.context g) v.before true comparison v.leftOperand v.rightOperand := by
        constructor
        · rw [hsettings, hoperator]
        · rw [hsettings, hmode]
        · rw [hsettings, Visit.leftOperand]
        · rw [hsettings, Visit.rightOperand]
      rw [Blocks.isError_condition_iff hasks, Blocks.succeeds_true_iff_of_none hlacks]
      constructor
      · rintro ⟨question, hquestion, hyes⟩
        exact ⟨comparison, question, hoperator, hquestion, hyes⟩
      · rintro ⟨_, question, hsome, hquestion, hyes⟩
        obtain rfl := Option.some.inj (hoperator.symm.trans hsome)
        exact ⟨question, hquestion, hyes⟩

/-- Whenever a run visits a condition that is to compare numbers, with whatever operator and on
whatever scene, and one of the operands is no number, the condition fails and the run takes the
branch for errors, unless the operator names a question about texts to which the answer is yes. In
that case the condition succeeds, and the run takes the branch for success. -/
theorem Step.failsClosed_iff {catalog : Catalog} {limits : Limits} {w : Workflow}
    (hgraph : IsGraphOf catalog (.standard limits) w g) (h : g.Step p v q)
    (hname : v.block.type.isNamed "If" = true) (hmode : v.ComparesNumbers)
    (hlacks : v.LacksNumber) :
    (g.FailsClosed v q ↔ ¬ v.HoldsForTexts) ∧
      (v.HoldsForTexts → v.result.isError = false ∧ g.Takes v .success q) := by
  obtain ⟨_, -, hvisit, -⟩ := step_iff.mp h
  have hmem : Blocks.condition ∈ Blocks.standard limits := by simp [Blocks.standard]
  obtain ⟨hhandler, hend⟩ := hgraph.handler_of_isNamed h.block_mem hmem hname
  have hkey : v.result.branchKey = none := by
    rw [hvisit.made]
    show (v.block.handler.run _ p.scene).1.branchKey = none
    rw [hhandler, Blocks.condition, Handler.run_named]
    exact Blocks.branchKey_runCondition _ _
  have htakes := h.takes (hend.trans (by decide)) hkey
  have hverdict := h.isError_eq_false_iff hhandler hmode hlacks
  refine ⟨⟨fun hclosed hholds => ?_, fun hnot => ?_⟩, fun hholds => ?_⟩
  · exact absurd hclosed.failed (by rw [hverdict.mpr hholds]; exact Bool.false_ne_true)
  · have hfailed : v.result.isError = true := by
      rw [← Bool.not_eq_false, hverdict]
      exact hnot
    rw [if_pos hfailed] at htakes
    exact ⟨hfailed, htakes⟩
  · have hsuccess := hverdict.mpr hholds
    rw [hsuccess] at htakes
    exact ⟨hsuccess, htakes⟩

/-- A block that compares two texts as numbers. -/
def checkBlock (operator : String) : Block :=
  { Workflow.standardBlock (.ofNat 2) "Check" "If" (some (.object [("First", .string "abc"),
      ("Second", .string "b"), ("DataType", .string "Number"), ("Operator", .string operator)]))
    with workflowId := .ofNat 9 }

/-- A workflow that compares two texts as numbers. -/
def checking (operator : String) : Workflow :=
  let w := Workflow.empty (.ofNat 9) "Checking"
  let w := w.addBlock (Workflow.standardBlock (.ofNat 1) "Start" "Start" none)
  let w := w.addBlock (checkBlock operator)
  let w := w.addBlock (Workflow.standardBlock (.ofNat 3) "Yes" "End" none)
  let w := w.addBlock (Workflow.standardBlock (.ofNat 4) "No" "End" none)
  let w := w.connect (.ofNat 5) (.ofNat 1) (.ofNat 2) .success
  let w := w.connect (.ofNat 6) (.ofNat 2) (.ofNat 3) .success
  w.connect (.ofNat 7) (.ofNat 2) (.ofNat 4) .error

/-- A visit of the block of that workflow. -/
structure Checks (operator : String) (g : Graph) (v : Visit) : Prop where
  graph : IsGraphOf .standard (.standard {}) (checking operator) g
  named : v.block.type.isNamed "If" = true
  block : v.block.block = checkBlock operator

/-- In the graph of that workflow there is a step that visits the block. -/
theorem exists_checks (operator : String)
    (hok : (ofWorkflow .standard (.standard {}) (checking operator)).isOk = true) :
    ∃ g p v q, g.Step p v q ∧ Checks operator g v := by
  obtain ⟨g, hmade⟩ : ∃ g, ofWorkflow .standard (.standard {}) (checking operator) = .ok g := by
    cases hmade : ofWorkflow .standard (.standard {}) (checking operator) with
    | ok g => exact ⟨g, rfl⟩
    | error fault =>
        rw [hmade] at hok
        cases hok
  have hgraph := ofWorkflow_eq_ok_iff.mp hmade
  have hdeclared : (checking operator).blocks[1]? = some (checkBlock operator) := rfl
  obtain ⟨b, hb⟩ := Option.isSome_iff_exists.mp
    ((hgraph.block?_isSome_iff (.ofNat 2)).mpr ⟨_, List.mem_of_getElem? hdeclared, rfl⟩)
  have hmem := List.mem_of_find?_eq_some hb
  have hblock : b.block = checkBlock operator := by
    have hnodup : ((checking operator).blocks.map (·.id)).Nodup := by
      show [Identifier.ofNat 1, .ofNat 2, .ofNat 3, .ofNat 4].Nodup
      decide
    exact List.inj_on_of_nodup_map hnodup (hgraph.mem_blocks hmem) (List.mem_of_getElem? hdeclared)
      (id_of_block? hb)
  have htype : Catalog.standard.get? (checkBlock operator).typeId = some b.type := by
    rw [← hblock]
    exact (hgraph.fits b hmem).type
  have hname : (Catalog.standard.get? (checkBlock operator).typeId).map (·.isNamed "If") =
      some true := by
    show (Catalog.standard.get? (((Catalog.standard.byName? "If").map (·.id)).getD .nil)).map
      (·.isNamed "If") = some true
    decide +kernel
  rw [htype] at hname
  exact ⟨g, _, _, _, step_visit hb default, hgraph, Option.some.inj hname, hblock⟩

/-- The block compares two texts as numbers. -/
theorem Checks.settings {operator : String} (h : Checks operator g v)
    (hsettings : Settings.ofBlock ConditionSettings.record (checkBlock operator) =
      ⟨"abc", "b", "Number", operator⟩) :
    v.ComparesNumbers ∧ v.LacksNumber ∧ v.conditionSettings.operator = operator ∧
      v.leftOperand = "abc" ∧ v.rightOperand = "b" := by
  have hsettings : v.conditionSettings = ⟨"abc", "b", "Number", operator⟩ := by
    rw [Visit.conditionSettings, h.block, hsettings]
  -- Neither text starts as a variable does.
  have hleft : v.leftOperand = "abc" := by
    have htrim : Text.trimList "abc".toList = ['a', 'b', 'c'] := by decide +kernel
    simp only [Visit.leftOperand, hsettings, Store.resolve, htrim]
    exact if_neg (by decide)
  have hright : v.rightOperand = "b" := by
    have htrim : Text.trimList "b".toList = ['b'] := by decide +kernel
    simp only [Visit.rightOperand, hsettings, Store.resolve, htrim]
    exact if_neg (by decide)
  have hnone : parseNumber "abc" = none := by decide +kernel
  refine ⟨?_, Or.inl (hleft ▸ hnone), by rw [hsettings], hleft, hright⟩
  rw [Visit.ComparesNumbers, hsettings]
  show Text.equalAsciiCase (Text.trim "Number") "number" = true
  decide +kernel

/-- Two texts are not equal as numbers, whatever they are. -/
theorem words_fail_closed : ∃ g p v q,
    IsGraphOf .standard (.standard {}) (checking "==") g ∧ g.Step p v q ∧
      v.block.type.isNamed "If" = true ∧ v.ComparesNumbers ∧ v.LacksNumber ∧ g.FailsClosed v q := by
  obtain ⟨g, p, v, q, hstep, hchecks⟩ := exists_checks "==" (by decide +kernel)
  obtain ⟨hmode, hlacks, hoperator, -, -⟩ := hchecks.settings (by decide +kernel)
  refine ⟨g, p, v, q, hchecks.graph, hstep, hchecks.named, hmode, hlacks,
    (hstep.failsClosed_iff hchecks.graph hchecks.named hmode hlacks).1.mpr ?_⟩
  rintro ⟨comparison, question, hknown, hquestion, -⟩
  rw [hoperator] at hknown
  obtain rfl : Comparison.equals = comparison :=
    Option.some.inj (Eq.trans (by decide +kernel) hknown)
  cases hquestion

/-- A condition that is to compare numbers may succeed though neither operand is one. -/
theorem words_contained : ∃ g p v q,
    IsGraphOf .standard (.standard {}) (checking "Contains") g ∧ g.Step p v q ∧
      v.block.type.isNamed "If" = true ∧ v.ComparesNumbers ∧ v.LacksNumber ∧
      v.result.isError = false := by
  obtain ⟨g, p, v, q, hstep, hchecks⟩ := exists_checks "Contains" (by decide +kernel)
  obtain ⟨hmode, hlacks, hoperator, hleft, hright⟩ := hchecks.settings (by decide +kernel)
  have hmem : Blocks.condition ∈ Blocks.standard {} := by simp [Blocks.standard]
  obtain ⟨hhandler, -⟩ := hchecks.graph.handler_of_isNamed hstep.block_mem hmem hchecks.named
  refine ⟨g, p, v, q, hchecks.graph, hstep, hchecks.named, hmode, hlacks,
    (hstep.isError_eq_false_iff hhandler hmode hlacks).mpr ⟨.contains, Text.contains, ?_, rfl, ?_⟩⟩
  · rw [hoperator]
    decide +kernel
  · rw [hleft, hright]
    decide +kernel

end Graph
end Flowchart
