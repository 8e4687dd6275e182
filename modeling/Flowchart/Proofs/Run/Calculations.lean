import Flowchart.Command.Example
import Flowchart.Proofs.Blocks.Calculation
import Flowchart.Proofs.Blocks.Footprint
import Flowchart.Proofs.Blocks.Loop
import Flowchart.Proofs.Run.Visits
import Flowchart.Proofs.Variables.Names

/-!
# Chains of calculations

A run may go through calculations one after another, each on numbers, on variables that hold numbers
and on what earlier ones assigned (`Calculations`). As long as none of them overflows, variables
that hold numbers go on to do so, and no calculation has to fall back on texts
(`arithmetic_stays_numeric`). One step of that is `Graph.Step.holdsNumber`.
-/

namespace Flowchart

open Blocks

/-! ## Numeric variables -/

/-- A variable holds a number. -/
def Store.HoldsNumber (s : Store) (x : String) : Prop :=
  ∃ value, s.values.get? x = some value ∧ (parseNumber value).isSome = true

/-- A token stands for a number wherever certain variables hold numbers: it is a number itself, or
refers to one of these variables. -/
def IsNumeric (names : List String) (token : String) : Prop :=
  match tokenLookups token with
  | [] => (parseNumber token).isSome = true
  | x :: _ => x ∈ names

/-- Such a token is resolved to a number. -/
theorem IsNumeric.isSome_parseNumber {names : List String} {token : String} {s : Store}
    (h : IsNumeric names token) (hs : ∀ x ∈ names, s.HoldsNumber x) :
    (parseNumber (s.resolve token)).isSome = true := by
  unfold IsNumeric tokenLookups at h
  unfold Store.resolve
  cases htrim : Text.trimList token.toList with
  | nil =>
      rw [htrim] at h
      exact h
  | cons c rest =>
      rw [htrim] at h
      by_cases hc : c = sigil
      · simp only [if_pos hc] at h ⊢
        obtain ⟨value, hvalue, hnumber⟩ := hs _ h
        rwa [Store.getD, Store.get?, hvalue]
      · simpa only [if_neg hc] using h

/-! ## Visits of calculations -/

namespace Visit

variable (v : Visit)

/-- The settings of a visited block as those of a calculation. -/
def calculation : CalculationSettings :=
  Settings.ofBlock CalculationSettings.record v.block.block

/-- The texts of the operands of a calculation. -/
def firstOperand : String := v.before.store.resolve v.calculation.firstVariable
def secondOperand : String := v.before.store.resolve v.calculation.secondVariable

/-- A visit executes a calculation with an arithmetic operation, on operands that stand for numbers
wherever certain variables hold numbers. -/
structure CalculatesOn (names : List String) (operation : Operation) : Prop where
  handler : v.block.handler = Blocks.calculation
  known : Operation.ofName? v.calculation.operation = some operation
  arithmetic : operation ≠ .concat
  first : IsNumeric names v.calculation.firstVariable
  second : IsNumeric names v.calculation.secondVariable

/-- A visited calculation overflows. -/
def Overflows : Prop :=
  ∃ operation a b, Operation.ofName? v.calculation.operation = some operation ∧
    parseNumber v.firstOperand = some a ∧ parseNumber v.secondOperand = some b ∧
    operation.Overflows a b

/-- A visited calculation computes: its operands are numbers, its result is one, and it falls back
neither on joining the operands nor on keeping the first one for not being a number. -/
structure Computes (operation : Operation) : Prop where
  first : (parseNumber v.firstOperand).isSome = true
  second : (parseNumber v.secondOperand).isSome = true
  result : (parseNumber (calculate operation v.firstOperand v.secondOperand).1).isSome = true
  not_joined : (calculate operation v.firstOperand v.secondOperand).2 ≠ some .joined
  not_firstKept : (calculate operation v.firstOperand v.secondOperand).2 ≠ some .firstKept

/-- The variable that a calculation assigns to, if it names one. -/
def outputs : List String :=
  [variableName v.calculation.resultVariable].filter (· ≠ "")

end Visit

/-- Visits of calculations one after another, on variables with certain names and on the results of
earlier ones. -/
inductive Calculations : List String → List Visit → Prop where
  | nil (names) : Calculations names []
  | cons {names operation v visits} (hv : Visit.CalculatesOn v names operation)
      (h : Calculations (v.outputs ++ names) visits) : Calculations names (v :: visits)

variable {g : Graph} {p q : Position} {v : Visit} {visits : List Visit} {names : List String}
  {operation : Operation} {x : String}

/-- A calculation assigns its result, if it names a variable for it. -/
theorem Blocks.get?_runCalculation (context : Context)
    (h : Operation.ofName? (Settings.ofBlock CalculationSettings.record context.block).operation =
      some operation) (scene : Scene) (x : String) :
    let settings := Settings.ofBlock CalculationSettings.record context.block
    (runCalculation context scene).2.store.values.get? x =
      if x = variableName settings.resultVariable ∧ x ≠ "" then
        some (calculate operation (scene.store.resolve settings.firstVariable)
          (scene.store.resolve settings.secondVariable)).1
      else scene.store.values.get? x := by
  obtain ⟨notes, hread⟩ := Settings.exists_read_eq CalculationSettings.record context scene
  revert h hread
  generalize Settings.ofBlock CalculationSettings.record context.block = settings
  intro h hread
  dsimp only
  have hset (noted : Scene) (value : String) (hstore : noted.store = scene.store) :
      (noted.set settings.resultVariable value).store.values.get? x =
        if x = variableName settings.resultVariable ∧ x ≠ "" then some value
        else scene.store.values.get? x := by
    rw [← hstore]
    exact Store.get?_set noted.store _ _ _
  have hblank (h : Text.isBlankText settings.resultVariable = true) :
      ¬ (x = variableName settings.resultVariable ∧ x ≠ "") := by
    rw [variableName_of_isBlankText h]
    exact fun hname => hname.2 hname.1
  simp only [runCalculation, hread, h]
  -- With a note or without, the result is assigned unless the name is blank.
  obtain ⟨result, note⟩ := calculate operation _ _
  cases note with
  | none =>
      simp only
      split
      case isTrue hname => rw [if_neg (hblank hname)]
      case isFalse => exact hset _ _ rfl
  | some note =>
      simp only
      split
      case isTrue hname =>
        rw [if_neg (hblank hname)]
        rfl
      case isFalse => exact hset _ _ rfl

/-- The variables after a visit of a calculation. -/
theorem Graph.Step.get?_calculation (h : g.Step p v q)
    (hhandler : v.block.handler = Blocks.calculation)
    (hoperation : Operation.ofName? v.calculation.operation = some operation) (x : String) :
    q.scene.store.values.get? x = if x ∈ v.outputs then
        some (calculate operation v.firstOperand v.secondOperand).1
      else p.scene.store.values.get? x := by
  obtain ⟨id, -, hvisit, rfl⟩ := step_iff.mp h
  have hleft : v.left = (v.block.handler.run
      ⟨v.block.block, v.block.type, g.outgoing v.block.block.id⟩ p.scene).2 :=
    congrArg Visit.left hvisit.made
  have hrun := Blocks.get?_runCalculation
    ⟨v.block.block, v.block.type, g.outgoing v.block.block.id⟩ hoperation p.scene x
  show v.left.store.values.get? x = _
  rw [hleft, hhandler, Blocks.calculation, Handler.run_named, hrun, Visit.firstOperand,
    Visit.secondOperand, hvisit.before_eq]
  refine if_congr ?_ rfl rfl
  simp only [Visit.outputs, List.mem_filter, List.mem_singleton, decide_eq_true_eq]
  exact Iff.rfl

/-- A calculation on numbers that does not overflow computes, and leaves all variables numbers that
held numbers before, and the one of its result as well. -/
theorem Graph.Step.holdsNumber (h : g.Step p v q) (hv : v.CalculatesOn names operation)
    (hnames : ∀ x ∈ names, p.scene.store.HoldsNumber x) (hoverflow : ¬ v.Overflows) :
    v.Computes operation ∧
      (∀ x, p.scene.store.HoldsNumber x → q.scene.store.HoldsNumber x) ∧
      ∀ x ∈ v.outputs, q.scene.store.HoldsNumber x := by
  have hbefore : v.before.store = p.scene.store := by rw [h.before_eq]
  rw [← hbefore] at hnames
  have hfirst : (parseNumber v.firstOperand).isSome = true := hv.first.isSome_parseNumber hnames
  have hsecond : (parseNumber v.secondOperand).isSome = true :=
    hv.second.isSome_parseNumber hnames
  obtain ⟨a, ha⟩ := Option.isSome_iff_exists.mp hfirst
  obtain ⟨b, hb⟩ := Option.isSome_iff_exists.mp hsecond
  have hresult : (parseNumber
      (calculate operation v.firstOperand v.secondOperand).1).isSome = true :=
    (isSome_parseNumber_calculate_iff hv.arithmetic ha hb).mpr fun hexact =>
      hoverflow ⟨operation, a, b, hv.known, ha, hb, hexact⟩
  have hnumbers : ¬ (parseNumber v.firstOperand = none ∨ parseNumber v.secondOperand = none) := by
    simp [ha, hb]
  have hassigned (x : String) (hx : x ∈ v.outputs) : q.scene.store.HoldsNumber x :=
    ⟨_, by rw [h.get?_calculation hv.handler hv.known, if_pos hx], hresult⟩
  refine ⟨⟨hfirst, hsecond, hresult, ?_, ?_⟩, fun x hx => ?_, hassigned⟩
  · exact fun hnote => hnumbers (calculate_note_iff.mp hnote).2
  · exact fun hnote => hnumbers (calculate_note_iff.mp hnote).2.2
  · by_cases houtput : x ∈ v.outputs
    · exact hassigned x houtput
    · obtain ⟨value, hvalue, hnumber⟩ := hx
      refine ⟨value, ?_, hnumber⟩
      rw [h.get?_calculation hv.handler hv.known, if_neg houtput, hvalue]

/-- Calculations one after another of which none overflows compute, and leave all variables numbers
that held numbers before. -/
theorem Graph.Steps.holdsNumber (h : g.Steps p visits q) (hvisits : Calculations names visits)
    (hnames : ∀ x ∈ names, p.scene.store.HoldsNumber x) (hoverflow : ∀ v ∈ visits, ¬ v.Overflows) :
    (∀ v ∈ visits, ∃ operation, Operation.ofName? v.calculation.operation = some operation ∧
      v.Computes operation) ∧
    ∀ x, p.scene.store.HoldsNumber x → q.scene.store.HoldsNumber x := by
  -- The names grow with each visit by the variable that it assigned to.
  induction hvisits generalizing p with
  | nil =>
      cases h
      exact ⟨by simp, fun _ hx => hx⟩
  | @cons names operation v visits hv _ ih =>
      cases h with
      | cons hstep hsteps =>
          rw [List.forall_mem_cons] at hoverflow
          obtain ⟨hcomputes, hkept, houtputs⟩ := hstep.holdsNumber hv hnames hoverflow.1
          obtain ⟨hrest, hkept'⟩ := ih hsteps (fun x hx => (List.mem_append.mp hx).elim
            (houtputs x) fun hx => hkept x (hnames x hx)) hoverflow.2
          rw [List.forall_mem_cons]
          exact ⟨⟨⟨operation, hv.known, hcomputes⟩, hrest⟩, fun x hx => hkept' x (hkept x hx)⟩

/-- A calculation whose result is a number does not overflow. -/
theorem Visit.not_overflows
    (hknown : Operation.ofName? v.calculation.operation = some operation)
    (hresult : (parseNumber (calculate operation v.firstOperand v.secondOperand).1).isSome = true) :
    ¬ v.Overflows := by
  rintro ⟨_, a, b, hoperation, ha, hb, hexact⟩
  obtain rfl := Option.some.inj (hknown.symm.trans hoperation)
  have harithmetic : operation ≠ .concat := by
    rintro rfl
    obtain ⟨_, hnone, -⟩ := hexact
    cases hnone
  exact (isSome_parseNumber_calculate_iff harithmetic ha hb).mp hresult hexact

/-- An arithmetic operation on two numbers gives a number just if its exact result is not too great.
So in a run that goes through calculations, each on numbers, on variables that hold numbers at the
start and on the results of earlier ones, all operands and results are numbers and none is joined to
another or kept for not being one, just if no calculation overflows. In this case no variable that
holds a number is ever made to hold anything else. -/
theorem arithmetic_stays_numeric (operation : Operation) (first second : String) {a b : Binary64}
    (harithmetic : operation ≠ .concat) (hfirst : parseNumber first = some a)
    (hsecond : parseNumber second = some b) :
    ((parseNumber (calculate operation first second).1).isSome = true ↔
      ¬ operation.Overflows a b) ∧
    ∀ (g : Graph) (p q : Position) (names : List String) (visits : List Visit),
      g.Steps p visits q → Calculations names visits →
      (∀ x ∈ names, p.scene.store.HoldsNumber x) →
      ((∀ v ∈ visits, ¬ v.Overflows) ↔ ∀ v ∈ visits, ∃ operation,
        Operation.ofName? v.calculation.operation = some operation ∧ v.Computes operation) ∧
      ((∀ v ∈ visits, ¬ v.Overflows) →
        ∀ x, p.scene.store.HoldsNumber x → q.scene.store.HoldsNumber x) := by
  constructor
  · exact isSome_parseNumber_calculate_iff harithmetic hfirst hsecond
  · intro g p q names visits hsteps hvisits hnames
    refine ⟨⟨fun hoverflow => (hsteps.holdsNumber hvisits hnames hoverflow).1, ?_⟩,
      fun hoverflow => (hsteps.holdsNumber hvisits hnames hoverflow).2⟩
    intro hcomputes v hv
    obtain ⟨operation, hknown, hv⟩ := hcomputes v hv
    exact Visit.not_overflows hknown hv.result

/-- A block that doubles what a token stands for, and assigns it to a variable. -/
def doubling (id : Identifier) (token result : String) : ResolvedBlock where
  block := Workflow.standardBlock id "Double" "Calculation" (some (.object [
    ("FirstVariable", .string token), ("Operation", .string "Multiply"),
    ("ResultVariable", .string result), ("SecondVariable", .string "2")]))
  type := default
  handler := Blocks.calculation

/-- A graph that doubles `x` to `y`, and then `y` to `z`. -/
def doublingTwice : Graph where
  blocks := [doubling (.ofNat 1) "$x" "y", doubling (.ofNat 2) "$y" "z"]
  connections := [⟨.ofNat 3, .ofNat 1, .ofNat 2, .success, none⟩]
  start := .ofNat 1

/-- Doubling a number is a calculation on numbers, which does not overflow if its result is one. -/
theorem doubling_calculates {id : Identifier} {token result value : String}
    (hblock : v.block = doubling id token result)
    (hsettings : v.calculation = ⟨"Multiply", token, "2", result⟩)
    (htoken : IsNumeric names token) (hvalue : v.before.store.resolve token = value)
    (hresult : (parseNumber (calculate .multiply value "2").1).isSome = true) :
    v.CalculatesOn names .multiply ∧ v.firstOperand = value ∧ ¬ v.Overflows := by
  have hknown : Operation.ofName? v.calculation.operation = some .multiply := by
    rw [hsettings]
    show Operation.ofName? "Multiply" = some .multiply
    decide +kernel
  have hnumeric : IsNumeric names v.calculation.secondVariable := by
    have htwo : tokenLookups "2" = [] := by decide +kernel
    rw [hsettings, IsNumeric, htwo]
    show (parseNumber "2").isSome = true
    decide +kernel
  have hfirst : v.firstOperand = value := by rw [Visit.firstOperand, hsettings, hvalue]
  have hsecond : v.secondOperand = "2" := by
    have htrim : Text.trimList "2".toList = ['2'] := by decide +kernel
    rw [Visit.secondOperand, hsettings]
    show v.before.store.resolve "2" = "2"
    rw [Store.resolve, htrim]
    exact if_neg (by decide)
  refine ⟨⟨congrArg ResolvedBlock.handler hblock, hknown, by decide, ?_, hnumeric⟩, hfirst,
    Visit.not_overflows hknown ?_⟩
  · rw [hsettings]
    exact htoken
  · rw [hfirst, hsecond]
    exact hresult

/-- A number is doubled to a number, and that one again. -/
theorem doubling_stays_numeric :
    let scene : Scene := { (default : Scene) with store := ⟨[("x", "2.5")]⟩ }
    let first := doublingTwice.visit (doubling (.ofNat 1) "$x" "y") scene
    let second := doublingTwice.visit (doubling (.ofNat 2) "$y" "z") first.after
    (∃ a b, parseNumber "2.5" = some a ∧ parseNumber "2" = some b ∧
      ¬ Operation.multiply.Overflows a b) ∧
    Calculations ["x"] [first, second] ∧ scene.store.HoldsNumber "x" ∧
      (∀ v ∈ [first, second], ¬ v.Overflows) ∧ second.firstOperand = "5" ∧
      second.after.store.HoldsNumber "x" := by
  intro scene first second
  have hfound : doublingTwice.block? (.ofNat 1) = some (doubling (.ofNat 1) "$x" "y") := rfl
  have hfound' : doublingTwice.block? (.ofNat 2) = some (doubling (.ofNat 2) "$y" "z") := rfl
  have hturn : Walk.advance doublingTwice (doubling (.ofNat 1) "$x" "y") first.result =
      .goOn (.ofNat 2) := by decide +kernel
  have hstep := Graph.step_visit hfound scene
  have hstep' := Graph.step_visit hfound' first.after
  rw [hturn] at hstep
  have hsteps : doublingTwice.Steps _ [first, second] _ := .cons hstep (.cons hstep' (.refl _))
  have hblock : first.block = doubling (.ofNat 1) "$x" "y" := Graph.block_visit ..
  have hblock' : second.block = doubling (.ofNat 2) "$y" "z" := Graph.block_visit ..
  have hsettings : first.calculation = ⟨"Multiply", "$x", "2", "y"⟩ := by
    rw [Visit.calculation, hblock]
    decide +kernel
  have hsettings' : second.calculation = ⟨"Multiply", "$y", "2", "z"⟩ := by
    rw [Visit.calculation, hblock']
    decide +kernel
  have hx : IsNumeric ["x"] "$x" := by
    have htoken : tokenLookups "$x" = ["x"] := by decide +kernel
    rw [IsNumeric, htoken]
    exact List.mem_cons_self
  -- What the first calculation assigned to is fed on to the second one.
  have hy : IsNumeric (first.outputs ++ ["x"]) "$y" := by
    have htoken : tokenLookups "$y" = ["y"] := by decide +kernel
    have houtputs : first.outputs = ["y"] := by
      rw [Visit.outputs, hsettings]
      decide +kernel
    rw [IsNumeric, htoken, houtputs]
    exact List.mem_cons_self
  have hvalue : first.before.store.resolve "$x" = "2.5" := by
    rw [hstep.before_eq]
    decide +kernel
  have hvalue' : second.before.store.resolve "$y" = "5" := by
    rw [hstep'.before_eq]
    decide +kernel
  obtain ⟨hfirst, -, hkeeps⟩ :=
    doubling_calculates hblock hsettings hx hvalue (by decide +kernel)
  obtain ⟨hsecond, hfed, hkeeps'⟩ :=
    doubling_calculates hblock' hsettings' hy hvalue' (by decide +kernel)
  have hcalculations : Calculations ["x"] [first, second] := .cons hfirst (.cons hsecond (.nil _))
  have hoverflow : ∀ v ∈ [first, second], ¬ v.Overflows :=
    List.forall_mem_cons.mpr ⟨hkeeps, List.forall_mem_singleton.mpr hkeeps'⟩
  have hnumber : scene.store.HoldsNumber "x" := ⟨"2.5", rfl, by decide +kernel⟩
  obtain ⟨a, ha⟩ := Option.isSome_iff_exists.mp
    (show (parseNumber "2.5").isSome = true by decide +kernel)
  obtain ⟨b, hb⟩ := Option.isSome_iff_exists.mp
    (show (parseNumber "2").isSome = true by decide +kernel)
  obtain ⟨hresult, hchain⟩ := arithmetic_stays_numeric .multiply "2.5" "2" (by decide) ha hb
  have hkept := (hchain _ _ _ _ _ hsteps hcalculations (by simpa using hnumber)).2 hoverflow
  exact ⟨⟨a, b, ha, hb, hresult.mp (by decide +kernel)⟩, hcalculations, hnumber, hoverflow, hfed,
    hkept "x" hnumber⟩

end Flowchart
