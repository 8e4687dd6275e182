import Flowchart.Proofs.Command.Example
import Flowchart.Proofs.Run.Execution
import Flowchart.Proofs.Variables.Store

/-!
# The order of inputs

A run is given its inputs in some order and takes all of them before its first visit, each of them
an assignment to the variable that its name gives. Different names can give the same variable, and
then the last of them counts: the inputs of a run can be given in any order exactly when they are
consistent (`ofList_append_perm_iff`), and `ignores_input_order_iff` says so of whole runs.
-/

namespace Flowchart

/-- The variables from which a run starts do not depend on the order of its inputs exactly when the
inputs are consistent. -/
theorem Trail.seed_perm_iff (w : Workflow) (inputs : List (String × String)) :
    (∀ order, inputs.Perm order → seed w order = seed w inputs) ↔ Store.Consistent inputs :=
  Store.ofList_append_perm_iff _ inputs

namespace Engine

variable {engine : Engine} {w : Workflow} {g : Graph} {request : RunRequest}
  {inputs order : List (String × String)}

/-- Inputs matter to a run only by the variables that it starts from. -/
theorem execute_congr_inputs (h : Trail.seed w order = Trail.seed w inputs)
    (engine : Engine) (request : RunRequest) :
    engine.execute w { request with inputs := order } =
      engine.execute w { request with inputs := inputs } := by
  have hscene : openingScene engine.config w { request with inputs := order } =
      openingScene engine.config w { request with inputs := inputs } := by
    unfold openingScene
    rw [h]
  simp only [execute, runGraph, hscene]

/-- The record of a run says which variables it started from. -/
theorem seed_eq_of_execute_eq (hgraph : engine.graph w = .ok g)
    (h : (engine.execute w { request with inputs := order }).1 =
      (engine.execute w { request with inputs := inputs }).1) :
    Trail.seed w order = Trail.seed w inputs := by
  obtain ⟨_, _, _, hfirst⟩ := exists_execute_eq hgraph { request with inputs := order }
  obtain ⟨_, _, _, hsecond⟩ := exists_execute_eq hgraph { request with inputs := inputs }
  rw [hfirst, hsecond] at h
  have hdata : (Trail.seed w order).snapshot = (Trail.seed w inputs).snapshot :=
    congrArg (·.record.inputData) (Except.ok.inj h)
  exact congrArg Store.mk hdata

/-- The variables from which a run starts do not depend on the order of its inputs exactly when no
two inputs give different values to one variable, and so it is with what is recorded of them.
Exactly then a run of a workflow that an engine accepts leaves the same behind in every order; of a
workflow that it refuses nothing depends on the inputs. -/
theorem ignores_input_order_iff (w : Workflow) (inputs : List (String × String)) :
    ((∀ order, inputs.Perm order → Trail.seed w order = Trail.seed w inputs) ↔
      Store.Consistent inputs) ∧
    ((∀ order, inputs.Perm order → (Trail.ofStore (Trail.seed w order)).inputData =
        (Trail.ofStore (Trail.seed w inputs)).inputData) ↔ Store.Consistent inputs) ∧
    ∀ (engine : Engine) (request : RunRequest),
      (∀ order, inputs.Perm order →
        (engine.execute w { request with inputs := order }).1 =
          (engine.execute w { request with inputs := inputs }).1) ↔
      (w.IsRunnable engine.catalog engine.registry → Store.Consistent inputs) := by
  have hseed := Trail.seed_perm_iff w inputs
  refine ⟨hseed, ?_, fun engine request => ?_⟩
  · rw [← hseed]
    exact ⟨fun hsame order hperm => congrArg Store.mk (hsame order hperm),
      fun hsame order hperm => congrArg Store.snapshot (hsame order hperm)⟩
  · rw [← hseed, ← Graph.exists_ofWorkflow_iff]
    constructor
    · rintro hsame ⟨g, hgraph⟩ order hperm
      exact seed_eq_of_execute_eq hgraph (hsame order hperm)
    · intro hruns order hperm
      cases hgraph : engine.graph w with
      | error fault => rw [execute_of_fault hgraph, execute_of_fault hgraph]
      | ok g => rw [execute_congr_inputs (hruns ⟨g, hgraph⟩ order hperm)]

/-- A workflow that ends in one of two places, as the variable `x` says. -/
def picking : Workflow :=
  let w := Workflow.empty (.ofNat 9) "Picking"
  let w := w.addBlock (Workflow.standardBlock (.ofNat 1) "Start" "Start" none)
  let w := w.addBlock (Workflow.standardBlock (.ofNat 2) "Pick" "Switch"
    (some (.object [("Expression", .string "$x")])))
  let w := w.addBlock (Workflow.standardBlock (.ofNat 3) "One" "End" none)
  let w := w.addBlock (Workflow.standardBlock (.ofNat 4) "Two" "End" none)
  let w := w.connect (.ofNat 5) (.ofNat 1) (.ofNat 2) .success
  let w := w.connectLabeled (.ofNat 6) (.ofNat 2) (.ofNat 3) "1"
  w.connectLabeled (.ofNat 7) (.ofNat 2) (.ofNat 4) "2"

/-- A run of this workflow with some inputs. -/
def pickingRun (inputs : List (String × String)) : Except GraphFault RunResult :=
  ((create (.standard {}) .standard {}).execute picking
    { (default : RunRequest) with inputs := inputs }).1

/-- Two spellings of one variable with the same value can change places. -/
theorem picking_ignores_input_order : Store.Consistent [("x", "1"), (" $x ", "1")] ∧
    pickingRun [(" $x ", "1"), ("x", "1")] = pickingRun [("x", "1"), (" $x ", "1")] := by
  have hconsistent : Store.Consistent [("x", "1"), (" $x ", "1")] := by decide +kernel
  have hruns := (ignores_input_order_iff picking [("x", "1"), (" $x ", "1")]).2.2
    (create (.standard {}) .standard {}) default
  exact ⟨hconsistent, hruns.mpr (fun _ => hconsistent) _ (.swap _ _ _)⟩

/-- The names `x` and `$x` are different texts for one variable: of two values the one that comes
last is recorded, and decides where the run ends. -/
theorem picking_depends_on_input_order :
    ([("x", "1"), ("$x", "2")].map (·.1)).Nodup ∧
    [("x", "1"), ("$x", "2")].Perm [("$x", "2"), ("x", "1")] ∧
    Trail.seed picking [("x", "1"), ("$x", "2")] = ⟨[("x", "2")]⟩ ∧
    Trail.seed picking [("$x", "2"), ("x", "1")] = ⟨[("x", "1")]⟩ ∧
    (pickingRun [("x", "1"), ("$x", "2")]).toOption.map (·.record.path) =
      some ["Start", "Pick", "Two"] ∧
    (pickingRun [("$x", "2"), ("x", "1")]).toOption.map (·.record.path) =
      some ["Start", "Pick", "One"] := by
  refine ⟨by decide +kernel, .swap _ _ _, ?_⟩
  decide +kernel

end Engine
end Flowchart
