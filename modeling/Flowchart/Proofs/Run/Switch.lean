import Flowchart.Command.Example
import Flowchart.Proofs.Blocks.Footprint
import Flowchart.Proofs.Blocks.Loop
import Flowchart.Proofs.Graph.Choice
import Flowchart.Proofs.Run.Execution
import Flowchart.Proofs.Text.Blank

/-!
# Switches in a run

A switch is decided twice: its handler looks for a connection that is labelled with the value, and
names a branch; then the connection to follow is chosen for that branch. Both look for the same
labels (`Context.hasBranch_iff`). So a run goes on from a switch along a connection that is labelled
with the value, or else along one labelled `default`, and comes to a dead end if there is neither
(`Graph.Step.switches`), whatever the kinds of the connections.
-/

namespace Flowchart

open Blocks (defaultCase)

/-! ## Labels -/

/-- A connection has a label that is equal to a text, but for blanks around both and the case of
ASCII letters. -/
def Connection.HasLabel (c : Connection) (text : String) : Prop :=
  ∃ label, c.label = some label ∧ Text.equalAsciiCase (Text.trim label) (Text.trim text) = true

/-- A connection is a case for a value that is not blank if it has the value as its label. -/
def Connection.IsCase (c : Connection) (value : String) : Prop :=
  Text.isBlankText value = false ∧ c.HasLabel value

/-- The connections that fit a key are the cases for it. -/
theorem Branch.fits_labeled_iff {key : String} {c : Connection} :
    (Branch.labeled key).Fits c ↔ c.IsCase key := by
  constructor
  · intro h
    cases h with
    | labeled hlabel hblank hkey =>
        exact ⟨(Text.isBlankText_congr hkey).symm.trans hblank, _, hlabel, hkey⟩
  · rintro ⟨hblank, label, hlabel, hkey⟩
    exact .labeled hlabel ((Text.isBlankText_congr hkey).trans hblank) hkey

/-- The default label is not blank. -/
theorem Connection.isCase_defaultCase_iff {c : Connection} :
    c.IsCase defaultCase ↔ c.HasLabel defaultCase := by
  have hblank : Text.isBlankText defaultCase = false := by decide
  exact and_iff_right hblank

/-- A handler sees a branch just if a connection can be chosen for it, and this is so if one of the
connections of the block is a case for the key, of whatever kind. -/
theorem Context.hasBranch_iff (context : Context) (key : String) :
    (context.hasBranch key = true ↔ ∃ c ∈ context.outgoing, c.IsCase key) ∧
      context.hasBranch key = (selectConnection (.labeled key) context.outgoing).isSome := by
  have hcase : context.hasBranch key = true ↔ ∃ c ∈ context.outgoing, c.IsCase key := by
    have hmatches (c : Connection) : c.matchesLabel key = true ↔ c.IsCase key :=
      Branch.qualifies_iff.trans Branch.fits_labeled_iff
    simp only [hasBranch, List.any_eq_true, hmatches]
  refine ⟨hcase, ?_⟩
  rw [Bool.eq_iff_iff, hcase, Option.isSome_iff_ne_none, Ne, selectConnection_eq_none_iff]
  simp [Branch.fits_labeled_iff]

/-! ## The decision of a switch -/

/-- The value that a visited switch looks at. -/
def Visit.switchValue (v : Visit) : String :=
  v.before.store.resolve
    (Settings.ofBlock Blocks.SwitchSettings.record v.block.block).expression

namespace Blocks

variable {context : Context} {scene : Scene}

/-- A switch asks for the branch of its value if a connection is a case for it, and else for the
default. -/
theorem branchKey_runSwitch (context : Context) (scene : Scene) {value : String}
    (hvalue : scene.store.resolve
      (Settings.ofBlock SwitchSettings.record context.block).expression = value) :
    ((∃ c ∈ context.outgoing, c.IsCase value) →
      (runSwitch context scene).1.branchKey = some value) ∧
    ((∀ c ∈ context.outgoing, ¬ c.IsCase value) →
      (runSwitch context scene).1.branchKey = some defaultCase) := by
  obtain ⟨notes, hread⟩ := Settings.exists_read_eq SwitchSettings.record context scene
  simp only [runSwitch, hread, hvalue]
  constructor
  · intro hcase
    have hbranch := (context.hasBranch_iff value).1.mpr hcase
    obtain ⟨_, _, hblank, _⟩ := hcase
    rw [if_pos (by simp [hblank, hbranch])]
    rfl
  · intro hnone
    have hbranch : context.hasBranch value = false := by
      rw [← Bool.not_eq_true, (context.hasBranch_iff value).1]
      simpa using hnone
    rw [if_neg (by simp [hbranch])]
    rfl

end Blocks

/-- A run that ends at a dead end stands there. -/
theorem Position.outcome_eq_deadEnd_iff {p : Position} :
    p.outcome = .deadEnd ↔ p.turn = .stop .deadEnd := by
  obtain ⟨turn, scene⟩ := p
  cases turn with
  | stop ending => simp [Position.outcome]
  | goOn id =>
      simp only [Position.outcome, reduceCtorEq, iff_false]
      split <;> simp

namespace Graph

/-- Where a run stands after a visit of a switch: it goes on along a case for the value if there is
one, and else along a connection labelled `default`; without either it is at a dead end. -/
structure Switches (g : Graph) (v : Visit) (q : Position) : Prop where
  follows_case : (∃ c ∈ g.outgoing v.id, c.IsCase v.switchValue) →
    ∃ c ∈ g.outgoing v.id, c.IsCase v.switchValue ∧ q.turn = .goOn c.target
  follows_default : (∀ c ∈ g.outgoing v.id, ¬ c.IsCase v.switchValue) →
    (∃ c ∈ g.outgoing v.id, c.HasLabel defaultCase) →
      ∃ c ∈ g.outgoing v.id, c.HasLabel defaultCase ∧ q.turn = .goOn c.target
  stranded_iff : q.turn = .stop .deadEnd ↔
    ∀ c ∈ g.outgoing v.id, ¬ c.IsCase v.switchValue ∧ ¬ c.HasLabel defaultCase

variable {g : Graph} {p q last : Position} {v : Visit} {visits : List Visit} {key : String}

/-- A run follows a connection that is a case for the key of a verdict. -/
theorem Step.follows_case (h : g.Step p v q) (hend : v.block.isEnd = false)
    (hkey : v.result.branchKey = some key) (hcase : ∃ c ∈ g.outgoing v.id, c.IsCase key) :
    ∃ c ∈ g.outgoing v.id, c.IsCase key ∧ q.turn = .goOn c.target := by
  obtain ⟨_, -, -, rfl⟩ := step_iff.mp h
  simp only [← Branch.fits_labeled_iff] at hcase ⊢
  obtain ⟨c, hc, hfits, hselect⟩ := exists_selectConnection_of_fits hcase
  have hchoice : v.choice g = some c := by
    rw [Visit.choice, StepResult.desiredBranch, hkey]
    exact hselect
  exact ⟨c, hc, hfits, advance_of_some hend hchoice⟩

/-- A run is at a dead end if there is no case for the key of a verdict. -/
theorem Step.stranded (h : g.Step p v q) (hend : v.block.isEnd = false)
    (hkey : v.result.branchKey = some key) (hnone : ∀ c ∈ g.outgoing v.id, ¬ c.IsCase key) :
    q.turn = .stop .deadEnd := by
  obtain ⟨_, -, -, rfl⟩ := step_iff.mp h
  simp only [← Branch.fits_labeled_iff] at hnone
  have hchoice : v.choice g = none := by
    rw [Visit.choice, StepResult.desiredBranch, hkey]
    exact selectConnection_eq_none_iff.mpr hnone
  exact advance_of_none hend hchoice

/-- After the visit of a switch a run goes on as the labels say. -/
theorem Step.switches (h : g.Step p v q) (hhandler : v.block.handler = Blocks.switch)
    (hend : v.block.isEnd = false) : g.Switches v q := by
  obtain ⟨id, -, hvisit, -⟩ := step_iff.mp h
  have hresult : v.result = (v.block.handler.run
      ⟨v.block.block, v.block.type, g.outgoing v.id⟩ p.scene).1 :=
    congrArg Visit.result hvisit.made
  have hvalue : p.scene.store.resolve (Settings.ofBlock Blocks.SwitchSettings.record
      v.block.block).expression = v.switchValue := by
    rw [Visit.switchValue, hvisit.before_eq]
  obtain ⟨hcase, hdefault⟩ := Blocks.branchKey_runSwitch
    ⟨v.block.block, v.block.type, g.outgoing v.id⟩ p.scene hvalue
  rw [hhandler, Blocks.switch, Handler.run_named] at hresult
  rw [← hresult] at hcase hdefault
  have hfollows (hnone : ∀ c ∈ g.outgoing v.id, ¬ c.IsCase v.switchValue)
      (hlabel : ∃ c ∈ g.outgoing v.id, c.HasLabel defaultCase) :
      ∃ c ∈ g.outgoing v.id, c.HasLabel defaultCase ∧ q.turn = .goOn c.target := by
    simp only [← Connection.isCase_defaultCase_iff] at hlabel ⊢
    exact h.follows_case hend (hdefault hnone) hlabel
  refine ⟨fun hsome => h.follows_case hend (hcase hsome) hsome, hfollows, ?_, fun hnone => ?_⟩
  · intro hstop c hc
    have hnone : ∀ c ∈ g.outgoing v.id, ¬ c.IsCase v.switchValue := by
      intro d hd hsome
      obtain ⟨_, _, _, hturn⟩ := h.follows_case hend (hcase ⟨d, hd, hsome⟩) ⟨d, hd, hsome⟩
      exact absurd (hstop.symm.trans hturn) (by simp)
    refine ⟨hnone c hc, fun hlabel => ?_⟩
    obtain ⟨_, _, _, hturn⟩ := hfollows hnone ⟨c, hc, hlabel⟩
    exact absurd (hstop.symm.trans hturn) (by simp)
  · refine h.stranded hend (hdefault fun c hc => (hnone c hc).1) fun c hc => ?_
    rw [Connection.isCase_defaultCase_iff]
    exact (hnone c hc).2

end Graph

namespace Engine

variable {engine : Engine} {limits : Limits} {w : Workflow} {g : Graph}

/-- Whenever a run over the standard handlers visits a switch, it goes on along a connection that is
labelled with the value of the switch if there is one, and else along one labelled `default` if
there is one. The run ends at the switch, as a dead end, just if there is neither. The handler sees
a branch for a key just if a connection can be chosen for it, and both see it just if some
connection, of either kind, has the key as its label. -/
theorem switches_follow_labels (hregistry : engine.registry = .standard limits)
    (hgraph : engine.graph w = .ok g) (request : RunRequest) : ∃ visits last result,
      g.IsRun engine.config.maxSteps (opening engine.config g w request) visits last ∧
      (engine.execute w request).1 = .ok result ∧
      result = .ofVisits engine.config w request visits last ∧
      ∀ earlier v later, visits = earlier ++ v :: later →
        v.block.type.isNamed "Switch" = true →
        (∃ q, g.Steps (opening engine.config g w request) (earlier ++ [v]) q ∧
          g.Steps q later last ∧ g.Switches v q) ∧
        (later = [] ∧ result.record.outcome = .deadEnd ↔
          ∀ c ∈ g.outgoing v.id, ¬ c.IsCase v.switchValue ∧ ¬ c.HasLabel defaultCase) ∧
        ∀ key, let context : Context := ⟨v.block.block, v.block.type, g.outgoing v.id⟩
          (context.hasBranch key = true ↔ ∃ c ∈ g.outgoing v.id, c.IsCase key) ∧
            context.hasBranch key = (selectConnection (.labeled key) (g.outgoing v.id)).isSome := by
  obtain ⟨visits, last, hrun, hresult⟩ := exists_execute_eq hgraph request
  refine ⟨visits, last, _, hrun, hresult, rfl, fun earlier v later hvisits hname => ?_⟩
  have hsteps := hrun.steps
  rw [hvisits] at hsteps
  obtain ⟨p, hearlier, hlater⟩ := hsteps.split
  cases hlater with
  | @cons _ q _ _ _ hstep hlater =>
      obtain ⟨id, -, hvisit, -⟩ := Graph.step_iff.mp hstep
      have hgraph := isGraphOf_of_graph hgraph
      rw [hregistry] at hgraph
      have hmem : Blocks.switch ∈ Blocks.standard limits := by simp [Blocks.standard]
      obtain ⟨hhandler, hend⟩ := hgraph.handler_of_isNamed hvisit.block_mem hmem hname
      have hswitches := hstep.switches hhandler (hend.trans (by decide))
      refine ⟨⟨q, hearlier.append (.cons hstep (.refl q)), hlater, hswitches⟩, ?_,
        fun key => Context.hasBranch_iff ⟨v.block.block, v.block.type, g.outgoing v.id⟩ key⟩
      rw [← hswitches.stranded_iff]
      constructor
      · rintro ⟨rfl, houtcome⟩
        cases hlater
        exact Position.outcome_eq_deadEnd_iff.mp houtcome
      · intro hstop
        obtain ⟨rfl, rfl⟩ := hlater.eq_of_stop hstop
        exact ⟨rfl, Position.outcome_eq_deadEnd_iff.mpr hstop⟩

/-- A workflow that sorts by the variable `color`. The label of the red case stands on a connection
for errors. -/
def sorting : Workflow :=
  let w := Workflow.empty (.ofNat 9) "Sorting"
  let w := w.addBlock (Workflow.standardBlock (.ofNat 1) "Start" "Start" none)
  let w := w.addBlock (Workflow.standardBlock (.ofNat 2) "Sort" "Switch"
    (some (.object [("Expression", .string "$color")])))
  let w := w.addBlock (Workflow.standardBlock (.ofNat 3) "Red" "End" none)
  let w := w.addBlock (Workflow.standardBlock (.ofNat 4) "Other" "End" none)
  let w := w.connect (.ofNat 5) (.ofNat 1) (.ofNat 2) .success
  let w := w.addConnection ⟨.ofNat 6, .ofNat 2, .ofNat 3, .error, some " Red "⟩
  w.connectLabeled (.ofNat 7) (.ofNat 2) (.ofNat 4) "DEFAULT"

/-- A run of this workflow for a color. -/
def sortingRun (color : String) : Except GraphFault RunResult :=
  ((create (.standard {}) .standard {}).execute sorting
    { (default : RunRequest) with inputs := [("color", color)] }).1

/-- The red case is found in spite of the kind of its connection, of blanks and of letter case, and
all else goes to the default. -/
theorem sorting_follows_labels : (create (.standard {}) .standard {}).registry = .standard {} ∧
    ∃ g, (create (.standard {}) .standard {}).graph sorting = .ok g ∧
    (sortingRun "blue").toOption.map (·.record.path) = some ["Start", "Sort", "Other"] ∧
    ∃ result, sortingRun "RED\t" = .ok result ∧ result.record.path = ["Start", "Sort", "Red"] ∧
      ∃ visits : List Visit, visits.map (·.name) = result.record.path ∧
        ∀ earlier v later, visits = earlier ++ v :: later →
          v.block.type.isNamed "Switch" = true →
          (later = [] ∧ result.record.outcome = .deadEnd ↔
            ∀ c ∈ g.outgoing v.id, ¬ c.IsCase v.switchValue ∧ ¬ c.HasLabel defaultCase) := by
  have hregistry : (create (.standard {}) .standard {}).registry = .standard {} := rfl
  have hblue : (sortingRun "blue").toOption.map (·.record.path) =
      some ["Start", "Sort", "Other"] := by
    decide +kernel
  have hred : (sortingRun "RED\t").toOption.map (·.record.path) =
      some ["Start", "Sort", "Red"] := by
    decide +kernel
  cases hgraph : (create (.standard {}) .standard {}).graph sorting with
  | error fault =>
      rw [sortingRun, execute_of_fault hgraph] at hred
      cases hred
  | ok g =>
      obtain ⟨visits, last, result, -, hresult, hmade, hswitches⟩ :=
        switches_follow_labels hregistry hgraph
          { (default : RunRequest) with inputs := [("color", "RED\t")] }
      have hresult : sortingRun "RED\t" = .ok result := hresult
      rw [hresult] at hred
      refine ⟨hregistry, g, rfl, hblue, result, hresult, Option.some.inj hred, visits, ?_, ?_⟩
      · rw [hmade]
        rfl
      · exact fun earlier v later hvisits hname => (hswitches earlier v later hvisits hname).2.1

end Engine
end Flowchart
