import Mathlib.Data.List.Chain
import Flowchart.Command.Example
import Flowchart.Proofs.Blocks.Loop

/-!
# Loops among other blocks

Blocks are executed one after another over the same variables and loop counters, in any order
(`Execution.Follows`). A loop that is asked for the same number of rounds whenever it is executed
goes through periods of that many rounds and an exit, wherever other blocks, and other loops, come
in between. What carries the induction is that its counter is its place in the period
(`Execution.isAt_of_place`): an execution of the loop moves it on by one place
(`Execution.isAt_of_before`), and an execution of another block leaves it where it is
(`Execution.rounds_after_of_ne`).
-/

namespace Flowchart

/-- An execution of a block by a handler, with what the handler found. -/
structure Execution where
  handler : Handler
  context : Context
  before : Scene

namespace Execution

/-- The block that is executed. -/
def id (e : Execution) : Identifier := e.context.block.id

/-- The verdict on the block. -/
def result (e : Execution) : StepResult := (e.handler.run e.context e.before).1

/-- What the handler left. -/
def after (e : Execution) : Scene := (e.handler.run e.context e.before).2

/-- An execution finds the variables and loop counters that the one before it left. All else may
have changed in between. -/
def Follows (e next : Execution) : Prop :=
  next.before.store = e.after.store ∧ next.before.counters = e.after.counters

/-- An execution of a loop, or one of another block by a standard handler. -/
def IsAmong (limits : Limits) (b : Block) (e : Execution) : Prop :=
  (e.handler = Blocks.loop ∧ e.context.block = b) ∨
    ((e.handler ∈ Blocks.standard limits ∨ e.handler = Blocks.passthrough) ∧ e.id ≠ b.id)

/-- The settings of a loop. -/
abbrev settingsOf (b : Block) : Blocks.LoopSettings :=
  Settings.ofBlock Blocks.LoopSettings.record b

/-- At the executions of a block, the token for the number of rounds stands for a number. -/
def AsksFor (b : Block) (number : Option Binary64) (e : Execution) : Prop :=
  e.id = b.id → e.before.store.resolveNumber (settingsOf b).iterations = number

/-- What a token stands for can be computed. -/
instance (b : Block) (number : Option Binary64) (e : Execution) : Decidable (e.AsksFor b number) :=
  inferInstanceAs (Decidable (_ → _))

variable {limits : Limits} {b : Block} {number : Option Binary64} {rounds place k : Nat}
  {e : Execution} {es : List Execution}

/-! ## One execution -/

/-- An execution of a loop is one of its handler. -/
theorem IsAmong.of_id_eq (h : e.IsAmong limits b) (hid : e.id = b.id) :
    e.handler = Blocks.loop ∧ e.context.block = b :=
  h.resolve_right fun hother => hother.2 hid

/-- An execution of another block leaves the counter of a loop as it is. -/
theorem rounds_after_of_ne (h : e.IsAmong limits b) (hid : e.id ≠ b.id) :
    e.after.counters.rounds b.id = e.before.counters.rounds b.id := by
  have hwrites : ∃ footprint, e.handler.WritesOnly footprint := by
    rcases h with ⟨-, hb⟩ | ⟨hstandard | hpasses, -⟩
    · exact absurd (congrArg Block.id hb) hid
    · exact ⟨_, Blocks.standard_writesOnly limits hstandard⟩
    · refine ⟨fun _ => .empty, ?_⟩
      rw [hpasses]
      exact Handler.writesOnly_of_alters fun _ _ => Blocks.passthrough_alters _ _ _
  obtain ⟨_, hwrites⟩ := hwrites
  unfold Counters.rounds after
  rw [hwrites.counters e.context e.before b.id (Ne.symm hid)]

/-- What an execution of a loop of so many rounds does at a place of its period: before the last
place it begins a round, and at the last one it exits. -/
structure IsAt (b : Block) (rounds place : Nat) (e : Execution) : Prop where
  /-- The counter found is the place. -/
  before : e.before.counters.rounds b.id = place
  /-- The counter left is the next place; as a natural number it is never cut. -/
  after : e.after.counters.rounds b.id = if place < rounds then place + 1 else 0
  branch : e.result.branchKey =
    some (if place < rounds then Blocks.loopBranch else Blocks.exitBranch)
  /-- The counter variable, if it has a name, holds the number of the round just begun. -/
  counted : place < rounds → variableName (settingsOf b).counterVariable ≠ "" →
    e.after.store.get? (settingsOf b).counterVariable = some (toString (place + 1))
  /-- The counter is kept after an exit, and is zero. -/
  reset : ¬place < rounds → e.after.counters.get? b.id = some 0

/-- An execution of a loop does what is to be done at the place that its counter gives. -/
theorem isAt_of_before (h : e.IsAmong limits b) (hid : e.id = b.id) (hasks : e.AsksFor b number)
    (hlimit : Blocks.roundsOf number < 2 ^ 32) (hplace : e.before.counters.rounds b.id = place) :
    e.IsAt b (Blocks.roundsOf number) place := by
  obtain ⟨hhandler, hblock⟩ := h.of_id_eq hid
  have hrounds :
      Blocks.roundsOf (e.before.store.resolveNumber (settingsOf e.context.block).iterations) =
        Blocks.roundsOf number := by
    rw [hblock, hasks hid]
  have hrun : e.handler.run = Blocks.runLoop := by
    rw [hhandler, Blocks.loop_run]
  unfold id at hid
  rw [← hid] at hplace
  by_cases hlt : place < Blocks.roundsOf number
  · obtain ⟨hkey, hcounters, hstore⟩ :=
      Blocks.runLoop_begins hrounds hlimit (hplace ▸ hlt)
    rw [hplace] at hcounters hstore
    rw [← hrun] at hkey hcounters hstore
    refine ⟨hid ▸ hplace, ?_, ?_, fun _ hname => ?_, fun hnot => absurd hlt hnot⟩
    · rw [if_pos hlt, after, hcounters, hid, Function.update_self]
    · rw [if_pos hlt, result, hkey]
    · rw [← hblock] at hname ⊢
      rw [after, hstore, Store.get?, Store.get?_set, if_pos ⟨rfl, hname⟩]
  · obtain ⟨hkey, hcounters⟩ :=
      Blocks.runLoop_exits hrounds hlimit (hplace ▸ Nat.le_of_not_lt hlt)
    rw [← hrun] at hkey hcounters
    have hreset : e.after.counters.get? b.id = some 0 := by
      rw [after, hcounters, Counters.get?_set, if_pos hid.symm]
    refine ⟨hid ▸ hplace, ?_, ?_, fun hlt' => absurd hlt' hlt, fun _ => hreset⟩
    · rw [if_neg hlt, Counters.rounds, hreset]
      rfl
    · rw [if_neg hlt, result, hkey]

/-! ## Executions in order -/

/-- The place after one of a period is the next one, and the first one after the last. -/
theorem next_place (h : place ≤ rounds) :
    (if place < rounds then place + 1 else 0) = (place + 1) % (rounds + 1) := by
  split
  case isTrue hlt => rw [Nat.mod_eq_of_lt (by omega)]
  case isFalse hnot =>
    obtain rfl : place = rounds := by omega
    rw [Nat.mod_self]

/-- Wherever a loop is in its period, its executions go on from there, place by place. At all times
its counter is at most the number of its rounds. -/
theorem isAt_of_place (hamong : ∀ e ∈ es, e.IsAmong limits b)
    (hasks : ∀ e ∈ es, e.AsksFor b number) (hlimit : Blocks.roundsOf number < 2 ^ 32)
    (hchain : es.IsChain Follows)
    (hstart : ∀ e ∈ es.head?, e.before.counters.rounds b.id = place)
    (hplace : place ≤ Blocks.roundsOf number) :
    (∀ (k : Nat) (e : Execution), (es.filter fun e => e.id = b.id)[k]? = some e →
      e.IsAt b (Blocks.roundsOf number) ((place + k) % (Blocks.roundsOf number + 1))) ∧
    ∀ e ∈ es, e.before.counters.rounds b.id ≤ Blocks.roundsOf number ∧
      e.after.counters.rounds b.id ≤ Blocks.roundsOf number := by
  -- on the executions; the place is what the counter says before the first of them
  induction es generalizing place with
  | nil => exact ⟨fun k e h => absurd h (by simp), fun e h => absurd h List.not_mem_nil⟩
  | cons e rest ih =>
      obtain ⟨hfollows, hrest⟩ := List.isChain_cons.mp hchain
      rw [List.forall_mem_cons] at hamong hasks
      have hbefore : e.before.counters.rounds b.id = place := hstart e rfl
      have hon {next : Nat} (hafter : e.after.counters.rounds b.id = next) :=
        ih hamong.2 hasks.2 hrest (show ∀ e' ∈ rest.head?, e'.before.counters.rounds b.id = next
          from fun e' he' => by rw [(hfollows e' he').2, hafter])
      by_cases hid : e.id = b.id
      · have hat := isAt_of_before hamong.1 hid hasks.1 hlimit hbefore
        have hafter := hat.after.trans (next_place hplace)
        have hnext := Nat.le_of_lt_succ (Nat.mod_lt (place + 1) (Blocks.roundsOf number).succ_pos)
        obtain ⟨hplaces, hcounters⟩ := hon hafter hnext
        refine ⟨fun k e' he' => ?_, List.forall_mem_cons.mpr ⟨?_, hcounters⟩⟩
        · rw [List.filter_cons_of_pos (by simpa using hid)] at he'
          cases k with
          | zero =>
              obtain rfl : e = e' := Option.some.inj he'
              rwa [Nat.add_zero, Nat.mod_eq_of_lt (Nat.lt_succ_of_le hplace)]
          | succ k =>
              have hk := hplaces k e' he'
              rwa [Nat.mod_add_mod, Nat.add_right_comm] at hk
        · rw [hbefore, hafter]
          exact ⟨hplace, hnext⟩
      · have hafter := (rounds_after_of_ne hamong.1 hid).trans hbefore
        obtain ⟨hplaces, hcounters⟩ := hon hafter hplace
        refine ⟨fun k e' he' => ?_, List.forall_mem_cons.mpr ⟨?_, hcounters⟩⟩
        · rw [List.filter_cons_of_neg (by simpa using hid)] at he'
          exact hplaces k e' he'
        · rw [hbefore, hafter]
          exact ⟨hplace, hplace⟩

/-- A loop without a counter that is asked for the same number of rounds whenever it is executed
begins that many rounds, exits, and begins anew, in whatever way executions of other blocks come in
between: its verdicts, its counter variable and its counter are those of its place in the period.
The counter never exceeds the number of rounds, so that counting never reaches its limit. -/
theorem loop_periodic (hamong : ∀ e ∈ es, e.IsAmong limits b)
    (hasks : ∀ e ∈ es, e.AsksFor b number) (hlimit : Blocks.roundsOf number < 2 ^ 32)
    (hchain : es.IsChain Follows)
    (hstart : ∀ e ∈ es.head?, e.before.counters.get? b.id = none) :
    (∀ (k : Nat) (e : Execution), (es.filter fun e => e.id = b.id)[k]? = some e →
      e.IsAt b (Blocks.roundsOf number) (k % (Blocks.roundsOf number + 1))) ∧
    ∀ e ∈ es, e.before.counters.rounds b.id ≤ Blocks.roundsOf number ∧
      e.after.counters.rounds b.id ≤ Blocks.roundsOf number := by
  have hzero : ∀ e ∈ es.head?, e.before.counters.rounds b.id = 0 := fun e he => by
    rw [Counters.rounds, hstart e he]
    rfl
  have hplaces := isAt_of_place hamong hasks hlimit hchain hzero (Nat.zero_le _)
  simpa only [Nat.zero_add] using hplaces

/-! ## Executions from a scene -/

/-- The executions of blocks, one after another, from a scene on. -/
def inTurn : Scene → List (Handler × Context) → List Execution
  | _, [] => []
  | scene, (handler, context) :: rest =>
      ⟨handler, context, scene⟩ :: inTurn (handler.run context scene).2 rest

/-- The first of the executions finds the scene. -/
theorem before_of_mem_head? {scene : Scene} {calls : List (Handler × Context)}
    (h : e ∈ (inTurn scene calls).head?) : e.before = scene := by
  cases calls with
  | nil => exact absurd h (by simp [inTurn])
  | cons call rest =>
      obtain rfl := Option.some.inj h
      rfl

/-- Executions in turn follow one another. -/
theorem isChain_inTurn (scene : Scene) (calls : List (Handler × Context)) :
    (inTurn scene calls).IsChain Follows := by
  induction calls generalizing scene with
  | nil => exact .nil
  | cons call rest ih =>
      refine List.isChain_cons.mpr ⟨fun next hnext => ?_, ih _⟩
      rw [Follows, before_of_mem_head? hnext]
      exact ⟨rfl, rfl⟩

/-- What holds of calls in any scene holds of the executions. -/
theorem forall_mem_inTurn {P : Execution → Prop} {calls : List (Handler × Context)}
    (h : ∀ call ∈ calls, ∀ scene, P ⟨call.1, call.2, scene⟩) (scene : Scene) :
    ∀ e ∈ inTurn scene calls, P e := by
  induction calls generalizing scene with
  | nil => exact fun e he => absurd he List.not_mem_nil
  | cons call rest ih =>
      rw [List.forall_mem_cons] at h
      exact List.forall_mem_cons.mpr ⟨h.1 scene, ih h.2 _⟩

/-- A loop that is asked for as many rounds as a variable says. -/
def countingLoop : Block :=
  Workflow.standardBlock (.ofNat 1) "Count" "Loop"
    (some (.object [("CounterVariable", .string "$i"), ("Iterations", .string "$n")]))

/-- A loop of one round with the same counter variable. -/
def otherLoop : Block :=
  Workflow.standardBlock (.ofNat 2) "Other" "Loop"
    (some (.object [("CounterVariable", .string "i"), ("Iterations", .string "1")]))

/-- The two loops in turn. -/
def countingCalls : List (Handler × Context) :=
  [countingLoop, otherLoop, countingLoop, otherLoop, countingLoop, countingLoop].map fun b =>
    (Blocks.loop, ⟨b, default, []⟩)

/-- A scene in which the variable holds a number with a fraction. -/
def countingScene : Scene :=
  { (default : Scene) with store := .ofList [("n", "2.75")], counters := ⟨[]⟩ }

/-- A loop that is asked for `2.75` rounds begins two of them, exits, and begins anew, although
another loop is executed in between and overwrites its counter variable. -/
theorem countingLoop_periodic :
    (∀ e ∈ inTurn countingScene countingCalls, e.IsAmong {} countingLoop) ∧
    (∀ e ∈ inTurn countingScene countingCalls, e.AsksFor countingLoop (parseNumber "2.75")) ∧
    Blocks.roundsOf (parseNumber "2.75") = 2 ∧
    (inTurn countingScene countingCalls).IsChain Follows ∧
    (∀ e ∈ (inTurn countingScene countingCalls).head?,
      e.before.counters.get? countingLoop.id = none) ∧
    ∀ (k : Nat) (e : Execution), ((inTurn countingScene countingCalls).filter fun e =>
      e.id = countingLoop.id)[k]? = some e → e.IsAt countingLoop 2 (k % 3) := by
  have hamong : ∀ e ∈ inTurn countingScene countingCalls, e.IsAmong {} countingLoop := by
    refine forall_mem_inTurn (fun call hcall scene => ?_) _
    obtain ⟨b, hb, rfl⟩ := List.mem_map.mp hcall
    have hdiffer : otherLoop.id ≠ countingLoop.id := by decide +kernel
    have hcases : b = countingLoop ∨ b = otherLoop := by
      simp only [List.mem_cons, List.not_mem_nil] at hb
      tauto
    rcases hcases with rfl | rfl
    · exact Or.inl ⟨rfl, rfl⟩
    · exact Or.inr ⟨Or.inl (by simp [Blocks.standard]), hdiffer⟩
  have hasks : ∀ e ∈ inTurn countingScene countingCalls,
      e.AsksFor countingLoop (parseNumber "2.75") := by decide +kernel
  have hrounds : Blocks.roundsOf (parseNumber "2.75") = 2 := by decide +kernel
  have hchain := isChain_inTurn countingScene countingCalls
  have hstart : ∀ e ∈ (inTurn countingScene countingCalls).head?,
      e.before.counters.get? countingLoop.id = none := fun e he => by
    rw [before_of_mem_head? he]
    rfl
  have hlimit : Blocks.roundsOf (parseNumber "2.75") < 2 ^ 32 := by
    rw [hrounds]
    decide
  have hplaces := loop_periodic hamong hasks hlimit hchain hstart
  rw [hrounds] at hplaces
  exact ⟨hamong, hasks, hrounds, hchain, hstart, hplaces.1⟩

end Execution
end Flowchart
