import Mathlib.Logic.Function.Basic
import Flowchart.Proofs.Blocks.Footprint
import Flowchart.Proofs.Json.Compact
import Flowchart.Proofs.Variables.Names

/-!
# The rounds of a loop

The counter of a loop is the number of rounds that it has begun since its last exit
(`Counters.rounds`). A loop begins another round as long as its counter is below the number of
rounds that it is asked for (`runLoop_of_less`), and else exits and begins anew
(`runLoop_of_not_less`); the counters of all other blocks stay as they are. As long as the number of
rounds has room in the counter, no round is lost (`runLoop_begins`, `runLoop_exits`). Settings that
give the number as a literal ask for it in every store (`roundsOf_toString`).
-/

namespace Flowchart

/-- The number of rounds that a loop has begun since its last exit. -/
def Counters.rounds (counters : Counters) (id : Identifier) : Nat :=
  ((counters.get? id).getD 0).toNat

/-- Setting the counter of a block changes no other one. -/
theorem Counters.rounds_set (counters : Counters) (id : Identifier) (n : UInt32) :
    (counters.set id n).rounds = Function.update counters.rounds id n.toNat := by
  funext other
  unfold rounds
  rw [get?_set]
  by_cases hother : other = id
  · rw [if_pos hother, hother, Function.update_self]
    rfl
  · rw [if_neg hother, Function.update_of_ne hother]

/-- The settings of a block ask for so many rounds of a loop, as a decimal literal. -/
def Block.LoopsFor (b : Block) (rounds : Nat) : Prop :=
  (Settings.ofBlock Blocks.LoopSettings.record b).iterations = toString rounds

/-- The numbers of rounds are compared as texts. -/
instance (b : Block) (rounds : Nat) : Decidable (b.LoopsFor rounds) :=
  inferInstanceAs (Decidable (_ = _))

/-- The settings that ask for so many rounds and nothing else. -/
def Blocks.LoopSettings.document (rounds : Nat) : Json.Value :=
  .object [("Iterations", .string (toString rounds))]

/-- Settings that ask for so many rounds are understood as they are written. -/
theorem Blocks.LoopSettings.decode_document (rounds : Nat) :
    Settings.decode record (document rounds).compact = .ok ⟨toString rounds, ""⟩ := by
  have hread : Json.Value.ofText (document rounds).compact = .ok (document rounds) := by
    refine Json.Value.ofText_compact ?_ ?_
    · exact ⟨List.pairwise_singleton _ _, True.intro, True.intro⟩
    · have hlevels : 1 ≤ Json.depthLimit - 1 := by decide
      exact ⟨by decide, hlevels, True.intro⟩
  have hname : Settings.normalName "Iterations" = "iterations" := by decide +kernel
  have hnormal : Settings.normalize (document rounds) =
      .object [("iterations", .string (toString rounds))] := by
    rw [document, Settings.normalize, Settings.normalizeMembers, Settings.normalize, hname]
    rfl
  have hvalue : record.decoder.ofValue (.object [("iterations", .string (toString rounds))]) =
      .ok ⟨toString rounds, ""⟩ := by
    generalize toString rounds = s
    rfl
  simp only [Settings.decode, hread, hnormal, hvalue]

/-- A block with such settings asks for so many rounds. -/
theorem Block.loopsFor_of_config {b : Block} {rounds : Nat}
    (h : b.config = some (Blocks.LoopSettings.document rounds).compact) : b.LoopsFor rounds := by
  have hblank : Text.isBlankText (Blocks.LoopSettings.document rounds).compact = false := by
    rw [Text.isBlankText, Json.Value.compact, String.toList_ofList, Blocks.LoopSettings.document,
      Json.Value.compactChars]
    rfl
  have hsettings : Context.settings? ⟨b, default, []⟩ =
      some (Blocks.LoopSettings.document rounds).compact := by
    simp only [Context.settings?, h, hblank]
    rfl
  unfold LoopsFor Settings.ofBlock Settings.read
  simp only [hsettings, Blocks.LoopSettings.decode_document]

/-- Setting a variable with a name sets it in the store; without a name nothing is set. -/
theorem Scene.store_setNamed (scene : Scene) (name value : String) :
    (scene.setNamed name value).store = scene.store.set name value := by
  unfold setNamed
  split
  case isTrue h => rw [Store.set, if_pos (variableName_of_isBlankText h)]
  case isFalse => rfl

/-- Setting a variable changes no loop counter. -/
theorem Scene.counters_setNamed (scene : Scene) (name value : String) :
    (scene.setNamed name value).counters = scene.counters := by
  unfold setNamed
  split <;> rfl

namespace Blocks

variable {rounds : Nat}

/-- The handler of loops executes them. -/
theorem loop_run : loop.run = runLoop := Handler.run_named _ _ _

/-! ## One execution -/

/-- The number of rounds that a number asks for: the whole part, or none if there is no number or
it is negative. -/
def roundsOf (number : Option Binary64) : Nat := (number.map (·.wholePart.toNat)).getD 0

/-- Whether a loop begins another round is decided by its counter. -/
theorem less_requestedRounds (counters : Counters) (id : Identifier) (store : Store)
    (token : String) (h : roundsOf (store.resolveNumber token) < 2 ^ 53) :
    (Binary64.ofNat (counters.rounds id)).less (requestedRounds store token) =
      decide (counters.rounds id < roundsOf (store.resolveNumber token)) := by
  have hcounter : counters.rounds id < 2 ^ 32 := UInt32.toNat_lt _
  unfold requestedRounds
  cases hnumber : store.resolveNumber token with
  | none =>
      rw [Binary64.less, Binary64.value_ofNat (by omega)]
      exact decide_eq_decide.mpr ⟨fun hlt => absurd hlt (Int.not_lt.mpr (Int.natCast_nonneg _)),
        fun hlt => absurd hlt (Nat.not_lt_zero _)⟩
  | some x =>
      rw [hnumber] at h
      have hwhole : x.wholePart.toNat < 2 ^ 53 := h
      exact Binary64.less_floor (by omega) (by omega)

/-- A loop whose counter is less than the number that it is asked for begins another round. It
counts it in a word of 32 bits, and gives its counter variable the number of the round. -/
theorem runLoop_of_less (context : Context) (scene : Scene)
    (h : (Binary64.ofNat (scene.counters.rounds context.block.id)).less
      (requestedRounds scene.store
        (Settings.ofBlock LoopSettings.record context.block).iterations) = true) :
    let round := (scene.counters.rounds context.block.id + 1) % 2 ^ 32
    (runLoop context scene).1 = .branch loopBranch (s!"Loop iteration {round} of " ++
        Decimal.Layout.plain.write (requestedRounds scene.store
          (Settings.ofBlock LoopSettings.record context.block).iterations)) ∧
      (runLoop context scene).2.counters.rounds =
        Function.update scene.counters.rounds context.block.id round ∧
      (runLoop context scene).2.store = scene.store.set
        (Settings.ofBlock LoopSettings.record context.block).counterVariable (toString round) := by
  obtain ⟨notes, hread⟩ := Settings.exists_read_eq LoopSettings.record context scene
  have hnext : ((scene.counters.get? context.block.id).getD 0 + 1).toNat =
      (scene.counters.rounds context.block.id + 1) % 2 ^ 32 := UInt32.toNat_add _ _
  unfold Counters.rounds at h
  simp only [runLoop, hread, h, if_true]
  refine ⟨?_, ?_, ?_⟩
  · rw [hnext]
    rfl
  · rw [Scene.counters_setNamed, Counters.rounds_set, hnext]
  · rw [Scene.store_setNamed, hnext]

/-- Any other loop exits, and begins anew. -/
theorem runLoop_of_not_less (context : Context) (scene : Scene)
    (h : (Binary64.ofNat (scene.counters.rounds context.block.id)).less
      (requestedRounds scene.store
        (Settings.ofBlock LoopSettings.record context.block).iterations) = false) :
    (runLoop context scene).1.branchKey = some exitBranch ∧
      (runLoop context scene).2.counters = scene.counters.set context.block.id 0 := by
  obtain ⟨notes, hread⟩ := Settings.exists_read_eq LoopSettings.record context scene
  unfold Counters.rounds at h
  simp only [runLoop, hread, h]
  exact ⟨rfl, rfl⟩

/-- A loop that has begun fewer rounds than it is asked for begins another one, counts it, and
gives its counter variable the number of the round. -/
theorem runLoop_begins {context : Context} {scene : Scene}
    (hrounds : roundsOf (scene.store.resolveNumber
      (Settings.ofBlock LoopSettings.record context.block).iterations) = rounds)
    (hlimit : rounds < 2 ^ 32) (h : scene.counters.rounds context.block.id < rounds) :
    (runLoop context scene).1.branchKey = some loopBranch ∧
      (runLoop context scene).2.counters.rounds = Function.update scene.counters.rounds
        context.block.id (scene.counters.rounds context.block.id + 1) ∧
      (runLoop context scene).2.store = scene.store.set
        (Settings.ofBlock LoopSettings.record context.block).counterVariable
        (toString (scene.counters.rounds context.block.id + 1)) := by
  have hless := less_requestedRounds scene.counters context.block.id scene.store
    (Settings.ofBlock LoopSettings.record context.block).iterations (by omega)
  rw [hrounds, decide_eq_true h] at hless
  have hround : (scene.counters.rounds context.block.id + 1) % 2 ^ 32 =
      scene.counters.rounds context.block.id + 1 := Nat.mod_eq_of_lt (by omega)
  obtain ⟨hresult, hcounters, hstore⟩ := runLoop_of_less context scene hless
  rw [hround] at hcounters hstore
  exact ⟨by rw [hresult]; rfl, hcounters, hstore⟩

/-- A loop that has begun as many rounds as it is asked for exits, and begins anew. -/
theorem runLoop_exits {context : Context} {scene : Scene}
    (hrounds : roundsOf (scene.store.resolveNumber
      (Settings.ofBlock LoopSettings.record context.block).iterations) = rounds)
    (hlimit : rounds < 2 ^ 32) (h : rounds ≤ scene.counters.rounds context.block.id) :
    (runLoop context scene).1.branchKey = some exitBranch ∧
      (runLoop context scene).2.counters = scene.counters.set context.block.id 0 := by
  have hless := less_requestedRounds scene.counters context.block.id scene.store
    (Settings.ofBlock LoopSettings.record context.block).iterations (by omega)
  rw [hrounds, decide_eq_false (Nat.not_lt.mpr h)] at hless
  exact runLoop_of_not_less context scene hless

/-! ## Literal numbers of rounds -/

/-- A literal asks for as many rounds in every store. -/
theorem roundsOf_toString (h : rounds < 2 ^ 53) (store : Store) :
    roundsOf (store.resolveNumber (toString rounds)) = rounds := by
  have hwhole : (Binary64.ofNat rounds).wholePart = rounds := by
    rw [Binary64.wholePart, Binary64.value_ofNat h, Int.natCast_mul,
      Int.mul_ediv_cancel _ (Int.natCast_ne_zero.mpr Binary64.unitsPerOne_pos.ne')]
  rw [store.resolveNumber_toString h, roundsOf, Option.map_some, hwhole]
  rfl

/-- The number that a literal asks for does not depend on the store. -/
theorem requestedRounds_toString (h : rounds < 2 ^ 53) (store : Store) :
    requestedRounds store (toString rounds) = (Binary64.ofNat rounds).floor := by
  unfold requestedRounds
  rw [store.resolveNumber_toString h]

/-- Settings that ask for so many rounds ask for them in every store. -/
theorem roundsOf_of_loopsFor {b : Block} (h : b.LoopsFor rounds) (hrounds : rounds < 2 ^ 53)
    (store : Store) : roundsOf (store.resolveNumber
      (Settings.ofBlock LoopSettings.record b).iterations) = rounds := by
  have hcount := roundsOf_toString hrounds store
  rwa [← h] at hcount

/-- A loop whose settings ask for so many rounds begins another one if it has begun fewer. -/
theorem less_requestedRounds_of_loopsFor {b : Block} (h : b.LoopsFor rounds)
    (hrounds : rounds < 2 ^ 53) (counters : Counters) (store : Store) :
    (Binary64.ofNat (counters.rounds b.id)).less
        (requestedRounds store (Settings.ofBlock LoopSettings.record b).iterations) =
      decide (counters.rounds b.id < rounds) := by
  have hcount := roundsOf_of_loopsFor h hrounds store
  rw [less_requestedRounds _ _ _ _ (by omega), hcount]

/-- A loop that has begun fewer rounds than its settings ask for begins another one. -/
theorem runLoop_of_lt (context : Context) (scene : Scene)
    (hsettings : context.block.LoopsFor rounds) (hrounds : rounds < 2 ^ 32)
    (h : scene.counters.rounds context.block.id < rounds) :
    (runLoop context scene).1.desiredBranch = .labeled loopBranch ∧
      (runLoop context scene).2.counters.rounds = Function.update scene.counters.rounds
        context.block.id (scene.counters.rounds context.block.id + 1) := by
  have hcount := roundsOf_of_loopsFor hsettings (by omega) scene.store
  obtain ⟨hkey, hcounters, -⟩ := runLoop_begins hcount hrounds h
  exact ⟨by rw [StepResult.desiredBranch, hkey], hcounters⟩

/-- A loop that has begun as many rounds as its settings ask for exits, and begins anew. -/
theorem runLoop_of_le (context : Context) (scene : Scene)
    (hsettings : context.block.LoopsFor rounds) (hrounds : rounds < 2 ^ 32)
    (h : rounds ≤ scene.counters.rounds context.block.id) :
    (runLoop context scene).1.desiredBranch = .labeled exitBranch ∧
      (runLoop context scene).2.counters.rounds =
        Function.update scene.counters.rounds context.block.id 0 := by
  have hcount := roundsOf_of_loopsFor hsettings (by omega) scene.store
  obtain ⟨hkey, hcounters⟩ := runLoop_exits hcount hrounds h
  refine ⟨by rw [StepResult.desiredBranch, hkey], ?_⟩
  rw [hcounters, Counters.rounds_set]
  rfl

end Blocks
end Flowchart
