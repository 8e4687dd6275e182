import Flowchart.Proofs.Run.NestedLoops

/-!
# The range of loop counters

A loop counts its rounds in a word of 32 bits, while it may be asked for any number of rounds, and a
run may be allowed any number of steps. A visit adds one to a counter at most (`Step.rounds_le`), so
before each visit of a run all counters are less than the limit of steps (`IsRun.rounds_lt`). On the
other side, a loop that is connected to itself adds one by each visit (`Spins.passes`), and where it
is asked for at least `2 ^ 32` rounds, its counter comes to the end of its range and begins again at
zero (`Spins.exists_wrap`). `Engine.counters_fit_iff` says which limits of steps exclude this.
-/

namespace Flowchart

/-- Of the handlers of a registry, only that of loops sets loop counters. -/
def Registry.CountsInLoops (registry : Registry) : Prop :=
  ∀ (t : BlockType) (h : Handler), registry.handler? t = some h → h = Blocks.loop ∨
    ∀ (context : Context) (scene : Scene), (h.run context scene).2.counters = scene.counters

/-- The standard handlers leave counting to loops. -/
theorem Registry.standard_countsInLoops (limits : Limits) : (standard limits).CountsInLoops := by
  intro t h hh
  rcases isNamed_of_handler? hh with ⟨hmem, _⟩ | rfl
  · rcases Blocks.standard_alters limits hmem with halters | rfl
    · exact Or.inr fun context scene => (halters context scene).counters
    · exact Or.inl rfl
  · exact Or.inr fun context scene => (Blocks.passthrough_alters context scene []).counters

/-- An execution of a loop adds one to a counter at most. -/
theorem Blocks.rounds_runLoop_le (context : Context) (scene : Scene) (id : Identifier) :
    (runLoop context scene).2.counters.rounds id ≤ scene.counters.rounds id + 1 := by
  cases hless : (Binary64.ofNat (scene.counters.rounds context.block.id)).less
      (requestedRounds scene.store
        (Settings.ofBlock LoopSettings.record context.block).iterations) with
  | true =>
      obtain ⟨_, hcounters, _⟩ := runLoop_of_less context scene hless
      rw [hcounters, Function.update_apply]
      split
      case isTrue hid =>
        rw [hid]
        exact Nat.mod_le _ _
      case isFalse => exact Nat.le_succ _
  | false =>
      obtain ⟨_, hcounters⟩ := runLoop_of_not_less context scene hless
      rw [hcounters, Counters.rounds_set, Function.update_apply]
      split
      case isTrue => exact Nat.zero_le _
      case isFalse => exact Nat.le_succ _

/-- In a visit, a loop has begun another round. -/
structure Visit.BeginsRound (v : Visit) : Prop where
  handler : v.block.handler = Blocks.loop
  branchKey : v.result.branchKey = some Blocks.loopBranch

/-- The number of rounds that the visited block asks for, if it is a loop. -/
def Visit.requestedRounds (v : Visit) : Nat :=
  Blocks.roundsOf (v.before.store.resolveNumber
    (Settings.ofBlock Blocks.LoopSettings.record v.block.block).iterations)

namespace Graph

variable {catalog : Catalog} {registry : Registry} {w : Workflow} {g : Graph} {p q last : Position}
  {v : Visit} {visits : List Visit} {id : Identifier} {b : ResolvedBlock} {f : Rounds}
  {left rounds n : Nat}

/-! ## Counters in runs -/

/-- A step adds one to a counter at most. -/
theorem Step.rounds_le (hg : IsGraphOf catalog registry w g) (hregistry : registry.CountsInLoops)
    (h : g.Step p v q) (id : Identifier) :
    q.scene.counters.rounds id ≤ p.scene.counters.rounds id + 1 := by
  have hleft := congrArg Prod.snd h.run_eq
  rw [← h.before_eq, h.scene_eq]
  show v.left.counters.rounds id ≤ _
  rw [← show _ = v.left from hleft]
  rcases hregistry _ _ (hg.fits v.block h.block_mem).handler with hloop | hkeeps
  · rw [hloop, Blocks.loop_run]
    exact Blocks.rounds_runLoop_le _ _ id
  · rw [hkeeps]
    exact Nat.le_succ _

/-- Steps add as many to a counter as they are at most. -/
theorem Steps.rounds_le (hg : IsGraphOf catalog registry w g) (hregistry : registry.CountsInLoops)
    (h : g.Steps p visits q) (id : Identifier) :
    q.scene.counters.rounds id ≤ p.scene.counters.rounds id + visits.length := by
  induction h with
  | refl => exact Nat.le_refl _
  | cons hstep _ ih =>
      have hfirst := hstep.rounds_le hg hregistry id
      rw [List.length_cons]
      omega

/-- Before each visit of a run that begins without counters, all counters are less than the limit of
steps. -/
theorem IsRun.rounds_lt (hg : IsGraphOf catalog registry w g) (hregistry : registry.CountsInLoops)
    (h : g.IsRun left p visits last) (hp : p.scene.counters = ⟨[]⟩) (id : Identifier) :
    ∀ v ∈ visits, v.before.counters.rounds id < left := by
  refine h.steps.forall_before (P := fun scene => scene.counters.rounds id < left) ?_
  intro earlier q hearlier hsteps
  have hrounds := hsteps.rounds_le hg hregistry id
  have hzero : p.scene.counters.rounds id = 0 := by
    rw [hp]
    rfl
  have hlength := h.length_le
  omega

/-- A loop that begins another round has found its counter less than the number asked for. -/
theorem Step.less_of_beginsRound (h : g.Step p v q) (hv : v.BeginsRound) :
    (Binary64.ofNat (v.before.counters.rounds v.id)).less (Blocks.requestedRounds v.before.store
      (Settings.ofBlock Blocks.LoopSettings.record v.block.block).iterations) = true := by
  have hrun := h.run_eq
  rw [hv.handler, Blocks.loop_run] at hrun
  by_contra hless
  obtain ⟨hkey, _⟩ := Blocks.runLoop_of_not_less
    ⟨v.block.block, v.block.type, g.outgoing v.id⟩ v.before (eq_false_of_ne_true hless)
  rw [hrun, hv.branchKey] at hkey
  exact absurd hkey (by decide)

/-- A loop that begins another round counts it in a word of 32 bits, and says so. -/
theorem Step.counts_of_beginsRound (h : g.Step p v q) (hv : v.BeginsRound) :
    v.left.counters.rounds v.id = (v.before.counters.rounds v.id + 1) % 2 ^ 32 ∧
      v.result.description = s!"Loop iteration {v.left.counters.rounds v.id} of " ++
        Decimal.Layout.plain.write (Blocks.requestedRounds v.before.store
          (Settings.ofBlock Blocks.LoopSettings.record v.block.block).iterations) := by
  have hrun := h.run_eq
  rw [hv.handler, Blocks.loop_run] at hrun
  obtain ⟨hresult, hcounters, _⟩ := Blocks.runLoop_of_less
    ⟨v.block.block, v.block.type, g.outgoing v.id⟩ v.before (h.less_of_beginsRound hv)
  rw [hrun] at hresult hcounters
  have hround : v.left.counters.rounds v.id = (v.before.counters.rounds v.id + 1) % 2 ^ 32 :=
    (congrFun hcounters v.id).trans (Function.update_self ..)
  exact ⟨hround, by rw [hround]; exact congrArg StepResult.description hresult⟩

/-- A loop that is asked for a number of rounds within 32 bits never counts beyond them. -/
theorem Step.rounds_lt_of_beginsRound (h : g.Step p v q) (hv : v.BeginsRound)
    (hrequested : v.requestedRounds < 2 ^ 32) : v.before.counters.rounds v.id < 2 ^ 32 - 1 := by
  have hless := h.less_of_beginsRound hv
  unfold Visit.requestedRounds at hrequested
  rw [Blocks.less_requestedRounds _ _ _ _ (by omega), decide_eq_true_iff] at hless
  omega

/-! ## Loops that lead back to themselves -/

/-- A loop that is asked for so many rounds and is connected to itself for each of them. -/
structure Spins (g : Graph) (b : ResolvedBlock) (rounds : Nat) : Prop where
  found : g.block? b.block.id = some b
  handler : b.handler = Blocks.loop
  isEnd : b.isEnd = false
  loopsFor : b.block.LoopsFor rounds
  back : ∃ c, selectConnection (.labeled Blocks.loopBranch) (g.outgoing b.block.id) = some c ∧
    c.target = b.block.id

/-- As long as its counter is less than the number of rounds, such a loop begins another one and is
visited again. -/
theorem Spins.step (h : g.Spins b rounds) (hrounds : rounds < 2 ^ 53) (scene : Scene)
    (hlt : scene.counters.rounds b.block.id < rounds) :
    (g.visit b scene).BeginsRound ∧
      g.Step ⟨.goOn b.block.id, scene⟩ (g.visit b scene)
        ⟨.goOn b.block.id, (g.visit b scene).after⟩ ∧
      (g.visit b scene).after.counters.rounds = Function.update scene.counters.rounds b.block.id
        ((scene.counters.rounds b.block.id + 1) % 2 ^ 32) := by
  have hless := Blocks.less_requestedRounds_of_loopsFor h.loopsFor hrounds scene.counters
    scene.store
  rw [decide_eq_true hlt] at hless
  obtain ⟨hresult, hcounters, _⟩ := Blocks.runLoop_of_less
    ⟨b.block, b.type, g.outgoing b.block.id⟩ scene hless
  rw [← Blocks.loop_run, ← h.handler] at hresult hcounters
  have hkey : (g.visit b scene).result.branchKey = some Blocks.loopBranch :=
    congrArg StepResult.branchKey hresult
  obtain ⟨c, hc, htarget⟩ := h.back
  have hchoice : (g.visit b scene).choice g = some c := by
    rw [Visit.choice, StepResult.desiredBranch, hkey]
    exact hc
  have hstep : g.Step ⟨.goOn b.block.id, scene⟩ (g.visit b scene)
      ⟨.goOn c.target, (g.visit b scene).after⟩ := .follow ⟨h.found, rfl⟩ h.isEnd hchoice
  rw [htarget] at hstep
  exact ⟨⟨h.handler, hkey⟩, hstep, hcounters⟩

/-- Visits of such a loop count up to their number. -/
theorem Spins.passes (h : g.Spins b rounds) (hrounds : rounds < 2 ^ 53) (n : Nat) (f : Rounds)
    (hle : f b.block.id + n ≤ rounds) (hlt : f b.block.id + n < 2 ^ 32) :
    g.Passes b.block.id f (List.replicate n b.block.id) b.block.id
      (Function.update f b.block.id (f b.block.id + n)) := by
  -- The induction is on the visits; the last of them finds the counter where the others left it.
  induction n with
  | zero =>
      rw [Nat.add_zero, Function.update_eq_self]
      exact .refl _ f
  | succ n ih =>
      rw [List.replicate_succ']
      refine (ih (by omega) (by omega)).trans fun scene hscene => ?_
      have hcounter : scene.counters.rounds b.block.id = f b.block.id + n := by
        rw [hscene]
        exact Function.update_self ..
      obtain ⟨_, hstep, hafter⟩ := h.step hrounds scene (by omega)
      refine ⟨[g.visit b scene], _, .cons hstep (.refl _), rfl, ?_⟩
      rw [hafter, hcounter, hscene, Function.update_idem,
        Nat.mod_eq_of_lt (by omega : f b.block.id + n + 1 < 2 ^ 32), Nat.add_assoc]

/-- A run that comes to such a loop, which is asked for `2 ^ 32` rounds or more, visits it until its
counter is at the end of its range; then the loop begins another round and is visited again. -/
theorem Spins.exists_wrap (h : g.Spins b rounds) (hmin : 2 ^ 32 ≤ rounds)
    (hmax : rounds < 2 ^ 53) {source : Identifier} {ids : List Identifier}
    (hentry : g.Passes source (fun _ => 0) ids b.block.id (fun _ => 0)) (scene : Scene)
    (hscene : scene.counters = ⟨[]⟩) :
    ∃ visits scene', visits.length + 1 = ids.length + 2 ^ 32 ∧
      scene'.counters.rounds b.block.id = 2 ^ 32 - 1 ∧ (g.visit b scene').BeginsRound ∧
      g.Steps ⟨.goOn source, scene⟩ (visits ++ [g.visit b scene'])
        ⟨.goOn b.block.id, (g.visit b scene').after⟩ := by
  -- The number of visits is kept as a variable, since a list of that length must not be computed.
  obtain ⟨n, hn⟩ : ∃ n, n + 1 = 2 ^ 32 := ⟨2 ^ 32 - 1, rfl⟩
  have hpasses := hentry.trans (h.passes hmax n (fun _ => 0) (by omega) (by omega))
  obtain ⟨visits, scene', hsteps, hids, hrounds⟩ := hpasses scene (by rw [hscene]; rfl)
  have hlength := congrArg List.length hids
  rw [List.length_map, List.length_append, List.length_replicate] at hlength
  have hcounter : scene'.counters.rounds b.block.id = n := by
    rw [hrounds, Function.update_self, Nat.zero_add]
  obtain ⟨hbegins, hstep, _⟩ := h.step hmax scene' (by omega)
  exact ⟨visits, scene', by omega, by omega, hbegins, hsteps.append (.cons hstep (.refl _))⟩

/-- From the end of its range the counter begins again at zero, and the round is called so. -/
theorem Spins.restarts (h : g.Spins b rounds) (hmax : rounds < 2 ^ 53) (hstep : g.Step p v q)
    (hblock : v.block = b) (hv : v.BeginsRound)
    (hcounter : v.before.counters.rounds v.id = 2 ^ 32 - 1) :
    v.left.counters.rounds v.id = 0 ∧ v.result.description =
      "Loop iteration 0 of " ++ Decimal.Layout.plain.write (Binary64.ofNat rounds).floor := by
  obtain ⟨hround, hdescription⟩ := hstep.counts_of_beginsRound hv
  have hzero : v.left.counters.rounds v.id = 0 := by omega
  have hiterations : (Settings.ofBlock Blocks.LoopSettings.record v.block.block).iterations =
      toString rounds := hblock ▸ h.loopsFor
  have hname : s!"Loop iteration {0} of " = "Loop iteration 0 of " := by decide
  refine ⟨hzero, ?_⟩
  rw [hdescription, hzero, hname, hiterations, Blocks.requestedRounds_toString hmax]

end Graph

/-! ## A workflow that spins -/

namespace Workflow

/-- A loop that is asked for so many rounds. -/
def spinningLoop (rounds : Nat) (id : Identifier) : Block :=
  standardBlock id "Again" "Loop" (some (Blocks.LoopSettings.document rounds))

/-- A workflow of a Start block and such a loop, which is connected to itself. If both have the same
identifier, the loop is found in the place of the Start block. -/
def spinning (rounds : Nat) (id : Identifier) : Workflow :=
  { empty (.ofNat 9) "Endless" with
    blocks := [standardBlock (.ofNat 1) "Start" "Start" none, spinningLoop rounds id]
    connections := [
      ⟨.ofNat 3, .ofNat 1, id, .success, none⟩,
      ⟨.ofNat 4, id, id, .success, some Blocks.loopBranch⟩] }

variable {limits : Limits} {g : Graph} {rounds : Nat} {id : Identifier}
  (hg : Graph.IsGraphOf .standard (.standard limits) (spinning rounds id) g)
include hg

/-- All connections of this workflow lead to the loop, whichever of them is chosen. -/
theorem spinning_choice (source : Identifier) (branch : Branch)
    (h : ∃ c ∈ (spinning rounds id).connections, c.source = source ∧ branch.qualifies c = true) :
    ∃ c, selectConnection branch (g.outgoing source) = some c ∧ c.target = id := by
  have hmem (c : Connection) :
      c ∈ g.outgoing source ↔ c ∈ (spinning rounds id).connections ∧ c.source = source := by
    simp [Graph.outgoing, hg.connections]
  obtain ⟨c, hc, hsource, hqualifies⟩ := h
  refine exists_selectConnection ⟨c, (hmem c).mpr ⟨hc, hsource⟩, hqualifies⟩ fun d hd _ => ?_
  have hd' : d ∈ (spinning rounds id).connections := ((hmem d).mp hd).1
  simp only [spinning, List.mem_cons, List.not_mem_nil, or_false] at hd'
  rcases hd' with rfl | rfl <;> rfl

/-- The loop of this workflow leads back to itself. -/
theorem spinning_spins : ∃ b, b.block.id = id ∧ g.Spins b rounds := by
  have hfind : (spinning rounds id).blocks.reverse.find? (·.id = id) =
      some (spinningLoop rounds id) := List.find?_cons_of_pos (decide_eq_true rfl)
  obtain ⟨t, hname, hfound⟩ := hg.exists_block?_of_isA hfind
    (standardBlock_isA Blocks.loop (by simp [Blocks.standard]) rfl _ _ _)
  have hend : t.isNamed "End" = false :=
    (BlockType.isNamed_eq hname "End").trans (by decide +kernel)
  refine ⟨⟨spinningLoop rounds id, t, Blocks.loop⟩, rfl, hfound, rfl, hend,
    Block.loopsFor_of_config rfl, ?_⟩
  refine spinning_choice hg _ _ ⟨⟨.ofNat 4, id, id, .success, some Blocks.loopBranch⟩, ?_, rfl, ?_⟩
  · simp [spinning]
  · show (Branch.labeled Blocks.loopBranch).qualifies
      ⟨.nil, .nil, .nil, .success, some Blocks.loopBranch⟩ = true
    decide +kernel

/-- A run of this workflow starts at the identifier of the Start block. -/
theorem spinning_start : g.start = .ofNat 1 :=
  hg.start_of_isA List.mem_cons_self
    (standardBlock_isA Blocks.start (by simp [Blocks.standard]) rfl _ _ _)

/-- If the loop has another identifier than the Start block, a run comes to it from there. -/
theorem spinning_passes (hid : id ≠ .ofNat 1) :
    g.Passes (.ofNat 1) (fun _ => 0) [.ofNat 1] id (fun _ => 0) := by
  have hfind : (spinning rounds id).blocks.reverse.find? (·.id = .ofNat 1) =
      some (standardBlock (.ofNat 1) "Start" "Start" none) := by
    show [spinningLoop rounds id, standardBlock (.ofNat 1) "Start" "Start" none].find? _ = _
    rw [List.find?_cons_of_neg (p := fun b : Block => b.id = .ofNat 1)
      fun h => hid (of_decide_eq_true h), List.find?_cons_of_pos (by decide +kernel)]
  obtain ⟨t, hname, hfound⟩ := hg.exists_block?_of_isA hfind
    (standardBlock_isA Blocks.start (by simp [Blocks.standard]) rfl _ _ _)
  have hend : t.isNamed "End" = false :=
    (BlockType.isNamed_eq hname "End").trans (by decide +kernel)
  have hchoice := spinning_choice hg (.ofNat 1) (.ofKind .success)
    ⟨_, List.mem_cons_self, rfl, rfl⟩
  exact Graph.Passes.step hfound hend hchoice fun scene hscene => ⟨rfl, hscene⟩

end Workflow

/-! ## Which limits of steps keep counters in range -/

namespace Engine

/-- In any run of this workflow that may make enough steps, the loop begins another round with its
counter at the end of its range. -/
theorem spinning_wraps (maxSteps : Nat) (id : Identifier) (ids : List Identifier)
    (hfaults : (Workflow.spinning (2 ^ 32) id).faults .standard (.standard {}) = [])
    (hentry : ∀ g, Graph.IsGraphOf .standard (.standard {}) (Workflow.spinning (2 ^ 32) id) g →
      g.Passes (.ofNat 1) (fun _ => 0) ids id (fun _ => 0))
    (hsteps : ids.length + 2 ^ 32 ≤ maxSteps) :
    ∃ (g : Graph) (visits : List Visit) (v : Visit) (rest : List Visit) (last : Position),
      (create (.standard {}) .standard { maxSteps }).graph (Workflow.spinning (2 ^ 32) id) = .ok g ∧
      g.IsRun maxSteps (opening { maxSteps } g (Workflow.spinning (2 ^ 32) id) default)
        (visits ++ v :: rest) last ∧
      visits.length + 1 = ids.length + 2 ^ 32 ∧ v.BeginsRound ∧
      v.before.counters.rounds v.id = 2 ^ 32 - 1 ∧ v.left.counters.rounds v.id = 0 ∧
      v.result.description = "Loop iteration 0 of 4294967296" := by
  obtain ⟨g, hgraph⟩ := Graph.exists_ofWorkflow_iff.mpr (Workflow.faults_eq_nil_iff.mp hfaults)
  have hg := Graph.ofWorkflow_eq_ok_iff.mp hgraph
  obtain ⟨b, rfl, hspins⟩ := Workflow.spinning_spins hg
  obtain ⟨visits, scene, hlength, hcounter, hbegins, hwrap⟩ := hspins.exists_wrap (Nat.le_refl _)
    (by decide) (hentry g hg)
    (openingScene { maxSteps } (Workflow.spinning (2 ^ 32) b.block.id) default) rfl
  rw [← Workflow.spinning_start hg] at hwrap
  have huncancelled := hwrap.forall_before (P := fun scene => scene.clock.cancelled = false)
    fun earlier q _ hsteps => uncancelled_of_standard hgraph rfl rfl hsteps
  have hlimit : (visits ++ [g.visit b scene]).length ≤ maxSteps := by
    rw [List.length_append, List.length_singleton]
    omega
  obtain ⟨rest, last, hrun⟩ := hwrap.exists_isRun hg.closed
    (finds_opening hg.closed { maxSteps } (Workflow.spinning (2 ^ 32) b.block.id) default)
    hlimit huncancelled
  rw [List.append_assoc, List.singleton_append] at hrun
  obtain ⟨_, _, hstep⟩ := hrun.steps.exists_of_mem (List.mem_append_right _ List.mem_cons_self)
  obtain ⟨hzero, hdescription⟩ := hspins.restarts (by decide) hstep rfl hbegins hcounter
  have hnumber : Decimal.Layout.plain.write (Binary64.ofNat (2 ^ 32)).floor = "4294967296" := by
    decide +kernel
  rw [hnumber] at hdescription
  exact ⟨g, visits, _, rest, last, hgraph, hrun, hlength, hbegins, hcounter, hzero, hdescription⟩

/-- The counters of loops are in range, in all runs that may make so many steps over handlers that
leave counting to loops, just if the steps are fewer than `2 ^ 32`: whenever a loop begins another
round, there is then room for it in its counter. Within any limit, a loop that begins another round
counts it in a word of 32 bits, and there is room for it if the loop is asked for fewer than
`2 ^ 32` rounds at that visit. -/
theorem counters_fit_iff (maxSteps : Nat) :
    ((∀ (engine : Engine) (w : Workflow) (g : Graph) (request : RunRequest) (visits : List Visit)
        (last : Position), engine.registry.CountsInLoops → engine.config.maxSteps = maxSteps →
        engine.graph w = .ok g →
        g.IsRun engine.config.maxSteps (opening engine.config g w request) visits last →
        ∀ v ∈ visits, v.BeginsRound → v.before.counters.rounds v.id < 2 ^ 32 - 1) ↔
      maxSteps < 2 ^ 32) ∧
    ∀ (engine : Engine) (w : Workflow) (g : Graph) (request : RunRequest) (visits : List Visit)
      (last : Position), engine.graph w = .ok g →
      g.IsRun engine.config.maxSteps (opening engine.config g w request) visits last →
      ∀ v ∈ visits, v.BeginsRound →
        v.left.counters.rounds v.id = (v.before.counters.rounds v.id + 1) % 2 ^ 32 ∧
        (v.requestedRounds < 2 ^ 32 → v.before.counters.rounds v.id < 2 ^ 32 - 1) := by
  refine ⟨⟨fun hall => ?_, fun hlimit => ?_⟩, ?_⟩
  · by_contra hlimit
    -- The loop has the identifier of the Start block, so that the run begins with it.
    have hfaults :
        (Workflow.spinning (2 ^ 32) (.ofNat 1)).faults .standard (.standard {}) = [] := by
      decide +kernel
    obtain ⟨g, visits, v, rest, last, hgraph, hrun, _, hbegins, hcounter, _⟩ :=
      spinning_wraps maxSteps (.ofNat 1) [] hfaults (fun g _ => .refl _ _) (by simpa using hlimit)
    have hroom := hall _ _ g default _ last (Registry.standard_countsInLoops {}) rfl hgraph hrun v
      (List.mem_append_right _ List.mem_cons_self) hbegins
    omega
  · intro engine w g request visits last hregistry hmaxSteps hgraph hrun v hv _
    have hrounds := hrun.rounds_lt (isGraphOf_of_graph hgraph) hregistry rfl v.id v hv
    omega
  · intro engine w g request visits last hgraph hrun v hv hbegins
    obtain ⟨_, _, hstep⟩ := hrun.steps.exists_of_mem hv
    exact ⟨(hstep.counts_of_beginsRound hbegins).1, hstep.rounds_lt_of_beginsRound hbegins⟩

/-- With a limit of `2 ^ 32 + 1` steps, the loop of this workflow begins a round with its counter at
the end of its range; the counter is zero then, and the record says that this is round zero. -/
theorem spinning_overflows : ∃ (g : Graph) (visits : List Visit) (last : Position) (v : Visit)
    (result : RunResult),
    (create (.standard {}) .standard { maxSteps := 2 ^ 32 + 1 }).graph
      (Workflow.spinning (2 ^ 32) (.ofNat 2)) = .ok g ∧
    g.IsRun (2 ^ 32 + 1) (opening { maxSteps := 2 ^ 32 + 1 } g
      (Workflow.spinning (2 ^ 32) (.ofNat 2)) default) visits last ∧
    v ∈ visits ∧ v.BeginsRound ∧ v.before.counters.rounds v.id = 2 ^ 32 - 1 ∧
    v.left.counters.rounds v.id = 0 ∧
    ((create (.standard {}) .standard { maxSteps := 2 ^ 32 + 1 }).execute
      (Workflow.spinning (2 ^ 32) (.ofNat 2)) default).1 = .ok result ∧
    result.record.steps = 2 ^ 32 + 1 ∧
    result.record.actions[2 ^ 32]? = some "Loop iteration 0 of 4294967296" := by
  have hfaults : (Workflow.spinning (2 ^ 32) (.ofNat 2)).faults .standard (.standard {}) = [] := by
    decide +kernel
  obtain ⟨g, visits, v, rest, last, hgraph, hrun, hlength, hbegins, hcounter, hzero,
      hdescription⟩ :=
    spinning_wraps (2 ^ 32 + 1) (.ofNat 2) [.ofNat 1] hfaults
      (fun g hg => Workflow.spinning_passes hg (by decide +kernel)) (by simp)
  rw [List.length_singleton] at hlength
  have hplace : visits.length = 2 ^ 32 := by omega
  have hget (notes : List String) :
      ((visits ++ v :: rest).map (·.result.description) ++ notes)[visits.length]? =
        some v.result.description := by simp
  rw [hplace, hdescription] at hget
  refine ⟨g, _, last, v, _, hgraph, hrun, List.mem_append_right _ List.mem_cons_self, hbegins,
    hcounter, hzero, by rw [execute_of_isRun hgraph hrun], ?_, hget _⟩
  have hle := hrun.length_le
  show (visits ++ v :: rest).length = 2 ^ 32 + 1
  rw [List.length_append, List.length_cons] at hle ⊢
  omega

end Engine
end Flowchart
