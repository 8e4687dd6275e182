import Flowchart.Proofs.Blocks.Settings
import Flowchart.Proofs.Run.Execution

/-!
# The clock of a run

Most handlers know nothing of the time: on any clock they do the same, and they leave the clock as
it is (`Handler.Timeless`). A wait does the same on any clock too, except that it waits
(`exists_runWait_onClock`). Any standard handler lets time pass by one wait at most
(`standard_waitsOnce`), so that nothing is ever cancelled on a clock that has no deadline
(`Clock.Passes.isFree`).

Time passes in a run only as its handlers let it pass. Over the standard handlers, a run that has no
limit of time is therefore cancelled only if it was beforehand (`Engine.uncancelled_of_standard`).
-/

namespace Flowchart

namespace Clock

variable {c c' : Clock}

/-- Time has passed from one clock to another one, by one wait or not at all. -/
inductive Passes (c : Clock) : Clock → Prop where
  | still : Passes c c
  | waited (millis : Nat) : Passes c (c.wait millis).2

/-- A clock on which nothing has been cancelled and nothing will be. -/
structure IsFree (c : Clock) : Prop where
  uncancelled : c.cancelled = false
  unlimited : c.deadline = none

/-- A clock stays free as time passes. -/
theorem Passes.isFree (h : c.Passes c') (hc : c.IsFree) : c'.IsFree := by
  obtain ⟨huncancelled, hunlimited⟩ := hc
  cases h with
  | still => exact ⟨huncancelled, hunlimited⟩
  | waited millis => constructor <;> simp [wait, huncancelled, hunlimited]

end Clock

/-- A scene with another clock. -/
def Scene.onClock (scene : Scene) (clock : Clock) : Scene := { scene with clock }

/-- A handler lets time pass by one wait at most. -/
def Handler.WaitsOnce (h : Handler) : Prop :=
  ∀ (context : Context) (scene : Scene), scene.clock.Passes (h.run context scene).2.clock

/-- A handler gives the same verdict on any clock and changes all else in the same way. -/
def Handler.Timeless (h : Handler) : Prop :=
  ∀ (context : Context) (scene : Scene) (clock : Clock), h.run context (scene.onClock clock) =
    ((h.run context scene).1, (h.run context scene).2.onClock clock)

/-- A handler with a name lets time pass as its function does. -/
theorem Handler.waitsOnce_named {run : Context → Scene → StepResult × Scene}
    (hpasses : ∀ (context : Context) (scene : Scene),
      scene.clock.Passes (run context scene).2.clock)
    (typeName : String) (info : HandlerInfo) : (Handler.named typeName info run).WaitsOnce :=
  hpasses

/-- A handler with a name knows as little of the time as its function does. -/
theorem Handler.timeless_named {run : Context → Scene → StepResult × Scene}
    (hrun : ∀ (context : Context) (scene : Scene) (clock : Clock),
      run context (scene.onClock clock) =
        ((run context scene).1, (run context scene).2.onClock clock))
    (typeName : String) (info : HandlerInfo) : (Handler.named typeName info run).Timeless :=
  hrun

/-- A handler that knows nothing of the time does not wait. -/
theorem Handler.Timeless.waitsOnce {h : Handler} (hh : h.Timeless) : h.WaitsOnce := by
  intro context scene
  have hrun : h.run context scene = _ := hh context scene scene.clock
  rw [hrun]
  exact .still

/-! ## The parts of handlers -/

namespace Scene

variable (scene : Scene) (clock : Clock)

/-- Notes of information take no time. -/
@[simp] theorem info_clock (message : String) : (scene.info message).clock = scene.clock := rfl

/-- Setting a variable takes no time. -/
@[simp] theorem set_clock (name value : String) : (scene.set name value).clock = scene.clock := rfl

/-- Setting a variable that may have no name takes no time. -/
@[simp] theorem setNamed_clock (name value : String) :
    (scene.setNamed name value).clock = scene.clock := by
  unfold setNamed
  split <;> rfl

/-- The clock of a scene with another clock. -/
@[simp] theorem clock_onClock : (scene.onClock clock).clock = clock := rfl

/-- Variables do not depend on the clock. -/
@[simp] theorem store_onClock : (scene.onClock clock).store = scene.store := rfl

/-- Notes of information are the same on any clock. -/
@[simp] theorem info_onClock (message : String) :
    (scene.onClock clock).info message = (scene.info message).onClock clock := rfl

/-- Warnings are the same on any clock. -/
@[simp] theorem warn_onClock (message : String) :
    (scene.onClock clock).warn message = (scene.warn message).onClock clock := rfl

/-- The time is not seen. -/
theorem unseen_onClock : Unseen (·.onClock clock) where
  store _ := rfl
  counters _ := rfl
  warn _ _ := rfl
  set _ _ _ := rfl
  count _ _ := rfl

end Scene

namespace Settings

variable {σ : Type} (record : Json.Decoder.Record σ) (context : Context) (scene : Scene)

/-- Reading settings takes no time. -/
@[simp] theorem read_clock : (read record context scene).2.clock = scene.clock := by
  unfold read
  split
  · rfl
  · split <;> rfl

/-- Settings are read in the same way on any clock. -/
theorem read_onClock (clock : Clock) : read record context (scene.onClock clock) =
    ((read record context scene).1, (read record context scene).2.onClock clock) := by
  unfold read
  split
  · rfl
  · split <;> rfl

end Settings

/-! ## The standard handlers -/

/-- A handler that is governed by its settings, whatever change of the scene it does not see, does
the same on any clock. -/
theorem Handler.timeless_of_governs {σ : Type} {record : Json.Decoder.Record σ}
    {run : Context → Scene → StepResult × Scene}
    (hrun : ∀ {change : Scene → Scene}, Scene.Unseen change →
      Settings.GovernsUnder change record run)
    (typeName : String) (info : HandlerInfo) : (Handler.named typeName info run).Timeless := by
  intro context scene clock
  have hread := Settings.read_onClock record context scene clock
  have hread' : Settings.read record (context.configured context.block.config) scene =
      Settings.read record context scene := rfl
  exact hrun (Scene.unseen_onClock clock) hread hread'

namespace Blocks

variable (limits : Limits) (limit : Nat) (context : Context) (scene : Scene) (clock : Clock)

/-- The delay of a wait in milliseconds: what its settings ask for, cut to the limit. -/
def waitDelay : Nat :=
  let (settings, scene) := Settings.read WaitSettings.record context scene
  (cutDelay (requestedDelay settings scene.store) limit).1

/-- The verdict of a wait for a delay, which came to its end or was cancelled. -/
def waitVerdict (delay : Nat) (finished : Bool) : StepResult :=
  if finished then .success s!"Waited {delay}ms" else .failure s!"Wait of {delay}ms cancelled"

/-- A wait makes the same notes on any clock, and then waits for its delay. -/
theorem exists_runWait_onClock : ∃ noted : Scene, ∀ clock : Clock,
    runWait limit context (scene.onClock clock) =
      (waitVerdict (waitDelay limit context scene)
          (clock.wait (waitDelay limit context scene)).1,
        noted.onClock (clock.wait (waitDelay limit context scene)).2) := by
  simp only [runWait, waitDelay, Settings.read_onClock, Scene.store_onClock]
  obtain ⟨settings, scene⟩ := Settings.read WaitSettings.record context scene
  obtain ⟨delay, isCut⟩ := cutDelay (requestedDelay settings scene.store) limit
  cases isCut with
  | false =>
      refine ⟨scene.info s!"Waiting for {delay}ms", fun clock => ?_⟩
      simp only [Bool.false_eq_true, if_false, Scene.info_onClock, Scene.clock_onClock]
      cases (clock.wait delay).1 <;> rfl
  | true =>
      let asked := Decimal.Layout.plain.write (requestedDelay settings scene.store)
      let warning :=
        s!"Wait '{context.displayName}': {asked}ms exceeds the limit, clipped to {limit}ms"
      refine ⟨(scene.warn warning).info s!"Waiting for {delay}ms", fun clock => ?_⟩
      simp only [if_true, Scene.warn_onClock, Scene.info_onClock, Scene.clock_onClock]
      cases (clock.wait delay).1 <;> rfl

/-- A wait waits once. -/
theorem runWait_passes : scene.clock.Passes (runWait limit context scene).2.clock := by
  obtain ⟨noted, hrun⟩ := exists_runWait_onClock limit context scene
  have hscene : runWait limit context scene = _ := hrun scene.clock
  rw [hscene]
  exact .waited _

/-- Sending waits once if the server does not answer. -/
theorem sendWithin_passes (timeout : Nat) (call : Except Http.SendFault Http.Call) :
    scene.clock.Passes (sendWithin timeout call scene).2.clock := by
  simp only [sendWithin]
  split
  · exact .still
  · split
    · exact .still
    · split
      · exact .still
      · split
        · exact .still
        · split <;> exact .still
        · exact .waited timeout

/-- Keeping a response takes no time. -/
theorem keepResponse_clock (settings : RequestSettings) (status : Nat) (body : String) :
    (keepResponse settings status body scene).clock = scene.clock := by
  simp [keepResponse]

/-- A request waits at most as long as its sending. -/
theorem runRequest_passes : scene.clock.Passes (runRequest limit context scene).2.clock := by
  have hread := Settings.read_clock RequestSettings.record context scene
  simp only [runRequest]
  split
  · rw [hread]
    exact .still
  · split
    · rw [hread]
      exact .still
    · split
      · rw [hread]
        exact .still
      · generalize hopened : Scene.info _ _ = opened
        have hclock : opened.clock = scene.clock := by
          rw [← hopened, Scene.info_clock, hread]
        generalize hsent : sendWithin _ _ opened = sent
        have hpasses : scene.clock.Passes sent.2.clock := by
          rw [← hsent, ← hclock]
          exact sendWithin_passes opened _ _
        obtain ⟨fault | ⟨status, body⟩, after⟩ := sent
        · exact hpasses
        · show scene.clock.Passes (keepResponse _ status body _).clock
          rw [keepResponse_clock]
          exact hpasses

/-- The standard handlers are waits and requests, or know nothing of the time. -/
theorem standard_cases {h : Handler} (hh : h ∈ standard limits) :
    h.Timeless ∨ h = wait limits.maxWaitMs ∨ h = httpRequest limits := by
  simp only [standard, List.mem_cons, List.not_mem_nil, or_false] at hh
  rcases hh with rfl | rfl | rfl | rfl | rfl | rfl | rfl | rfl | rfl | rfl | rfl
  · exact Or.inl (Handler.timeless_named (fun _ _ _ => rfl) _ _)
  · exact Or.inl (Handler.timeless_named (fun _ _ _ => rfl) _ _)
  · exact Or.inl (Handler.timeless_of_governs runCalculation_governed _ _)
  · exact Or.inl (Handler.timeless_of_governs runCondition_governed _ _)
  · exact Or.inl (Handler.timeless_of_governs runSwitch_governed _ _)
  · exact Or.inl (Handler.timeless_of_governs runLoop_governed _ _)
  · exact Or.inr (Or.inl rfl)
  · exact Or.inl (Handler.timeless_of_governs runTransform_governed _ _)
  · exact Or.inl (Handler.timeless_of_governs (runReplacement_governed limits) _ _)
  · exact Or.inl (Handler.timeless_of_governs runExtraction_governed _ _)
  · exact Or.inr (Or.inr rfl)

/-- The handler of last resort knows nothing of the time. -/
theorem passthrough_timeless : passthrough.Timeless := fun _ _ _ => rfl

/-- The standard handlers wait once at most. -/
theorem standard_waitsOnce : ∀ h ∈ standard limits, h.WaitsOnce := by
  intro h hh
  rcases standard_cases limits hh with htimeless | rfl | rfl
  · exact htimeless.waitsOnce
  · exact Handler.waitsOnce_named (runWait_passes limits.maxWaitMs) _ _
  · exact Handler.waitsOnce_named (runRequest_passes limits.httpTimeoutMs) _ _

/-- The handler of last resort does not wait. -/
theorem passthrough_waitsOnce : passthrough.WaitsOnce := passthrough_timeless.waitsOnce

end Blocks

/-! ## Time in a run -/

/-- A handler of a registry is one of those registered or the one of last resort. -/
theorem Registry.mem_of_handler? {registry : Registry} {t : BlockType} {h : Handler}
    (hh : registry.handler? t = some h) : h ∈ registry.handlers ∨ registry.fallback = some h := by
  rcases Option.or_eq_some_iff.mp hh with hfound | ⟨_, hfallback⟩
  · exact Or.inl (List.mem_of_find?_eq_some hfound)
  · exact Or.inr hfallback

namespace Graph

/-- All blocks of a graph have handlers that wait once at most. -/
def WaitsOnce (g : Graph) : Prop := ∀ r ∈ g.blocks, r.handler.WaitsOnce

variable {g : Graph} {p q : Position} {v : Visit} {visits : List Visit}

/-- In a step, time passes by one wait at most. -/
theorem Step.passes (hg : g.WaitsOnce) (h : g.Step p v q) :
    p.scene.clock.Passes q.scene.clock := by
  obtain ⟨id, _, hv, rfl⟩ := step_iff.mp h
  have hmem : v.block ∈ g.blocks := hv.block_mem
  have hpasses := hg v.block hmem ⟨v.block.block, v.block.type, g.outgoing v.id⟩ p.scene
  show p.scene.clock.Passes v.left.clock
  rw [hv.made]
  exact hpasses

/-- A clock that is free at one position of a run is free at all later ones. -/
theorem Steps.isFree (hg : g.WaitsOnce) (h : g.Steps p visits q) (hp : p.scene.clock.IsFree) :
    q.scene.clock.IsFree :=
  h.preserves (fun hstep => (hstep.passes hg).isFree) hp

/-- In the graph of a workflow under the standard registry, all handlers wait once at most. -/
theorem IsGraphOf.waitsOnce {catalog : Catalog} {limits : Limits} {w : Workflow}
    (h : IsGraphOf catalog (.standard limits) w g) : g.WaitsOnce := by
  intro r hr
  rcases Registry.mem_of_handler? (h.fits r hr).handler with hmem | hfallback
  · exact Blocks.standard_waitsOnce limits r.handler hmem
  · rw [← Option.some.inj hfallback]
    exact Blocks.passthrough_waitsOnce

end Graph

/-- Without a limit of time, no run over the standard handlers is ever cancelled unless it was
beforehand. -/
theorem Engine.uncancelled_of_standard {config : EngineConfig} {catalog : Catalog}
    {limits : Limits} {w : Workflow} {g : Graph} {request : RunRequest} {visits : List Visit}
    {p : Position} (hgraph : Graph.ofWorkflow catalog (.standard limits) w = .ok g)
    (hlimit : config.maxTimeMs = none) (hrequest : request.cancelled = false)
    (h : g.Steps (opening config g w request) visits p) : p.scene.clock.cancelled = false := by
  have hfree : (opening config g w request).scene.clock.IsFree := ⟨hrequest, hlimit⟩
  have hg := (Graph.ofWorkflow_eq_ok_iff.mp hgraph).waitsOnce
  exact (h.isFree hg hfree).uncancelled

end Flowchart
