import Flowchart.Blocks.Standard
import Flowchart.Command.Example
import Flowchart.Proofs.Event.Bus
import Flowchart.Proofs.Run.Execution

/-!
# The broadcast of events

The events of several runs reach a receiver in order, except for those that the bus no longer
retains (`Engine.runs_broadcast`). What a run does never depends on the bus. To say so,
`Engine.executeLive` announces each event on a channel at once, and leaves it to the channel what
becomes of it and whether there is anyone to receive it: with any channel the record is the same,
and the events are announced in the same order (`Engine.executeLive_eq`).
-/

namespace Flowchart

/-! ## Channels -/

/-- A channel for events: sending tells whether it has succeeded, and may do anything to the state
of the channel. -/
structure Channel (σ : Type) where
  send : σ → Event → Bool × σ

/-- Announces an event on a channel, whether it succeeds or not. -/
def Channel.emit {σ : Type} (channel : Channel σ) (state : σ) (e : Event) : σ :=
  (channel.send state e).2

/-- The bus is a channel; sending fails if there are no receivers. -/
def Bus.channel (receivers : Nat) : Channel Bus where
  send bus e := (0 < receivers, bus.send e)

/-- A walk that announces its events on a channel: as a walk, with the state of the channel in place
of the events. -/
structure LiveWalk (σ : Type) where
  current : Identifier
  scene : Scene
  trail : Trail
  state : σ

namespace LiveWalk

variable {σ : Type}

/-- Announces an event. -/
def announce (channel : Channel σ) (l : LiveWalk σ) (e : Event) : LiveWalk σ :=
  { l with state := channel.emit l.state e }

/-- Visits a block and gives its verdict. -/
def visit (channel : Channel σ) (header : RunHeader) (g : Graph) (b : ResolvedBlock)
    (l : LiveWalk σ) : StepResult × LiveWalk σ :=
  let id := b.block.id
  let startedAt := l.scene.clock.now
  let l := l.announce channel
    (.blockStarted header.run id b.block.name b.type.name (Walk.time header l.scene.clock))
  let (result, scene) := b.handler.run ⟨b.block, b.type, g.outgoing id⟩ l.scene
  let noted := scene.notes.map fun n => Event.noted header.run id n (Walk.time header scene.clock)
  let l := noted.foldl (announce channel) { l with scene := { scene with notes := [] } }
  let l := { l with trail := l.trail.step b.block.name result.description }
  (result, l.announce channel (.blockCompleted header.run id result.description result.isError
    (l.scene.clock.now - startedAt) (Walk.time header l.scene.clock)))

/-- Walks on with so many steps left. -/
def run (channel : Channel σ) (header : RunHeader) (g : Graph) (maxSteps : Nat) :
    Nat → LiveWalk σ → Except GraphFault Outcome × LiveWalk σ
  | left, l =>
      if l.scene.clock.cancelled then
        (.ok .cancelled, { l with trail := l.trail.note "Execution cancelled" })
      else match left with
        | 0 => (.ok .completed, { l with trail := l.trail.truncate maxSteps })
        | left + 1 =>
            match g.block? l.current with
            | none => (.error (.blockNotFound l.current), l)
            | some b =>
                let (result, l) := l.visit channel header g b
                match Walk.advance g b result with
                | .stop outcome => (.ok outcome, l)
                | .goOn next => run channel header g maxSteps left { l with current := next }

/-- A walk whose events have been announced on a channel. -/
def ofWalk (channel : Channel σ) (state : σ) (w : Walk) : LiveWalk σ :=
  ⟨w.current, w.scene, w.trail, w.events.toList.foldl channel.emit state⟩

variable {channel : Channel σ} {state : σ} {header : RunHeader} {g : Graph} {maxSteps left : Nat}
  {w walk : Walk}

/-- A channel has no influence on the scene. -/
@[simp] theorem scene_ofWalk : (ofWalk channel state w).scene = w.scene := rfl

/-- A channel has no influence on the block to visit next. -/
@[simp] theorem current_ofWalk : (ofWalk channel state w).current = w.current := rfl

/-- Announcing several events changes the state of the channel only. -/
theorem foldl_announce (l : LiveWalk σ) (events : List Event) :
    events.foldl (announce channel) l =
      { l with state := events.foldl channel.emit l.state } := by
  induction events generalizing l with
  | nil => rfl
  | cons e events ih => exact ih _

/-- A visit announces on the channel what it would keep. -/
theorem visit_ofWalk (b : ResolvedBlock) : visit channel header g b (ofWalk channel state w) =
    ((w.visit header g b).1, ofWalk channel state (w.visit header g b).2) := by
  simp only [visit, announce, ofWalk, Walk.visit, Walk.announce, Walk.announceNotes, foldl_announce,
    Array.toList_push, Array.toList_appendList, List.foldl_append, List.foldl_cons, List.foldl_nil]

/-- A cancelled walk ends with a note. -/
theorem run_ofWalk_of_cancelled (h : w.scene.clock.cancelled = true) :
    run channel header g maxSteps left (ofWalk channel state w) = (.ok .cancelled,
      ofWalk channel state { w with trail := w.trail.note "Execution cancelled" }) := by
  unfold run
  rw [scene_ofWalk, if_pos h]
  rfl

/-- A walk that comes to an end does so with its events on a channel too. -/
theorem run_ofWalk {outcome : Outcome}
    (h : Walk.run header g maxSteps left w = .ok (outcome, walk)) :
    run channel header g maxSteps left (ofWalk channel state w) =
      (.ok outcome, ofWalk channel state walk) := by
  induction left generalizing w with
  | zero =>
      cases hcancelled : w.scene.clock.cancelled with
      | true =>
          rw [Walk.run_of_cancelled hcancelled] at h
          cases h
          exact run_ofWalk_of_cancelled hcancelled
      | false =>
          rw [Walk.run_zero hcancelled] at h
          cases h
          rw [run, scene_ofWalk, if_neg (Bool.not_eq_true _ ▸ hcancelled)]
          rfl
  | succ left ih =>
      cases hcancelled : w.scene.clock.cancelled with
      | true =>
          rw [Walk.run_of_cancelled hcancelled] at h
          cases h
          exact run_ofWalk_of_cancelled hcancelled
      | false =>
          rw [Walk.run, if_neg (Bool.not_eq_true _ ▸ hcancelled)] at h
          rw [run, scene_ofWalk, current_ofWalk, if_neg (Bool.not_eq_true _ ▸ hcancelled)]
          cases hfound : g.block? w.current with
          | none =>
              rw [hfound] at h
              cases h
          | some b =>
              simp only [hfound, visit_ofWalk] at h ⊢
              cases hturn : Walk.advance g b (w.visit header g b).1 with
              | stop ending =>
                  simp only [hturn] at h ⊢
                  cases h
                  rfl
              | goOn next =>
                  simp only [hturn] at h ⊢
                  exact ih h

end LiveWalk

/-- The events of an attempt to run a workflow; a workflow that is refused has none. -/
def announced (attempt : Except GraphFault RunResult) : List Event :=
  match attempt with
  | .ok result => result.events
  | .error _ => []

namespace Engine

variable {σ : Type} {engine : Engine} {w : Workflow} {capacity : Nat} {events : List Event}

/-! ## Runs on a channel -/

/-- Runs a workflow and announces each event on a channel at once. -/
def executeLive (engine : Engine) (channel : Channel σ) (w : Workflow) (request : RunRequest)
    (state : σ) : Except GraphFault RunRecord × σ :=
  match engine.graph w with
  | .error fault => (.error fault, state)
  | .ok g =>
      let header := request.header w
      let scene := openingScene engine.config w request
      let state := channel.emit state
        (.runStarted header.run header.workflow (Walk.time header scene.clock))
      let start : LiveWalk σ := ⟨g.start, scene, .ofStore scene.store, state⟩
      match start.run channel header g engine.config.maxSteps engine.config.maxSteps with
      | (.error fault, l) => (.error fault, l.state)
      | (.ok outcome, l) =>
          let record :=
            l.trail.finish header.run header.workflow header.startedAt l.scene.store outcome
          (.ok record, channel.emit l.state (.runCompleted header.run outcome record.steps
            l.scene.clock.now (Walk.time header l.scene.clock)))

/-- Whatever becomes of the events on a channel, a run has the same record, and announces the same
events in the same order. -/
theorem executeLive_eq (engine : Engine) (channel : Channel σ) (w : Workflow)
    (request : RunRequest) (state : σ) : engine.executeLive channel w request state =
      ((engine.execute w request).1.map (·.record),
        (announced (engine.execute w request).1).foldl channel.emit state) := by
  cases hgraph : engine.graph w with
  | error fault =>
      rw [execute_of_fault hgraph, executeLive, hgraph]
      rfl
  | ok g =>
      -- The graph is closed, so that the walk comes to an end.
      obtain ⟨visits, last, -, hresult⟩ :=
        exists_runGraph_eq (isGraphOf_of_graph hgraph).closed engine.config w request
      obtain ⟨⟨outcome, walk⟩, hwalk, -⟩ := bind_eq_ok_iff.mp hresult
      have hlive : LiveWalk.run channel (request.header w) g engine.config.maxSteps
          engine.config.maxSteps (LiveWalk.ofWalk channel state
            (.start (request.header w) g (openingScene engine.config w request))) =
          (.ok outcome, LiveWalk.ofWalk channel state walk) := LiveWalk.run_ofWalk hwalk
      have hlive : LiveWalk.run channel (request.header w) g engine.config.maxSteps
          engine.config.maxSteps ⟨g.start, openingScene engine.config w request,
            .ofStore (openingScene engine.config w request).store, channel.emit state
              (.runStarted request.run w.id
                (Walk.time (request.header w) (openingScene engine.config w request).clock))⟩ =
          (.ok outcome, LiveWalk.ofWalk channel state walk) := hlive
      simp only [execute, executeLive, hgraph, runGraph, RunRequest.header] at hlive ⊢
      rw [hlive, hwalk]
      simp only [bind, Except.bind, pure, Except.pure, announced, Except.map, LiveWalk.ofWalk,
        Array.toList_push, List.foldl_append, List.foldl_cons, List.foldl_nil]

/-! ## Runs on one bus -/

/-- Runs workflows one after another. -/
def runs (engine : Engine) :
    List (Workflow × RunRequest) → List (Except GraphFault RunResult) × Engine
  | [] => ([], engine)
  | (w, request) :: rest =>
      let (attempt, engine) := engine.execute w request
      let (attempts, engine) := engine.runs rest
      (attempt :: attempts, engine)

/-- A run adds its events to those that the bus carries, and changes nothing else. -/
theorem execute_carries (h : engine.bus.Carries capacity events) (w : Workflow)
    (request : RunRequest) : ∃ bus, (engine.execute w request).2 = { engine with bus } ∧
      bus.Carries capacity (events ++ announced (engine.execute w request).1) := by
  rw [execute]
  cases engine.graph w with
  | error fault => exact ⟨_, rfl, by rwa [announced, List.append_nil]⟩
  | ok g =>
      cases hresult : runGraph engine.config g w request with
      | error fault =>
          simp only [hresult]
          exact ⟨_, rfl, by rwa [announced, List.append_nil]⟩
      | ok result =>
          simp only [hresult]
          exact ⟨_, rfl, h.sendAll _⟩

/-- An attempt to run a workflow is a run of its graph. -/
theorem execute_attempt (engine : Engine) (w : Workflow) (request : RunRequest) :
    (engine.execute w request).1 =
      (engine.graph w).bind fun g => runGraph engine.config g w request := by
  rw [execute]
  cases engine.graph w with
  | error fault => rfl
  | ok g => cases hresult : runGraph engine.config g w request <;> simp [hresult, Except.bind]

/-- An attempt to run a workflow does not depend on the bus. -/
theorem execute_withBus (engine : Engine) (bus : Bus) (w : Workflow) (request : RunRequest) :
    (execute { engine with bus } w request).1 = (engine.execute w request).1 := by
  rw [execute_attempt, execute_attempt]
  rfl

/-- Runs add their events one after another to those that the bus carries, and each of them goes as
it would go on its own. -/
theorem runs_carries (h : engine.bus.Carries capacity events)
    (requests : List (Workflow × RunRequest)) :
    (engine.runs requests).1 = requests.map (fun run => (engine.execute run.1 run.2).1) ∧
      ∃ bus, (engine.runs requests).2 = { engine with bus } ∧
        bus.Carries capacity (events ++ (engine.runs requests).1.flatMap announced) := by
  induction requests generalizing engine events with
  | nil => exact ⟨rfl, engine.bus, rfl, by rwa [runs, List.flatMap_nil, List.append_nil]⟩
  | cons run rest ih =>
      obtain ⟨w, request⟩ := run
      obtain ⟨bus, hafter, hcarries⟩ := execute_carries h w request
      have hcarries : ({ engine with bus } : Engine).bus.Carries capacity
          (events ++ announced (engine.execute w request).1) := hcarries
      obtain ⟨hattempts, last, hlast, hmore⟩ := ih hcarries
      have hstep : engine.runs ((w, request) :: rest) =
          ((engine.execute w request).1 :: (runs { engine with bus } rest).1,
            (runs { engine with bus } rest).2) := by
        rw [← hafter]
        rfl
      rw [hstep]
      refine ⟨?_, last, hlast, ?_⟩
      · rw [hattempts, List.map_cons]
        simp only [execute_withBus]
      · rwa [List.flatMap_cons, ← List.append_assoc]

/-- The bus of a new engine carries nothing, and retains as many events as the size of its buffer
asks for: at least one, and a power of two. -/
theorem carries_create (registry : Registry) (catalog : Catalog) {config : EngineConfig}
    (h : config.eventBuffer < 2 ^ 64) : (create registry catalog config).bus.Carries
      (2 ^ Nat.clog 2 (max config.eventBuffer 1)) [] := by
  obtain ⟨bus, hbus, hcarries⟩ :=
    Bus.exists_create?_eq (show 0 < max config.eventBuffer 1 by omega)
      (show max config.eventBuffer 1 < 2 ^ 64 by omega)
  show ((Bus.create? (max config.eventBuffer 1)).getD default).Carries _ _
  rw [hbus]
  exact hcarries

/-- A receiver that has subscribed after some runs, and receives after some more runs, gets all the
events of these if the bus retains that many; else it is told how many it has lost, and gets the
others. With any channel in the place of the bus, whatever sending does and whether it succeeds or
not, a run has the same record as on the bus and announces the same events in the same order. So
each run goes as it would go on its own, and none fails but for its graph. -/
theorem runs_broadcast (registry : Registry) (catalog : Catalog) (config : EngineConfig)
    (hbuffer : config.eventBuffer < 2 ^ 64) (earlier later : List (Workflow × RunRequest)) :
    let engine := create registry catalog config
    let before := (engine.runs earlier).2
    let attempts := (before.runs later).1
    let after := (before.runs later).2
    let capacity := 2 ^ Nat.clog 2 (max config.eventBuffer 1)
    let events := attempts.flatMap announced
    (after.bus.drain before.bus.subscribe).1 =
      (if events.length ≤ capacity then events.map .event
      else .lagged (events.length - capacity) ::
        (events.drop (events.length - capacity)).map .event) ∧
    attempts = later.map (fun run => (engine.execute run.1 run.2).1) ∧
    (∀ (σ : Type) (channel : Channel σ) (state : σ) (w : Workflow) (request : RunRequest),
      before.executeLive channel w request state =
        ((engine.execute w request).1.map (·.record),
          (announced (engine.execute w request).1).foldl channel.emit state)) ∧
    (∀ receivers w request, before.executeLive (Bus.channel receivers) w request before.bus =
      ((before.execute w request).1.map (·.record), (before.execute w request).2.bus)) ∧
    ∀ w request g, engine.graph w = .ok g →
      ∃ result, (engine.execute w request).1 = .ok result := by
  intro engine before attempts after capacity events
  obtain ⟨-, bus, hbefore, hcarries⟩ :=
    runs_carries (carries_create registry catalog hbuffer) earlier
  have hbefore : before = { engine with bus } := hbefore
  have hcarries : before.bus.Carries capacity
      ([] ++ (engine.runs earlier).1.flatMap announced) := by
    rw [hbefore]
    exact hcarries
  obtain ⟨hattempts, last, hafter, hmore⟩ := runs_carries hcarries later
  refine ⟨?_, ?_, fun σ channel state w request => ?_, fun receivers w request => ?_,
    fun w request g hgraph => ?_⟩
  · have hafter : after.bus = last := congrArg Engine.bus hafter
    rw [hafter, Bus.subscribe, hcarries.sent_eq]
    exact hmore.drain_eq
  · show (before.runs later).1 = _
    rw [hattempts, hbefore]
    simp only [execute_withBus]
  · rw [executeLive_eq, hbefore, execute_withBus]
  · rw [executeLive_eq]
    obtain ⟨sent, hsent, hcarried⟩ := execute_carries hcarries w request
    rw [hsent]
    exact congrArg (Prod.mk _) ((hcarries.foldl_send _).unique hcarried)
  · exact exists_execute_ok hgraph request

/-- An engine whose buffer has no size at all. -/
def unbuffered : Engine := create (.standard {}) .standard { eventBuffer := 0 }

/-- A single run. -/
theorem runs_singleton (engine : Engine) (w : Workflow) (request : RunRequest) :
    engine.runs [(w, request)] = ([(engine.execute w request).1], (engine.execute w request).2) :=
  rfl

/-- Without a buffer, a receiver gets the last one of the ten events of the example. -/
theorem unbuffered_broadcast :
    ({ eventBuffer := 0 } : EngineConfig).eventBuffer < 2 ^ 64 ∧
      (announced (unbuffered.execute (Workflow.exampleOf .ofNat) default).1).length = 10 ∧
      ((unbuffered.execute (Workflow.exampleOf .ofNat) default).2.bus.drain
        unbuffered.bus.subscribe).1 = .lagged 9 ::
          ((announced (unbuffered.execute (Workflow.exampleOf .ofNat) default).1).drop 9).map
            .event := by
  have hbuffer : ({ eventBuffer := 0 } : EngineConfig).eventBuffer < 2 ^ 64 := by decide
  have hcount : (announced (unbuffered.execute (Workflow.exampleOf .ofNat) default).1).length =
      10 := by
    decide +kernel
  have hdrain := (runs_broadcast (.standard {}) .standard { eventBuffer := 0 } hbuffer []
    [(Workflow.exampleOf .ofNat, default)]).1
  have hcapacity : Nat.clog 2 (max 0 1) = 0 := Nat.clog_one_right 2
  rw [runs] at hdrain
  simp only [runs_singleton, List.flatMap_singleton, hcapacity] at hdrain
  rw [← unbuffered, hcount, if_neg (by decide)] at hdrain
  exact ⟨hbuffer, hcount, hdrain⟩

end Engine
end Flowchart
