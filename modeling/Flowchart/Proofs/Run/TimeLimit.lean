import Flowchart.Proofs.Run.Interruption
import Flowchart.Proofs.Run.Narration
import Flowchart.Proofs.Run.TimedSteps

/-!
# Runs with a limit of time

A run without requests takes as long as its waits together. Under a limit that falls behind all of
them it leaves the same record, and otherwise it ends in the wait in which the limit falls, at the
time of the limit (`Engine.withTimeLimit_keeps_or_cancels`).
-/

namespace Flowchart

namespace Position

variable (limit maxSteps : Nat) (p : Position)

/-- A limit that has not passed does not change an outcome. -/
@[simp] theorem outcome_limited : (p.limited limit).outcome = p.outcome := by
  obtain ⟨turn, scene⟩ := p
  cases turn <;> rfl

/-- A limit that has not passed does not cut a run. -/
@[simp] theorem isCut_limited : (p.limited limit).isCut = p.isCut := by
  obtain ⟨turn, scene⟩ := p
  cases turn <;> rfl

/-- A limit that has not passed is not noted. -/
@[simp] theorem notes_limited : (p.limited limit).notes maxSteps = p.notes maxSteps := by
  obtain ⟨turn, scene⟩ := p
  cases turn <;> rfl

end Position

namespace RunResult

/-- A run is the beginning of another one, up to a wait in which a limit of time falls: it goes no
further than this wait, says the same as the other one of all that comes before, and ends at the
limit with the wait cancelled. -/
structure EndsInWait (limits : Limits) (g : Graph) (request : RunRequest) (limit : Nat)
    (earlier : List Visit) (v : Visit) (whole short : RunResult) : Prop where
  wait : v.block.isWait = true
  begins : (earlier.map (·.delay limits g)).sum < limit
  ends : limit < (earlier.map (·.delay limits g)).sum + v.delay limits g
  path : short.record.path = whole.record.path.take (earlier.length + 1)
  steps : short.record.steps = earlier.length + 1
  waited : whole.record.actions[earlier.length]? = some s!"Waited {v.delay limits g}ms"
  cancelled : short.record.actions.take short.record.steps =
    whole.record.actions.take earlier.length ++ [s!"Wait of {v.delay limits g}ms cancelled"]
  started : short.events.filterMap Event.startedName? = short.record.path
  time : short.events.getLast? = some (.runCompleted request.run short.record.outcome
    short.record.steps limit (request.startedAt.addMillis limit))

variable {limits : Limits} {g : Graph} {limit left : Nat} {config config' : EngineConfig}
  {w : Workflow} {request : RunRequest} {visits earlier later : List Visit} {v : Visit}
  {last final : Position}

/-- A limit of time that falls behind all visits is not in the record. -/
theorem recordOf_limited (hsteps : config'.maxSteps = config.maxSteps) :
    recordOf config' w request (visits.map (·.limited limit)) (last.limited limit) =
      recordOf config w request visits last := by
  simp only [recordOf, Position.outcome_limited, Position.isCut_limited, Position.notes_limited,
    hsteps, List.map_map, List.length_map]
  rfl

/-- What is left behind by the visits before a wait and the wait that was cancelled at a limit is
the beginning of what the run leaves behind that waited to the end. -/
theorem endsInWait_ofVisits (hwait : v.block.isWait = true)
    (hresult : v.result = Blocks.waitVerdict (v.delay limits g) true)
    (hbegins : (earlier.map (·.delay limits g)).sum < limit)
    (hends : limit < (earlier.map (·.delay limits g)).sum + v.delay limits g)
    (hclock : final.scene.clock = ⟨limit, some limit, true⟩) :
    EndsInWait limits g request limit earlier v
      (ofVisits config w request (earlier ++ v :: later) last)
      (ofVisits config' w request (earlier.map (·.limited limit) ++ [v.cut limits g limit])
        final) where
  wait := hwait
  begins := hbegins
  ends := hends
  path := by
    have hwhole : (earlier ++ v :: later).map Visit.name =
        (earlier ++ [v]).map Visit.name ++ later.map Visit.name := by simp
    show (earlier.map (·.limited limit) ++ [v.cut limits g limit]).map Visit.name =
      ((earlier ++ v :: later).map Visit.name).take (earlier.length + 1)
    rw [hwhole, List.take_left' (by simp)]
    simp
  steps := by simp [ofVisits, recordOf]
  waited := by
    simp [ofVisits, recordOf, hresult, Blocks.waitVerdict, StepResult.success]
  cancelled := by
    have hwhole : (recordOf config w request (earlier ++ v :: later) last).actions.take
        earlier.length = earlier.map (·.result.description) := by simp [recordOf]
    have hshort : (recordOf config' w request
        (earlier.map (·.limited limit) ++ [v.cut limits g limit]) final).actions.take
          (earlier.map (·.limited limit) ++ [v.cut limits g limit]).length =
        (earlier.map (·.limited limit) ++ [v.cut limits g limit]).map (·.result.description) :=
      List.take_left' (List.length_map _)
    refine hshort.trans ?_
    rw [ofVisits, hwhole]
    simp
    rfl
  started := filterMap_eventsOf _ _ _ _ _ Event.readsVisits_startedName?
  time := by
    show (_ ++ [_]).getLast? = _
    rw [List.getLast?_concat, hclock]
    rfl

end RunResult

namespace Engine

/-- The engine with a limit of time, or without one. -/
def withTimeLimit (engine : Engine) (maxTimeMs : Option Nat) : Engine :=
  { engine with config := { engine.config with maxTimeMs } }

/-- A run of a workflow without requests takes the time of its waits together. If none of them ends
exactly at a limit of time, then under this limit the run leaves the same record where they are over
before it, and where they take longer the run ends at the limit, in the wait in which it falls. -/
theorem withTimeLimit_keeps_or_cancels (engine : Engine) (limits : Limits) (w : Workflow)
    (g : Graph) (request : RunRequest) (limit : Nat)
    (hregistry : engine.registry = .standard limits) (hgraph : engine.graph w = .ok g)
    (hrequests : w.uses engine.catalog "HttpRequest" = false) (hlimit : 1 ≤ limit) :
    ∃ visits last whole,
      g.IsRun engine.config.maxSteps (opening (engine.withTimeLimit none).config g w request)
        visits last ∧
      whole = .ofVisits (engine.withTimeLimit none).config w request visits last ∧
      ((engine.withTimeLimit none).execute w request).1 = .ok whole ∧
      last.scene.clock.now = (visits.map (·.delay limits g)).sum ∧
      ((∀ v ∈ visits, v.block.isWait = true → v.left.clock.now ≠ limit) → ∃ short,
        ((engine.withTimeLimit (some limit)).execute w request).1 = .ok short ∧
        (visits.map (·.delay limits g)).sum ≠ limit ∧
        ((visits.map (·.delay limits g)).sum < limit → short.record = whole.record) ∧
        (limit < (visits.map (·.delay limits g)).sum → ∃ earlier v later,
          visits = earlier ++ v :: later ∧
          RunResult.EndsInWait limits g request limit earlier v whole short)) := by
  have hgraph' (maxTimeMs : Option Nat) : (engine.withTimeLimit maxTimeMs).graph w = .ok g := hgraph
  have hg : g.KeepsTime limits := by
    have hof := isGraphOf_of_graph hgraph
    rw [hregistry] at hof
    exact hof.keepsTime hrequests
  obtain ⟨visits, last, hrun, hwhole⟩ := exists_execute_eq (hgraph' none) request
  have hfree := hrun.isFree hg rfl
  have htotal : last.scene.clock.now = (visits.map (·.delay limits g)).sum := by
    rw [hrun.steps.now_eq hg hfree]
    exact Nat.zero_add _
  refine ⟨visits, last, _, hrun, rfl, hwhole, htotal, fun hexact => ?_⟩
  -- The limit falls in the first visit that is over only after it, if there is one.
  cases hfind : visits.find? fun v => limit < v.left.clock.now with
  | none =>
      have hle : ∀ v ∈ visits, v.left.clock.now ≤ limit := by simpa using hfind
      have hlt : (visits.map (·.delay limits g)).sum < limit := by
        rw [← htotal]
        exact Nat.lt_of_le_of_ne (hrun.steps.now_le hg hfree (Nat.zero_le limit) hle)
          (hrun.steps.now_ne hg hfree (Nat.ne_of_lt hlimit) hexact)
      refine ⟨_, by rw [execute_of_isRun (hgraph' (some limit)) (hrun.limited hg hfree hle)],
        Nat.ne_of_lt hlt, fun _ => RunResult.recordOf_limited rfl, fun hgt => ?_⟩
      exact absurd hgt (Nat.lt_asymm hlt)
  | some v =>
      obtain ⟨hover, earlier, later, rfl, hearlier⟩ := List.find?_eq_some_iff_append.mp hfind
      have hle : ∀ u ∈ earlier, u.left.clock.now ≤ limit := by simpa using hearlier
      have hlt : limit < v.left.clock.now := by simpa using hover
      obtain ⟨hwait, hresult, hends, final, hshort, hclock⟩ :=
        hrun.cut hg hfree hle (Nat.zero_le limit) hlt
      obtain ⟨q, hbefore, _⟩ := hrun.steps.split
      have hfreeEarlier := (List.forall_mem_append.mp hfree).1
      have hbegins : (earlier.map (·.delay limits g)).sum < limit := by
        have hle := hbefore.now_le hg hfreeEarlier (Nat.zero_le limit) hle
        have hne := hbefore.now_ne hg hfreeEarlier (Nat.ne_of_lt hlimit)
          (List.forall_mem_append.mp hexact).1
        rw [hbefore.now_eq hg hfreeEarlier] at hle hne
        omega
      have hstart : (opening (engine.withTimeLimit none).config g w request).scene.clock.now = 0 :=
        rfl
      rw [hstart, Nat.zero_add] at hends
      have hgt : limit < ((earlier ++ v :: later).map (·.delay limits g)).sum := by
        rw [List.map_append, List.sum_append, List.map_cons, List.sum_cons]
        omega
      refine ⟨_, by rw [execute_of_isRun (hgraph' (some limit)) hshort], Nat.ne_of_gt hgt,
        fun hlt => absurd hlt (Nat.lt_asymm hgt), fun _ => ⟨earlier, v, later, rfl, ?_⟩⟩
      exact RunResult.endsInWait_ofVisits hwait hresult hbegins hends hclock

/-- Without a limit of time, a run that waits for 100 milliseconds takes as long. -/
theorem waiting_times {g : Graph} {visits : List Visit} {last : Position}
    (hg : Graph.ofWorkflow .standard (.standard {}) (waitingThen .success) = .ok g)
    (h : g.IsRun 1000 (opening {} g (waitingThen .success) default) visits last) :
    visits.map (·.delay {} g) = [0, 100, 0] ∧ visits.map (·.left.clock.now) = [0, 100, 100] := by
  have hclosed := (Graph.ofWorkflow_eq_ok_iff.mp hg).closed
  have htrace : (Graph.ofWorkflow .standard (.standard {}) (waitingThen .success)).toOption.map
      (fun g =>
        let visits := (g.trace 1000 (opening {} g (waitingThen .success) default)).1
        (visits.map (·.delay {} g), visits.map (·.left.clock.now))) =
      some ([0, 100, 0], [0, 100, 100]) := by decide +kernel
  rw [hg] at htrace
  obtain ⟨rfl, _⟩ := h.unique (Graph.isRun_trace hclosed (finds_opening hclosed _ _ _) 1000)
  exact Prod.mk.inj (Option.some.inj htrace)

/-- A limit of 50 milliseconds falls in a wait of 100. -/
theorem waiting_ends_in_wait : ∃ g earlier v whole short,
    (((create (.standard {}) .standard {}).withTimeLimit none).execute
      (waitingThen .success) default).1 = .ok whole ∧
    (((create (.standard {}) .standard {}).withTimeLimit (some 50)).execute
      (waitingThen .success) default).1 = .ok short ∧
    RunResult.EndsInWait {} g default 50 earlier v whole short := by
  obtain ⟨g, hg⟩ := exists_graph_waitingThen .success {}
  obtain ⟨visits, _, whole, hrun, _, hwhole, _, hcases⟩ := withTimeLimit_keeps_or_cancels
    (create (.standard {}) .standard {}) {} (waitingThen .success) g default 50 rfl hg
    (by decide +kernel) (by decide)
  obtain ⟨hdelays, htimes⟩ := waiting_times hg hrun
  obtain ⟨short, hshort, _, _, hcut⟩ := hcases fun v hv _ => by
    have hmem : v.left.clock.now ∈ visits.map (·.left.clock.now) := List.mem_map_of_mem hv
    rw [htimes] at hmem
    simp only [List.mem_cons, List.not_mem_nil, or_false] at hmem
    omega
  obtain ⟨earlier, v, _, _, hends⟩ := hcut (by rw [hdelays]; decide)
  exact ⟨g, earlier, v, whole, short, hwhole, hshort, hends⟩

end Engine
end Flowchart
