import Flowchart.Engine
import Flowchart.Proofs.Command.Example
import Flowchart.Proofs.Schedule.Due

/-!
# Schedules that are polled

An engine is asked again and again, at times in any order, whether a schedule is due. Each poll is
an attempt to run the workflow or leaves everything as it is (`poll_obeys`), and it makes no
difference whether the attempt comes to a record. `attempts_repeat` is the invariant of polls one
after another: each attempt may follow all earlier ones. `polls_follow_schedule` reads off it what
the trigger of a schedule promises.
-/

namespace Flowchart

open Instant (minuteNanos)

/-- A question, at some time, whether a schedule is due, with what a run would be given. -/
structure Poll where
  now : Instant
  request : RunRequest

/-- An engine and a schedule by which it runs a workflow. -/
structure Scheduled where
  engine : Engine
  schedule : Schedule

/-- What came of a poll: the run if one was attempted, and the engine and the schedule before and
after. -/
structure PollAnswer where
  poll : Poll
  before : Scheduled
  result : Option (Except GraphFault RunResult)
  after : Scheduled

namespace PollAnswer

/-- When a run was attempted, if it was. -/
def attempt? (a : PollAnswer) : Option Instant :=
  a.result.map fun _ => a.poll.now

/-- A poll attempts to run a workflow exactly if the schedule is active and its last run may be
repeated. The attempt is noted in the schedule, whether it comes to a record or is refused; without
an attempt nothing changes. -/
structure Obeys (w : Workflow) (a : PollAnswer) : Prop where
  due : a.result.isSome = true ↔ a.before.schedule.IsActive a.poll.now ∧
    ∀ last, a.before.schedule.lastRunAt = some last → a.before.schedule.Repeats last a.poll.now
  attempted : ∀ result, a.result = some result →
    (result, a.after.engine) =
      a.before.engine.execute w { a.poll.request with inputs := [] } ∧
    a.after.schedule = { a.before.schedule with lastRunAt := some a.poll.now }
  idle : a.result = none → a.after = a.before

end PollAnswer

namespace Scheduled

/-- Runs a workflow if its schedule is due. -/
def poll (state : Scheduled) (w : Workflow) (p : Poll) : PollAnswer :=
  let (result, schedule, engine) := state.engine.runIfDue w state.schedule p.now p.request
  ⟨p, state, result, ⟨engine, schedule⟩⟩

/-- Polls one after another. -/
def pollAll (w : Workflow) : Scheduled → List Poll → List PollAnswer
  | _, [] => []
  | state, p :: rest => state.poll w p :: pollAll w (state.poll w p).after rest

/-- The times at which polls attempted a run, in the order of the polls. -/
def attempts (w : Workflow) (state : Scheduled) (polls : List Poll) : List Instant :=
  (pollAll w state polls).filterMap (·.attempt?)

variable {w : Workflow} {state : Scheduled} {p : Poll} {polls : List Poll} {a : PollAnswer}

/-! ## Single polls -/

/-- A poll of a schedule that is due attempts a run. -/
theorem poll_of_due (h : state.schedule.isDue p.now = true) :
    state.poll w p = ⟨p, state,
      some (state.engine.execute w { p.request with inputs := [] }).1,
      ⟨(state.engine.execute w { p.request with inputs := [] }).2,
        state.schedule.markRun p.now⟩⟩ := by
  simp only [poll, Engine.runIfDue, if_pos h]

/-- A poll of a schedule that is not due changes nothing. -/
theorem poll_of_not_due (h : ¬ state.schedule.isDue p.now = true) :
    state.poll w p = ⟨p, state, none, state⟩ := by
  simp only [poll, Engine.runIfDue, if_neg h]

/-- Each poll obeys the schedule. -/
theorem poll_obeys (hstate : state.schedule.IsRegular) (hp : p.now.IsRegular) :
    (state.poll w p).Obeys w := by
  have hdue := Schedule.isDue_iff hstate hp
  by_cases h : state.schedule.isDue p.now = true
  · rw [poll_of_due h]
    refine ⟨iff_of_true rfl (hdue.mp h), ?_, fun hnone => by cases hnone⟩
    rintro result hresult
    cases hresult
    exact ⟨rfl, rfl⟩
  · rw [poll_of_not_due h]
    refine ⟨iff_of_false Bool.false_ne_true (mt hdue.mpr h), ?_, fun _ => rfl⟩
    rintro result hresult
    cases hresult

/-- A poll of a schedule that is due notes its time. -/
theorem schedule_after_of_due (h : state.schedule.isDue p.now = true) :
    (state.poll w p).after.schedule = state.schedule.markRun p.now := by
  rw [poll_of_due h]

/-- A poll of a schedule that is not due leaves the engine and the schedule as they were. -/
theorem after_of_not_due (h : ¬ state.schedule.isDue p.now = true) :
    (state.poll w p).after = state := by
  rw [poll_of_not_due h]

/-! ## Polls one after another -/

/-- The attempts of polls, the first of which is due. -/
theorem attempts_of_due (h : state.schedule.isDue p.now = true) :
    attempts w state (p :: polls) = p.now :: attempts w (state.poll w p).after polls := by
  have hattempt : (state.poll w p).attempt? = some p.now := by
    rw [poll_of_due h]
    rfl
  rw [attempts, pollAll, List.filterMap_cons_some hattempt]
  rfl

/-- The attempts of polls, the first of which is not due. -/
theorem attempts_of_not_due (h : ¬ state.schedule.isDue p.now = true) :
    attempts w state (p :: polls) = attempts w state polls := by
  have hattempt : (state.poll w p).attempt? = none := by
    rw [poll_of_not_due h]
    rfl
  rw [attempts, pollAll, List.filterMap_cons_none hattempt, after_of_not_due h]
  rfl

/-- All attempts are made while the schedule is active, and each one may follow the last run before
the polls and all earlier attempts. -/
theorem attempts_repeat (hstate : state.schedule.IsRegular)
    (hpolls : ∀ p ∈ polls, p.now.IsRegular) :
    (∀ r ∈ attempts w state polls, state.schedule.IsActive r) ∧
      (state.schedule.lastRunAt.toList ++ attempts w state polls).Pairwise
        state.schedule.Repeats := by
  -- A due poll puts its time in place of the last run, and the rest of the polls starts from there.
  induction polls generalizing state with
  | nil =>
      refine ⟨fun r hr => absurd hr List.not_mem_nil, ?_⟩
      show (state.schedule.lastRunAt.toList ++ []).Pairwise _
      cases state.schedule.lastRunAt <;> simp
  | cons p polls ih =>
      obtain ⟨hp, hrest⟩ := List.forall_mem_cons.mp hpolls
      by_cases h : state.schedule.isDue p.now = true
      · obtain ⟨hactive, hrepeats⟩ := (Schedule.isDue_iff hstate hp).mp h
        have hafter := schedule_after_of_due (w := w) h
        obtain ⟨hactives, hpairs⟩ := ih (hafter ▸ hstate.markRun hp) hrest
        rw [hafter] at hactives hpairs
        obtain ⟨hlater, hothers⟩ := List.pairwise_cons.mp hpairs
        rw [attempts_of_due h]
        refine ⟨List.forall_mem_cons.mpr ⟨hactive, fun r hr =>
          Schedule.isActive_markRun.mp (hactives r hr)⟩, ?_⟩
        have hattempts : (p.now :: attempts w (state.poll w p).after polls).Pairwise
            state.schedule.Repeats := List.pairwise_cons.mpr ⟨hlater, hothers⟩
        cases hlast : state.schedule.lastRunAt with
        | none => exact hattempts
        | some last =>
            have hnow := hrepeats last hlast
            refine List.pairwise_cons.mpr ⟨List.forall_mem_cons.mpr ⟨hnow, fun r hr => ?_⟩,
              hattempts⟩
            exact hnow.trans (hlater r hr) hactive.interval
      · rw [attempts_of_not_due h]
        exact ih hstate hrest

/-- Each of the polls one after another obeys the schedule as it then is, and of that schedule all
but the last run is as at the beginning. -/
theorem pollAll_obeys (hstate : state.schedule.IsRegular)
    (hpolls : ∀ p ∈ polls, p.now.IsRegular) : ∀ a ∈ pollAll w state polls, a.Obeys w ∧
      a.after.schedule =
        { state.schedule with lastRunAt := a.after.schedule.lastRunAt } := by
  induction polls generalizing state with
  | nil => exact fun a ha => absurd ha List.not_mem_nil
  | cons p polls ih =>
      obtain ⟨hp, hrest⟩ := List.forall_mem_cons.mp hpolls
      refine List.forall_mem_cons.mpr ⟨⟨poll_obeys hstate hp, ?_⟩, ?_⟩
      · by_cases h : state.schedule.isDue p.now = true
        · rw [schedule_after_of_due h]
          rfl
        · rw [after_of_not_due h]
      · by_cases h : state.schedule.isDue p.now = true
        · have hafter := schedule_after_of_due (w := w) h
          intro a ha
          obtain ⟨hobeys, hkept⟩ := ih (hafter ▸ hstate.markRun hp) hrest a ha
          rw [hafter] at hkept
          exact ⟨hobeys, hkept⟩
        · rw [after_of_not_due h]
          exact ih hstate hrest

end Scheduled

/-- Attempts to run a workflow keep to a schedule: they are made from its start on and each is later
than the one before, the last run before all of them included. Those at an interval are that far
apart, of those every day no two are in the same 24 hours, and of those for a single time there is
one at most. A schedule that is disabled or has no positive interval makes none. -/
structure Schedule.Keeps (s : Schedule) (attempts : List Instant) : Prop where
  started : ∀ r ∈ attempts, s.startAt.nanos ≤ r.nanos
  increasing : (s.lastRunAt.toList ++ attempts).Pairwise fun r r' => r.nanos < r'.nanos
  interval : s.trigger = .interval → (s.lastRunAt.toList ++ attempts).Pairwise fun r r' =>
    r.nanos + s.intervalMinutes * minuteNanos ≤ r'.nanos
  daily : s.trigger = .daily → (s.lastRunAt.toList ++ attempts).Pairwise fun r r' =>
    s.slot r < s.slot r'
  once : s.trigger = .once → (s.lastRunAt.toList ++ attempts).length ≤ 1
  never : s.enabled = false ∨ s.trigger = .interval ∧ s.intervalMinutes ≤ 0 → attempts = []

/-- Attempts made while a schedule is active, each of which may follow all those before, keep to the
schedule. -/
theorem Schedule.keeps_of_repeats {s : Schedule} {attempts : List Instant}
    (hactives : ∀ r ∈ attempts, s.IsActive r)
    (hpairs : (s.lastRunAt.toList ++ attempts).Pairwise s.Repeats) : s.Keeps attempts where
  started r hr := (hactives r hr).started
  increasing := by
    cases attempts with
    | nil => cases s.lastRunAt <;> simp
    | cons r rest =>
        -- One attempt shows that the interval, if there is one, is positive.
        have hactive : s.IsActive r := hactives r List.mem_cons_self
        exact hpairs.imp fun h => h.nanos_lt hactive.interval
  interval htrigger := by
    refine hpairs.imp fun h => ?_
    rw [Repeats, htrigger] at h
    exact h
  daily htrigger := by
    refine hpairs.imp fun h => ?_
    rw [Repeats, htrigger] at h
    exact h
  once htrigger := by
    have hnever (r r' : Instant) : ¬ s.Repeats r r' := by simp [Repeats, htrigger]
    generalize s.lastRunAt.toList ++ attempts = runs at hpairs ⊢
    cases hpairs with
    | nil => simp
    | @cons r rest hfirst _ =>
        cases rest with
        | nil => simp
        | cons r' rest => exact absurd (hfirst r' List.mem_cons_self) (hnever r r')
  never hnever := by
    rw [List.eq_nil_iff_forall_not_mem]
    intro r hr
    obtain ⟨henabled, _, hinterval⟩ := hactives r hr
    rcases hnever with hdisabled | ⟨htrigger, hminutes⟩
    · rw [hdisabled] at henabled
      cases henabled
    · exact Int.not_le.mpr (hinterval htrigger) hminutes

namespace Scheduled

/-- Whenever and however often a schedule is polled, and whether or not its workflow can be run, the
attempts keep to the schedule. Each poll is an attempt exactly if the schedule allows it then; the
attempt is what the engine makes of the workflow without inputs, and its time becomes the last run.
A poll without an attempt changes nothing, and nothing else in the schedule ever changes. -/
theorem polls_follow_schedule (w : Workflow) (state : Scheduled) (polls : List Poll)
    (hstate : state.schedule.IsRegular) (hpolls : ∀ p ∈ polls, p.now.IsRegular) :
    state.schedule.Keeps (attempts w state polls) ∧
    ∀ a ∈ pollAll w state polls, a.Obeys w ∧
      a.after.schedule =
        { state.schedule with lastRunAt := a.after.schedule.lastRunAt } := by
  obtain ⟨hactives, hpairs⟩ := attempts_repeat (w := w) hstate hpolls
  exact ⟨Schedule.keeps_of_repeats hactives hpairs, pollAll_obeys hstate hpolls⟩

/-- The first of March 2024, so many minutes after nine. -/
def afterNine (minutes : Nat) : Instant := ⟨19783, 32400 + 60 * minutes, 0⟩

/-- The standard engine with a schedule that runs every quarter of an hour from nine on. -/
def quarterHourly : Scheduled where
  engine := .create (.standard {}) .standard {}
  schedule := .create .interval (afterNine 0) 15

/-- Polls so many minutes after nine. -/
def pollsAfterNine (minutes : List Nat) : List Poll :=
  minutes.map fun m => ⟨afterNine m, default⟩

/-- Of polls that go back in time, those are attempts that come a quarter of an hour or more after
the attempt before. -/
theorem quarterHourly_keeps :
    attempts (Workflow.exampleOf .ofNat) quarterHourly (pollsAfterNine [2, 1, 16, 17, 9, 32, 40]) =
      [afterNine 2, afterNine 17, afterNine 32] ∧
    quarterHourly.schedule.Keeps [afterNine 2, afterNine 17, afterNine 32] := by
  have hattempts : attempts (Workflow.exampleOf .ofNat) quarterHourly
      (pollsAfterNine [2, 1, 16, 17, 9, 32, 40]) =
      [afterNine 2, afterNine 17, afterNine 32] := by decide +kernel
  have hregular : quarterHourly.schedule.IsRegular :=
    ⟨by decide +kernel, fun last hlast => by cases hlast⟩
  obtain ⟨hkeeps, _⟩ := polls_follow_schedule (Workflow.exampleOf .ofNat) quarterHourly
    (pollsAfterNine [2, 1, 16, 17, 9, 32, 40]) hregular (by decide +kernel)
  rw [hattempts] at hkeeps
  exact ⟨hattempts, hkeeps⟩

end Scheduled
end Flowchart
