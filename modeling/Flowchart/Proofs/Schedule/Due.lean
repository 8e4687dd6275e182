import Flowchart.Proofs.Instant.Count
import Flowchart.Schedule

/-!
# When schedules are due

`Schedule.IsActive` says from when on a schedule may run at all, and `Schedule.Repeats` at which
times after its last run it may run again. `isDue_iff` says that these two rules decide exactly when
a schedule is due, and `Repeats.trans` that a run allowed after a later one is also allowed after
all earlier ones.

The daily schedules divide time into slots. `SlotSearch` follows the search for the first slot after
the last run round by round. Begun in the slot of that run it takes a single round
(`slotSearch_of_slot`), so the next time of such a schedule is one step of a day away
(`exists_search_of_started`).
-/

namespace Flowchart.Schedule

open Instant (dayNanos daySeconds minuteNanos secondNanos)

/-- The instants of a schedule lie between the first and the last day and in no leap second. -/
structure IsRegular (s : Schedule) : Prop where
  startAt : s.startAt.IsRegular
  lastRunAt : ∀ last, s.lastRunAt = some last → last.IsRegular

/-- The 24 hours, counted from the start of a schedule, in which an instant lies. -/
def slot (s : Schedule) (t : Instant) : Int :=
  (t.nanos - s.startAt.nanos) / dayNanos

/-- A schedule may run at an instant if it has never run before. -/
structure IsActive (s : Schedule) (now : Instant) : Prop where
  enabled : s.enabled = true
  started : s.startAt.nanos ≤ now.nanos
  interval : s.trigger = .interval → 0 < s.intervalMinutes

/-- A schedule that ran at one instant may run again at another one. -/
def Repeats (s : Schedule) (last now : Instant) : Prop :=
  match s.trigger with
  | .once => False
  | .interval => last.nanos + s.intervalMinutes * minuteNanos ≤ now.nanos
  | .daily => s.slot last < s.slot now

variable {s : Schedule} {last now next t : Instant}

/-- A schedule whose run is noted has its instants in range as before. -/
theorem IsRegular.markRun (hs : s.IsRegular) (ht : t.IsRegular) : (s.markRun t).IsRegular where
  startAt := hs.startAt
  lastRunAt last hlast := by
    obtain rfl : t = last := Option.some.inj hlast
    exact ht

/-- Since when a schedule is active does not depend on its last run. -/
theorem isActive_markRun : (s.markRun t).IsActive now ↔ s.IsActive now :=
  ⟨fun ⟨henabled, hstarted, hinterval⟩ => ⟨henabled, hstarted, hinterval⟩,
    fun ⟨henabled, hstarted, hinterval⟩ => ⟨henabled, hstarted, hinterval⟩⟩

/-- A run in a later slot is later. -/
theorem nanos_lt_of_slot_lt (h : s.slot last < s.slot now) : last.nanos < now.nanos := by
  simp only [slot, dayNanos] at h
  omega

/-- A run that is repeated is later. -/
theorem Repeats.nanos_lt (h : s.Repeats last now)
    (hinterval : s.trigger = .interval → 0 < s.intervalMinutes) : last.nanos < now.nanos := by
  unfold Repeats at h
  split at h
  · exact h.elim
  · next htrigger =>
      have hpositive := hinterval htrigger
      simp only [minuteNanos] at h
      omega
  · exact nanos_lt_of_slot_lt h

/-- A run that may be repeated after a later one may be repeated after an earlier one. -/
theorem Repeats.trans (h : s.Repeats last now) (h' : s.Repeats now next)
    (hinterval : s.trigger = .interval → 0 < s.intervalMinutes) : s.Repeats last next := by
  have hlater := h'.nanos_lt hinterval
  unfold Repeats at *
  cases htrigger : s.trigger with
  | once =>
      rw [htrigger] at h
      exact h.elim
  | interval =>
      rw [htrigger] at h
      show last.nanos + s.intervalMinutes * minuteNanos ≤ next.nanos
      omega
  | daily =>
      rw [htrigger] at h h'
      exact Int.lt_trans h h'

/-! ## The daily slots -/

/-- `SlotSearch last t rounds found` says that the search that goes on from `t` by one day in each
round ends after so many rounds with `found`: the first slot later than `last`, or none where the
next one would leave the range of instants. -/
inductive SlotSearch (last : Instant) : Instant → Nat → Option Instant → Prop where
  | later (t : Instant) : last.earlier t = true → SlotSearch last t 0 (some t)
  | beyond (t : Instant) : last.earlier t = false → t.addSeconds? daySeconds = none →
      SlotSearch last t 1 none
  | next (t u : Instant) (rounds : Nat) (found : Option Instant) : last.earlier t = false →
      t.addSeconds? daySeconds = some u → SlotSearch last u rounds found →
      SlotSearch last t (rounds + 1) found

/-- The search gives what is found, however many more rounds it may take. -/
theorem SlotSearch.slotAfter?_eq {found : Option Instant} {rounds fuel : Nat}
    (h : SlotSearch last t rounds found) (hfuel : rounds < fuel) :
    slotAfter? last fuel t = found := by
  induction h generalizing fuel with
  | later t hlater =>
      obtain ⟨fuel, rfl⟩ := Nat.exists_eq_add_one.mpr hfuel
      rw [slotAfter?, if_pos hlater]
  | beyond t hnot hadd =>
      obtain ⟨fuel, rfl⟩ := Nat.exists_eq_add_one.mpr (Nat.zero_lt_of_lt hfuel)
      simp only [slotAfter?, hnot, hadd, Bool.false_eq_true, if_false]
  | next t u rounds found hnot hadd _ ih =>
      obtain ⟨fuel, rfl⟩ := Nat.exists_eq_add_one.mpr (Nat.zero_lt_of_lt hfuel)
      simp only [slotAfter?, hnot, hadd, Bool.false_eq_true, if_false]
      exact ih (Nat.lt_of_succ_lt_succ hfuel)

/-- From the slot of the last run the search goes to the slot after it in one round. -/
theorem slotSearch_of_slot (hlast : last.IsRegular) (ht : t.IsRegular)
    (hbegun : t.nanos ≤ last.nanos) (hends : last.nanos < t.nanos + dayNanos) :
    SlotSearch last t 1 (t.addSeconds? daySeconds) := by
  have hnot : last.earlier t = false := by
    rw [← Bool.not_eq_true, Instant.earlier_iff hlast ht]
    omega
  cases hadd : t.addSeconds? daySeconds with
  | none => exact .beyond t hnot hadd
  | some u =>
      obtain ⟨hregular, hcount⟩ := Instant.addSeconds?_eq_some ht hadd
      refine .next t u 0 _ hnot hadd (.later u ?_)
      rw [Instant.earlier_iff hlast hregular, hcount]
      exact hends

/-- After a run not before the start the search begins in the slot of the run, and goes to the slot
after it in one round. -/
theorem exists_slotSearch (hs : s.startAt.IsRegular) (hlast : last.IsRegular)
    (hstarted : s.startAt.nanos ≤ last.nanos) :
    ∃ t, s.startAt.addSeconds? (s.startAt.daysUntil last * daySeconds) = some t ∧ t.IsRegular ∧
      t.nanos = s.startAt.nanos + s.slot last * dayNanos ∧
      SlotSearch last t 1 (t.addSeconds? daySeconds) := by
  have hdays : s.startAt.daysUntil last = s.slot last := Instant.daysUntil_eq hs hlast hstarted
  obtain ⟨t, ht⟩ := Instant.exists_addSeconds? (n := s.slot last * daySeconds) hs hlast
    (by simp only [slot, dayNanos, daySeconds]; omega)
    (by simp only [slot, dayNanos, daySeconds, secondNanos]; omega)
  obtain ⟨hregular, hnanos⟩ := Instant.addSeconds?_eq_some hs ht
  have hgrid : t.nanos = s.startAt.nanos + s.slot last * dayNanos := by
    simp only [dayNanos, daySeconds, secondNanos] at *
    omega
  refine ⟨t, by rw [hdays, ht], hregular, hgrid, slotSearch_of_slot hlast hregular ?_ ?_⟩
  all_goals
    simp only [hgrid, slot, dayNanos]
    omega

/-! ## When a schedule is due -/

/-- A schedule without a next time is not due. -/
theorem isDue_of_none (h : s.nextRunAt = none) : s.isDue now = false := by
  unfold isDue
  rw [h]

/-- A schedule is due when its next time has come. -/
theorem isDue_iff_of_some (hnow : now.IsRegular) (hnext : next.IsRegular)
    (h : s.nextRunAt = some next) : s.isDue now = true ↔ next.nanos ≤ now.nanos := by
  unfold isDue
  rw [h]
  show (!now.earlier next) = true ↔ _
  rw [Bool.not_eq_true', ← Bool.not_eq_true, Instant.earlier_iff hnow hnext, Int.not_lt]

/-- A schedule that is disabled, or whose interval is not positive, has no next time. -/
theorem nextRunAt_eq_none (h : s.enabled = false ∨ s.trigger = .interval ∧ s.intervalMinutes ≤ 0) :
    s.nextRunAt = none := by
  unfold nextRunAt
  rcases h with henabled | ⟨htrigger, hminutes⟩
  · simp [henabled]
  · cases s.lastRunAt <;> simp [htrigger, hminutes]

/-- The next time of a schedule that has never run is its start. -/
theorem nextRunAt_of_none (henabled : s.enabled = true)
    (hinterval : s.trigger = .interval → 0 < s.intervalMinutes) (hlast : s.lastRunAt = none) :
    s.nextRunAt = some s.startAt := by
  unfold nextRunAt
  cases htrigger : s.trigger with
  | interval =>
      have hminutes := Int.not_le.mpr (hinterval htrigger)
      simp [henabled, hlast, hminutes]
  | once => simp [henabled, hlast]
  | daily => simp [henabled, hlast]

/-- A schedule with an interval is due again once the interval is over, but not before its start. -/
theorem isDue_iff_of_interval (hs : s.IsRegular) (hnow : now.IsRegular)
    (henabled : s.enabled = true) (htrigger : s.trigger = .interval)
    (hpositive : 0 < s.intervalMinutes)
    (hlast : s.lastRunAt = some last) : s.isDue now = true ↔
      s.startAt.nanos ≤ now.nanos ∧
        last.nanos + s.intervalMinutes * minuteNanos ≤ now.nanos := by
  have hregular := hs.lastRunAt last hlast
  have hnext : s.nextRunAt =
      (last.addSeconds? (s.intervalMinutes * 60)).map (·.later s.startAt) := by
    have hminutes := Int.not_le.mpr hpositive
    simp [nextRunAt, henabled, htrigger, hlast, hminutes]
  cases hadd : last.addSeconds? (s.intervalMinutes * 60) with
  | none =>
      -- What is out of range is later than any instant.
      rw [hadd] at hnext
      rw [isDue_of_none hnext]
      simp only [Bool.false_eq_true, false_iff, not_and]
      intro _ hle
      obtain ⟨u, hu⟩ := Instant.exists_addSeconds? (n := s.intervalMinutes * 60) hregular hnow
        (by omega) (by simp only [minuteNanos, Instant.secondNanos] at *; omega)
      rw [hadd] at hu
      cases hu
  | some u =>
      obtain ⟨huregular, hcount⟩ := Instant.addSeconds?_eq_some hregular hadd
      rw [hadd] at hnext
      rw [isDue_iff_of_some hnow (huregular.later hs.startAt) hnext,
        Instant.later_nanos huregular hs.startAt]
      simp only [minuteNanos, Instant.secondNanos] at *
      omega

/-- A daily schedule that last ran before its start runs next at the start. -/
theorem nextRunAt_of_daily_before (hs : s.IsRegular) (henabled : s.enabled = true)
    (htrigger : s.trigger = .daily) (hlast : s.lastRunAt = some last)
    (hbefore : last.nanos < s.startAt.nanos) : s.nextRunAt = some s.startAt := by
  have hearlier := (Instant.earlier_iff (hs.lastRunAt last hlast) hs.startAt).mpr hbefore
  simp [nextRunAt, henabled, htrigger, hlast, hearlier]

/-- Otherwise the next time is sought from the slot of the last run on. -/
theorem nextRunAt_of_daily_started (hs : s.IsRegular) (henabled : s.enabled = true)
    (htrigger : s.trigger = .daily) (hlast : s.lastRunAt = some last)
    (hstarted : s.startAt.nanos ≤ last.nanos) : s.nextRunAt = nextDaily? s.startAt last := by
  have hearlier := mt (Instant.earlier_iff (hs.lastRunAt last hlast) hs.startAt).mp
    (Int.not_lt.mpr hstarted)
  simp [nextRunAt, henabled, htrigger, hlast, hearlier]

/-- It is the beginning of the slot after that of the last run, and found in one round. -/
theorem exists_search_of_started (hs : s.IsRegular) (henabled : s.enabled = true)
    (htrigger : s.trigger = .daily) (hlast : s.lastRunAt = some last)
    (hstarted : s.startAt.nanos ≤ last.nanos) :
    ∃ t, s.startAt.addSeconds? (s.startAt.daysUntil last * daySeconds) = some t ∧ t.IsRegular ∧
      t.nanos = s.startAt.nanos + s.slot last * dayNanos ∧
      s.nextRunAt = t.addSeconds? daySeconds ∧ SlotSearch last t 1 s.nextRunAt := by
  obtain ⟨t, ht, hregular, hgrid, hsearch⟩ :=
    exists_slotSearch hs.startAt (hs.lastRunAt last hlast) hstarted
  have hnext : s.nextRunAt = t.addSeconds? daySeconds := by
    rw [nextRunAt_of_daily_started hs henabled htrigger hlast hstarted, nextDaily?, ht]
    exact hsearch.slotAfter?_eq (by decide)
  exact ⟨t, ht, hregular, hgrid, hnext, hnext ▸ hsearch⟩

/-- A daily schedule is due again in any later slot, but not before its start. -/
theorem isDue_iff_of_daily (hs : s.IsRegular) (hnow : now.IsRegular)
    (henabled : s.enabled = true) (htrigger : s.trigger = .daily)
    (hlast : s.lastRunAt = some last) : s.isDue now = true ↔
      s.startAt.nanos ≤ now.nanos ∧ s.slot last < s.slot now := by
  have hregular := hs.lastRunAt last hlast
  rcases Int.lt_or_le last.nanos s.startAt.nanos with hbefore | hstarted
  · rw [isDue_iff_of_some hnow hs.startAt
      (nextRunAt_of_daily_before hs henabled htrigger hlast hbefore)]
    simp only [slot, dayNanos]
    omega
  · obtain ⟨t, -, ht, hgrid, hnext, -⟩ :=
      exists_search_of_started hs henabled htrigger hlast hstarted
    have hday : (daySeconds : Int) * secondNanos = dayNanos := rfl
    cases hadd : t.addSeconds? daySeconds with
    | none =>
        -- the next slot is out of range and with it any instant in a later slot
        have hbeyond := (Instant.addSeconds?_eq_none_iff ht (by decide)).mp hadd
        have hrange := hnow.nanos_le_greatest
        rw [isDue_of_none (hnext.trans hadd)]
        simp only [slot, dayNanos] at *
        simp only [Bool.false_eq_true, false_iff]
        omega
    | some u =>
        obtain ⟨hregular, hcount⟩ := Instant.addSeconds?_eq_some ht hadd
        rw [isDue_iff_of_some hnow hregular (hnext.trans hadd)]
        simp only [slot, dayNanos] at *
        omega

/-- A schedule is due exactly when it is active and its last run may be repeated. -/
theorem isDue_iff (hs : s.IsRegular) (hnow : now.IsRegular) : s.isDue now = true ↔
    s.IsActive now ∧ ∀ last, s.lastRunAt = some last → s.Repeats last now := by
  by_cases hnever : s.enabled = false ∨ s.trigger = .interval ∧ s.intervalMinutes ≤ 0
  · rw [isDue_of_none (nextRunAt_eq_none hnever)]
    simp only [Bool.false_eq_true, false_iff]
    rintro ⟨⟨henabled, _, hinterval⟩, _⟩
    rcases hnever with hdisabled | ⟨htrigger, hminutes⟩
    · rw [hdisabled] at henabled
      cases henabled
    · exact Int.not_le.mpr (hinterval htrigger) hminutes
  · rw [not_or, not_and, Int.not_le, Bool.not_eq_false] at hnever
    obtain ⟨henabled, hinterval⟩ := hnever
    have hactive : s.IsActive now ↔ s.startAt.nanos ≤ now.nanos :=
      ⟨fun h => h.started, fun h => ⟨henabled, h, hinterval⟩⟩
    rw [hactive]
    cases hlast : s.lastRunAt with
    | none =>
        rw [isDue_iff_of_some hnow hs.startAt (nextRunAt_of_none henabled hinterval hlast)]
        simp
    | some last =>
        simp only [Option.some.injEq, forall_eq']
        unfold Repeats
        cases htrigger : s.trigger with
        | once =>
            have hnext : s.nextRunAt = none := by simp [nextRunAt, hlast, htrigger]
            rw [isDue_of_none hnext]
            simp
        | interval =>
            exact isDue_iff_of_interval hs hnow henabled htrigger (hinterval htrigger) hlast
        | daily => exact isDue_iff_of_daily hs hnow henabled htrigger hlast

end Flowchart.Schedule
