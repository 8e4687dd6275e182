import Mathlib.Order.Bounds.Basic
import Flowchart.Proofs.Schedule.Due

/-!
# The next time of a daily schedule

A daily schedule may run at its start and a whole number of days after it. `laterSlots` are those
of these times that are later than its last run. It runs next at the least of them, unless that is
beyond the greatest instant (`nextRunAt_daily`).
-/

namespace Flowchart.Schedule

open Instant (dayNanos daySeconds secondNanos IsSpan)

variable {s : Schedule} {last : Instant}

/-- The times of a daily schedule that are later than its last run, as counts of nanoseconds: those
a whole number of days after its start. -/
def laterSlots (s : Schedule) : Set Int :=
  {n | ∃ k : Nat, n = s.startAt.nanos + k * dayNanos ∧
    ∀ last, s.lastRunAt = some last → last.nanos < n}

/-- The start is the least of these times unless the last run was at the start or after it. -/
theorem isLeast_laterSlots_startAt
    (h : ∀ last, s.lastRunAt = some last → last.nanos < s.startAt.nanos) :
    IsLeast s.laterSlots s.startAt.nanos := by
  refine ⟨⟨0, by simp, h⟩, ?_⟩
  rintro n ⟨k, rfl, -⟩
  simp only [dayNanos]
  omega

/-- Otherwise it is the beginning of the slot after that of the last run. -/
theorem isLeast_laterSlots_slot (hlast : s.lastRunAt = some last)
    (hstarted : s.startAt.nanos ≤ last.nanos) :
    IsLeast s.laterSlots (s.startAt.nanos + s.slot last * dayNanos + dayNanos) := by
  refine ⟨⟨(s.slot last + 1).toNat, ?_, ?_⟩, ?_⟩
  · simp only [slot, dayNanos]
    omega
  · intro t ht
    obtain rfl : last = t := Option.some.inj (hlast.symm.trans ht)
    simp only [slot, dayNanos]
    omega
  · rintro n ⟨k, rfl, hlater⟩
    have hk := hlater last hlast
    simp only [slot, dayNanos] at *
    omega

/-- The next time is the start as long as the schedule has not run at its start or after it. -/
theorem nextRunAt_of_not_started (hs : s.IsRegular) (henabled : s.enabled = true)
    (htrigger : s.trigger = .daily)
    (h : ∀ last, s.lastRunAt = some last → last.nanos < s.startAt.nanos) :
    s.nextRunAt = some s.startAt := by
  cases hlast : s.lastRunAt with
  | none => exact nextRunAt_of_none henabled (by simp [htrigger]) hlast
  | some last => exact nextRunAt_of_daily_before hs henabled htrigger hlast (h last hlast)

/-- A daily schedule runs next at the least of the times a whole number of days after its start that
are later than its last run, which is the start itself if it never ran, and at no time just if that
is beyond the greatest instant. After a run not before the start, the time since the start and its
whole days are spans of time, adding those days stays in range, and the search ends within a
round. -/
theorem nextRunAt_daily (hs : s.IsRegular) (henabled : s.enabled = true)
    (htrigger : s.trigger = .daily) :
    (∃ n, IsLeast s.laterSlots n ∧ (s.nextRunAt = none ↔ Instant.greatest.nanos < n) ∧
      ∀ t, s.nextRunAt = some t → t.IsRegular ∧ t.nanos = n) ∧
    (s.lastRunAt = none → s.nextRunAt = some s.startAt) ∧
    ∀ last, s.lastRunAt = some last → s.startAt.nanos ≤ last.nanos →
      IsSpan (last.nanos - s.startAt.nanos) ∧
      IsSpan (s.startAt.daysUntil last * dayNanos) ∧
      ∃ t rounds, s.startAt.addSeconds? (s.startAt.daysUntil last * daySeconds) = some t ∧
        rounds ≤ 1 ∧ SlotSearch last t rounds s.nextRunAt := by
  refine ⟨?_, fun hnever => ?_, fun last hlast hstarted => ?_⟩
  · by_cases hbefore : ∀ last, s.lastRunAt = some last → last.nanos < s.startAt.nanos
    · have hnext := nextRunAt_of_not_started hs henabled htrigger hbefore
      refine ⟨_, isLeast_laterSlots_startAt hbefore, ?_, ?_⟩
      · simpa [hnext] using hs.startAt.nanos_le_greatest
      · rintro t ht
        obtain rfl := Option.some.inj (hnext.symm.trans ht)
        exact ⟨hs.startAt, rfl⟩
    · push Not at hbefore
      obtain ⟨last, hlast, hstarted⟩ := hbefore
      obtain ⟨u, -, hu, hgrid, hnext, -⟩ :=
        exists_search_of_started hs henabled htrigger hlast hstarted
      have hday : (daySeconds : Int) * secondNanos = dayNanos := rfl
      refine ⟨_, isLeast_laterSlots_slot hlast hstarted, ?_, ?_⟩
      · rw [hnext, Instant.addSeconds?_eq_none_iff hu (by decide), hday, hgrid]
      · intro t ht
        have hadd := Instant.addSeconds?_eq_some hu (hnext ▸ ht)
        rwa [hday, hgrid] at hadd
  · exact nextRunAt_of_none henabled (by simp [htrigger]) hnever
  · have hregular := hs.lastRunAt last hlast
    have hspan := Instant.isSpan_sub hs.startAt hregular
    obtain ⟨t, ht, -, -, -, hsearch⟩ :=
      exists_search_of_started hs henabled htrigger hlast hstarted
    refine ⟨hspan, ?_, t, 1, ht, le_rfl, hsearch⟩
    -- the whole days are no more than the time they are taken from
    rw [Instant.daysUntil_eq hs.startAt hregular hstarted]
    simp only [IsSpan, dayNanos] at *
    omega

/-- A daily schedule that starts at the least instant and last ran at the greatest one. -/
def wholeCalendar : Schedule :=
  (create .daily .least 0).markRun .greatest

theorem wholeCalendar_regular : wholeCalendar.IsRegular where
  startAt := by decide
  lastRunAt last hlast := by
    obtain rfl : Instant.greatest = last := Option.some.inj hlast
    exact Instant.isRegular_greatest

theorem wholeCalendar_never_again :
    wholeCalendar.IsRegular ∧ wholeCalendar.enabled = true ∧ wholeCalendar.trigger = .daily ∧
      wholeCalendar.nextRunAt = none ∧
      (∃ n, IsLeast wholeCalendar.laterSlots n ∧ Instant.greatest.nanos < n) ∧
      ∃ t rounds, rounds ≤ 1 ∧ SlotSearch .greatest t rounds none := by
  have hnone : wholeCalendar.nextRunAt = none := by decide +kernel
  obtain ⟨⟨n, hleast, hiff, -⟩, -, hsearches⟩ :=
    nextRunAt_daily wholeCalendar_regular rfl rfl
  obtain ⟨-, -, t, rounds, -, hrounds, hsearch⟩ := hsearches .greatest rfl (by decide)
  exact ⟨wholeCalendar_regular, rfl, rfl, hnone, ⟨n, hleast, hiff.mp hnone⟩,
    t, rounds, hrounds, hnone ▸ hsearch⟩

end Flowchart.Schedule
