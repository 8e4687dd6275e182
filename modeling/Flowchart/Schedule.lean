import Flowchart.Instant.Text

/-!
# Schedules

When a workflow is next to be run: every so many minutes, once, or every day at the time of day of
its start. The next time follows from the start and the last run alone.
-/

namespace Flowchart

/-- How a schedule repeats. -/
inductive Trigger where
  /-- Every so many minutes, from the start on. -/
  | interval
  /-- A single time, at the start. -/
  | once
  /-- Every 24 hours, counted from the start. -/
  | daily
  deriving DecidableEq, Inhabited, Repr

/-- Triggers in documents. -/
def Trigger.decoder : Json.Decoder Trigger :=
  .enumeration [("Interval", .interval), ("Once", .once), ("Daily", .daily)]

/-- A trigger as a document. -/
def Trigger.toJson : Trigger → Json.Value
  | .interval => .string "Interval"
  | .once => .string "Once"
  | .daily => .string "Daily"

/-- A schedule. -/
structure Schedule where
  trigger : Trigger
  startAt : Instant
  intervalMinutes : Int
  lastRunAt : Option Instant
  enabled : Bool
  deriving DecidableEq, Inhabited

namespace Schedule

/-- An enabled schedule that has never run. -/
def create (trigger : Trigger) (startAt : Instant) (intervalMinutes : Int) : Schedule :=
  { trigger, startAt, intervalMinutes, lastRunAt := none, enabled := true }

/-- The first of the instants `slot`, `slot` and one day, and so on that is later than `last`; none
beyond the last day. The first argument bounds the number of days. -/
def slotAfter? (last : Instant) : Nat → Instant → Option Instant
  | 0, _ => none
  | fuel + 1, slot =>
      if last.earlier slot then some slot
      else match slot.addSeconds? Instant.daySeconds with
        | none => none
        | some next => slotAfter? last fuel next

/-- The daily time after a run that was not before the start: the slot of the day of that run or
the one after it. -/
def nextDaily? (start last : Instant) : Option Instant :=
  match start.addSeconds? (start.daysUntil last * Instant.daySeconds) with
  | none => none
  | some slot => slotAfter? last 4 slot

/-- When a schedule is next to be run. -/
def nextRunAt (s : Schedule) : Option Instant :=
  if !s.enabled then none
  else match s.lastRunAt, s.trigger with
    | none, .interval => if s.intervalMinutes ≤ 0 then none else some s.startAt
    | none, _ => some s.startAt
    | some _, .once => none
    | some last, .interval =>
        if s.intervalMinutes ≤ 0 then none
        else (last.addSeconds? (s.intervalMinutes * 60)).map (·.later s.startAt)
    | some last, .daily =>
        if last.earlier s.startAt then some s.startAt else nextDaily? s.startAt last

/-- Whether a schedule is due. -/
def isDue (s : Schedule) (now : Instant) : Bool :=
  match s.nextRunAt with
  | none => false
  | some next => !now.earlier next

/-- Notes a run. -/
def markRun (s : Schedule) (now : Instant) : Schedule :=
  { s with lastRunAt := some now }

open Json Json.Decoder in
/-- The fields of a schedule. -/
def record : Record Schedule where
  title := "struct Schedule"
  start := { (default : Schedule) with enabled := true }
  fields := [
    required "trigger_type" Trigger.decoder fun v s => { s with trigger := v },
    required "start_at" Instant.decoder fun v s => { s with startAt := v },
    defaulted "interval_minutes" signedWord fun v s => { s with intervalMinutes := v },
    defaulted "last_run_at" Instant.decoder.option fun v s => { s with lastRunAt := v },
    defaulted "enabled" Decoder.bool fun v s => { s with enabled := v }]

/-- Schedules in documents. -/
def decoder : Json.Decoder Schedule := record.decoder

/-- A time or null as a document. -/
def timeToJson : Option Instant → Json.Value
  | none => .null
  | some t => t.toJson

/-- A schedule as a document. -/
def toJson (s : Schedule) : Json.Value := .object [
  ("trigger_type", s.trigger.toJson),
  ("start_at", s.startAt.toJson),
  ("interval_minutes", .ofInt s.intervalMinutes),
  ("last_run_at", timeToJson s.lastRunAt),
  ("enabled", .bool s.enabled)]

end Schedule
end Flowchart
