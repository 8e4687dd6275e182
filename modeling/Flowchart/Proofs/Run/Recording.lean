import Flowchart.Proofs.Run.Frame

/-!
# What a recording comes to

Entries are made in a recording in any order. `Recording.Holds` says what a recording holds after
some of them, and `Holds.add` that one more entry keeps it so. The variables that it began with are
among that, and are fixed by the workflow and the inputs alone (`Trail.Opens`).
`Recording.finish_writes_entries` puts both together: it writes down the whole record. Over the
standard handlers the record of each run is one of a recording (`Engine.exists_entries`).
-/

namespace Flowchart

/-! ## The variables that a run starts from -/

/-- The value that a workflow declares for a variable: that of the last declaration which names it,
and an empty text if that has none. -/
def Workflow.declared? (w : Workflow) (x : String) : Option String :=
  (w.vars.reverse.find? fun v => variableName v.name = x).map fun v => v.initial.getD ""

/-- Some variables are those that a run of a workflow with some inputs starts from: each one has the
value of the input that names it, or else the declared one. -/
structure Trail.Opens (w : Workflow) (inputs : List (String × String)) (d : Dictionary String) :
    Prop where
  sorted : d.Sorted
  unnamed : d.get? "" = none
  given : ∀ p ∈ inputs, variableName p.1 ≠ "" → d.get? (variableName p.1) = some p.2
  declared : ∀ x, x ≠ "" → (∀ p ∈ inputs, variableName p.1 ≠ x) → d.get? x = w.declared? x

namespace Store

variable {pairs : List (String × String)} {x : String}

/-- After a list of assignments a variable has the value that was assigned to it last. -/
theorem get?_ofList (pairs : List (String × String)) (hx : x ≠ "") :
    (ofList pairs).values.get? x =
      (pairs.reverse.find? fun p => variableName p.1 = x).map (·.2) := by
  induction pairs using List.reverseRecOn with
  | nil => rfl
  | append_singleton pairs p ih =>
      rw [ofList, List.foldl_concat, List.reverse_concat, List.find?_cons]
      show ((ofList pairs).set p.1 p.2).values.get? x = _
      rw [get?_set]
      by_cases hp : variableName p.1 = x
      · rw [if_pos ⟨hp.symm, hx⟩]
        simp [hp]
      · rw [if_neg fun h => hp h.1.symm, ih]
        simp [hp]

/-- No list of assignments makes a variable without a name. -/
theorem get?_ofList_empty (pairs : List (String × String)) :
    (ofList pairs).values.get? "" = none := by
  induction pairs using List.reverseRecOn with
  | nil => rfl
  | append_singleton pairs p ih =>
      rw [ofList, List.foldl_concat]
      show ((ofList pairs).set p.1 p.2).values.get? "" = none
      rw [get?_set, if_neg fun h => h.2 rfl, ih]

/-- Of consistent assignments, each one decides the value of its variable. -/
theorem Consistent.get?_ofList (h : Consistent pairs) {p : String × String} (hp : p ∈ pairs)
    (hname : variableName p.1 ≠ "") : (ofList pairs).values.get? (variableName p.1) = some p.2 := by
  rw [Store.get?_ofList pairs hname]
  obtain ⟨q, hq⟩ : ∃ q,
      (pairs.reverse.find? fun q => variableName q.1 = variableName p.1) = some q :=
    Option.isSome_iff_exists.mp (List.find?_isSome.mpr ⟨p, List.mem_reverse.mpr hp, by simp⟩)
  have hmem : q ∈ pairs := List.mem_reverse.mp (List.mem_of_find?_eq_some hq)
  have hsame : variableName q.1 = variableName p.1 := by simpa using List.find?_some hq
  rw [hq, Option.map_some, h q hmem p hp hsame (hsame ▸ hname)]

end Store

variable {w : Workflow} {inputs : List (String × String)} {d d' : Dictionary String}

/-- Consistent inputs go before the declarations of a workflow. -/
theorem Trail.opens_seed (w : Workflow) (h : Store.Consistent inputs) :
    Opens w inputs (seed w inputs).snapshot where
  sorted := Store.sorted_ofList _
  unnamed := Store.get?_ofList_empty _
  given p hp hname := by
    show (Store.ofList (_ ++ inputs)).values.get? _ = _
    rw [Store.get?_ofList_append, h.get?_ofList hp hname, Option.some_or]
  declared x hx hnone := by
    have hinputs : (Store.ofList inputs).values.get? x = none := by
      rw [Store.get?_ofList inputs hx, List.find?_eq_none.mpr fun p hp => by
        simpa using hnone p (List.mem_reverse.mp hp)]
      rfl
    show (Store.ofList (_ ++ inputs)).values.get? x = _
    rw [Store.get?_ofList_append, hinputs, Option.none_or, Store.get?_ofList _ hx,
      Workflow.declared?, ← List.map_reverse, List.find?_map, Option.map_map]
    rfl

/-- A workflow and inputs leave no choice for the variables that a run starts from. -/
theorem Trail.Opens.unique (h : Opens w inputs d) (h' : Opens w inputs d') : d = d' := by
  refine h.sorted.ext h'.sorted fun x => ?_
  by_cases hx : x = ""
  · rw [hx, h.unnamed, h'.unnamed]
  · by_cases hgiven : ∃ p ∈ inputs, variableName p.1 = x
    · obtain ⟨p, hp, rfl⟩ := hgiven
      rw [h.given p hp hx, h'.given p hp hx]
    · have hnone : ∀ p ∈ inputs, variableName p.1 ≠ x := fun p hp heq => hgiven ⟨p, hp, heq⟩
      rw [h.declared x hx hnone, h'.declared x hx hnone]

namespace Recording

/-! ## What entries say -/

namespace Entry

/-- The block that was visited. -/
def name? : Entry → Option String
  | .step name _ => some name
  | _ => none

/-- What was done, or noted. -/
def action? : Entry → Option String
  | .step _ description => some description
  | .note action => some action
  | .truncate maxSteps => some s!"Execution truncated: step limit of {maxSteps} reached"
  | .set _ _ => none

/-- Whether a run was cut. -/
def isCut : Entry → Bool
  | .truncate _ => true
  | _ => false

/-- The variable that was assigned to, as it was named, and the value. -/
def assignment? : Entry → Option (String × String)
  | .set name value => some (name, value)
  | _ => none

end Entry

/-- The variables after the assignments among some entries. -/
def resultOf (s : Store) (entries : List Entry) : Store :=
  (entries.filterMap Entry.assignment?).foldl (fun s p => s.set p.1 p.2) s

/-- The record of a run that began with some variables, written down from its entries. -/
def recordOf (inputData : Dictionary String) (entries : List Entry) (run workflow : Identifier)
    (time : Instant) (outcome : Outcome) : RunRecord where
  id := run
  workflowId := workflow
  executedAt := time
  inputData := inputData
  resultData := (resultOf ⟨inputData⟩ entries).snapshot
  path := entries.filterMap Entry.name?
  actions := entries.filterMap Entry.action?
  outcome := outcome
  truncated := entries.any Entry.isCut
  steps := (entries.filterMap Entry.name?).length

variable {r : Recording} {s : Store} {entries more : List Entry}

/-- Assignments that follow others are made to what those came to. -/
theorem resultOf_append (s : Store) (entries more : List Entry) :
    resultOf s (entries ++ more) = resultOf (resultOf s entries) more := by
  simp [resultOf]

/-- A recording that began with some variables holds what some entries say, and nothing else. -/
structure Holds (r : Recording) (s : Store) (entries : List Entry) : Prop where
  inputData : r.trail.inputData = s.snapshot
  path : r.trail.path.toList = entries.filterMap Entry.name?
  actions : r.trail.actions.toList = entries.filterMap Entry.action?
  truncated : r.trail.truncated = entries.any Entry.isCut
  store : r.store = resultOf s entries

/-- A recording that starts holds no entries. -/
theorem holds_start (w : Workflow) (inputs : List (String × String)) :
    (start w inputs).Holds (Trail.seed w inputs) [] :=
  ⟨rfl, rfl, rfl, rfl, rfl⟩

/-- An entry is added to what a recording holds; the variables that it began with stay. -/
theorem Holds.add (h : r.Holds s entries) (e : Entry) : (r.add e).Holds s (entries ++ [e]) where
  inputData := by cases e <;> exact h.inputData
  path := by
    rw [List.filterMap_append, ← h.path]
    cases e <;> simp [Recording.add, Trail.step, Trail.note, Trail.truncate, Entry.name?]
  actions := by
    rw [List.filterMap_append, ← h.actions]
    cases e <;> simp [Recording.add, Trail.step, Trail.note, Trail.truncate, Entry.action?]
  truncated := by
    rw [List.any_append, ← h.truncated]
    cases e <;> simp [Recording.add, Trail.step, Trail.note, Trail.truncate, Entry.isCut]
  store := by
    rw [resultOf_append, ← h.store]
    cases e <;> rfl

/-- Entries one after another are added in order. -/
theorem Holds.addAll (h : r.Holds s entries) (more : List Entry) :
    (r.addAll more).Holds s (entries ++ more) := by
  induction more generalizing r entries with
  | nil => rwa [List.append_nil]
  | cons e more ih =>
      rw [List.append_cons]
      exact ih (h.add e)

/-- What a recording holds is written down in its record. -/
theorem Holds.finish_eq (h : r.Holds s entries) (run workflow : Identifier) (time : Instant)
    (outcome : Outcome) :
    r.finish run workflow time outcome = recordOf s.snapshot entries run workflow time outcome := by
  have hsteps : r.trail.steps = (entries.filterMap Entry.name?).length := by
    rw [Trail.steps, ← Array.length_toList, h.path]
  simp only [finish, Trail.finish, h.inputData, h.path, h.actions, h.truncated, h.store, hsteps]
  rfl

/-- Whatever entries are made in a recording, in whatever order, its record is written down from
them and from the variables that the run started from. These are fixed before any entry is made:
they are the values of the inputs, and the last declared ones where no input names a variable. No
two inputs may give different values to one variable, as is the case if they name different ones
(`Store.consistent_of_nodup`). -/
theorem finish_writes_entries (w : Workflow) (inputs : List (String × String))
    (hinputs : Store.Consistent inputs) :
    ∃ inputData, Trail.Opens w inputs inputData ∧
      (∀ other, Trail.Opens w inputs other → other = inputData) ∧
      ∀ (entries : List Entry) (run : Identifier) (time : Instant) (outcome : Outcome),
        ((start w inputs).addAll entries).finish run w.id time outcome =
          recordOf inputData entries run w.id time outcome := by
  have hopens := Trail.opens_seed w hinputs
  refine ⟨_, hopens, fun other hother => hother.unique hopens, fun entries run time outcome => ?_⟩
  exact ((holds_start w inputs).addAll entries).finish_eq run w.id time outcome

/-- A workflow with two declarations of one variable, and one that names none. -/
def redeclaring : Workflow :=
  let w := Workflow.empty (.ofNat 9) "Redeclaring"
  let w := w.addVariable (.ofNat 1) "A" (some "2")
  let w := w.addVariable (.ofNat 2) "B" (some "3")
  let w := w.addVariable (.ofNat 3) " $B " none
  w.addVariable (.ofNat 4) "$" (some "lost")

/-- Of two declarations the last one counts, an input counts more, and a later assignment to one of
these variables leaves it as it was recorded. -/
theorem redeclaring_writes_entries :
    Store.Consistent [("$A", "4"), (" ", "none")] ∧
    ∃ record, ((start redeclaring [("$A", "4"), (" ", "none")]).addAll
        [.note "begun", .set "$B" "changed", .step "Start" "Started: Start", .truncate 1]).finish
        .nil redeclaring.id default .completed = record ∧
      record.inputData = [("A", "4"), ("B", "")] ∧
      record.resultData = [("A", "4"), ("B", "changed")] ∧ record.path = ["Start"] ∧
      record.actions = ["begun", "Started: Start",
        "Execution truncated: step limit of 1 reached"] ∧ record.truncated = true := by
  have hinputs : Store.Consistent [("$A", "4"), (" ", "none")] := by decide +kernel
  obtain ⟨inputData, _, _, hrecord⟩ := finish_writes_entries redeclaring _ hinputs
  obtain rfl : inputData = [("A", "4"), ("B", "")] := by
    have hstarted := congrArg RunRecord.inputData (hrecord [] .nil default .completed)
    exact hstarted.symm.trans (by decide +kernel)
  exact ⟨hinputs, _, hrecord _ _ _ _, by decide +kernel⟩

end Recording

/-! ## Runs as recordings -/

/-- The entry with which a run ends that ends at a position, if it makes one. -/
def Position.closing (maxSteps : Nat) : Position → List Recording.Entry
  | ⟨.stop _, _⟩ => []
  | ⟨.goOn _, scene⟩ =>
      if scene.clock.cancelled then [.note "Execution cancelled"] else [.truncate maxSteps]

/-- A run that ends at a position is closed with what its record notes of that. -/
theorem Position.recordOf_closing (maxSteps : Nat) (last : Position) :
    (last.closing maxSteps).filterMap (·.name?) = [] ∧
      (last.closing maxSteps).filterMap (·.action?) = last.notes maxSteps ∧
      (last.closing maxSteps).any (·.isCut) = last.isCut ∧
      ∀ s, Recording.resultOf s (last.closing maxSteps) = s := by
  obtain ⟨turn, scene⟩ := last
  cases turn with
  | stop outcome => exact ⟨rfl, rfl, rfl, fun _ => rfl⟩
  | goOn id =>
      cases hcancelled : scene.clock.cancelled with
      | true =>
          simp only [closing, notes, isCut, hcancelled, if_true]
          exact ⟨rfl, rfl, rfl, fun _ => rfl⟩
      | false =>
          simp only [closing, notes, isCut, hcancelled, Bool.false_eq_true, if_false]
          exact ⟨rfl, rfl, rfl, fun _ => rfl⟩

namespace Recording.Entry

/-- Entries tell of visits that began with one store and left another one: of each visited block
with what it did, and of the assignments that were made. -/
structure Tell (entries : List Entry) (visits : List Visit) (s t : Store) : Prop where
  names : entries.filterMap name? = visits.map (·.name)
  actions : entries.filterMap action? = visits.map (·.result.description)
  uncut : entries.any isCut = false
  result : resultOf s entries = t

variable {s t u : Store} {entries more : List Entry} {visits rest : List Visit}

/-- Entries that follow others tell of what follows. -/
theorem Tell.append (h : Tell entries visits s t) (h' : Tell more rest t u) :
    Tell (entries ++ more) (visits ++ rest) s u where
  names := by rw [List.filterMap_append, List.map_append, h.names, h'.names]
  actions := by rw [List.filterMap_append, List.map_append, h.actions, h'.actions]
  uncut := by rw [List.any_append, h.uncut, h'.uncut, Bool.or_false]
  result := by rw [resultOf_append, h.result, h'.result]

/-- Assignments alone can be told. -/
theorem exists_tell_of_assigns {names : List String} (h : s.Assigns names t) :
    ∃ entries, Tell entries [] s t := by
  induction h with
  | refl => exact ⟨[], rfl, rfl, rfl, rfl⟩
  | @set t name value _ _ ih =>
      obtain ⟨entries, hentries⟩ := ih
      have hset : Tell [.set name value] [] t (t.set name value) := ⟨rfl, rfl, rfl, rfl⟩
      exact ⟨_, hentries.append hset⟩

/-- Over the standard handlers, steps one after another can be told: the handler of each visited
block assigns to variables, and then the visit is recorded. -/
theorem exists_tell {catalog : Catalog} {limits : Limits} {w : Workflow} {g : Graph}
    {p q : Position} (hg : g.IsGraphOf catalog (.standard limits) w) (h : g.Steps p visits q) :
    ∃ entries, Tell entries visits p.scene.store q.scene.store := by
  induction h with
  | refl p => exact ⟨[], rfl, rfl, rfl, rfl⟩
  | @cons p q r v visits hstep _ ih =>
      obtain ⟨assigned, hassigned⟩ := exists_tell_of_assigns (hstep.assigns hg)
      obtain ⟨later, hlater⟩ := ih
      have hvisit : Tell [.step v.name v.result.description] [v] q.scene.store q.scene.store :=
        ⟨rfl, rfl, rfl, rfl⟩
      exact ⟨_, (hassigned.append hvisit).append hlater⟩

end Recording.Entry

/-- Over the standard handlers the record of every run is that of a recording, of which the run
makes the entries. -/
theorem Engine.exists_entries {engine : Engine} {limits : Limits} {w : Workflow}
    {request : RunRequest} {result : RunResult} (hregistry : engine.registry = .standard limits)
    (hresult : (engine.execute w request).1 = .ok result) :
    ∃ entries, ((Recording.start w request.inputs).addAll entries).finish request.run w.id
      request.startedAt result.record.outcome = result.record := by
  obtain ⟨g, visits, last, hgraph, hrun, rfl⟩ := exists_isRun_of_execute hresult
  obtain ⟨entries, hnames, hactions, huncut, hstore⟩ :=
    Recording.Entry.exists_tell (hregistry ▸ isGraphOf_of_graph hgraph) hrun.steps
  obtain ⟨hnoNames, hnotes, hcut, hkept⟩ := last.recordOf_closing engine.config.maxSteps
  refine ⟨entries ++ last.closing engine.config.maxSteps, ?_⟩
  have hholds := (Recording.holds_start w request.inputs).addAll
    (entries ++ last.closing engine.config.maxSteps)
  rw [List.nil_append] at hholds
  rw [hholds.finish_eq, Recording.recordOf, Recording.resultOf_append, List.filterMap_append,
    List.filterMap_append, List.any_append, hkept, hnames, hnoNames, hactions, hnotes, huncut, hcut]
  simp only [RunResult.ofVisits, RunResult.recordOf, List.append_nil, Bool.false_or,
    List.length_map, ← hstore]
  rfl

end Flowchart
