import Flowchart.Proofs.Json.Reads

/-!
# What readers give

A reader yields a property if all its results have it, whatever text it reads (`Reader.Yields`).
`Value.isOrdered_of_ofText` says that in a document that was read the members of every object are in
strictly ascending order, and `Value.isBlankText_of_ofText` that a blank text is no document.
-/

namespace Flowchart.Json

namespace Reader

/-- All results of a reader have a property. -/
def Yields {α : Type} (reader : Reader α) (P : α → Prop) : Prop :=
  ∀ cursor a cursor', reader.run cursor = (.ok a, cursor') → P a

variable {α β : Type} {reader : Reader α} {f : α → Reader β} {P : α → Prop} {Q : β → Prop}

/-- Nothing is asked of a result. -/
theorem Yields.trivial : reader.Yields fun _ => True := fun _ _ _ _ => True.intro

/-- A result without reading. -/
theorem Yields.pure {a : α} (h : P a) : (Pure.pure a : Reader α).Yields P := by
  intro cursor b cursor' hrun
  cases hrun
  exact h

/-- A reader that always fails has no results. -/
theorem Yields.throw (e : Error) : (MonadExcept.throw e : Reader α).Yields P := by
  intro cursor a cursor' hrun
  cases hrun

/-- A reader that fails at the cursor has no results. -/
theorem Yields.fail (cause : SyntaxFault) : (fail cause : Reader α).Yields P := by
  intro cursor a cursor' hrun
  cases hrun

/-- A reader that fails at some place has no results. -/
theorem Yields.failAfter (bytes : Nat) (cause : SyntaxFault) :
    (failAfter bytes cause : Reader α).Yields P := by
  intro cursor a cursor' hrun
  cases hrun

/-- A reader that fails at the next character has no results. -/
theorem Yields.failAtNext (cause : SyntaxFault) : (failAtNext cause : Reader α).Yields P :=
  .failAfter 1 cause

/-- One reader after another. -/
theorem Yields.bind (h : reader.Yields P) (hf : ∀ a, P a → (f a).Yields Q) :
    (reader >>= f).Yields Q := by
  intro cursor b cursor' hrun
  rw [ExceptT.run_bind] at hrun
  simp only [Bind.bind, StateT.bind] at hrun
  cases hreader : reader.run cursor with
  | mk result mid =>
      rw [hreader] at hrun
      cases result with
      | ok a => exact hf a (h _ _ _ hreader) _ _ _ hrun
      | error e => cases hrun

/-- A reader, or another one in case that it fails. -/
theorem Yields.tryCatch {handler : Error → Reader α} (h : reader.Yields P)
    (hhandler : ∀ e, (handler e).Yields P) : (tryCatch reader handler).Yields P := by
  intro cursor a cursor' hrun
  rw [ExceptT.run_tryCatch] at hrun
  simp only [Bind.bind, StateT.bind] at hrun
  cases hreader : reader.run cursor with
  | mk result mid =>
      rw [hreader] at hrun
      cases result with
      | ok b =>
          cases hrun
          exact h _ _ _ hreader
      | error e => exact hhandler e _ _ _ hrun

/-- What is inside an array or object is the result of reading it. -/
theorem Yields.enclosed {closing : Reader Unit} (h : reader.Yields P) :
    (enclosed reader closing).Yields P := by
  refine Yields.bind (P := fun result => ∀ a, result = .ok a → P a) ?_ fun result hresult => ?_
  · refine Yields.tryCatch (h.bind fun a ha => .pure fun b hb => ?_) fun e => .pure fun b hb => ?_
    · cases hb
      exact ha
    · cases hb
  · cases result with
    | ok a => exact Yields.trivial.bind fun _ _ => .pure (hresult a rfl)
    | error e => exact Yields.trivial.bind fun _ _ => .throw e

/-- The elements of an array are what the reader for elements gives. -/
theorem Yields.elements (h : reader.Yields P) (turns : Nat) (first : Bool) :
    (elements reader turns first).Yields fun as => ∀ a ∈ as, P a := by
  induction turns generalizing first with
  | zero => exact .pure (by simp)
  | succ turns ih =>
      refine Yields.trivial.bind fun more _ => ?_
      cases more with
      | false => exact .pure (by simp)
      | true =>
          refine h.bind fun a ha => (ih false).bind fun as has => .pure ?_
          exact List.forall_mem_cons.mpr ⟨ha, has⟩

/-- The members of an object hold what the reader for values gives. -/
theorem Yields.members (h : reader.Yields P) (turns : Nat) (first : Bool) :
    (members reader turns first).Yields fun ms => ∀ m ∈ ms, P m.2 := by
  induction turns generalizing first with
  | zero => exact .pure (by simp)
  | succ turns ih =>
      refine Yields.trivial.bind fun more _ => ?_
      cases more with
      | false => exact .pure (by simp)
      | true =>
          refine Yields.trivial.bind fun key _ => Yields.trivial.bind fun _ _ =>
            h.bind fun a ha => (ih false).bind fun ms hms => .pure ?_
          exact List.forall_mem_cons.mpr ⟨ha, hms⟩

/-- A document that is read is ordered at every depth, has no more levels than are allowed, and
only numbers that the reader for numbers gives. -/
theorem value_yields_within {P : Number → Prop} (h : ∀ negative, (number negative).Yields P)
    (depth : Nat) : (value depth).Yields fun v => v.IsOrdered ∧ v.IsWithin P depth := by
  induction depth with
  | zero => exact .failAtNext _
  | succ depth ih =>
      have hlevel : 1 ≤ depth + 1 := Nat.le_add_left 1 depth
      refine Yields.trivial.bind fun next _ => ?_
      split
      · exact .failAtNext _
      · exact Yields.trivial.bind fun _ _ => .pure ⟨True.intro, hlevel⟩
      · exact Yields.trivial.bind fun _ _ => .pure ⟨True.intro, hlevel⟩
      · exact Yields.trivial.bind fun _ _ => .pure ⟨True.intro, hlevel⟩
      · exact Yields.trivial.bind fun _ _ => .pure ⟨True.intro, hlevel⟩
      · exact Yields.trivial.bind fun _ _ => (h true).bind fun n hn =>
          .pure ⟨True.intro, hlevel, hn⟩
      · split
        · exact .failAtNext _
        · refine Yields.trivial.bind fun _ _ => Yields.trivial.bind fun turns _ =>
            (ih.elements turns true).enclosed.bind fun vs hvs => .pure ?_
          exact ⟨elementsOrdered_iff.mpr fun v hv => (hvs v hv).1, by omega,
            elementsWithin_iff.mpr fun v hv => (hvs v hv).2⟩
      · split
        · exact .failAtNext _
        · refine Yields.trivial.bind fun _ _ => Yields.trivial.bind fun turns _ =>
            (ih.members turns true).enclosed.bind fun ms hms => .pure ?_
          have hmembers (m : String × Value) (hm : m ∈ Dictionary.ofList ms) :=
            hms m (Dictionary.mem_of_mem_ofList hm)
          exact ⟨⟨Dictionary.sorted_ofList ms,
            membersOrdered_iff.mpr fun m hm => (hmembers m hm).1⟩,
            by omega, membersWithin_iff.mpr fun m hm => (hmembers m hm).2⟩
      · split
        · exact (h false).bind fun n hn => .pure ⟨True.intro, hlevel, hn⟩
        · exact .failAtNext _

/-- The next token begins after all blanks before it. -/
theorem reads_nextToken?_dropWhile (cs : List Char) :
    nextToken?.Reads cs (cs.dropWhile isSpace).head? (cs.dropWhile isSpace) := by
  have hskip : ∀ p, (nextToken?.skipBlanks cs p).rest = cs.dropWhile isSpace := by
    induction cs with
    | nil => exact fun _ => rfl
    | cons c cs ih =>
        intro p
        rw [nextToken?.skipBlanks, List.dropWhile_cons]
        by_cases hblank : c = ' ' ∨ c = '\t' ∨ c = '\r'
        · simp [isSpace, or_assoc, hblank, ih]
        · by_cases hline : c = '\n'
          · simp [isSpace, hline, ih]
          · simp [isSpace, or_assoc, hblank, hline]
  intro p
  refine ⟨(nextToken?.skipBlanks cs p).position, ?_⟩
  rw [← hskip p]
  rfl

/-- A blank text has no token that a document could begin with. -/
theorem exists_run_value_eq_error {cs : List Char} (h : ∀ c ∈ cs, Text.isBlank c = true)
    (depth : Nat) (p : Position) :
    ∃ e cursor, (value (depth + 1)).run ⟨cs, p⟩ = (.error e, cursor) := by
  obtain ⟨q, hq⟩ := (reads_nextToken?_dropWhile cs).run_bind p
  rw [value, document, hq]
  cases htoken : cs.dropWhile isSpace with
  | nil => exact ⟨_, _, rfl⟩
  | cons c rest =>
      have hblank : Text.isBlank c = true :=
        h c (List.dropWhile_subset _ (htoken ▸ List.mem_cons_self))
      have hdigit : c.isDigit = false := by
        by_contra hdigit
        have := Text.isBlank_of_isDigit (Bool.not_eq_false _ ▸ hdigit)
        rw [hblank] at this
        cases this
      simp only [List.head?_cons]
      split
      -- None of the characters with which a document begins is blank.
      case h_1 heq => cases heq
      case h_9 heq =>
        cases heq
        rw [if_neg (Bool.eq_false_iff.mp hdigit)]
        exact ⟨_, _, rfl⟩
      all_goals
        rename_i heq
        cases heq
        exact absurd hblank (by decide)

/-- What a whole text is read as is a result of the reader. -/
theorem Yields.readAll (h : reader.Yields P) {s : String} {a : α}
    (hread : readAll reader s = .ok a) : P a := by
  have hresult {whole : Reader α} (hwhole : whole.Yields P)
      (hrun : (whole.run (Cursor.start s)).1 = .ok a) : P a :=
    hwhole (Cursor.start s) a _ (Prod.ext hrun rfl)
  refine hresult (h.bind fun a ha => Yields.trivial.bind fun next _ => ?_) hread
  cases next with
  | none => exact .pure ha
  | some c => exact .failAtNext _

/-- A text at which a reader fails is not read. -/
theorem readAll_eq_error {s : String} {e : Error} {cursor : Cursor}
    (h : reader.run (Cursor.start s) = (.error e, cursor)) : readAll reader s = .error e := by
  simp only [readAll]
  rw [ExceptT.run_bind]
  simp only [Bind.bind, StateT.bind, h]
  rfl

/-- The message with which a reader fails at the start of a text, if it does. -/
def failure? (reader : Reader α) (cs : List Char) : Option String :=
  match (reader.run ⟨cs, ⟨1, 0⟩⟩).1 with
  | .error e => some e.message
  | .ok _ => none

/-- A text at whose start a reader fails is refused with the same message. -/
theorem readAll_of_failure? {s message : String} (h : reader.failure? s.toList = some message) :
    ∃ e, readAll reader s = .error e ∧ e.message = message := by
  unfold failure? at h
  cases hrun : reader.run ⟨s.toList, ⟨1, 0⟩⟩ with
  | mk result cursor =>
      rw [hrun] at h
      cases result with
      | ok a => cases h
      | error e => exact ⟨e, readAll_eq_error hrun, Option.some.inj h⟩

end Reader

/-- A blank text is no document. -/
theorem Value.isBlankText_of_ofText {s : String} {v : Value} (h : ofText s = .ok v) :
    Text.isBlankText s = false := by
  by_contra hblank
  have hchars : ∀ c ∈ s.toList, Text.isBlank c = true :=
    List.all_eq_true.mp (Bool.not_eq_false _ ▸ hblank)
  obtain ⟨e, cursor, hfail⟩ := Reader.exists_run_value_eq_error hchars 127 ⟨1, 0⟩
  cases h.symm.trans (Reader.readAll_eq_error hfail)

/-- In a document that was read the members of every object are in order. -/
theorem Value.isOrdered_of_ofText {s : String} {v : Value} (h : ofText s = .ok v) :
    v.IsOrdered :=
  ((Reader.value_yields_within (fun _ => .trivial) depthLimit).readAll h).1

end Flowchart.Json
