import Mathlib.Data.Prod.Lex
import Flowchart.Graph.Index

/-!
# Which connection is chosen

A branch fits some of the connections that leave a block and ranks them (`Branch.Fits`,
`Branch.rank`). The choice is the one of the least rank, and of several with that rank the first one
(`Branch.IsChoice`); there is none only if no connection fits. Read `chooses_least` first. It also
says which changes to a list of connections make no difference to any choice: connections that do
not fit may come and go, and neighbours of different ranks may change places.

A verdict can tell two connections of a block apart by their kinds and labels only
(`Connection.Mark`). Of several connections with the same mark the first one declared is followed,
so that no choice depends on the others (`Connection.IgnoresRepeats`).
-/

namespace Flowchart

/-- A connection fits a branch: its label is not blank and equal to the key, but for blanks around
both and the case of ASCII letters; or it is of the kind that is asked for. -/
inductive Branch.Fits : Branch → Connection → Prop where
  | labeled {c : Connection} {key label : String} (hlabel : c.label = some label)
      (hblank : Text.isBlankText label = false)
      (hkey : Text.equalAsciiCase (Text.trim label) (Text.trim key) = true) : Fits (.labeled key) c
  | ofKind {c : Connection} {kind : ConnectionKind} (hkind : c.kind = kind) : Fits (.ofKind kind) c

/-- The rank of a connection that fits: under a label those for errors come last, and under a kind
those with a label. -/
def Branch.rank : Branch → Connection → Nat
  | .labeled _, c => if c.kind = .error then 1 else 0
  | .ofKind _, c => if c.label?.isSome then 1 else 0

/-- A connection is the choice for a branch among those that leave a block: it fits, and is the
least that fits by its rank and then by its place in the list. -/
structure Branch.IsChoice (branch : Branch) (outgoing : List Connection) (place : Nat)
    (c : Connection) : Prop where
  stands : outgoing[place]? = some c
  fits : branch.Fits c
  least : ∀ (other : Nat) (d : Connection), outgoing[other]? = some d → branch.Fits d →
    toLex (branch.rank c, place) ≤ toLex (branch.rank d, other)

variable {branch : Branch} {c d : Connection} {outgoing rest before after : List Connection}
  {place other : Nat}

/-! ## What qualifies and what is preferred -/

theorem Connection.matchesLabel_iff {key : String} : c.matchesLabel key = true ↔
    ∃ label, c.label = some label ∧ Text.isBlankText label = false ∧
      Text.equalAsciiCase (Text.trim label) (Text.trim key) = true := by
  unfold matchesLabel label?
  cases c.label with
  | none => simp
  | some label => cases hblank : Text.isBlankText label <;> simp [hblank]

theorem Branch.qualifies_iff : branch.qualifies c = true ↔ branch.Fits c := by
  cases branch with
  | labeled key =>
      rw [qualifies, Connection.matchesLabel_iff]
      constructor
      · rintro ⟨label, hlabel, hblank, hkey⟩
        exact .labeled hlabel hblank hkey
      · intro h
        cases h with
        | labeled hlabel hblank hkey => exact ⟨_, hlabel, hblank, hkey⟩
  | ofKind kind =>
      rw [qualifies, decide_eq_true_iff]
      constructor
      · exact .ofKind
      · intro h
        cases h with
        | ofKind hkind => exact hkind

theorem Branch.qualifies_eq_false_iff : branch.qualifies c = false ↔ ¬branch.Fits c := by
  rw [← qualifies_iff, Bool.not_eq_true]

/-- The preferred connections are those of rank zero, and all others have rank one. -/
theorem Branch.rank_eq (branch : Branch) (c : Connection) :
    branch.rank c = if branch.prefers c then 0 else 1 := by
  cases branch with
  | labeled key => cases hkind : c.kind <;> simp [rank, prefers, hkind]
  | ofKind kind => cases hlabel : c.label? <;> simp [rank, prefers, hlabel]

/-! ## The choice is the least -/

/-- A connection that does not qualify is passed over. -/
theorem selectConnection_cons_of_not (h : branch.qualifies c = false) :
    selectConnection branch (c :: rest) = selectConnection branch rest := by
  unfold selectConnection
  rw [List.filter_cons_of_neg (by simp [h])]

/-- A preferred connection is chosen before all that come after it. -/
theorem selectConnection_cons_of_prefers (h : branch.qualifies c = true)
    (hprefers : branch.prefers c = true) : selectConnection branch (c :: rest) = some c := by
  unfold selectConnection
  rw [List.filter_cons_of_pos h]
  simp [hprefers]

/-- Any other connection that qualifies is chosen unless a preferred one comes after it. -/
theorem selectConnection_cons_of_not_prefers (h : branch.qualifies c = true)
    (hprefers : branch.prefers c = false) : selectConnection branch (c :: rest) =
      ((rest.filter branch.qualifies).find? branch.prefers).or (some c) := by
  unfold selectConnection
  rw [List.filter_cons_of_pos h]
  simp [hprefers]

theorem selectConnection_eq_none_iff :
    selectConnection branch outgoing = none ↔ ∀ c ∈ outgoing, ¬branch.Fits c := by
  unfold selectConnection
  rw [Option.or_eq_none_iff, List.head?_eq_none_iff]
  constructor
  · rintro ⟨-, hnil⟩ c hc
    rw [← Branch.qualifies_iff]
    exact List.filter_eq_nil_iff.mp hnil c hc
  · intro hall
    have hnil : outgoing.filter branch.qualifies = [] :=
      List.filter_eq_nil_iff.mpr fun c hc => Branch.qualifies_iff.not.mpr (hall c hc)
    simp [hnil]

namespace Branch.IsChoice

/-- The choice stays the same behind a connection that it comes before. -/
theorem cons (h : branch.IsChoice rest place c)
    (hfirst : branch.Fits d → branch.rank c < branch.rank d) :
    branch.IsChoice (d :: rest) (place + 1) c where
  stands := h.stands
  fits := h.fits
  least other e he hfits := by
    cases other with
    | zero =>
        obtain rfl : d = e := Option.some.inj he
        exact Prod.Lex.toLex_le_toLex.mpr (Or.inl (hfirst hfits))
    | succ other =>
        have hle := Prod.Lex.toLex_le_toLex.mp (h.least other e he hfits)
        exact Prod.Lex.toLex_le_toLex.mpr (hle.imp_right (And.imp_right Nat.succ_le_succ))

/-- A connection that fits is the choice at the head of a list if no other one has a lesser rank. -/
theorem head (hfits : branch.Fits c)
    (hall : ∀ d ∈ rest, branch.Fits d → branch.rank c ≤ branch.rank d) :
    branch.IsChoice (c :: rest) 0 c where
  stands := rfl
  fits := hfits
  least other d hd hd' := by
    have hrank : branch.rank c ≤ branch.rank d := by
      cases other with
      | zero =>
          obtain rfl : c = d := Option.some.inj hd
          exact Nat.le_refl _
      | succ other => exact hall d (List.mem_of_getElem? hd) hd'
    have hle : branch.rank c < branch.rank d ∨ branch.rank c = branch.rank d ∧ 0 ≤ other := by
      omega
    exact Prod.Lex.toLex_le_toLex.mpr hle

/-- There is one choice only. -/
theorem unique (h : branch.IsChoice outgoing place c) (h' : branch.IsChoice outgoing other d) :
    place = other ∧ c = d := by
  have heq := le_antisymm (h.least other d h'.stands h'.fits) (h'.least place c h.stands h.fits)
  obtain rfl : place = other := congrArg Prod.snd (toLex.injective heq)
  exact ⟨rfl, Option.some.inj (h.stands.symm.trans h'.stands)⟩

end Branch.IsChoice

/-- What is chosen is the choice. -/
theorem exists_isChoice (h : selectConnection branch outgoing = some c) :
    ∃ place, branch.IsChoice outgoing place c := by
  induction outgoing with
  | nil => cases h
  | cons d rest ih =>
      cases hd : branch.qualifies d with
      | false =>
          rw [selectConnection_cons_of_not hd] at h
          obtain ⟨place, hplace⟩ := ih h
          have hnot := Branch.qualifies_eq_false_iff.mp hd
          exact ⟨place + 1, hplace.cons fun hfits => absurd hfits hnot⟩
      | true =>
          cases hprefers : branch.prefers d with
          | true =>
              rw [selectConnection_cons_of_prefers hd hprefers] at h
              obtain rfl := Option.some.inj h
              refine ⟨0, .head (Branch.qualifies_iff.mp hd) fun e _ _ => ?_⟩
              simp [Branch.rank_eq, hprefers]
          | false =>
              rw [selectConnection_cons_of_not_prefers hd hprefers] at h
              cases hfind : (rest.filter branch.qualifies).find? branch.prefers with
              | some e =>
                  -- A preferred connection in the rest is what would be chosen there.
                  have hrest : selectConnection branch rest = some e := by
                    simp only [selectConnection, hfind, Option.some_or]
                  rw [hfind] at h
                  obtain rfl : e = c := Option.some.inj h
                  obtain ⟨place, hplace⟩ := ih hrest
                  refine ⟨place + 1, hplace.cons fun _ => ?_⟩
                  simp [Branch.rank_eq, hprefers, List.find?_some hfind]
              | none =>
                  rw [hfind] at h
                  obtain rfl : d = c := Option.some.inj h
                  refine ⟨0, .head (Branch.qualifies_iff.mp hd) fun e he hfits => ?_⟩
                  have hmem : e ∈ rest.filter branch.qualifies :=
                    List.mem_filter.mpr ⟨he, Branch.qualifies_iff.mpr hfits⟩
                  have hnot := List.find?_eq_none.mp hfind e hmem
                  simp [Branch.rank_eq, hprefers, hnot]

/-- A connection is chosen exactly if it is the choice. -/
theorem selectConnection_eq_some_iff : selectConnection branch outgoing = some c ↔
    ∃ place, branch.IsChoice outgoing place c := by
  refine ⟨exists_isChoice, fun ⟨place, h⟩ => ?_⟩
  cases hchosen : selectConnection branch outgoing with
  | none =>
      exact absurd h.fits (selectConnection_eq_none_iff.mp hchosen c
        (List.mem_of_getElem? h.stands))
  | some d =>
      obtain ⟨other, hother⟩ := exists_isChoice hchosen
      rw [(hother.unique h).2]

/-! ## Changes that make no difference -/

/-- If a connection fits, one that fits is chosen. -/
theorem exists_selectConnection_of_fits (h : ∃ c ∈ outgoing, branch.Fits c) :
    ∃ c ∈ outgoing, branch.Fits c ∧ selectConnection branch outgoing = some c := by
  cases hchosen : selectConnection branch outgoing with
  | none =>
      obtain ⟨c, hc, hfits⟩ := h
      exact absurd hfits (selectConnection_eq_none_iff.mp hchosen c hc)
  | some c =>
      obtain ⟨place, hchoice⟩ := selectConnection_eq_some_iff.mp hchosen
      exact ⟨c, List.mem_of_getElem? hchoice.stands, hchoice.fits, rfl⟩

/-- Connections that do not fit make no difference. -/
theorem selectConnection_append_of_not_fits {added : List Connection}
    (h : ∀ c ∈ added, ¬branch.Fits c) :
    selectConnection branch (before ++ added ++ after) =
      selectConnection branch (before ++ after) := by
  have hnone : added.filter branch.qualifies = [] :=
    List.filter_eq_nil_iff.mpr fun c hc => Branch.qualifies_iff.not.mpr (h c hc)
  unfold selectConnection
  simp only [List.filter_append, hnone, List.append_nil]

/-- Neighbours of different ranks can change places. -/
theorem selectConnection_swap (h : branch.rank c ≠ branch.rank d) :
    selectConnection branch (before ++ c :: d :: after) =
      selectConnection branch (before ++ d :: c :: after) := by
  have hprefers : branch.prefers c ≠ branch.prefers d := by
    intro heq
    rw [Branch.rank_eq, Branch.rank_eq, heq] at h
    exact h rfl
  cases hc : branch.qualifies c <;> cases hd : branch.qualifies d
  case true.true =>
    unfold selectConnection
    simp only [List.filter_append, List.filter_cons_of_pos hc, List.filter_cons_of_pos hd,
      List.find?_append, List.head?_append, List.find?_cons]
    -- One of the two is preferred, and is found before the other one is asked for.
    cases hc' : branch.prefers c <;> cases hd' : branch.prefers d
    case true.true | false.false => exact absurd (hc'.trans hd'.symm) hprefers
    all_goals cases (before.filter branch.qualifies).find? branch.prefers <;> simp
  all_goals
    unfold selectConnection
    simp only [List.filter_append, List.filter_cons, hc, hd, Bool.false_eq_true, if_false, if_true]

/-- There is no choice exactly if no connection fits, and otherwise it is the connection that fits
of the least rank, and of these the first one. Connections that do not fit may be put in or taken
out, and neighbours of different ranks may change places, with the same choice. -/
theorem chooses_least (branch : Branch) (outgoing : List Connection) :
    (selectConnection branch outgoing = none ↔ ∀ c ∈ outgoing, ¬branch.Fits c) ∧
    (∀ c, selectConnection branch outgoing = some c ↔
      ∃ place, branch.IsChoice outgoing place c) ∧
    (∀ before added after, outgoing = before ++ added ++ after →
      (∀ c ∈ added, ¬branch.Fits c) →
        selectConnection branch outgoing = selectConnection branch (before ++ after)) ∧
    (∀ before c d after, outgoing = before ++ c :: d :: after → branch.rank c ≠ branch.rank d →
      selectConnection branch outgoing = selectConnection branch (before ++ d :: c :: after)) := by
  refine ⟨selectConnection_eq_none_iff, fun c => selectConnection_eq_some_iff, ?_, ?_⟩
  · rintro before added after rfl hadded
    exact selectConnection_append_of_not_fits hadded
  · rintro before c d after rfl hrank
    exact selectConnection_swap hrank

/-! ## Repeated connections -/

/-- What a verdict can tell of a connection: the block it leaves, its kind, and its label without
regard to the case of ASCII letters. -/
structure Connection.Mark where
  source : Identifier
  kind : ConnectionKind
  label : Option String
  deriving DecidableEq

namespace Connection

/-- The mark of a connection. -/
def mark (c : Connection) : Mark := ⟨c.source, c.kind, c.label?.map Text.asciiLower⟩

/-- The connections of a list without those that are preceded by one with the same mark. The first
argument holds the connections before the list. -/
def keepFirst (before : List Connection) : List Connection → List Connection
  | [] => []
  | c :: rest =>
      if before.any (·.mark = c.mark) then keepFirst (before ++ [c]) rest
      else c :: keepFirst (before ++ [c]) rest

variable {c first : Connection} {before rest : List Connection}

/-- Connections with the same mark leave the same block. -/
theorem source_eq_of_mark (h : first.mark = c.mark) : first.source = c.source :=
  congrArg Mark.source h

/-- Connections with the same mark have the same kind. -/
theorem kind_eq_of_mark (h : first.mark = c.mark) : first.kind = c.kind :=
  congrArg Mark.kind h

/-- Whether a connection has a label can be told from its mark. -/
theorem isNone_label?_eq_of_mark (h : first.mark = c.mark) :
    first.label?.isNone = c.label?.isNone := by
  have hlabel : first.label?.map Text.asciiLower = c.label?.map Text.asciiLower :=
    congrArg Mark.label h
  rw [← Option.isNone_map, hlabel, Option.isNone_map]

/-- Whether a key is the label of a connection can be told from its mark. -/
theorem matchesLabel_eq_of_mark (h : first.mark = c.mark) (key : String) :
    first.matchesLabel key = c.matchesLabel key := by
  have hmatches (c : Connection) : c.matchesLabel key =
      ((c.label?.map Text.asciiLower).any fun l => l == Text.asciiLower (Text.trim key)) := by
    unfold matchesLabel Text.equalAsciiCase
    cases c.label? <;> rfl
  have hlabel : first.label?.map Text.asciiLower = c.label?.map Text.asciiLower :=
    congrArg Mark.label h
  rw [hmatches, hmatches, hlabel]

/-- Connections of the list that are kept are in the list. -/
theorem mem_of_mem_keepFirst (h : c ∈ keepFirst before rest) : c ∈ rest := by
  induction rest generalizing before with
  | nil => cases h
  | cons d rest ih =>
      unfold keepFirst at h
      split at h
      · exact List.mem_cons_of_mem _ (ih h)
      · rcases List.mem_cons.mp h with rfl | hrest
        · exact List.mem_cons_self
        · exact List.mem_cons_of_mem _ (ih hrest)

/-- A function of lists of connections does not depend on any connection after one with the same
mark. -/
def IgnoresRepeats {α : Type} (f : List Connection → α) : Prop :=
  ∀ before c rest, (∃ first ∈ before, first.mark = c.mark) →
    f (before ++ c :: rest) = f (before ++ rest)

/-- What does not depend on any repeated connection does not depend on all of them together. -/
theorem IgnoresRepeats.apply_keepFirst {α : Type} {f : List Connection → α}
    (hf : IgnoresRepeats f) (connections : List Connection) :
    f (keepFirst [] connections) = f connections := by
  -- The induction needs to know that among those kept are the marks of all that went before.
  suffices hkept : ∀ rest kept before : List Connection,
      (∀ first ∈ before, ∃ k ∈ kept, k.mark = first.mark) →
      f (kept ++ keepFirst before rest) = f (kept ++ rest) by
    exact hkept connections [] [] (by simp)
  intro rest
  induction rest with
  | nil => exact fun _ _ _ => rfl
  | cons c rest ih =>
      intro kept before hbefore
      unfold keepFirst
      split
      · next hany =>
          obtain ⟨first, hfirst, hmark⟩ : ∃ first ∈ before, first.mark = c.mark := by
            simpa using hany
          obtain ⟨k, hk, hkmark⟩ := hbefore first hfirst
          rw [hf kept c rest ⟨k, hk, hkmark.trans hmark⟩]
          refine ih kept (before ++ [c]) fun d hd => ?_
          rcases List.mem_append.mp hd with hd | hd
          · exact hbefore d hd
          · rw [List.mem_singleton.mp hd]
            exact ⟨k, hk, hkmark.trans hmark⟩
      · have hrest := ih (kept ++ [c]) (before ++ [c]) fun d hd => by
          rcases List.mem_append.mp hd with hd | hd
          · obtain ⟨k, hk, hkmark⟩ := hbefore d hd
            exact ⟨k, List.mem_append_left _ hk, hkmark⟩
          · rw [List.mem_singleton.mp hd]
            exact ⟨c, List.mem_append_right _ List.mem_cons_self, rfl⟩
        rw [List.append_assoc, List.append_assoc] at hrest
        exact hrest

/-- What does not depend on repeated connections does not depend on them either among the
connections that leave a block. -/
theorem IgnoresRepeats.filter_source {α : Type} {f : List Connection → α} (hf : IgnoresRepeats f)
    (id : Identifier) :
    IgnoresRepeats fun connections => f (connections.filter (·.source = id)) := by
  intro before c rest ⟨first, hfirst, hmark⟩
  simp only [List.filter_append]
  by_cases hc : c.source = id
  · have hleaves : first ∈ before.filter (·.source = id) :=
      List.mem_filter.mpr ⟨hfirst, by simp [source_eq_of_mark hmark, hc]⟩
    rw [List.filter_cons_of_pos (by simp [hc])]
    exact hf _ c _ ⟨first, hleaves, hmark⟩
  · rw [List.filter_cons_of_neg (by simp [hc])]

end Connection

/-! ## Choices -/

variable {c first : Connection}

/-- Connections with the same mark qualify for the same branches. -/
theorem Branch.qualifies_eq_of_mark (branch : Branch) (h : first.mark = c.mark) :
    branch.qualifies first = branch.qualifies c := by
  cases branch with
  | labeled key => exact Connection.matchesLabel_eq_of_mark h key
  | ofKind kind =>
      show decide (first.kind = kind) = decide (c.kind = kind)
      rw [Connection.kind_eq_of_mark h]

/-- Connections with the same mark are preferred alike. -/
theorem Branch.prefers_eq_of_mark (branch : Branch) (h : first.mark = c.mark) :
    branch.prefers first = branch.prefers c := by
  cases branch with
  | labeled key =>
      show decide (first.kind = .success) = decide (c.kind = .success)
      rw [Connection.kind_eq_of_mark h]
  | ofKind kind => exact Connection.isNone_label?_eq_of_mark h

/-- No choice depends on a repeated connection. -/
theorem ignoresRepeats_selectConnection (branch : Branch) :
    Connection.IgnoresRepeats (selectConnection branch) := by
  intro before c rest ⟨first, hfirst, hmark⟩
  unfold selectConnection
  simp only [List.filter_append]
  by_cases hc : branch.qualifies c = true
  · have hqualified : first ∈ before.filter branch.qualifies :=
      List.mem_filter.mpr ⟨hfirst, (branch.qualifies_eq_of_mark hmark).trans hc⟩
    rw [List.filter_cons_of_pos hc]
    generalize before.filter branch.qualifies = earlier at hqualified ⊢
    -- The first one is preferred if the other one is, and comes before it in any case.
    have hfind : (earlier ++ c :: rest.filter branch.qualifies).find? branch.prefers =
        (earlier ++ rest.filter branch.qualifies).find? branch.prefers := by
      rw [List.find?_append, List.find?_append]
      cases hearlier : earlier.find? branch.prefers with
      | some found => rfl
      | none =>
          have hprefers : ¬ branch.prefers c = true := by
            rw [← branch.prefers_eq_of_mark hmark]
            exact List.find?_eq_none.mp hearlier first hqualified
          rw [List.find?_cons_of_neg hprefers]
    have hhead (others : List Connection) : (earlier ++ others).head? = earlier.head? := by
      cases earlier with
      | nil => cases hqualified
      | cons d more => rfl
    rw [hfind, hhead, hhead]
  · rw [List.filter_cons_of_neg hc]

/-- Whether a label is found does not depend on a repeated connection. -/
theorem ignoresRepeats_any_matchesLabel (key : String) :
    Connection.IgnoresRepeats fun connections => connections.any (·.matchesLabel key) := by
  intro before c rest ⟨first, hfirst, hmark⟩
  simp only [List.any_append, List.any_cons, ← Connection.matchesLabel_eq_of_mark hmark]
  cases hmatches : first.matchesLabel key with
  | false => rw [Bool.false_or]
  | true =>
      have hany : before.any (·.matchesLabel key) = true :=
        List.any_eq_true.mpr ⟨first, hfirst, hmatches⟩
      rw [hany, Bool.true_or, Bool.true_or]

end Flowchart
