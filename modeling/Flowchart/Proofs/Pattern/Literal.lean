import Flowchart.Proofs.Pattern.Escape
import Flowchart.Proofs.Text.Search
import Mathlib.Data.Nat.Find

/-!
# Searching for a text

The program of a text consumes its characters one after the other. A search by it finds the first
place where the text occurs: the pairs of address and position that have failed are those at which
what is left of the text does not stand, so that nothing is lost by not trying them again. Replacing
the matches is replacing the text.
-/

namespace Flowchart.Pattern

/-- The program that searches for a text. -/
def textProgram (cs : List Char) : Program := .ofExpression (.text cs)

variable {cs : List Char} {s : Subject} {p : Nat} {slots : Slots} {tried : Tried}

/-! ## The instructions -/

theorem textProgram_code : (textProgram cs).code =
    (.note 0 :: (cs.map Instruction.char ++ [.note 1, .accept])).toArray := by
  simp [textProgram, Program.ofExpression, Expression.code]

theorem step_begin : (textProgram cs).step s ⟨0, p, slots⟩ = .goOn [⟨1, p, (0, p) :: slots⟩] := by
  simp [Program.step, textProgram_code]

theorem step_char {i : Nat} (hi : i < cs.length) :
    (textProgram cs).step s ⟨i + 1, p, slots⟩ =
      .goOn (if s[p]? = some cs[i] then [⟨i + 2, p + 1, slots⟩] else []) := by
  have hcode : (textProgram cs).code[i + 1]? = some (.char cs[i]) := by
    simp [textProgram_code, List.getElem?_append_left, hi]
  simp [Program.step, hcode, holdsAt, Option.any_eq_true_iff_get, Array.getElem?_eq_some_iff]

theorem step_end : (textProgram cs).step s ⟨cs.length + 1, p, slots⟩ =
    .goOn [⟨cs.length + 2, p, (1, p) :: slots⟩] := by
  simp [Program.step, textProgram_code]

theorem step_accept : (textProgram cs).step s ⟨cs.length + 2, p, slots⟩ = .accepted := by
  simp [Program.step, textProgram_code]

/-! ## What has been tried -/

/-- Whether what is left of the text at an address of its program stands at a position. The first
address only notes the position. -/
def Stands (cs : List Char) (s : Subject) (address p : Nat) : Prop :=
  cs.drop (address - 1) <+: s.toList.drop p

theorem stands_begin : Stands cs s 0 p ↔ Stands cs s 1 p := Iff.rfl

theorem stands_char {i : Nat} (hi : i < cs.length) :
    Stands cs s (i + 1) p ↔ s[p]? = some cs[i] ∧ Stands cs s (i + 2) (p + 1) := by
  simp only [Stands, Nat.add_one_sub_one, List.drop_eq_getElem_cons hi]
  by_cases hp : p < s.toList.length
  · rw [List.drop_eq_getElem_cons hp, List.cons_prefix_cons, ← Array.getElem?_toList,
      List.getElem?_eq_getElem hp, Option.some.injEq, eq_comm]
  · rw [List.drop_of_length_le (Nat.le_of_not_lt hp), ← Array.getElem?_toList,
      List.getElem?_eq_none (Nat.le_of_not_lt hp)]
    simp [hi]

theorem stands_of_length_lt {address : Nat} (h : cs.length < address) : Stands cs s address p := by
  rw [Stands, List.drop_of_length_le (by omega)]
  exact List.nil_prefix

/-- Of the pairs tried, none from an address on is one where what is left of the text stands. -/
def Barren (cs : List Char) (s : Subject) (lowest : Nat) (tried : Tried) : Prop :=
  ∀ address p, lowest ≤ address → p ≤ s.size →
    address * (s.size + 1) + p ∈ tried → ¬ Stands cs s address p

theorem barren_empty (lowest : Nat) : Barren cs s lowest ∅ := by
  simp [Barren]

theorem Barren.mono {lowest higher : Nat} (hbarren : Barren cs s lowest tried)
    (h : lowest ≤ higher) : Barren cs s higher tried :=
  fun address p haddress => hbarren address p (h.trans haddress)

/-- The number of a pair determines the pair. -/
theorem pair_eq {m a b p q : Nat} (hp : p ≤ m) (hq : q ≤ m)
    (h : a * (m + 1) + p = b * (m + 1) + q) : a = b ∧ p = q := by
  have hpq : p = q := by
    simpa [Nat.mul_add_mod', Nat.mod_eq_of_lt (Nat.lt_succ_of_le hp),
      Nat.mod_eq_of_lt (Nat.lt_succ_of_le hq)] using congrArg (· % (m + 1)) h
  subst hpq
  exact ⟨Nat.eq_of_mul_eq_mul_right m.succ_pos (Nat.add_right_cancel h), rfl⟩

theorem Barren.insert {lowest address : Nat} (hbarren : Barren cs s lowest tried) (hp : p ≤ s.size)
    (h : Stands cs s address p → address < lowest) :
    Barren cs s lowest (tried.insert (address * (s.size + 1) + p)) := by
  intro b q hb hq hmem
  rcases Std.HashSet.mem_insert.mp hmem with heq | hold
  · obtain ⟨rfl, rfl⟩ := pair_eq hp hq (by simpa using heq)
    exact fun hstands => absurd (h hstands) (by omega)
  · exact hbarren b q hb hq hold

/-! ## One search -/

variable {program : Program} {t : Thread} {threads rest : List Thread}

theorem follow_goOn (n : Nat) (hnew : t.address * (s.size + 1) + t.position ∉ tried)
    (hstep : program.step s t = .goOn threads) :
    program.follow s (t :: rest) tried (n + 1) =
      program.follow s (threads ++ rest)
        (tried.insert (t.address * (s.size + 1) + t.position)) n := by
  simp [Program.follow, hnew, hstep]

theorem follow_accepted (n : Nat) (hnew : t.address * (s.size + 1) + t.position ∉ tried)
    (hstep : program.step s t = .accepted) :
    program.follow s (t :: rest) tried (n + 1) = (some t.slots, tried) := by
  simp [Program.follow, hnew, hstep]

/-- Where what is left of the text stands, the program goes on to the end of it. -/
theorem follow_of_stands {i steps : Nat} (hi : i ≤ cs.length) (hp : p ≤ s.size)
    (hstands : Stands cs s (i + 1) p) (hbarren : Barren cs s (i + 1) tried)
    (hsteps : cs.length + 2 ≤ i + steps) :
    ((textProgram cs).follow s [⟨i + 1, p, slots⟩] tried steps).1 =
      some ((1, p + (cs.length - i)) :: slots) := by
  -- on the steps left; what is tried stays barren from the next address on, where no thread was yet
  induction steps generalizing i p tried with
  | zero => omega
  | succ steps ih =>
      have hnew : (i + 1) * (s.size + 1) + p ∉ tried := fun h => hbarren _ _ le_rfl hp h hstands
      have hinsert := (hbarren.mono (Nat.le_succ _)).insert hp fun _ => Nat.lt_succ_self (i + 1)
      rcases Nat.lt_or_eq_of_le hi with hlt | rfl
      · obtain ⟨hchar, hrest⟩ := (stands_char hlt).mp hstands
        have hp' : p < s.size := (Array.getElem?_eq_some_iff.mp hchar).1
        rw [follow_goOn _ hnew (step_char hlt), if_pos hchar, List.append_nil,
          ih hlt hp' hrest hinsert (by omega)]
        congr 3
        omega
      · obtain ⟨steps, rfl⟩ := Nat.exists_eq_add_one.mpr (show 0 < steps by omega)
        have hlast : (cs.length + 2) * (s.size + 1) + p ∉
            tried.insert ((cs.length + 1) * (s.size + 1) + p) :=
          fun h => hinsert _ _ le_rfl hp h (stands_of_length_lt (by omega))
        rw [follow_goOn _ hnew step_end, List.append_nil, follow_accepted _ hlast step_accept]
        simp

/-- Where what is left of the text does not stand, the program fails, and so do the pairs it has
tried. -/
theorem follow_of_not_stands {address : Nat} (slots : Slots) (steps : Nat) (hp : p ≤ s.size)
    (hnot : ¬ Stands cs s address p) (hbarren : Barren cs s 0 tried) :
    ∃ tried', (textProgram cs).follow s [⟨address, p, slots⟩] tried steps = (none, tried') ∧
      Barren cs s 0 tried' := by
  induction steps generalizing address p slots tried with
  | zero => exact ⟨tried, by simp [Program.follow], hbarren⟩
  | succ steps ih =>
      have hinsert := hbarren.insert hp fun h => absurd h hnot
      by_cases hnew : address * (s.size + 1) + p ∈ tried
      · exact ⟨tried, by simp [Program.follow, hnew], hbarren⟩
      match address with
      | 0 =>
          rw [follow_goOn _ hnew step_begin]
          exact ih _ hp (by rwa [← stands_begin]) hinsert
      | i + 1 =>
          have hi : i < cs.length := by
            by_contra h
            exact hnot (stands_of_length_lt (by omega))
          rw [follow_goOn _ hnew (step_char hi)]
          split
          case isTrue hchar =>
            have hp' : p < s.size := (Array.getElem?_eq_some_iff.mp hchar).1
            exact ih _ hp' (fun h => hnot ((stands_char hi).mpr ⟨hchar, h⟩)) hinsert
          case isFalse => exact ⟨_, by simp [Program.follow], hinsert⟩

/-- A search that begins where the text stands finds it there. -/
theorem follow_begin_of_stands {steps : Nat} (hp : p ≤ s.size) (hstands : Stands cs s 0 p)
    (hbarren : Barren cs s 0 tried) (hsteps : cs.length + 3 ≤ steps) :
    ((textProgram cs).follow s [⟨0, p, []⟩] tried steps).1 =
      some [(1, p + cs.length), (0, p)] := by
  have hnew : 0 * (s.size + 1) + p ∉ tried := fun h => hbarren _ _ le_rfl hp h hstands
  have hinsert := (hbarren.mono (Nat.zero_le 1)).insert hp fun _ => Nat.zero_lt_one
  obtain ⟨steps, rfl⟩ := Nat.exists_eq_add_one.mpr (show 0 < steps by omega)
  rw [follow_goOn _ hnew step_begin, List.append_nil,
    follow_of_stands (Nat.zero_le _) hp (stands_begin.mp hstands) hinsert (by omega), Nat.sub_zero]

/-- A search goes on from the next position if the text does not stand where it begins. -/
theorem exists_searchFrom_succ (steps count : Nat) (hp : p ≤ s.size) (hnot : ¬ Stands cs s 0 p)
    (hbarren : Barren cs s 0 tried) : ∃ tried', Barren cs s 0 tried' ∧
      (textProgram cs).searchFrom s steps tried p (count + 1) =
        (textProgram cs).searchFrom s steps tried' (p + 1) count := by
  obtain ⟨tried', hfailed, hbarren'⟩ := follow_of_not_stands [] steps hp hnot hbarren
  exact ⟨tried', hbarren', by rw [Program.searchFrom, hfailed]⟩

/-- A search finds the first place where the text stands. -/
theorem searchFrom_of_first {steps k count : Nat} (hsteps : cs.length + 3 ≤ steps)
    (hbarren : Barren cs s 0 tried) (hk : p + k ≤ s.size) (hcount : k < count)
    (hbefore : ∀ i < k, ¬ Stands cs s 0 (p + i)) (hhere : Stands cs s 0 (p + k)) :
    (textProgram cs).searchFrom s steps tried p count =
      some [(1, p + k + cs.length), (0, p + k)] := by
  induction k generalizing p tried count with
  | zero =>
      obtain ⟨count, rfl⟩ := Nat.exists_eq_add_one.mpr hcount
      have hfound := follow_begin_of_stands hk hhere hbarren hsteps
      simp only [Program.searchFrom]
      split
      case h_1 slots tried' heq => simpa [heq] using hfound
      case h_2 tried' heq => simp [heq] at hfound
  | succ k ih =>
      obtain ⟨count, rfl⟩ := Nat.exists_eq_add_one.mpr (Nat.zero_lt_of_lt hcount)
      obtain ⟨tried', hbarren', hnext⟩ :=
        exists_searchFrom_succ steps count (by omega) (hbefore 0 k.succ_pos) hbarren
      rw [Nat.add_zero] at hnext
      rw [hnext]
      have hmove : ∀ i, p + 1 + i = p + (i + 1) := fun i => by omega
      have hlater := ih (p := p + 1) hbarren' (by omega) (Nat.lt_of_succ_lt_succ hcount)
        (fun i hi => hmove i ▸ hbefore (i + 1) (Nat.succ_lt_succ hi)) (hmove k ▸ hhere)
      rwa [hmove k] at hlater

/-- A search fails if the text stands nowhere. -/
theorem searchFrom_of_absent (steps : Nat) {count : Nat} (hbarren : Barren cs s 0 tried)
    (hcount : p + count ≤ s.size + 1) (habsent : ∀ i < count, ¬ Stands cs s 0 (p + i)) :
    (textProgram cs).searchFrom s steps tried p count = none := by
  induction count generalizing p tried with
  | zero => rfl
  | succ count ih =>
      obtain ⟨tried', hbarren', hnext⟩ :=
        exists_searchFrom_succ steps count (by omega) (habsent 0 count.succ_pos) hbarren
      rw [Nat.add_zero] at hnext
      rw [hnext]
      exact ih hbarren' (by omega) fun i hi => by
        simpa [Nat.add_right_comm, Nat.add_assoc] using habsent (i + 1) (Nat.succ_lt_succ hi)

/-- The steps allowed to a search are enough for the characters of the text. -/
theorem length_le_enoughSteps (cs : List Char) (s : Subject) :
    cs.length + 3 ≤ (textProgram cs).enoughSteps s := by
  have hsize : (textProgram cs).code.size = cs.length + 3 := by simp [textProgram_code]
  have := Nat.le_mul_of_pos_right (2 * (cs.length + 3)) (Nat.add_one_pos s.size)
  rw [Program.enoughSteps, hsize]
  omega

/-! ## All matches -/

variable {replacement : List Char}

/-- Replacing the matches from a position on is replacing the text. -/
theorem substitute_matchesFrom (hcs : cs ≠ []) {n : Nat} (hp : p ≤ s.size) (hn : s.size < p + n)
    (lastEnd : Option Nat) :
    substitute s (fun _ => replacement) p ((textProgram cs).matchesFrom s p lastEnd n) =
      Text.replaceFrom cs replacement 0 (s.toList.drop p) := by
  classical
  -- on the number of matches looked for; each but the last leaves less of the subject
  induction n generalizing p lastEnd with
  | zero => omega
  | succ n ih =>
      have hstands : ∀ i, Stands cs s 0 (p + i) ↔ cs <+: (s.toList.drop p).drop i := fun i => by
        rw [List.drop_drop]
        exact Iff.rfl
      have hlength : 0 < cs.length := List.length_pos_iff.mpr hcs
      by_cases hoccurs : ∃ k, Stands cs s 0 (p + k)
      · have hhere := Nat.find_spec hoccurs
        have hbefore := fun i => Nat.find_min (H := hoccurs) (m := i)
        generalize Nat.find hoccurs = k at hhere hbefore
        have hpast : p + k + cs.length ≤ s.size := by
          have := ((hstands k).mp hhere).length_le
          simp only [List.length_drop, Array.length_toList] at this
          omega
        have hsearch : (textProgram cs).search s p = some [(1, p + k + cs.length), (0, p + k)] :=
          searchFrom_of_first (length_le_enoughSteps cs s) (barren_empty 0) (by omega) (by omega)
            hbefore hhere
        rw [Text.replaceFrom_of_first hcs (fun i hi => mt (hstands i).mpr (hbefore i hi))
          ((hstands k).mp hhere), List.drop_drop, ← Nat.add_assoc,
          ← ih hpast (by omega) (some (p + k + cs.length))]
        have hmatch : Match.ofSlots [(1, p + k + cs.length), (0, p + k)] =
            ⟨p + k, p + k + cs.length, [(1, p + k + cs.length), (0, p + k)]⟩ := rfl
        simp [Program.matchesFrom, hsearch, hmatch, substitute, hcs]
      · have habsent : ∀ i, ¬ Stands cs s 0 (p + i) := not_exists.mp hoccurs
        have hsearch : (textProgram cs).search s p = none :=
          searchFrom_of_absent _ (barren_empty 0) (by omega) fun i _ => habsent i
        rw [Text.replaceFrom_of_absent fun i => mt (hstands i).mpr (habsent i)]
        simp [Program.matchesFrom, hsearch, substitute]

/-- Replacing the matches of a text is replacing the text. -/
theorem replaceWithText_textProgram (hcs : cs ≠ []) (target text : String) :
    Pattern.replaceWithText ⟨textProgram cs⟩ target text =
      Text.replaceAll text (String.ofList cs) target := by
  simp only [replaceWithText, Pattern.replaceAll, Program.matchesIn]
  rw [substitute_matchesFrom hcs (Nat.zero_le _) (by omega) none]
  simp [Text.replaceAll]

/-- The pattern of an escaped text is the program that searches for the text, within the limit, if
case counts or no character has case variants. -/
theorem ofText_escapeText_eq {source : String} {ignoreCase : Bool} (hsource : source ≠ "")
    (h : ignoreCase = true → ∀ c ∈ source.toList, IsCaseless c) (limit : Nat) :
    Pattern.ofText (escapeText source) ignoreCase limit =
      if (Expression.text source.toList).fits limit then .ok ⟨textProgram source.toList⟩
      else .error (.tooLarge limit) := by
  have hkeeps : ∀ c ∈ source.toList, Flags.Keeps { ignoreCase } c :=
    fun c hc => ⟨rfl, fun hcase => h hcase c hc⟩
  obtain ⟨tree, htree, hmeaning⟩ := ofText_escapeText hsource hkeeps
  simp only [Pattern.ofText, htree, hmeaning, Except.mapError, Except.pure, pure, bind, Except.bind]
  rfl

end Flowchart.Pattern
