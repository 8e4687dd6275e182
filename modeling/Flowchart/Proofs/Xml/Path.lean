import Flowchart.Proofs.Decimal.Whole
import Flowchart.Proofs.Text.Blank
import Flowchart.Proofs.Text.Search
import Flowchart.Proofs.Xml.Matches

/-!
# Paths of element steps

A path of element steps is written as one or two slashes and its steps, with slashes between them;
a step is a name, possibly with a predicate in brackets (`WrittenPath`). It is read as a path just
if every predicate writes a position (`parse?_text_eq_some_iff`). What is selected is then the
string value of the first match of the last step, as long as the matches are found in the order of
the document (`selects_first_match`).

A path to an attribute is written as element steps and a last step `@k` (`WrittenAttributePath`).
What is selected is the attribute of the first element that the element steps find, even if that
element has no such attribute and a later one has (`selects_attribute`).
-/

namespace Flowchart.Xml

open Text (isBlank trimList)

/-! ## Writing -/

/-- An element step as it is written: a name, and what follows the bracket of its predicate. -/
structure WrittenStep where
  name : String
  predicate : Option (List Char)
  name_ne : name ≠ ""
  no_delimiter : ∀ c ∈ name.toList, c ≠ '/' ∧ c ≠ '['
  no_attribute : ∀ c ∈ name.toList.head?, c ≠ '@'
  no_text : name ≠ "text()"
  predicate_inside : ∀ cs ∈ predicate, '/' ∉ cs

/-- The characters of a written step. -/
def WrittenStep.chars (w : WrittenStep) : List Char :=
  match w.predicate with
  | none => w.name.toList
  | some predicate => w.name.toList ++ '[' :: predicate

/-- The characters of written steps with slashes between them. -/
def stepsChars (first : WrittenStep) (others : List WrittenStep) : List Char :=
  first.chars ++ others.flatMap fun w => '/' :: w.chars

/-- A path of element steps as it is written. It does not end in a blank, which would not be part of
its last step. -/
structure WrittenPath where
  anyDepth : Bool
  first : WrittenStep
  others : List WrittenStep
  ending : ∀ c ∈ (stepsChars first others).getLast?, isBlank c = false

/-- The text of a written path. -/
def WrittenPath.text (w : WrittenPath) : String :=
  String.ofList ('/' :: ((if w.anyDepth then ['/'] else []) ++ stepsChars w.first w.others))

/-! ## Meaning -/

/-- What follows the bracket of a predicate writes a position: a number from one on, possibly with
blanks around it, and the closing bracket. -/
def WritesPosition (predicate : List Char) (n : Nat) : Prop :=
  1 ≤ n ∧ ∃ before digits after, predicate = before ++ (digits ++ after) ++ [']'] ∧
    (∀ c ∈ before, isBlank c = true) ∧ (∀ c ∈ after, isBlank c = true) ∧
    Decimal.WritesIndex digits n

/-- A written step means a step to its name, at the position that its predicate writes. -/
inductive WrittenStep.Means (w : WrittenStep) : Step → Prop where
  | all : w.predicate = none → Means w ⟨w.name, none⟩
  | one (predicate : List Char) (n : Nat) :
      w.predicate = some predicate → WritesPosition predicate n → Means w ⟨w.name, some n⟩

/-- A written path means the path with the meanings of its steps, to the whole text there. -/
structure WrittenPath.Means (w : WrittenPath) (path : Path) : Prop where
  anyDepth : path.anyDepth = w.anyDepth
  first : w.first.Means path.first
  others : List.Forall₂ WrittenStep.Means w.others path.others
  target : path.target = .wholeText

/-! ## Reading -/

variable {step : Step} {steps : List Step} {path : Path} {root : Element}

/-- The digits of an index are not blank. -/
theorem trimList_of_writesIndex {digits : List Char} {n : Nat} (h : Decimal.WritesIndex digits n) :
    trimList digits = digits := by
  obtain ⟨ds, hwritten, -, hdigits, -⟩ := h.exists_digits
  have hnot (c : Char) (hc : c ∈ ds) : isBlank c = false := by
    have hdigit := hdigits c hc
    simp only [Char.isDigit, Bool.and_eq_true, decide_eq_true_eq, UInt32.le_iff_toNat_le] at hdigit
    have hn : 48 ≤ c.toNat ∧ c.toNat ≤ 57 := hdigit
    simp only [isBlank, Bool.or_eq_false_iff, Bool.and_eq_false_iff, decide_eq_false_iff_not,
      beq_eq_false_iff_ne]
    omega
  rcases hwritten with rfl | rfl
  · exact Text.trimList_of_not_isBlank hnot
  · exact Text.trimList_cons (by decide) (Text.trimList_of_not_isBlank hnot)

/-- A predicate is read as a position just if it writes it. -/
theorem parse?_predicate_iff {predicate : List Char} {name : List Char} (hname : '[' ∉ name) :
    Step.parse? (name ++ '[' :: predicate) = some step ↔
      ∃ n, WritesPosition predicate n ∧ step = ⟨String.ofList name, some n⟩ := by
  simp only [Step.parse?, Text.cut?_append_cons hname]
  constructor
  · intro h
    obtain ⟨hlast, h⟩ := Option.ite_none_right_eq_some.mp h
    split at h
    case h_2 => cases h
    case h_1 n hn =>
      obtain ⟨hpos, h⟩ := Option.ite_none_right_eq_some.mp h
      obtain ⟨before, after, hinside, hbefore, hafter⟩ := Text.exists_surrounded predicate.dropLast
      refine ⟨n, ⟨hpos, before, _, after, ?_, hbefore, hafter, Decimal.index?_eq_some_iff.mp hn⟩,
        (Option.some.inj h).symm⟩
      rw [← hinside]
      exact (List.dropLast_append_getLast? _ hlast).symm
  · rintro ⟨n, ⟨hpos, before, digits, after, rfl, hbefore, hafter, hdigits⟩, rfl⟩
    rw [List.getLast?_concat, List.dropLast_concat, if_pos rfl,
      Text.trimList_surrounded hbefore hafter (trimList_of_writesIndex hdigits),
      Decimal.index?_eq_some_iff.mpr hdigits]
    exact if_pos hpos

/-- A written step is read as its meaning, or not at all. -/
theorem WrittenStep.parse?_chars_eq_some_iff (w : WrittenStep) :
    Step.parse? w.chars = some step ↔ w.Means step := by
  have hname : '[' ∉ w.name.toList := fun h => (w.no_delimiter _ h).2 rfl
  cases hpredicate : w.predicate with
  | none =>
      simp only [chars, hpredicate, Step.parse?, Text.cut?_singleton_eq_none_iff.mpr hname,
        String.ofList_toList, Option.some.injEq]
      constructor
      · rintro rfl
        exact .all hpredicate
      · rintro (_ | ⟨_, n, hsome, _⟩)
        · rfl
        · cases hpredicate.symm.trans hsome
  | some predicate =>
      simp only [chars, hpredicate, parse?_predicate_iff hname, String.ofList_toList]
      constructor
      · rintro ⟨n, hwrites, rfl⟩
        exact .one predicate n hpredicate hwrites
      · rintro (hnone | ⟨_, n, hsome, hwrites⟩)
        · cases hpredicate.symm.trans hnone
        · obtain rfl := Option.some.inj (hpredicate.symm.trans hsome)
          exact ⟨n, hwrites, rfl⟩

/-- Written steps are read as their meanings, or not at all. -/
theorem mapM_parse?_eq_some_iff {ws : List WrittenStep} :
    (ws.map WrittenStep.chars).mapM Step.parse? = some steps ↔
      List.Forall₂ WrittenStep.Means ws steps := by
  induction ws generalizing steps with
  | nil => simp [eq_comm]
  | cons w ws ih =>
      simp only [List.map_cons, List.mapM_cons, Option.bind_eq_bind, Option.bind_eq_some_iff, ih,
        w.parse?_chars_eq_some_iff, List.forall₂_cons_left_iff, Option.pure_def, Option.some.injEq]
      constructor
      · rintro ⟨step, hstep, more, hmore, rfl⟩
        exact ⟨step, more, hstep, hmore, rfl⟩
      · rintro ⟨step, more, hstep, hmore, rfl⟩
        exact ⟨step, hstep, more, hmore, rfl⟩

/-- A written step is not empty. -/
theorem WrittenStep.exists_chars_eq_cons (w : WrittenStep) :
    ∃ c cs, w.chars = c :: cs ∧ c ≠ '/' ∧ c ≠ '@' := by
  cases hname : w.name.toList with
  | nil => exact absurd (String.toList_eq_nil_iff.mp hname) w.name_ne
  | cons c cs =>
      have hslash := (w.no_delimiter c (hname ▸ List.mem_cons_self)).1
      have hattribute := w.no_attribute c (by rw [hname]; rfl)
      unfold chars
      cases w.predicate with
      | none => exact ⟨c, cs, hname, hslash, hattribute⟩
      | some predicate => exact ⟨c, cs ++ '[' :: predicate, by rw [hname]; rfl, hslash, hattribute⟩

/-- There is no slash in a written step. -/
theorem WrittenStep.slash_not_mem (w : WrittenStep) : '/' ∉ w.chars := by
  have hname : '/' ∉ w.name.toList := fun h => (w.no_delimiter _ h).1 rfl
  unfold chars
  split
  · exact hname
  · rename_i predicate hpredicate
    simpa [hname] using w.predicate_inside predicate hpredicate

/-- Written steps are split at the slashes between them. -/
theorem splitList_stepsChars (first : WrittenStep) (others : List WrittenStep) :
    Text.splitList (· == '/') (stepsChars first others) =
      (first :: others).map WrittenStep.chars := by
  induction others generalizing first with
  | nil =>
      rw [stepsChars, List.flatMap_nil, List.append_nil]
      exact Text.splitList_of_not_mem first.slash_not_mem
  | cons w ws ih =>
      rw [stepsChars, List.flatMap_cons, List.cons_append,
        Text.splitList_append_cons first.slash_not_mem]
      exact congrArg (first.chars :: ·) (ih w)

/-- A written step is an element step also where it is the last one. -/
theorem splitTarget_eq {pieces : List (List Char)}
    (h : ∀ w ∈ pieces.getLast?, ∃ step : WrittenStep, step.chars = w) :
    Path.splitTarget pieces = (pieces, .wholeText) := by
  unfold Path.splitTarget
  split
  case h_3 => rfl
  case h_1 name hlast =>
    obtain ⟨w, hw⟩ := h _ hlast
    obtain ⟨c, cs, hchars, -, hattribute⟩ := w.exists_chars_eq_cons
    exact absurd (List.cons.inj (hchars.symm.trans hw)).1 hattribute
  case h_2 hlast =>
    obtain ⟨w, hw⟩ := h _ hlast
    unfold WrittenStep.chars at hw
    split at hw
    · exact absurd (String.toList_inj.mp (hw.trans (by decide : _ = "text()".toList))) w.no_text
    · have hbracket : '[' ∈ ['t', 'e', 'x', 't', '(', ')'] := by rw [← hw]; simp
      exact absurd hbracket (by decide)

/-- Reads a path after its slashes. -/
def Path.ofSteps? (anyDepth : Bool) (cs : List Char) : Option Path := do
  let (steps, target) := splitTarget ((Text.splitList (· == '/') cs).filter (!·.isEmpty))
  match ← steps.mapM Step.parse? with
  | [] => none
  | first :: others => some { anyDepth, first, others, target }

/-- Two slashes at the start are for any depth. -/
theorem Path.parse?_of_two_slashes {s : String} {rest : List Char}
    (h : trimList s.toList = '/' :: '/' :: rest) : Path.parse? s = ofSteps? true rest := by
  simp only [parse?, h]
  rfl

/-- One slash at the start is for the root. -/
theorem Path.parse?_of_one_slash {s : String} {c : Char} {rest : List Char}
    (h : trimList s.toList = '/' :: c :: rest) (hc : c ≠ '/') :
    Path.parse? s = ofSteps? false (c :: rest) := by
  unfold parse?
  rw [h]
  split
  rename_i anyDepth more hstart
  obtain ⟨rfl, rfl⟩ : false = anyDepth ∧ c :: rest = more := by
    split at hstart
    case h_1 heq => exact absurd (List.cons.inj (List.cons.inj heq).2).1 hc
    case h_2 heq =>
      obtain ⟨hdepth, hmore⟩ := Prod.mk.inj hstart
      exact ⟨hdepth, (List.cons.inj heq).2.trans hmore⟩
    case h_3 hother => exact absurd rfl (hother _)
  rfl

/-- Written steps are read as their meanings, or not at all, whatever part of an element comes
behind them. -/
theorem Path.ofSteps?_eq_some_iff {anyDepth : Bool} {cs : List Char} {first : WrittenStep}
    {others : List WrittenStep} {target : Target}
    (h : splitTarget ((Text.splitList (· == '/') cs).filter (!·.isEmpty)) =
      ((first :: others).map WrittenStep.chars, target)) :
    Path.ofSteps? anyDepth cs = some path ↔
      path.anyDepth = anyDepth ∧ first.Means path.first ∧
        List.Forall₂ WrittenStep.Means others path.others ∧ path.target = target := by
  simp only [ofSteps?, h, Option.bind_eq_bind, Option.bind_eq_some_iff, mapM_parse?_eq_some_iff,
    List.forall₂_cons_left_iff]
  constructor
  · rintro ⟨_, ⟨step, steps, hfirst, hothers, rfl⟩, h⟩
    obtain rfl := Option.some.inj h
    exact ⟨rfl, hfirst, hothers, rfl⟩
  · rintro ⟨hdepth, hfirst, hothers, htarget⟩
    obtain ⟨_, step, steps, _⟩ := path
    obtain rfl := hdepth
    obtain rfl := htarget
    exact ⟨_, ⟨step, steps, hfirst, hothers, rfl⟩, rfl⟩

/-- No written step is empty. -/
theorem filter_map_chars (ws : List WrittenStep) :
    (ws.map WrittenStep.chars).filter (!·.isEmpty) = ws.map WrittenStep.chars := by
  rw [List.filter_eq_self, List.forall_mem_map]
  intro step _
  obtain ⟨c, cs, hstep, -⟩ := step.exists_chars_eq_cons
  simp [hstep]

/-- Written steps by themselves are read as a path to whole texts. -/
theorem Path.ofSteps?_stepsChars {anyDepth : Bool} {first : WrittenStep}
    {others : List WrittenStep} :
    Path.ofSteps? anyDepth (stepsChars first others) = some path ↔
      path.anyDepth = anyDepth ∧ first.Means path.first ∧
        List.Forall₂ WrittenStep.Means others path.others ∧ path.target = .wholeText := by
  refine ofSteps?_eq_some_iff ?_
  rw [splitList_stepsChars, filter_map_chars]
  refine splitTarget_eq fun piece hpiece => ?_
  obtain ⟨step, -, hstep⟩ := List.mem_map.mp (List.mem_of_getLast? hpiece)
  exact ⟨step, hstep⟩

/-- A written path is read as its meaning, or not at all. -/
theorem WrittenPath.parse?_text_eq_some_iff (w : WrittenPath) :
    Path.parse? w.text = some path ↔ w.Means path := by
  obtain ⟨anyDepth, first, others, ending⟩ := w
  obtain ⟨c, cs, hchars, hslash, -⟩ := first.exists_chars_eq_cons
  obtain ⟨rest, hcons⟩ : ∃ rest, stepsChars first others = c :: rest :=
    ⟨_, by rw [stepsChars, hchars, List.cons_append]⟩
  have htrim : trimList (WrittenPath.mk anyDepth first others ending).text.toList =
      '/' :: ((if anyDepth then ['/'] else []) ++ stepsChars first others) := by
    rw [text, String.toList_ofList]
    refine Text.trimList_eq_self_iff.mpr ⟨by simp [isBlank], fun d hd => ending d ?_⟩
    rw [hcons] at hd ⊢
    cases anyDepth <;> simpa using hd
  have hparse : Path.parse? (WrittenPath.mk anyDepth first others ending).text =
      Path.ofSteps? anyDepth (stepsChars first others) := by
    cases anyDepth with
    | true => exact Path.parse?_of_two_slashes htrim
    | false =>
        rw [hcons] at htrim ⊢
        exact Path.parse?_of_one_slash htrim hslash
  rw [hparse, Path.ofSteps?_stepsChars]
  constructor
  · rintro ⟨hdepth, hfirst, hothers, htarget⟩
    exact ⟨hdepth, hfirst, hothers, htarget⟩
  · rintro ⟨hdepth, hfirst, hothers, htarget⟩
    exact ⟨hdepth, hfirst, hothers, htarget⟩

/-! ## Selecting -/

/-- A path selects the string value of the element at the first of some addresses, and nothing if
there are none. -/
structure SelectsFirst (root : Element) (path : String) (addresses : List Address) : Prop where
  some_iff : ∀ text, root.select path = some text ↔
    ∃ address e, addresses.head? = some address ∧ root.at? address = some e ∧ e.stringValue = text
  none_iff : root.select path = none ↔ addresses = []

/-- A path to whole texts selects the string value of the first element that it finds. -/
theorem Path.selectsFirst_found {s : String} (hparse : Path.parse? s = some path)
    (htarget : path.target = .wholeText) : SelectsFirst root s (path.found root) := by
  have hlocates := path.locates_found root
  have hselect : root.select s = (path.elements root).head?.map Element.stringValue := by
    rw [Element.select, hparse, Option.bind_some, Path.select, htarget]
    cases (path.elements root).head? <;> rfl
  refine ⟨fun text => ?_, ?_⟩
  · simp only [hselect, hlocates.head?, Option.map_eq_some_iff, Option.bind_eq_some_iff]
    constructor
    · rintro ⟨e, ⟨address, haddress, he⟩, htext⟩
      exact ⟨address, e, haddress, he, htext⟩
    · rintro ⟨address, e, haddress, he, htext⟩
      exact ⟨e, ⟨address, haddress, he⟩, htext⟩
  · rw [hselect, Option.map_eq_none_iff, List.head?_eq_none_iff, ← List.length_eq_zero_iff,
      ← List.length_eq_zero_iff, hlocates.length_eq]

/-- A written path whose predicates all write positions selects the string value of the first match
of its last step, unless some step finds a child under one match behind a child under a later match.
That takes a first step that matches, at all depths, an element and another one inside it. Any other
written path selects nothing. -/
theorem selects_first_match (w : WrittenPath) (root : Element) :
    (∀ path : Path, w.Means path →
      (path.anyDepth = false ∨ path.first.position.isSome ∨ path.others = [] ∨
        (path.firstMatched root).Pairwise Apart → path.KeepsOrder root) ∧
      (path.KeepsOrder root → SelectsFirst root w.text (path.matched root))) ∧
    ((¬ ∃ path, w.Means path) → root.select w.text = none) := by
  refine ⟨fun path hmeans => ⟨?_, fun horder => ?_⟩, fun hnot => ?_⟩
  · rintro (hroot | hposition | hothers | hapart)
    · exact Path.keepsOrder_of_single (Or.inl hroot)
    · exact Path.keepsOrder_of_single (Or.inr hposition)
    · rw [Path.KeepsOrder, hothers]
      exact True.intro
    · exact Path.keepsOrder_of_apart hapart
  · rw [← Path.found_eq_matched horder]
    exact Path.selectsFirst_found (w.parse?_text_eq_some_iff.mpr hmeans) hmeans.target
  · have hparse : Path.parse? w.text = none := by
      rw [Option.eq_none_iff_forall_ne_some]
      exact fun path hpath => hnot ⟨path, w.parse?_text_eq_some_iff.mp hpath⟩
    rw [Element.select, hparse, Option.bind_none]

/-- The path `//a/b` as it is written. -/
def innerPath : WrittenPath where
  anyDepth := true
  first := ⟨"a", none, by decide, by simp, by simp, by decide, by simp⟩
  others := [⟨"b", none, by decide, by simp, by simp, by decide, by simp⟩]
  ending := by simp [stepsChars, WrittenStep.chars, isBlank]

theorem innerPath_means : innerPath.Means ⟨true, ⟨"a", none⟩, [⟨"b", none⟩], .wholeText⟩ :=
  ⟨rfl, .all rfl, .cons (.all rfl) .nil, rfl⟩

/-- An element with an inner one of the same name, and more elements before and behind that one. -/
def nested (before behind : List Element) : Element :=
  .mk "a" [] "" (before ++ .mk "a" [] "" [.mk "b" [] "inner" []] :: behind)

/-- In `<a><b>outer</b><a><b>inner</b></a></a>` the matches of both steps are found in order. -/
theorem select_outer_before_inner :
    innerPath.Means ⟨true, ⟨"a", none⟩, [⟨"b", none⟩], .wholeText⟩ ∧
      SelectsFirst (nested [.mk "b" [] "outer" []] []) "//a/b" [[0], [1, 0]] := by
  have horder : Path.KeepsOrder ⟨true, ⟨"a", none⟩, [⟨"b", none⟩], .wholeText⟩
      (nested [.mk "b" [] "outer" []] []) := by decide
  exact ⟨innerPath_means, ((selects_first_match innerPath _).1 _ innerPath_means).2 horder⟩

/-- In `<a><a><b>inner</b></a><b>outer</b></a>` the first match is the element inside, but the text
outside is selected. -/
theorem select_outer_behind_inner :
    innerPath.text = "//a/b" ∧
      Path.matched ⟨true, ⟨"a", none⟩, [⟨"b", none⟩], .wholeText⟩
        (nested [] [.mk "b" [] "outer" []]) = [[0, 0], [1]] ∧
      ((nested [] [.mk "b" [] "outer" []]).at? [0, 0]).map Element.stringValue = some "inner" ∧
      (nested [] [.mk "b" [] "outer" []]).select "//a/b" = some "outer" ∧
      ¬ SelectsFirst (nested [] [.mk "b" [] "outer" []]) "//a/b" [[0, 0], [1]] := by
  have hselect : (nested [] [.mk "b" [] "outer" []]).select "//a/b" = some "outer" := by decide
  refine ⟨by decide, by decide, by decide, hselect, fun h => ?_⟩
  have hfirst := (h.some_iff "inner").mpr ⟨[0, 0], _, rfl, rfl, by decide⟩
  exact absurd (hselect.symm.trans hfirst) (by decide)

/-! ## Paths to attributes -/

/-- A path to an attribute as it is written: up to two slashes, element steps, and the name behind
`@`. It neither begins nor ends with a blank, which would not be part of it. -/
structure WrittenAttributePath where
  slashes : Nat
  first : WrittenStep
  others : List WrittenStep
  key : String
  slashes_le : slashes ≤ 2
  no_slash : '/' ∉ key.toList
  beginning : slashes = 0 → ∀ c ∈ first.chars.head?, isBlank c = false
  ending : ∀ c ∈ key.toList.getLast?, isBlank c = false

namespace WrittenAttributePath

/-- The characters behind the slashes at the start. -/
def stepsChars (w : WrittenAttributePath) : List Char :=
  Xml.stepsChars w.first w.others ++ '/' :: '@' :: w.key.toList

/-- The text of a written path to an attribute. -/
def text (w : WrittenAttributePath) : String :=
  String.ofList (List.replicate w.slashes '/' ++ w.stepsChars)

/-- A written path to an attribute means the path with the meanings of its steps, to that attribute;
two slashes are for any depth. -/
structure Means (w : WrittenAttributePath) (path : Path) : Prop where
  anyDepth : path.anyDepth = (w.slashes == 2)
  first : w.first.Means path.first
  others : List.Forall₂ WrittenStep.Means w.others path.others
  target : path.target = .attribute w.key

end WrittenAttributePath

/-- Written steps are split from what follows their last slash. -/
theorem splitList_stepsChars_append (first : WrittenStep) (others : List WrittenStep)
    (rest : List Char) :
    Text.splitList (· == '/') (stepsChars first others ++ '/' :: rest) =
      (first :: others).map WrittenStep.chars ++ Text.splitList (· == '/') rest := by
  induction others generalizing first with
  | nil =>
      rw [stepsChars, List.flatMap_nil, List.append_nil]
      exact Text.splitList_append_cons first.slash_not_mem
  | cons w ws ih =>
      rw [stepsChars, List.flatMap_cons, List.cons_append, List.append_assoc, List.cons_append,
        Text.splitList_append_cons first.slash_not_mem]
      exact congrArg (first.chars :: ·) (ih w)

/-- A last piece behind `@` is the name of an attribute. -/
theorem splitTarget_concat (pieces : List (List Char)) (name : List Char) :
    Path.splitTarget (pieces ++ ['@' :: name]) = (pieces, .attribute (String.ofList name)) := by
  simp [Path.splitTarget]

/-- No slash at the start is for the root, too. -/
theorem Path.parse?_of_no_slash {s : String} {c : Char} {rest : List Char}
    (h : trimList s.toList = c :: rest) (hc : c ≠ '/') :
    Path.parse? s = ofSteps? false (c :: rest) := by
  unfold parse?
  rw [h]
  split
  rename_i anyDepth more hstart
  obtain ⟨rfl, rfl⟩ : false = anyDepth ∧ c :: rest = more := by
    split at hstart
    case h_1 heq => exact absurd (List.cons.inj heq).1 hc
    case h_2 heq => exact absurd (List.cons.inj heq).1 hc
    case h_3 => exact Prod.mk.inj hstart
  rfl

namespace WrittenAttributePath

/-- The steps are read as their meanings, or not at all. -/
theorem ofSteps?_stepsChars (w : WrittenAttributePath) {anyDepth : Bool} :
    Path.ofSteps? anyDepth w.stepsChars = some path ↔
      path.anyDepth = anyDepth ∧ w.first.Means path.first ∧
        List.Forall₂ WrittenStep.Means w.others path.others ∧
        path.target = .attribute w.key := by
  refine Path.ofSteps?_eq_some_iff ?_
  have hattribute : '/' ∉ '@' :: w.key.toList := by simpa using w.no_slash
  rw [stepsChars, splitList_stepsChars_append, Text.splitList_of_not_mem hattribute,
    List.filter_append, filter_map_chars]
  simpa using splitTarget_concat ((w.first :: w.others).map WrittenStep.chars) w.key.toList

/-- Nothing is cut off from a written path to an attribute. -/
theorem trimList_text (w : WrittenAttributePath) :
    trimList w.text.toList = List.replicate w.slashes '/' ++ w.stepsChars := by
  rw [text, String.toList_ofList]
  refine Text.trimList_eq_self_iff.mpr ⟨fun c hc => ?_, fun c hc => ?_⟩
  · obtain ⟨d, ds, hfirst, -⟩ := w.first.exists_chars_eq_cons
    cases hslashes : w.slashes with
    | zero =>
        refine w.beginning hslashes c ?_
        simpa [hslashes, stepsChars, Xml.stepsChars, hfirst] using hc
    | succ n =>
        obtain rfl : '/' = c := by simpa [hslashes, List.replicate_succ] using hc
        decide
  · rw [stepsChars, ← List.append_assoc, List.getLast?_append_cons, List.getLast?_cons_cons,
      List.getLast?_cons, Option.mem_some_iff] at hc
    cases hlast : w.key.toList.getLast? with
    | none =>
        obtain rfl : '@' = c := by simpa [hlast] using hc
        decide
    | some d =>
        obtain rfl : d = c := by simpa [hlast] using hc
        exact w.ending d hlast

/-- A written path to an attribute is read as its meaning, or not at all. -/
theorem parse?_text_eq_some_iff (w : WrittenAttributePath) :
    Path.parse? w.text = some path ↔ w.Means path := by
  have hparse : Path.parse? w.text = Path.ofSteps? (w.slashes == 2) w.stepsChars := by
    have htrim := w.trimList_text
    obtain ⟨c, cs, hfirst, hslash, -⟩ := w.first.exists_chars_eq_cons
    obtain ⟨rest, hcons⟩ : ∃ rest, w.stepsChars = c :: rest :=
      ⟨_, by rw [stepsChars, Xml.stepsChars, hfirst, List.cons_append, List.cons_append]⟩
    rw [hcons] at htrim ⊢
    match hslashes : w.slashes, w.slashes_le with
    | 0, _ =>
        rw [hslashes] at htrim
        exact Path.parse?_of_no_slash htrim hslash
    | 1, _ =>
        rw [hslashes] at htrim
        exact Path.parse?_of_one_slash htrim hslash
    | 2, _ =>
        rw [hslashes] at htrim
        exact Path.parse?_of_two_slashes htrim
  rw [hparse, ofSteps?_stepsChars]
  constructor
  · rintro ⟨hdepth, hfirst, hothers, htarget⟩
    exact ⟨hdepth, hfirst, hothers, htarget⟩
  · rintro ⟨hdepth, hfirst, hothers, htarget⟩
    exact ⟨hdepth, hfirst, hothers, htarget⟩

end WrittenAttributePath

/-- The value of an attribute of the element at an address. -/
def Element.attributeAt? (root : Element) (key : String) (address : Address) : Option String :=
  (root.at? address).bind fun e => e.attributes.lookup key

/-- The first value in a list is the value of its first element, unless only later ones have one. -/
theorem head?_bind_eq_findSome?_iff {α β : Type} {f : α → Option β} {l : List α} :
    l.head?.bind f = l.findSome? f ↔ (∃ a ∈ l.head?, (f a).isSome) ∨ ∀ a ∈ l, f a = none := by
  cases l with
  | nil => simp
  | cons a l =>
      cases hvalue : f a with
      | some b => simp [hvalue]
      | none => simp only [List.head?_cons, Option.bind_some, hvalue, List.findSome?_cons,
          eq_comm (a := none), List.findSome?_eq_none_iff, Option.mem_some_iff, exists_eq_left',
          List.forall_mem_cons, Option.isSome_none, Bool.false_eq_true, true_and, false_or]

/-- A path to an attribute selects that of the first element that its element steps find. -/
theorem Path.select_attribute {key : String} (h : path.target = .attribute key)
    (root : Element) :
    path.select root = (path.found root).head?.bind (root.attributeAt? key) := by
  rw [Path.select, (path.locates_found root).head?, h, Option.bind_assoc]
  rfl

/-- A written path to an attribute selects that of the first match of its element steps, and nothing
if the first match does not carry it. That is the value at the first match that carries it just if
this is the first match of all, or no match carries it. The matches are those in the order of the
document as long as the element steps keep it. If a predicate writes no position, nothing is
selected. -/
theorem selects_attribute (w : WrittenAttributePath) (root : Element) :
    (∀ path : Path, w.Means path →
      root.select w.text = (path.found root).head?.bind (root.attributeAt? w.key) ∧
      (root.select w.text = (path.found root).findSome? (root.attributeAt? w.key) ↔
        (∃ address ∈ (path.found root).head?, (root.attributeAt? w.key address).isSome) ∨
          ∀ address ∈ path.found root, root.attributeAt? w.key address = none) ∧
      (path.KeepsOrder root → path.found root = path.matched root)) ∧
    ((¬ ∃ path, w.Means path) → root.select w.text = none) := by
  refine ⟨fun path hmeans => ?_, fun hnot => ?_⟩
  · have hselect : root.select w.text =
        (path.found root).head?.bind (root.attributeAt? w.key) := by
      rw [Element.select, w.parse?_text_eq_some_iff.mpr hmeans, Option.bind_some,
        Path.select_attribute hmeans.target]
    refine ⟨hselect, ?_, Path.found_eq_matched⟩
    rw [hselect]
    exact head?_bind_eq_findSome?_iff
  · have hparse : Path.parse? w.text = none := by
      rw [Option.eq_none_iff_forall_ne_some]
      exact fun path hpath => hnot ⟨path, w.parse?_text_eq_some_iff.mp hpath⟩
    rw [Element.select, hparse, Option.bind_none]

/-- The path `/a/b/@k` as it is written. -/
def keyPath : WrittenAttributePath where
  slashes := 1
  first := ⟨"a", none, by decide, by simp, by simp, by decide, by simp⟩
  others := [⟨"b", none, by decide, by simp, by simp, by decide, by simp⟩]
  key := "k"
  slashes_le := by decide
  no_slash := by decide
  beginning := by simp
  ending := by simp [isBlank]

theorem keyPath_means :
    keyPath.Means ⟨false, ⟨"a", none⟩, [⟨"b", none⟩], .attribute "k"⟩ :=
  ⟨rfl, .all rfl, .cons (.all rfl) .nil, rfl⟩

/-- An element with two children of one name, with these attributes. -/
def twins (first second : Attributes) : Element :=
  .mk "a" [] "" [.mk "b" first "" [], .mk "b" second "" []]

/-- In `<a><b k="1"/><b/></a>` the first match of `/a/b` carries the attribute. -/
theorem select_key_of_first :
    keyPath.Means ⟨false, ⟨"a", none⟩, [⟨"b", none⟩], .attribute "k"⟩ ∧
      (twins [("k", "1")] []).select "/a/b/@k" = some "1" := by
  have hselect := ((selects_attribute keyPath (twins [("k", "1")] [])).1 _ keyPath_means).1
  exact ⟨keyPath_means, hselect.trans (by decide)⟩

/-- In `<a><b/><b k="1"/></a>` the second match of `/a/b` is the first one that carries the
attribute, but nothing is selected. -/
theorem select_key_of_second :
    keyPath.text = "/a/b/@k" ∧
      Path.matched ⟨false, ⟨"a", none⟩, [⟨"b", none⟩], .attribute "k"⟩ (twins [] [("k", "1")]) =
        [[0], [1]] ∧
      [[0], [1]].findSome? ((twins [] [("k", "1")]).attributeAt? "k") = some "1" ∧
      (twins [] [("k", "1")]).select "/a/b/@k" = none := by
  decide

end Flowchart.Xml
