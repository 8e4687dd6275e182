import Flowchart.Proofs.Blocks.Refused
import Flowchart.Proofs.Json.Outcome
import Flowchart.Proofs.Settings.NormalForm

/-!
# The spelling of names in settings

Two documents are alike if they have the same shape and the same scalars and the names of their
members differ in spelling and order only (`Settings.Alike`). As long as no object has two names
that are spellings of one, documents that are alike have the same normal form
(`Alike.normalize_eq`), and so a block does the same with either. Documents that are refused, such
as those that are too deep, are told apart by the warning alone, which says where reading stopped.
-/

namespace Flowchart

open Json

namespace Settings

mutual
/-- Documents of the same shape and with the same scalars, in which the members of an object may
stand in any order and their names may be spelled in any way. -/
inductive Alike : Value → Value → Prop
  | null : Alike .null .null
  | bool (b : Bool) : Alike (.bool b) (.bool b)
  | number (n : Number) : Alike (.number n) (.number n)
  | string (s : String) : Alike (.string s) (.string s)
  | array {vs vs' : List Value} (h : AlikeElements vs vs') : Alike (.array vs) (.array vs')
  | object {ms listed ms' : List (String × Value)} (h : AlikeMembers ms listed)
      (horder : listed.Perm ms') : Alike (.object ms) (.object ms')

/-- Arrays whose elements are alike one by one. -/
inductive AlikeElements : List Value → List Value → Prop
  | nil : AlikeElements [] []
  | cons {v v' : Value} {vs vs' : List Value} (hv : Alike v v') (hvs : AlikeElements vs vs') :
      AlikeElements (v :: vs) (v' :: vs')

/-- Members that are alike one by one, with names that have the same normal form. -/
inductive AlikeMembers : List (String × Value) → List (String × Value) → Prop
  | nil : AlikeMembers [] []
  | cons {name name' : String} {v v' : Value} {ms ms' : List (String × Value)}
      (hname : normalName name = normalName name') (hv : Alike v v') (hms : AlikeMembers ms ms') :
      AlikeMembers ((name, v) :: ms) ((name', v') :: ms')
end

mutual
/-- No object in a document has two names with the same normal form. -/
def HasDistinctNames : Value → Prop
  | .object ms => (ms.map fun m => normalName m.1).Nodup ∧ MembersHaveDistinctNames ms
  | .array vs => ElementsHaveDistinctNames vs
  | .null | .bool _ | .number _ | .string _ => True

/-- No object in the elements of an array has two names with the same normal form. -/
def ElementsHaveDistinctNames : List Value → Prop
  | [] => True
  | v :: rest => HasDistinctNames v ∧ ElementsHaveDistinctNames rest

/-- No object in the members of an object has two names with the same normal form. -/
def MembersHaveDistinctNames : List (String × Value) → Prop
  | [] => True
  | (_, v) :: rest => HasDistinctNames v ∧ MembersHaveDistinctNames rest
end

mutual
/-- Documents that are alike have the same normal form. -/
theorem Alike.normalize_eq {v v' : Value} (h : Alike v v') (hnames : HasDistinctNames v) :
    normalize v = normalize v' := by
  cases h with
  | null => rfl
  | bool b => rfl
  | number n => rfl
  | string s => rfl
  | array h => rw [normalize, normalize, h.normalize_eq hnames]
  | @object ms listed ms' h horder =>
      obtain ⟨hnodup, hmembers⟩ := hnames
      have hlisted : normalizeMembers ms = normalizeMembers listed := h.normalize_eq hmembers
      have hperm : (normalizeMembers listed).Perm (normalizeMembers ms') := by
        rw [normalizeMembers_eq_map, normalizeMembers_eq_map]
        exact horder.map _
      have hdistinct : ((normalizeMembers listed).map (·.1)).Nodup := by
        rw [← hlisted, normalizeMembers_eq_map, List.map_map]
        exact hnodup
      rw [normalize, normalize, hlisted, Dictionary.ofList_eq_of_perm hperm hdistinct]

/-- Elements that are alike have the same normal forms. -/
theorem AlikeElements.normalize_eq {vs vs' : List Value} (h : AlikeElements vs vs')
    (hnames : ElementsHaveDistinctNames vs) : normalizeElements vs = normalizeElements vs' := by
  cases h with
  | nil => rfl
  | cons hv hvs =>
      rw [normalizeElements, normalizeElements, hv.normalize_eq hnames.1, hvs.normalize_eq hnames.2]

/-- Members that are alike have the same normal forms. -/
theorem AlikeMembers.normalize_eq {ms ms' : List (String × Value)} (h : AlikeMembers ms ms')
    (hnames : MembersHaveDistinctNames ms) : normalizeMembers ms = normalizeMembers ms' := by
  cases h with
  | nil => rfl
  | cons hname hv hms =>
      rw [normalizeMembers, normalizeMembers, hname, hv.normalize_eq hnames.1,
        hms.normalize_eq hnames.2]
end

variable {σ : Type} {record : Decoder.Record σ} {text text' : String} {v v' : Value}

/-- Settings that are alike are decoded to the same, or refused for the same reason. -/
theorem decode_eq_of_alike (hv : Value.ofText text = .ok v) (hv' : Value.ofText text' = .ok v')
    (h : Alike v v') (hnames : HasDistinctNames v) : decode record text = decode record text' := by
  simp only [decode, hv, hv', h.normalize_eq hnames]

/-- A text that is no document is refused for the reason for which it could not be read. -/
theorem decode_of_error {e : Error} (h : Value.ofText text = .error e) :
    decode record text = .error e.message := by
  simp only [decode, h]

/-- Settings that are decoded to the same are read as the same. -/
theorem read_configured_eq (context : Context) (scene : Scene)
    (htext : Text.isBlankText text = false) (htext' : Text.isBlankText text' = false)
    (hdecode : decode record text = decode record text') :
    read record (context.configured (some text)) scene =
      read record (context.configured (some text')) scene := by
  simp only [read, settings?_configured htext, settings?_configured htext', hdecode]
  rfl

end Settings

/-- Two outcomes of a block differ at most in what one warning says. -/
def DifferInOneWarning (first second : StepResult × Scene) : Prop :=
  ∃ (verdict : StepResult) (final : Scene) (before after : List Note) (message message' : String),
    first = (verdict, { final with notes := before ++ .warning message :: after }) ∧
    second = (verdict, { final with notes := before ++ .warning message' :: after })

namespace Blocks

open Settings

variable {limits : Limits} {h : Handler} {σ : Type} {record : Decoder.Record σ} {context : Context}
  {scene : Scene} {text text' : String} {v v' : Value}

/-- A block does the same with settings that are decoded to the same. -/
theorem HasSettings.run_eq (hh : HasSettings limits h record)
    (htext : Text.isBlankText text = false) (htext' : Text.isBlankText text' = false)
    (hdecode : decode record text = decode record text') :
    h.run (context.configured (some text)) scene =
      h.run (context.configured (some text')) scene := by
  have hread := read_configured_eq context scene htext htext' hdecode
  cases hsettings : read record (context.configured (some text')) scene with
  | mk settings noted =>
      rw [hsettings] at hread
      rw [← Scene.after_nil noted] at hread
      exact hh.governs hread hsettings

/-- A block does the same with two texts that are no documents, but for the reason that it gives. -/
theorem HasSettings.run_differs_in_warning (hh : HasSettings limits h record)
    (htext : Text.isBlankText text = false) (htext' : Text.isBlankText text' = false)
    {e e' : Error} (hread : Value.ofText text = .error e)
    (hread' : Value.ofText text' = .error e') :
    DifferInOneWarning (h.run (context.configured (some text)) scene)
      (h.run (context.configured (some text')) scene) := by
  obtain ⟨notes, hnotes, hrun⟩ := run_of_refused hh htext (decode_of_error hread) context scene
  obtain ⟨notes', hnotes', hrun'⟩ := run_of_refused hh htext' (decode_of_error hread') context scene
  obtain rfl : notes = notes' := List.append_cancel_left (hnotes.symm.trans hnotes')
  exact ⟨_, _, scene.notes, notes, _, _, hrun, hrun'⟩

/-- A standard block does the same with two settings that are alike as documents: its verdict, its
notes, the variables, the counters and all else in the scene are equal. With two texts that are no
documents it does the same but for what one warning says. -/
theorem ignores_spelling_of_names (hh : h ∈ standard limits) (context : Context) (scene : Scene) :
    (∀ {text text' : String} {v v' : Value}, Value.ofText text = .ok v →
      Value.ofText text' = .ok v' →
      Alike v v' → HasDistinctNames v →
      h.run (context.configured (some text)) scene =
        h.run (context.configured (some text')) scene) ∧
    ∀ {text text' : String} {e e' : Error}, Text.isBlankText text = false →
      Text.isBlankText text' = false → Value.ofText text = .error e →
      Value.ofText text' = .error e' →
      h.run (context.configured (some text)) scene = h.run (context.configured (some text')) scene ∨
      DifferInOneWarning (h.run (context.configured (some text)) scene)
        (h.run (context.configured (some text')) scene) := by
  rcases standard_hasSettings hh with rfl | rfl | ⟨σ, record, hsettings⟩
  · exact ⟨fun _ _ _ _ => rfl, fun _ _ _ _ => Or.inl rfl⟩
  · exact ⟨fun _ _ _ _ => rfl, fun _ _ _ _ => Or.inl rfl⟩
  · refine ⟨fun hv hv' halike hnames => ?_, fun htext htext' hread hread' => ?_⟩
    · exact hsettings.run_eq (Value.isBlankText_of_ofText hv) (Value.isBlankText_of_ofText hv')
        (decode_eq_of_alike hv hv' halike hnames)
    · exact Or.inr (hsettings.run_differs_in_warning htext htext' hread hread')

/-- Settings of a replacement with one rule. -/
def plainRule : Value := .object [("Input", .string "a-b"),
  ("Replacements", .array [.object [("From", .string "-"), ("To", .string "+")]]),
  ("ResultVariable", .string "joined")]

/-- The same settings with their names in other spellings, so that those of the rule are in another
order. -/
def respelledRule : Value := .object [("INPUT", .string "a-b"),
  ("re-placements", .array [.object [("TO", .string "+"), ("from", .string "-")]]),
  ("result_variable", .string "joined")]

/-- A block of replacements does the same with both spellings, and the same but for the warning with
two texts that are no documents. -/
theorem replacement_ignores_spelling : textReplace {} ∈ standard {} ∧
    Value.ofText plainRule.compact = .ok plainRule ∧
    Value.ofText respelledRule.compact = .ok respelledRule ∧
    Alike plainRule respelledRule ∧ HasDistinctNames plainRule ∧
    (textReplace {}).run (Context.configured default (some plainRule.compact)) busyScene =
      (textReplace {}).run (Context.configured default (some respelledRule.compact)) busyScene ∧
    ((textReplace {}).run (Context.configured default (some "[")) busyScene =
        (textReplace {}).run (Context.configured default (some "[1")) busyScene ∨
      DifferInOneWarning ((textReplace {}).run (Context.configured default (some "[")) busyScene)
        ((textReplace {}).run (Context.configured default (some "[1")) busyScene)) := by
  have hmem : textReplace {} ∈ standard {} := by simp [standard]
  have hplain : Value.ofText plainRule.compact = .ok plainRule := by
    refine Value.ofText_compact ?_
      (by simp [plainRule, Value.Fits, ElementsFit, MembersFit, depthLimit])
    simp only [plainRule, Value.IsOrdered, ElementsOrdered, MembersOrdered]
    decide +kernel
  have hrespelled : Value.ofText respelledRule.compact = .ok respelledRule := by
    refine Value.ofText_compact ?_
      (by simp [respelledRule, Value.Fits, ElementsFit, MembersFit, depthLimit])
    simp only [respelledRule, Value.IsOrdered, ElementsOrdered, MembersOrdered]
    decide +kernel
  have hname {name name' : String} (normal : String) (h : normalName name = normal)
      (h' : normalName name' = normal) : normalName name = normalName name' := h.trans h'.symm
  have hrule : Alike (.object [("From", .string "-"), ("To", .string "+")])
      (.object [("TO", .string "+"), ("from", .string "-")]) :=
    .object (.cons (hname "from" (by decide +kernel) (by decide +kernel)) (.string _)
      (.cons (hname "to" (by decide +kernel) (by decide +kernel)) (.string _) .nil)) (.swap _ _ _)
  have halike : Alike plainRule respelledRule :=
    .object (.cons (hname "input" (by decide +kernel) (by decide +kernel)) (.string _)
      (.cons (hname "replacements" (by decide +kernel) (by decide +kernel))
        (.array (.cons hrule .nil))
        (.cons (hname "resultvariable" (by decide +kernel) (by decide +kernel)) (.string _) .nil)))
      (.refl _)
  have hdistinct : HasDistinctNames plainRule := by
    simp only [plainRule, HasDistinctNames, ElementsHaveDistinctNames, MembersHaveDistinctNames]
    decide +kernel
  obtain ⟨hsame, hwarn⟩ :=
    ignores_spelling_of_names hmem (Context.configured default none) busyScene
  refine ⟨hmem, hplain, hrespelled, halike, hdistinct, hsame hplain hrespelled halike hdistinct, ?_⟩
  have hfirst : Text.isBlankText "[" = false := by decide +kernel
  have hsecond : Text.isBlankText "[1" = false := by decide +kernel
  exact hwarn hfirst hsecond rfl rfl

/-- Arrays in one another, so many and one more. -/
def nestedArrays : Nat → Value
  | 0 => .array []
  | n + 1 => .array [nestedArrays n]

/-- A document that is too deep to be read. -/
def tooDeepInput (name : String) : Value := .object [(name, nestedArrays 126)]

/-- Of documents that are too deep a warning says where they became so, which depends on the
spelling of the names before. -/
theorem warning_tells_spelling : textTransform ∈ standard {} ∧
    Alike (tooDeepInput "Input") (tooDeepInput "in_put") ∧
    HasDistinctNames (tooDeepInput "Input") ∧ HasDistinctNames (tooDeepInput "in_put") ∧
    textTransform.run (Context.configured default (some (tooDeepInput "Input").compact)) default ≠
      textTransform.run (Context.configured default (some (tooDeepInput "in_put").compact))
        default :=
  by
  have hself (n : Nat) : Alike (nestedArrays n) (nestedArrays n) := by
    induction n with
    | zero => exact .array .nil
    | succ n ih => exact .array (.cons ih .nil)
  have hname : normalName "Input" = normalName "in_put" := by decide +kernel
  have hdistinct (n : Nat) : HasDistinctNames (nestedArrays n) := by
    induction n with
    | zero => exact True.intro
    | succ n ih => exact ⟨ih, True.intro⟩
  have hobject (name : String) : HasDistinctNames (tooDeepInput name) :=
    ⟨List.nodup_singleton _, hdistinct 126, True.intro⟩
  have hrun (name reason : String)
      (hreason : (Reader.value depthLimit).failure? (tooDeepInput name).compactChars =
        some reason) :
      ∃ notes, (textTransform.run
        (Context.configured default (some (tooDeepInput name).compact)) default).2.notes =
          .warning (warning default reason) :: notes := by
    have hh : HasSettings {} textTransform TransformSettings.record := .textTransform
    have htext : (tooDeepInput name).compact.toList = (tooDeepInput name).compactChars :=
      String.toList_ofList
    have hblank : Text.isBlankText (tooDeepInput name).compact = false := by
      rw [Text.isBlankText, htext]
      rfl
    rw [← htext] at hreason
    obtain ⟨e, hread, rfl⟩ := Reader.readAll_of_failure? hreason
    obtain ⟨notes, -, hrun⟩ := run_of_refused hh hblank (decode_of_error hread) default default
    exact ⟨notes, by rw [hrun]; rfl⟩
  refine ⟨by simp [standard], .object (.cons hname (hself 126) .nil) (.refl _),
    hobject _, hobject _,
    fun heq => ?_⟩
  obtain ⟨notes, hfirst⟩ := hrun "Input" "recursion limit exceeded at line 1 column 136"
    (by decide +kernel)
  obtain ⟨notes', hsecond⟩ := hrun "in_put" "recursion limit exceeded at line 1 column 137"
    (by decide +kernel)
  rw [heq, hsecond] at hfirst
  have hreasons : warning default "recursion limit exceeded at line 1 column 137" ≠
      warning default "recursion limit exceeded at line 1 column 136" := by decide +kernel
  exact hreasons (Note.warning.inj (List.cons.inj hfirst).1)

end Blocks
end Flowchart
