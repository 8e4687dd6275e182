import Flowchart.Blocks.Replacement
import Flowchart.Proofs.Pattern.Literal

/-!
# Replacement rules

What a rule makes of a text (`ReplacementRule.rewrite`), whether it is skipped
(`ReplacementRule.isSkipped`) and what is noted of it then (`ReplacementRule.skipNote?`) are matters
of the rule alone, and a list of rules does this for one rule after the other (`applyRules_eq`). So
lists of rules can be joined and split, rules that are skipped can be left out, and a replacement
counts the rules that it has applied (`applyRules_compositional`).

A rule that replaces a text, and to which case counts, is applied without a pattern. Its pattern,
the escaped text, would do the same to every text: neither characters with a meaning of their own in
the text to find nor signs of groups in the text to write make a difference
(`ReplacementRule.apply_eq_replaceWithText`). Ignoring the case of a text without case variants
finds the same places, but it takes a pattern, and patterns are limited where texts are not. So it
makes no difference just as long as the escaped text is within the limits
(`applyRules_ignoreCase_iff`).
-/

namespace Flowchart.Blocks

namespace ReplacementRule

variable {limits : Limits} {rule : ReplacementRule} {text reason : String}

/-- Whether a rule is skipped: there is nothing to find, or the rule needs a pattern and has
none. -/
def isSkipped (limits : Limits) (rule : ReplacementRule) : Bool :=
  rule.source.isEmpty || ((rule.isPattern || rule.ignoreCase) && !(rule.pattern limits).isOk)

/-- What is noted of a rule at a place in a list if it is skipped. -/
def skipNote? (limits : Limits) (number : Nat) (rule : ReplacementRule) : Option String :=
  if rule.source.isEmpty then some s!"rule {number}: empty pattern"
  else if rule.isPattern || rule.ignoreCase then
    match rule.pattern limits with
    | .error reason => some s!"rule {number} ('{rule.source}'): {reason}"
    | .ok _ => none
  else none

/-- A text after a rule. -/
def rewrite (limits : Limits) (rule : ReplacementRule) (text : String) : String :=
  if rule.source.isEmpty then text
  else match rule.apply limits text with
    | .ok changed => changed
    | .error _ => text

/-- Whether a rule can be applied does not depend on the text, nor does the reason. -/
theorem apply_eq_error_iff : rule.apply limits text = .error reason ↔
    (rule.isPattern || rule.ignoreCase) = true ∧ rule.pattern limits = .error reason := by
  unfold apply
  cases rule.isPattern <;> cases rule.ignoreCase <;> cases rule.pattern limits <;> simp [Except.map]

/-- A note is made of the rules that are skipped. -/
theorem isSome_skipNote? (limits : Limits) (number : Nat) (rule : ReplacementRule) :
    (rule.skipNote? limits number).isSome = rule.isSkipped limits := by
  unfold skipNote? isSkipped
  cases rule.source.isEmpty with
  | true => rfl
  | false =>
      cases rule.isPattern || rule.ignoreCase with
      | false => rfl
      | true => cases rule.pattern limits <;> rfl

/-- A rule that is skipped leaves the text alone. -/
theorem rewrite_of_isSkipped (h : rule.isSkipped limits = true) :
    rule.rewrite limits text = text := by
  unfold rewrite
  split
  · rfl
  · next hsource =>
      simp only [isSkipped, hsource, Bool.false_or, Bool.and_eq_true] at h
      obtain ⟨hneeds, hnone⟩ := h
      cases hpattern : rule.pattern limits with
      | ok p =>
          rw [hpattern] at hnone
          cases hnone
      | error reason => rw [apply_eq_error_iff.mpr ⟨hneeds, hpattern⟩]

end ReplacementRule

open ReplacementRule

variable {limits : Limits}

/-- The first of several rules is applied before the others, and noted before them. -/
theorem applyRules_cons (number : Nat) (text : String) (rule : ReplacementRule)
    (rest : List ReplacementRule) :
    applyRules limits number text (rule :: rest) =
      ((applyRules limits (number + 1) (rule.rewrite limits text) rest).1,
        (rule.skipNote? limits number).toList ++
          (applyRules limits (number + 1) (rule.rewrite limits text) rest).2) := by
  rw [applyRules, rewrite, skipNote?]
  split
  · rfl
  · cases happly : rule.apply limits text with
    | error reason =>
        obtain ⟨hneeds, hpattern⟩ := apply_eq_error_iff.mp happly
        rw [if_pos hneeds, hpattern]
        rfl
    | ok changed =>
        -- no note is made: a rule that needs a pattern and has none could not have been applied
        by_cases hneeds : (rule.isPattern || rule.ignoreCase) = true
        · cases hpattern : rule.pattern limits with
          | ok p => simp [hneeds]
          | error reason =>
              rw [apply_eq_error_iff.mpr ⟨hneeds, hpattern⟩] at happly
              cases happly
        · simp [hneeds]

/-- Rules are applied one after the other, and of each that is skipped a note is made. -/
theorem applyRules_eq (number : Nat) (text : String) (rules : List ReplacementRule) :
    applyRules limits number text rules =
      (rules.foldl (fun text rule => rule.rewrite limits text) text,
        (rules.zipIdx number).filterMap fun (rule, number) => rule.skipNote? limits number) := by
  induction rules generalizing number text with
  | nil => rfl
  | cons rule rest ih =>
      rw [applyRules_cons, ih, List.zipIdx_cons, List.foldl_cons]
      cases hnote : rule.skipNote? limits number <;> simp [hnote]

/-- As many notes are made as rules are skipped, whatever the text and wherever the rules stand. -/
theorem length_applyRules_snd (number : Nat) (text : String) (rules : List ReplacementRule) :
    (applyRules limits number text rules).2.length = rules.countP (·.isSkipped limits) := by
  induction rules generalizing number text with
  | nil => rfl
  | cons rule rest ih =>
      rw [applyRules_cons, List.length_append, ih, List.countP_cons,
        ← isSome_skipNote? limits number rule]
      cases rule.skipNote? limits number <;> simp [Nat.add_comm]

/-- What rules make of a text does not depend on where they stand. -/
theorem applyRules_fst (number : Nat) (text : String) (rules : List ReplacementRule) :
    (applyRules limits number text rules).1 =
      rules.foldl (fun text rule => rule.rewrite limits text) text := by
  rw [applyRules_eq]

/-- The rules of a list that are not skipped. -/
def effective (limits : Limits) (rules : List ReplacementRule) : List ReplacementRule :=
  rules.filter fun rule => !rule.isSkipped limits

/-- The rules are those that are not skipped and those of which a note is made. -/
theorem length_effective_add (number : Nat) (text : String) (rules : List ReplacementRule) :
    (effective limits rules).length + (applyRules limits number text rules).2.length =
      rules.length := by
  rw [length_applyRules_snd, effective, ← List.countP_eq_length_filter, Nat.add_comm, eq_comm]
  simpa using List.length_eq_countP_add_countP fun rule : ReplacementRule => rule.isSkipped limits

/-- Without the rules that are skipped a text becomes the same, and no note is made. -/
theorem applyRules_effective (number : Nat) (text : String) (rules : List ReplacementRule) :
    applyRules limits number text (effective limits rules) =
      ((applyRules limits number text rules).1, []) := by
  have hstep : (fun (text : String) (rule : ReplacementRule) =>
      if (!rule.isSkipped limits) = true then rule.rewrite limits text else text) =
        fun text rule => rule.rewrite limits text := by
    funext text rule
    cases hskipped : rule.isSkipped limits with
    | true => simp [rewrite_of_isSkipped hskipped]
    | false => simp
  have hnone : (effective limits rules).countP (·.isSkipped limits) = 0 := by
    simp [effective, List.countP_eq_zero]
  refine Prod.ext ?_ (List.eq_nil_of_length_eq_zero ?_)
  · rw [applyRules_fst, applyRules_fst, effective, List.foldl_filter, hstep]
  · rw [length_applyRules_snd, hnone]

/-- The verdict of a replacement begins with the number of rules that are not skipped and the number
of all rules. -/
theorem exists_description_runReplacement (limits : Limits) (context : Context) (scene : Scene) :
    let rules := (Settings.read ReplacementSettings.record context scene).1.rules
    ∃ rest, (runReplacement limits context scene).1.description =
      s!"TextReplace: applied {(effective limits rules).length} of {rules.length} rules: " ++
        rest := by
  intro rules
  have hcount (text : String) : rules.length - (applyRules limits 1 text rules).2.length =
      (effective limits rules).length := by
    exact Nat.sub_eq_of_eq_add (length_effective_add 1 text rules).symm
  rw [← hcount (inputText _ _ _)]
  exact ⟨_, rfl⟩

/-- Rules can be applied in one list or in two, one after the other; a rule is skipped for what it
is, neither for the text nor for the other rules; without the rules that are skipped the text
becomes the same; and the verdict counts those that are not skipped, which with the skipped ones
are all rules. -/
theorem applyRules_compositional (limits : Limits) :
    (∀ text first second,
      let between := (applyRules limits 1 text first).1
      (applyRules limits 1 text (first ++ second)).1 = (applyRules limits 1 between second).1 ∧
        (applyRules limits 1 text (first ++ second)).2.length =
          (applyRules limits 1 text first).2.length +
            (applyRules limits 1 between second).2.length) ∧
    (∀ text rules, (applyRules limits 1 text rules).2 =
      (rules.zipIdx 1).filterMap fun (rule, number) => rule.skipNote? limits number) ∧
    (∀ rule number, (skipNote? limits number rule).isSome = rule.isSkipped limits) ∧
    (∀ text rules, applyRules limits 1 text (effective limits rules) =
      ((applyRules limits 1 text rules).1, [])) ∧
    (∀ context scene,
      let rules := (Settings.read ReplacementSettings.record context scene).1.rules
      (∃ rest, (runReplacement limits context scene).1.description =
        s!"TextReplace: applied {(effective limits rules).length} of {rules.length} rules: " ++
          rest) ∧
      ∀ text, (effective limits rules).length + (applyRules limits 1 text rules).2.length =
        rules.length) := by
  refine ⟨?_, ?_, ?_, ?_, ?_⟩
  · intro text first second
    refine ⟨?_, ?_⟩
    · simp only [applyRules_fst, List.foldl_append]
    · simp only [length_applyRules_snd, List.countP_append]
  · intro text rules
    rw [applyRules_eq]
  · exact fun rule number => isSome_skipNote? limits number rule
  · exact fun text rules => applyRules_effective 1 text rules
  · exact fun context scene => ⟨exists_description_runReplacement limits context scene,
      fun text => length_effective_add 1 text _⟩

end Flowchart.Blocks

/-! ## Two ways to replace a text -/

namespace Flowchart.Blocks.ReplacementRule

open Pattern (escapeText Expression IsCaseless)

variable {limits : Limits} {rule : ReplacementRule}

/-- Whether the escaped text of a rule is within the limits: its length as a pattern, and the size
of its automata. -/
def WithinLimits (limits : Limits) (rule : ReplacementRule) : Prop :=
  (escapeText rule.source).utf8ByteSize ≤ limits.patternLength ∧
    (Expression.text rule.source.toList).fits limits.patternSize

instance : Decidable (rule.WithinLimits limits) := by
  unfold WithinLimits
  infer_instance

/-- The rule replaces a text as it is written: to which case counts, or without case variants. -/
structure IsVerbatim (rule : ReplacementRule) : Prop where
  not_pattern : rule.isPattern = false
  source_ne_empty : rule.source ≠ ""
  isCaseless : rule.ignoreCase = true → ∀ c ∈ rule.source.toList, IsCaseless c

/-- The pattern of such a rule searches for the text, within the limits. -/
theorem IsVerbatim.pattern_eq_ok_iff (h : rule.IsVerbatim) {p : Pattern} :
    rule.pattern limits = .ok p ↔
      rule.WithinLimits limits ∧ p = ⟨Pattern.textProgram rule.source.toList⟩ := by
  have hread := Pattern.ofText_escapeText_eq h.source_ne_empty h.isCaseless limits.patternSize
  simp only [pattern, h.not_pattern, hread, Bool.false_eq_true, if_false]
  by_cases hlength : (escapeText rule.source).utf8ByteSize ≤ limits.patternLength
  · rw [if_neg (Nat.not_lt.mpr hlength)]
    by_cases hsize : (Expression.text rule.source.toList).fits limits.patternSize
    · simp [WithinLimits, hlength, hsize, Except.mapError, eq_comm]
    · simp [WithinLimits, hsize, Except.mapError]
  · simp [WithinLimits, hlength, Nat.lt_of_not_le hlength]

/-- Searching for the text by its program replaces the text. -/
theorem IsVerbatim.replaceWithText_textProgram (h : rule.IsVerbatim) (target text : String) :
    Pattern.replaceWithText ⟨Pattern.textProgram rule.source.toList⟩ target text =
      Text.replaceAll text rule.source target := by
  have hsource : rule.source.toList ≠ [] := by simpa using h.source_ne_empty
  rw [Pattern.replaceWithText_textProgram hsource, String.ofList_toList]

/-- The rule replaces a text, to which case counts. -/
structure IsLiteral (rule : ReplacementRule) : Prop where
  not_pattern : rule.isPattern = false
  not_ignoreCase : rule.ignoreCase = false
  source_ne_empty : rule.source ≠ ""

theorem IsLiteral.isVerbatim (h : rule.IsLiteral) : rule.IsVerbatim where
  not_pattern := h.not_pattern
  source_ne_empty := h.source_ne_empty
  isCaseless hcase := by simp [h.not_ignoreCase] at hcase

theorem IsLiteral.pattern_eq_ok_iff (h : rule.IsLiteral) {p : Pattern} :
    rule.pattern limits = .ok p ↔
      rule.WithinLimits limits ∧ p = ⟨Pattern.textProgram rule.source.toList⟩ :=
  h.isVerbatim.pattern_eq_ok_iff

/-- A rule for a text has a pattern just if it is within the limits; and what the rule makes of a
text without the pattern is what the pattern makes of it. -/
theorem apply_eq_replaceWithText (h : rule.IsLiteral) :
    ((∃ p, rule.pattern limits = .ok p) ↔ rule.WithinLimits limits) ∧
      ∀ p, rule.pattern limits = .ok p → ∀ text,
        rule.apply limits text = .ok (p.replaceWithText rule.target text) ∧
        Text.replaceAll text rule.source rule.target = p.replaceWithText rule.target text := by
  constructor
  · simp [h.pattern_eq_ok_iff]
  · intro p hp text
    obtain ⟨-, rfl⟩ := h.pattern_eq_ok_iff.mp hp
    have hsource : rule.source.toList ≠ [] := by simpa using h.source_ne_empty
    have hsame := Pattern.replaceWithText_textProgram hsource rule.target text
    rw [String.ofList_toList] at hsame
    simp [apply, h.not_pattern, h.not_ignoreCase, hsame]

/-- A rule whose texts would be other than themselves as a pattern and as a template. -/
def groupSignRule : ReplacementRule where
  source := "(.)"
  target := "$1"

theorem groupSignRule_apply :
    groupSignRule.IsLiteral ∧ groupSignRule.WithinLimits {} ∧
      ∃ p, groupSignRule.pattern {} = .ok p ∧
        groupSignRule.apply {} "((.) é(.))" = .ok (p.replaceWithText "$1" "((.) é(.))") ∧
        p.replaceWithText "$1" "((.) é(.))" = "($1 é$1)" := by
  have hliteral : groupSignRule.IsLiteral := ⟨rfl, rfl, by decide⟩
  have hwithin : groupSignRule.WithinLimits {} := by decide +kernel
  have hagrees := @apply_eq_replaceWithText {} _ hliteral
  obtain ⟨p, hp⟩ := hagrees.1.mpr hwithin
  obtain ⟨happly, hsame⟩ := hagrees.2 p hp "((.) é(.))"
  exact ⟨hliteral, hwithin, p, hp, happly, hsame.symm.trans (by decide)⟩

end Flowchart.Blocks.ReplacementRule

/-! ## Ignored case -/

namespace Flowchart.Blocks

open Pattern (IsCaseless)

variable {limits : Limits} {rule : ReplacementRule}

namespace ReplacementRule

/-- A rule that replaces a text as it is written is skipped only for the limits of a pattern. -/
theorem IsVerbatim.isSkipped_eq_false_iff (h : rule.IsVerbatim) : rule.isSkipped limits = false ↔
    (rule.ignoreCase = true → rule.WithinLimits limits) := by
  have hpattern : (rule.pattern limits).isOk = true ↔ rule.WithinLimits limits := by
    cases hread : rule.pattern limits with
    | ok p => simpa [Except.isOk, Except.toBool] using (h.pattern_eq_ok_iff.mp hread).1
    | error reason =>
        have hnot : ¬ rule.WithinLimits limits := fun hwithin => by
          rw [h.pattern_eq_ok_iff.mpr ⟨hwithin, rfl⟩] at hread
          cases hread
        simpa [Except.isOk, Except.toBool] using hnot
  simp [isSkipped, h.not_pattern, h.source_ne_empty, hpattern]

/-- Unless it is skipped, it replaces every occurrence of the text. -/
theorem IsVerbatim.rewrite_eq (h : rule.IsVerbatim) (happlied : rule.isSkipped limits = false)
    (text : String) : rule.rewrite limits text = Text.replaceAll text rule.source rule.target := by
  have hlimits := h.isSkipped_eq_false_iff.mp happlied
  cases hcase : rule.ignoreCase with
  | false => simp [rewrite, apply, h.source_ne_empty, h.not_pattern, hcase]
  | true =>
      have hpattern := h.pattern_eq_ok_iff.mpr ⟨hlimits hcase, rfl⟩
      simp [rewrite, apply, h.source_ne_empty, h.not_pattern, hcase, hpattern, Except.map,
        h.replaceWithText_textProgram]

/-- The rule with case ignored or not. -/
def withIgnoreCase (rule : ReplacementRule) (ignoreCase : Bool) : ReplacementRule :=
  { rule with ignoreCase }

/-- The rule replaces a text without case variants. -/
structure IsCaselessText (rule : ReplacementRule) : Prop where
  not_pattern : rule.isPattern = false
  source_ne_empty : rule.source ≠ ""
  isCaseless : ∀ c ∈ rule.source.toList, IsCaseless c

theorem IsCaselessText.isVerbatim (h : rule.IsCaselessText) (ignoreCase : Bool) :
    (rule.withIgnoreCase ignoreCase).IsVerbatim where
  not_pattern := h.not_pattern
  source_ne_empty := h.source_ne_empty
  isCaseless _ := h.isCaseless

theorem IsCaselessText.isSkipped_of_case (h : rule.IsCaselessText) :
    (rule.withIgnoreCase false).isSkipped limits = false :=
  (h.isVerbatim false).isSkipped_eq_false_iff.mpr (nomatch ·)

theorem IsCaselessText.isSkipped_of_ignoreCase_iff (h : rule.IsCaselessText) :
    (rule.withIgnoreCase true).isSkipped limits = false ↔ rule.WithinLimits limits :=
  (h.isVerbatim true).isSkipped_eq_false_iff.trans (forall_prop_of_true rfl)

end ReplacementRule

open ReplacementRule

/-- Whether the case of a text without case variants is ignored makes no difference to what a list
of rules does to a text and what it skips, just as long as the escaped text is within the limits. -/
theorem applyRules_ignoreCase_iff (h : rule.IsCaselessText) (text : String)
    (before after : List ReplacementRule) :
    applyRules limits 1 text (before ++ rule.withIgnoreCase true :: after) =
        applyRules limits 1 text (before ++ rule.withIgnoreCase false :: after) ↔
      rule.WithinLimits limits := by
  rw [← h.isSkipped_of_ignoreCase_iff]
  constructor
  · intro hsame
    -- as many rules are skipped, and the one to which case counts is not
    have hlength := congrArg (·.2.length) hsame
    simp only [length_applyRules_snd, List.countP_append, List.countP_cons, h.isSkipped_of_case,
      Bool.false_eq_true, if_false] at hlength
    cases hskipped : (rule.withIgnoreCase true).isSkipped limits with
    | false => rfl
    | true =>
        rw [hskipped, if_pos rfl] at hlength
        omega
  · intro hignoring
    have hcase : (rule.withIgnoreCase false).isSkipped limits = false := h.isSkipped_of_case
    have hnotes (number : Nat) : (rule.withIgnoreCase true).skipNote? limits number =
        (rule.withIgnoreCase false).skipNote? limits number := by
      rw [← isSome_skipNote? limits number, Option.isSome_eq_false_iff,
        Option.isNone_iff_eq_none] at hignoring hcase
      rw [hignoring, hcase]
    have htexts (text : String) : (rule.withIgnoreCase true).rewrite limits text =
        (rule.withIgnoreCase false).rewrite limits text := by
      rw [(h.isVerbatim true).rewrite_eq hignoring, (h.isVerbatim false).rewrite_eq hcase]
      rfl
    simp only [applyRules_eq, List.foldl_append, List.foldl_cons, List.zipIdx_append,
      List.zipIdx_cons, List.filterMap_append, List.filterMap_cons, htexts, hnotes]

/-- Three dots take six characters as a pattern. -/
def dotsRule : ReplacementRule where
  source := "..."
  target := "-"

theorem dotsRule_isCaselessText : dotsRule.IsCaselessText where
  not_pattern := rfl
  source_ne_empty := by decide
  isCaseless c hc := by
    obtain rfl : c = '.' := by simpa [dotsRule] using hc
    exact Pattern.isCaseless_of_not_isAlpha (by decide) rfl

theorem dotsRule_ignoreCase : dotsRule.IsCaselessText ∧ dotsRule.WithinLimits {} ∧
    applyRules {} 1 "a... b" ([] ++ dotsRule.withIgnoreCase true :: []) =
      applyRules {} 1 "a... b" ([] ++ dotsRule.withIgnoreCase false :: []) := by
  have hwithin : dotsRule.WithinLimits {} := by decide +kernel
  exact ⟨dotsRule_isCaselessText, hwithin,
    (applyRules_ignoreCase_iff dotsRule_isCaselessText _ _ _).mpr hwithin⟩

/-- Where patterns may have four characters, the dots are replaced if case counts, and the rule is
skipped if it is ignored. -/
theorem dotsRule_depends_on_case :
    let limits : Limits := { patternLength := 4 }
    dotsRule.IsCaselessText ∧
      applyRules limits 1 "a... b" [dotsRule.withIgnoreCase false] = ("a- b", []) ∧
      applyRules limits 1 "a... b" [dotsRule.withIgnoreCase true] =
        ("a... b", ["rule 1 ('...'): pattern longer than 4 characters"]) :=
  ⟨dotsRule_isCaselessText, by decide +kernel, by decide +kernel⟩

end Flowchart.Blocks
