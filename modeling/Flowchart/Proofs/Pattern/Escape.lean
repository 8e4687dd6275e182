import Flowchart.Pattern.Basic
import Flowchart.Pattern.Meaning

/-!
# Escaped texts as patterns

The pattern that is read from an escaped text is the text itself, whatever characters it holds: the
parser takes each character of the text for itself, in one round each, and the sequence of them
means the text, if case counts or no character has case variants (`IsCaseless`): where case does not
count, a character that simple case folding leaves alone and to which it moves no other one, such as
a digit, a space or a punctuation mark, still stands for itself only (`foldCase_singleton`).
-/

namespace Flowchart.Pattern

open Text (CharSet)

/-! ## Characters without case variants -/

/-- A character without case variants: case folding neither moves it nor moves another one to it. -/
def IsCaseless (c : Char) : Prop :=
  ∀ pair ∈ foldPairs, pair.1 ≠ c.toNat ∧ pair.2 ≠ c.toNat

/-- The pairs of case folding are gone through. -/
instance (c : Char) : Decidable (IsCaseless c) :=
  inferInstanceAs (Decidable (∀ pair ∈ foldPairs, _))

/-- An Ascii character has case variants only if it is a letter. -/
theorem isCaseless_of_not_isAlpha {c : Char} (hascii : c.toNat < 128) (h : c.isAlpha = false) :
    IsCaseless c := by
  have hletters : ∀ pair ∈ foldPairs, ∀ n ∈ [pair.1, pair.2], n < 128 →
      (Char.ofNat n).isAlpha = true := by
    decide +kernel
  have hne : ∀ pair ∈ foldPairs, ∀ n ∈ [pair.1, pair.2], n ≠ c.toNat := by
    rintro pair hpair n hn rfl
    have hletter := hletters pair hpair _ hn hascii
    rw [Char.ofNat_toNat, h] at hletter
    cases hletter
  exact fun pair hpair => ⟨hne pair hpair _ (by simp), hne pair hpair _ (by simp)⟩

theorem inRanges_singleton (n : Nat) (c : Char) :
    CharSet.inRanges n (CharSet.singleton c).ranges = decide (n = c.toNat) := by
  grind [CharSet.singleton, CharSet.range, CharSet.inRanges]

/-- A character without case variants is all that differs from it in case only. -/
theorem foldCase_singleton {c : Char} (h : IsCaseless c) :
    foldCase (.singleton c) = .singleton c := by
  have hsources : foldPairs.filter (fun pair =>
      CharSet.inRanges pair.1 (CharSet.singleton c).ranges) = [] := by
    simp only [List.filter_eq_nil_iff, inRanges_singleton, decide_eq_true_eq]
    exact fun pair hpair => (h pair hpair).1
  have htargets : foldPairs.filter (fun pair =>
      CharSet.inRanges pair.2 (CharSet.singleton c).ranges) = [] := by
    simp only [List.filter_eq_nil_iff, inRanges_singleton, decide_eq_true_eq]
    exact fun pair hpair => (h pair hpair).2
  have hunion : (CharSet.singleton c).union (.ofRanges []) = .singleton c := by
    simp [CharSet.union, CharSet.ofRanges, CharSet.singleton, CharSet.range, CharSet.empty,
      CharSet.merge]
  simp only [foldCase, hsources, List.map_nil, hunion, htargets]

/-! ## Escaped texts -/

/-- A character as it is written in a pattern to stand for itself. -/
def escapeChar (c : Char) : List Char := if isMeta c then ['\\', c] else [c]

theorem toList_escapeText (s : String) : (escapeText s).toList = s.toList.flatMap escapeChar :=
  String.toList_ofList

theorem escapeChar_length_pos (c : Char) : 0 < (escapeChar c).length := by
  unfold escapeChar
  split <;> simp

theorem length_le_length_flatMap_escapeChar (cs : List Char) :
    cs.length ≤ (cs.flatMap escapeChar).length := by
  induction cs with
  | nil => simp
  | cons c cs ih =>
      have := escapeChar_length_pos c
      simp only [List.flatMap_cons, List.length_append, List.length_cons]
      omega

/-! ## Steps of reading -/

namespace Reader

variable (cursor : Cursor)

@[simp]
theorem run_current? : current?.run cursor = pure (cursor.rest.head?, cursor) := rfl

@[simp]
theorem run_here : here.run cursor = pure (cursor.position, cursor) := rfl

@[simp]
theorem run_spanFrom (first : Position) :
    (spanFrom first).run cursor = pure (⟨first, cursor.position⟩, cursor) := rfl

variable (c : Char) (rest : List Char) (p : Position) (b : Bool) (g : Nat)
  (names : List (String × Span))

@[simp]
theorem run_spanHere :
    spanHere.run ⟨c :: rest, p, b, g, names⟩ = pure (⟨p, p.after c⟩, ⟨c :: rest, p, b, g, names⟩) :=
  rfl

@[simp]
theorem run_advance :
    advance.run ⟨c :: rest, p, b, g, names⟩ = pure ((), ⟨rest, p.after c, b, g, names⟩) :=
  rfl

@[simp]
theorem run_skipBlanks (text : List Char) :
    skipBlanks.run ⟨text, p, false, g, names⟩ = pure ((), ⟨text, p, false, g, names⟩) :=
  rfl

end Reader

open Reader

variable {c : Char} (rest : List Char) (p : Position) (b : Bool) (g : Nat)
  (names : List (String × Span))

/-- A character with a meaning of its own is no digit and has no other meaning behind a
backslash. -/
theorem escape_of_isMeta (hmeta : isMeta c) : c.isDigit = false ∧
    ¬ (c = 'x' ∨ c = 'u' ∨ c = 'U') ∧ ¬ (c = 'p' ∨ c = 'P') ∧ shortClasses.lookup c = none := by
  simp only [isMeta, List.contains_iff_mem, List.mem_cons, List.not_mem_nil, or_false] at hmeta
  rcases hmeta with rfl | rfl | rfl | rfl | rfl | rfl | rfl | rfl | rfl | rfl | rfl | rfl | rfl |
    rfl | rfl | rfl | rfl | rfl <;> decide

/-- A character with a meaning of its own that follows a backslash stands for itself. -/
theorem run_readEscape_of_isMeta (hmeta : isMeta c) :
    readEscape.run ⟨'\\' :: c :: rest, p, b, g, names⟩ =
      pure (.literal ⟨⟨p, (p.after '\\').after c⟩, c, false⟩,
        ⟨rest, (p.after '\\').after c, b, g, names⟩) := by
  obtain ⟨hdigit, hhex, hproperty, hshort⟩ := escape_of_isMeta hmeta
  have hmay : mayBeEscaped c := by simp [mayBeEscaped, hmeta]
  simp [readEscape, hdigit, hhex, hproperty, hshort, hmay]

/-- Branches with one more part in the current branch. -/
def Branches.push (branches : Branches) (part : Tree) : Branches :=
  { branches with parts := part :: branches.parts }

/-- A round takes a character that is written to stand for itself. -/
theorem run_rounds_escapeChar (branches : Branches) (n : Nat) :
    ∃ span past, (rounds branches [] (n + 1)).run ⟨escapeChar c ++ rest, p, false, g, names⟩ =
      (rounds (branches.push (.literal ⟨span, c, false⟩)) [] n).run
        ⟨rest, past, false, g, names⟩ := by
  by_cases hmeta : isMeta c
  · refine ⟨⟨p, (p.after '\\').after c⟩, (p.after '\\').after c, ?_⟩
    simp [rounds, escapeChar, hmeta, run_readEscape_of_isMeta, Branches.push]
  · refine ⟨⟨p, p.after c⟩, p.after c, ?_⟩
    have hplain := hmeta
    simp only [isMeta, List.contains_iff_mem, List.mem_cons, not_or] at hplain
    simp [rounds, escapeChar, hmeta, Branches.push, hplain]

/-- Reading an escaped text to its end adds its characters to the current branch. -/
theorem run_rounds_flatMap_escapeChar {cs : List Char} {n : Nat} (hn : cs.length < n)
    (branches : Branches) :
    ∃ (literals : List Literal) (past : Position), literals.map Literal.char = cs ∧
      (rounds branches [] n).run' ⟨cs.flatMap escapeChar, p, false, g, names⟩ =
        pure (Branches.finish { branches with
          parts := (literals.map Tree.literal).reverse ++ branches.parts } past) := by
  induction cs generalizing branches p n with
  | nil =>
      obtain ⟨n, rfl⟩ := Nat.exists_eq_add_one.mpr hn
      exact ⟨[], p, rfl, by simp [rounds]⟩
  | cons c cs ih =>
      obtain ⟨n, rfl⟩ := Nat.exists_eq_add_one.mpr (Nat.zero_lt_of_lt hn)
      obtain ⟨span, past, hround⟩ :=
        run_rounds_escapeChar (c := c) (cs.flatMap escapeChar) p g names branches n
      obtain ⟨literals, last, hchars, hrest⟩ :=
        ih past (by simpa using hn) (branches.push (.literal ⟨span, c, false⟩))
      refine ⟨⟨span, c, false⟩ :: literals, last, by simp [hchars], ?_⟩
      simp only [StateT.run'_eq] at hrest ⊢
      rw [List.flatMap_cons, hround, hrest]
      simp [Branches.push]

/-! ## Meaning -/

theorem tooDeepParts?_literals (depth : Nat) (literals : List Literal) :
    Tree.tooDeepParts? depth (literals.map Tree.literal) = none := by
  induction literals with
  | nil => simp [Tree.tooDeepParts?]
  | cons c literals ih => simp [Tree.tooDeepParts?, Tree.tooDeep?, ih]

variable {flags : Flags}

/-- Under these flags a character stands for itself only. -/
structure Flags.Keeps (flags : Flags) (c : Char) : Prop where
  unicode : flags.unicode = true
  isCaseless : flags.ignoreCase = true → IsCaseless c

theorem ofSet_singleton (c : Char) : Expression.ofSet (.singleton c) = .text [c] := by
  simp [Expression.ofSet, Text.CharSet.singleton, Text.CharSet.range]

theorem meaning_literal {c : Literal} (h : flags.Keeps c.char) :
    (Tree.literal c).meaning flags = pure (.text [c.char], flags) := by
  cases hcase : flags.ignoreCase with
  | false => simp [Tree.meaning, Literal.expression, Literal.meaning, hcase, h.unicode]
  | true =>
      simp [Tree.meaning, Literal.expression, Literal.meaning, hcase, h.unicode,
        foldCase_singleton (h.isCaseless hcase), ofSet_singleton]

theorem partsMeaning_literals {literals : List Literal}
    (h : ∀ c ∈ literals.map Literal.char, flags.Keeps c) :
    Tree.partsMeaning flags (literals.map Tree.literal) =
      pure ((literals.map Literal.char).map fun c => .text [c], flags) := by
  induction literals with
  | nil => simp [Tree.partsMeaning]
  | cons c literals ih =>
      obtain ⟨hc, hrest⟩ := List.forall_mem_cons.mp h
      simp [Tree.partsMeaning, meaning_literal hc, ih hrest]

theorem joinTexts_singles (waiting cs : List Char) :
    Expression.joinTexts waiting (cs.map fun c => .text [c]) =
      Expression.joinTexts (waiting ++ cs) [] := by
  induction cs generalizing waiting with
  | nil => simp
  | cons c cs ih => simp [Expression.joinTexts, ih]

/-- Characters in order are their text. -/
theorem sequence_singles {cs : List Char} (hcs : cs ≠ []) :
    Expression.sequence (cs.map fun c => .text [c]) = .text cs := by
  have hparts : (cs.map fun c => Expression.text [c]).flatMap Expression.parts =
      cs.map fun c => .text [c] := by
    rw [List.flatMap_map, List.map_eq_flatMap]
    rfl
  simp [Expression.sequence, hparts, joinTexts_singles, Expression.joinTexts, hcs]

/-- A single branch of several parts is the sequence of them. -/
theorem Branches.finish_of_parts {branches : Branches} (hfinished : branches.finished = [])
    (hparts : 1 < branches.parts.length) (past : Position) :
    branches.finish past = .sequence ⟨branches.branchStart, past⟩ branches.parts.reverse := by
  unfold Branches.finish Branches.branch
  rw [hfinished]
  match branches.parts, hparts with
  | _ :: _ :: _, _ => rfl

/-- An escaped text is a pattern, which means the text. -/
theorem ofText_escapeText {s : String} (hs : s ≠ "") (h : ∀ c ∈ s.toList, flags.Keeps c) :
    ∃ tree, Tree.ofText (escapeText s) = pure tree ∧
      tree.meaning flags = pure (.text s.toList, flags) := by
  have hlength := length_le_length_flatMap_escapeChar s.toList
  obtain ⟨literals, past, hchars, hread⟩ := run_rounds_flatMap_escapeChar .start 0 []
    (Nat.lt_succ_of_le hlength) (.begin .start)
  rw [← toList_escapeText] at hread
  have hne : s.toList ≠ [] := by simpa using hs
  -- a single part is read as itself, only several as a sequence
  match literals with
  | [] => exact absurd hchars.symm hne
  | [c] =>
      refine ⟨.literal c, ?_, ?_⟩
      · simp only [Tree.ofText, hread]
        rfl
      · rw [meaning_literal (h c.char (by simp [← hchars])), ← hchars]
        rfl
  | c :: d :: literals =>
      refine ⟨.sequence ⟨.start, past⟩ ((c :: d :: literals).map .literal), ?_, ?_⟩
      · rw [Branches.finish_of_parts rfl (by simp [Branches.begin]), List.reverse_append,
          List.reverse_reverse] at hread
        have hdeep := tooDeepParts?_literals 1 (c :: d :: literals)
        simp only [Tree.ofText, hread]
        simp [Branches.begin, Tree.tooDeep?, depthLimit, -List.map_cons, hdeep]
      · simp only [Tree.meaning, partsMeaning_literals (hchars.symm ▸ h), hchars, pure_bind,
          sequence_singles hne]

end Flowchart.Pattern
