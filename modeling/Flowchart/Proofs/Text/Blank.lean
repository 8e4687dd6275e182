import Mathlib.Data.List.DropRight
import Mathlib.Data.List.TakeWhile
import Flowchart.Text.Blank

/-!
# Trimming

A list is trimmed if it neither begins nor ends with a blank character (`trimList_eq_self_iff`).
Trimming leaves such a list alone and cuts off what blanks are around it (`trimList_surrounded`);
what it gives is trimmed itself (`trimList_trimList`).
-/

namespace Flowchart.Text

/-- Dropping the blanks at the end is dropping them from the right. -/
theorem dropBlankEnd_eq_rdropWhile (cs : List Char) : dropBlankEnd cs = cs.rdropWhile isBlank := rfl

/-- Nothing is put in by trimming. -/
theorem length_trimList_le (cs : List Char) : (trimList cs).length ≤ cs.length := by
  rw [trimList, dropBlankEnd_eq_rdropWhile]
  exact (List.rdropWhile_prefix _ _).length_le.trans (List.length_dropWhile_le _ _)

/-- What is left by trimming was there before. -/
theorem mem_of_mem_trimList {c : Char} {cs : List Char} (h : c ∈ trimList cs) : c ∈ cs := by
  rw [trimList, dropBlankEnd_eq_rdropWhile] at h
  exact List.dropWhile_subset _ ((List.rdropWhile_prefix _ _).subset h)

/-- Trimming cuts off nothing but blanks. -/
theorem exists_surrounded (cs : List Char) : ∃ before after, cs = before ++ (trimList cs ++ after) ∧
    (∀ c ∈ before, isBlank c = true) ∧ ∀ c ∈ after, isBlank c = true := by
  refine ⟨cs.takeWhile isBlank, (cs.dropWhile isBlank).rtakeWhile isBlank, ?_, ?_, ?_⟩
  · rw [trimList, dropBlankEnd_eq_rdropWhile, List.rdropWhile_append_rtakeWhile,
      List.takeWhile_append_dropWhile]
  · exact fun c hc => List.mem_takeWhile_imp hc
  · exact fun c hc => List.mem_rtakeWhile_imp hc

/-- The blank texts are those of which nothing is left without blanks around them. -/
theorem isBlankText_iff {s : String} : isBlankText s = true ↔ trimList s.toList = [] := by
  rw [isBlankText, List.all_eq_true]
  constructor
  · intro h
    rw [trimList, List.dropWhile_eq_nil_iff.mpr h]
    rfl
  · intro h c hc
    obtain ⟨before, after, heq, hbefore, hafter⟩ := exists_surrounded s.toList
    rw [h, List.nil_append] at heq
    rw [heq, List.mem_append] at hc
    exact hc.elim (hbefore c) (hafter c)

/-- Texts are both blank or both not, if they are equal but for blanks around them and letter
case. -/
theorem isBlankText_congr {s t : String} (h : equalAsciiCase (trim s) (trim t) = true) :
    isBlankText s = isBlankText t := by
  have hlower : (trimList s.toList).map Char.toLower = (trimList t.toList).map Char.toLower := by
    have hlower := congrArg String.toList (beq_iff_eq.mp h)
    simpa only [asciiLower, trim, String.toList_ofList] using hlower
  rw [Bool.eq_iff_iff, isBlankText_iff, isBlankText_iff, ← List.map_eq_nil_iff, hlower,
    List.map_eq_nil_iff]

/-- A list that was cut at its end begins as before. -/
theorem dropWhile_dropBlankEnd (cs : List Char) :
    (dropBlankEnd (cs.dropWhile isBlank)).dropWhile isBlank =
      dropBlankEnd (cs.dropWhile isBlank) := by
  rw [dropBlankEnd_eq_rdropWhile, List.dropWhile_eq_self_iff]
  intro hlength
  have hbegins := List.rdropWhile_prefix isBlank (cs.dropWhile isBlank)
  rw [hbegins.getElem hlength]
  exact List.dropWhile_get_zero_not _ _ (hlength.trans_le hbegins.length_le)

/-- A trimmed list is trimmed to itself. -/
@[simp] theorem trimList_trimList (cs : List Char) : trimList (trimList cs) = trimList cs := by
  show dropBlankEnd ((trimList cs).dropWhile isBlank) = trimList cs
  rw [trimList, dropWhile_dropBlankEnd, dropBlankEnd_eq_rdropWhile, dropBlankEnd_eq_rdropWhile,
    List.rdropWhile_idempotent]

variable {cs ds before after : List Char}

/-- Blanks at the end are cut off behind what does not end in a blank. -/
theorem dropBlankEnd_append (h : ∀ c ∈ cs.getLast?, isBlank c = false) (ds : List Char) :
    dropBlankEnd (cs ++ ds) = cs ++ dropBlankEnd ds := by
  have hkeep : cs.reverse.dropWhile isBlank = cs.reverse := by
    cases hcs : cs.reverse with
    | nil => rfl
    | cons c rest =>
        have hc : isBlank c = false := h c (by rw [← List.head?_reverse, hcs]; rfl)
        rw [List.dropWhile_cons_of_neg (by simp [hc])]
  rw [dropBlankEnd, List.reverse_append, List.dropWhile_append, hkeep, dropBlankEnd]
  split
  case isTrue hempty =>
    rw [List.isEmpty_iff.mp hempty, List.reverse_nil, List.append_nil, List.reverse_reverse]
  case isFalse => rw [List.reverse_append, List.reverse_reverse]

/-- A list is trimmed just if it neither begins nor ends with a blank character. -/
theorem trimList_eq_self_iff : trimList cs = cs ↔
    (∀ c ∈ cs.head?, isBlank c = false) ∧ ∀ c ∈ cs.getLast?, isBlank c = false := by
  constructor
  · intro h
    have hbegin : cs.dropWhile isBlank = cs := by
      have hdrop : (trimList cs).dropWhile isBlank = trimList cs := dropWhile_dropBlankEnd cs
      rwa [h] at hdrop
    rw [trimList, hbegin, dropBlankEnd_eq_rdropWhile] at h
    refine ⟨fun c hc => ?_, fun c hc => ?_⟩
    · cases cs with
      | nil => cases hc
      | cons d rest =>
          obtain rfl : d = c := by simpa using hc
          simpa using List.dropWhile_eq_self_iff.mp hbegin
    · have hne : cs ≠ [] := by
        rintro rfl
        cases hc
      rw [List.getLast?_eq_some_getLast hne] at hc
      obtain rfl := Option.some.inj hc
      simpa using List.rdropWhile_eq_self_iff.mp h hne
  · rintro ⟨hfirst, hlast⟩
    have hbegin : cs.dropWhile isBlank = cs := by
      rw [List.dropWhile_eq_self_iff]
      intro hpos
      cases cs with
      | nil => cases hpos
      | cons c rest => simpa using hfirst c rfl
    rw [trimList, hbegin, dropBlankEnd_eq_rdropWhile, List.rdropWhile_eq_self_iff]
    intro hne
    simpa using hlast _ (List.getLast?_eq_some_getLast hne)

/-- Trimmed lists one after the other are trimmed. -/
theorem trimList_append (hcs : trimList cs = cs) (hds : trimList ds = ds) :
    trimList (cs ++ ds) = cs ++ ds := by
  obtain ⟨hcfirst, hclast⟩ := trimList_eq_self_iff.mp hcs
  obtain ⟨hdfirst, hdlast⟩ := trimList_eq_self_iff.mp hds
  refine trimList_eq_self_iff.mpr ⟨fun c hc => ?_, fun c hc => ?_⟩
  · rw [List.head?_append, Option.mem_def, Option.or_eq_some_iff] at hc
    exact hc.elim (hcfirst c) fun h => hdfirst c h.2
  · rw [List.getLast?_append, Option.mem_def, Option.or_eq_some_iff] at hc
    exact hc.elim (hdlast c) fun h => hclast c h.2

/-- A character that is not blank can be put before a trimmed list. -/
theorem trimList_cons {c : Char} (hc : isBlank c = false) (h : trimList cs = cs) :
    trimList (c :: cs) = c :: cs := by
  have hsingle : trimList [c] = [c] := trimList_eq_self_iff.mpr (by simp [hc])
  exact trimList_append hsingle h

/-- Between two characters that are not blank nothing is cut off. -/
theorem trimList_enclosed {c d : Char} (hc : isBlank c = false) (hd : isBlank d = false)
    (cs : List Char) : trimList (c :: (cs ++ [d])) = c :: (cs ++ [d]) := by
  refine trimList_eq_self_iff.mpr ⟨by simp [hc], ?_⟩
  rw [← List.cons_append, List.getLast?_concat]
  simp [hd]

/-- A list without blank characters is trimmed. -/
theorem trimList_of_not_isBlank (h : ∀ c ∈ cs, isBlank c = false) : trimList cs = cs :=
  trimList_eq_self_iff.mpr
    ⟨fun c hc => h c (List.mem_of_mem_head? hc), fun c hc => h c (List.mem_of_getLast? hc)⟩

/-- Blanks around a trimmed list are cut off. -/
theorem trimList_surrounded (hbefore : ∀ c ∈ before, isBlank c = true)
    (hafter : ∀ c ∈ after, isBlank c = true) (hcs : trimList cs = cs) :
    trimList (before ++ (cs ++ after)) = cs := by
  have hend : (cs ++ after).rdropWhile isBlank = cs.rdropWhile isBlank := by
    rw [List.rdropWhile, List.rdropWhile, List.reverse_append,
      List.dropWhile_append_of_pos fun c hc => hafter c (List.mem_reverse.mp hc)]
  obtain ⟨hfirst, hlast⟩ := trimList_eq_self_iff.mp hcs
  rw [trimList, List.dropWhile_append_of_pos hbefore, dropBlankEnd_eq_rdropWhile]
  cases cs with
  | nil =>
      rw [List.nil_append, List.dropWhile_eq_nil_iff.mpr hafter]
      rfl
  | cons c rest =>
      rw [List.cons_append, List.dropWhile_cons_of_neg (by simp [hfirst c rfl]), ← List.cons_append,
        hend, List.rdropWhile_eq_self_iff]
      intro hne
      simpa using hlast _ (List.getLast?_eq_some_getLast hne)

end Flowchart.Text
