import Flowchart.Proofs.Json.Location

/-!
# Parts of parts

A path goes on behind another one from the part that the other one selects (`select_append`): the
two are read one behind the other (`parsePath?_append`), unless blanks between them are cut off from
the end of the first path when it stands alone.
-/

namespace Flowchart.Json

open Text (isBlank trimList dropBlankEnd)

variable {cs ds : List Char} {segments : List Segment} {n k : Nat}

/-! ## Reading one path behind the other -/

/-- What belongs to a name that is not in brackets. -/
def isNameChar (c : Char) : Bool := c ≠ '.' && c ≠ '['

/-- The segment of a name, unless it is empty. -/
def keySegments (name : List Char) : List Segment :=
  if name.isEmpty then [] else [.key (String.ofList name)]

/-- A name behind a point, or at the start, is read, and then what follows it. -/
theorem segmentsFrom?_name {c : Char} (hc : c ≠ '[') (n : Nat) :
    segmentsFrom? (n + 1) (c :: cs) =
      (segmentsFrom? n ((if c = '.' then cs else c :: cs).dropWhile isNameChar)).map
        (keySegments ((if c = '.' then cs else c :: cs).takeWhile isNameChar) ++ ·) := by
  have hdrop (after : List Char) :
      after.drop (after.takeWhile isNameChar).length = after.dropWhile isNameChar := by
    have hsplit := List.takeWhile_append_dropWhile (p := isNameChar) (l := after)
    calc after.drop (after.takeWhile isNameChar).length
        = (after.takeWhile isNameChar ++ after.dropWhile isNameChar).drop
            (after.takeWhile isNameChar).length := by rw [hsplit]
      _ = after.dropWhile isNameChar := List.drop_left
  rw [segmentsFrom?, if_neg hc]
  generalize (if c = '.' then cs else c :: cs) = after
  show ((segmentsFrom? n (after.drop (after.takeWhile isNameChar).length)).bind fun more =>
    some (if (after.takeWhile isNameChar).isEmpty then more else _)) = _
  rw [hdrop, keySegments]
  cases segmentsFrom? n (after.dropWhile isNameChar) with
  | none => rfl
  | some more => cases (after.takeWhile isNameChar).isEmpty <;> rfl

/-- Something is read with a name, even if it is only a point. -/
theorem length_dropWhile_name_le {c : Char} (hc : c ≠ '[') (cs : List Char) :
    ((if c = '.' then cs else c :: cs).dropWhile isNameChar).length ≤ cs.length := by
  split
  case isTrue => exact List.length_dropWhile_le _ _
  case isFalse hpoint =>
    rw [List.dropWhile_cons_of_pos (by simp [isNameChar, hpoint, hc])]
    exact List.length_dropWhile_le _ _

/-- As many turns as there are characters are enough. -/
theorem segmentsFrom?_congr (hn : cs.length ≤ n) (hk : cs.length ≤ k) :
    segmentsFrom? n cs = segmentsFrom? k cs := by
  induction n generalizing cs k with
  | zero =>
      obtain rfl := List.length_eq_zero_iff.mp (Nat.le_zero.mp hn)
      cases k <;> rfl
  | succ n ih =>
      cases cs with
      | nil => cases k <;> rfl
      | cons c cs =>
          obtain ⟨k, rfl⟩ := Nat.exists_eq_add_one.mpr (Nat.zero_lt_of_lt hk)
          simp only [List.length_cons, Nat.add_le_add_iff_right] at hn hk
          by_cases hc : c = '['
          · rw [segmentsFrom?, segmentsFrom?, if_pos hc, if_pos hc]
            cases hcut : Text.cut? [']'] cs with
            | none => rfl
            | some cut =>
                obtain ⟨inside, rest⟩ := cut
                obtain ⟨-, rfl⟩ := Text.cut?_singleton_eq_some_iff.mp hcut
                simp only [List.length_append, List.length_cons] at hn hk
                have hrest : segmentsFrom? n rest = segmentsFrom? k rest := ih (by omega) (by omega)
                simp only [hrest]
          · have hlength := length_dropWhile_name_le hc cs
            rw [segmentsFrom?_name hc, segmentsFrom?_name hc,
              ih (hlength.trans hn) (hlength.trans hk)]

/-- A name ends before what begins with a point or an opening bracket. -/
theorem dropWhile_isNameChar_append (hds : ∀ c ∈ ds.head?, c = '.' ∨ c = '[')
    (cs : List Char) : (cs ++ ds).takeWhile isNameChar = cs.takeWhile isNameChar ∧
      (cs ++ ds).dropWhile isNameChar = cs.dropWhile isNameChar ++ ds := by
  induction cs with
  | nil =>
      cases ds with
      | nil => exact ⟨rfl, rfl⟩
      | cons d ds =>
          have hd : isNameChar d = false := by
            rcases hds d rfl with rfl | rfl <;> rfl
          simp [hd]
  | cons c cs ih =>
      cases hc : isNameChar c <;> simp [hc, ih]

/-- What begins with a point or an opening bracket is read behind other segments as it is read
alone. -/
theorem segmentsFrom?_append (h : segmentsFrom? n cs = some segments)
    (hds : ∀ c ∈ ds.head?, c = '.' ∨ c = '[') (hn : (cs ++ ds).length ≤ n)
    (hk : ds.length ≤ k) :
    segmentsFrom? n (cs ++ ds) = (segmentsFrom? k ds).map (segments ++ ·) := by
  induction n generalizing cs segments with
  | zero =>
      obtain ⟨rfl, rfl⟩ := List.append_eq_nil_iff.mp
        (List.length_eq_zero_iff.mp (Nat.le_zero.mp hn))
      obtain rfl : [] = segments := Option.some.inj h
      cases k <;> rfl
  | succ n ih =>
      cases cs with
      | nil =>
          obtain rfl : [] = segments := Option.some.inj h
          rw [List.nil_append] at hn ⊢
          rw [segmentsFrom?_congr hn hk]
          simp
      | cons c cs =>
          simp only [List.cons_append, List.length_cons, Nat.add_le_add_iff_right] at hn ⊢
          by_cases hc : c = '['
          · rw [segmentsFrom?, if_pos hc] at h ⊢
            cases hcut : Text.cut? [']'] cs with
            | none => simp [hcut] at h
            | some cut =>
                obtain ⟨inside, rest⟩ := cut
                obtain ⟨hclose, rfl⟩ := Text.cut?_singleton_eq_some_iff.mp hcut
                simp only [hcut, Option.bind_eq_bind, Option.bind_eq_some_iff, Option.pure_def] at h
                obtain ⟨segment, hsegment, more, hmore, hsegments⟩ := h
                obtain rfl := Option.some.inj hsegments
                have hrest := ih hmore
                  (by simp only [List.length_append, List.length_cons] at hn ⊢; omega)
                rw [List.append_assoc, List.cons_append, Text.cut?_append_cons hclose]
                simp only [hsegment, hrest]
                cases segmentsFrom? k ds <;> rfl
          · rw [segmentsFrom?_name hc] at h ⊢
            obtain ⟨more, hmore, rfl⟩ := Option.map_eq_some_iff.mp h
            have hafter : (if c = '.' then cs ++ ds else c :: (cs ++ ds)) =
                (if c = '.' then cs else c :: cs) ++ ds := by split <;> rfl
            obtain ⟨htake, hdrop⟩ := dropWhile_isNameChar_append hds
              (if c = '.' then cs else c :: cs)
            have hlength := length_dropWhile_name_le hc cs
            rw [hafter, htake, hdrop, ih hmore (by rw [List.length_append] at hn ⊢; omega),
              Option.map_map]
            congr 1
            funext more'
            simp

/-- The segments of a path stand behind its dollar sign, without blanks at the end. -/
theorem parsePath?_dollar (s : String) : Segment.parsePath? ("$" ++ s) =
    segmentsFrom? ((dropBlankEnd s.toList).length + 1) (dropBlankEnd s.toList) := by
  have htrim : trimList ("$" ++ s).toList = '$' :: dropBlankEnd s.toList := by
    rw [String.toList_append]
    have hdollar : ∀ c ∈ ['$'].getLast?, isBlank c = false := by simp [isBlank]
    exact Text.dropBlankEnd_append hdollar s.toList
  simp only [Segment.parsePath?, htrim]

/-- A path and what goes on behind it are read one after the other, if the path does not end in a
blank and what is behind it begins with a point or an opening bracket. -/
theorem parsePath?_append {p q : String} (hp : ∀ c ∈ p.toList.getLast?, isBlank c = false)
    (hq : ∀ c ∈ q.toList.head?, c = '.' ∨ c = '[')
    (h : Segment.parsePath? ("$" ++ p) = some segments) :
    Segment.parsePath? ("$" ++ p ++ q) = (Segment.parsePath? ("$" ++ q)).map (segments ++ ·) := by
  have hwhole : dropBlankEnd p.toList = p.toList := by
    simpa [dropBlankEnd] using Text.dropBlankEnd_append hp []
  have hbegins : ∀ c ∈ (dropBlankEnd q.toList).head?, c = '.' ∨ c = '[' := by
    intro c hc
    obtain ⟨blanks, hblanks⟩ := List.rdropWhile_prefix isBlank q.toList
    rw [Text.dropBlankEnd_eq_rdropWhile] at hc
    refine hq c ?_
    rw [← hblanks, List.head?_append, hc]
    rfl
  rw [parsePath?_dollar, hwhole] at h
  rw [String.append_assoc, parsePath?_dollar, parsePath?_dollar, String.toList_append,
    Text.dropBlankEnd_append hp]
  refine segmentsFrom?_append ?_ hbegins (Nat.le_succ _) (Nat.le_succ _)
  rw [← h]
  exact segmentsFrom?_congr (by rw [List.length_append]; omega) (Nat.le_succ _)

/-- A blank at the end of a name is cut off from a path, but not from one that goes on. -/
example : Segment.parsePath? "$.a " = some [.key "a"] ∧
    Segment.parsePath? "$.a .b" = some [.key "a ", .key "b"] := by decide

/-! ## Following one path behind the other -/

variable {v w : Value}

/-- Segments are followed from the part that the segments before them lead to. -/
theorem follow?_append (v : Value) (first second : List Segment) :
    v.follow? (first ++ second) = (v.follow? first).bind (·.follow? second) := by
  rw [Value.follow?, List.foldlM_append]
  rfl

/-- A path that goes on behind another one selects, in the part that the other one selects, what it
selects there. -/
theorem select_append {p q : String} (hp : ∀ c ∈ p.toList.getLast?, isBlank c = false)
    (hq : ∀ c ∈ q.toList.head?, c = '.' ∨ c = '[') (h : v.select ("$" ++ p) = some w) :
    v.select ("$" ++ p ++ q) = w.select ("$" ++ q) := by
  obtain ⟨segments, hparse, hfollow⟩ := Option.bind_eq_some_iff.mp h
  rw [Value.select, parsePath?_append hp hq hparse, Value.select]
  cases Segment.parsePath? ("$" ++ q) with
  | none => rfl
  | some more =>
      simp only [Option.map_some, Option.bind_some, follow?_append, hfollow]

end Flowchart.Json
