import Flowchart.Proofs.Json.Path
import Flowchart.Proofs.Text.Blank

/-!
# Locations that paths lead to

A location in a document is the names of members and the numbers of elements that are passed on the
way to a part of it (`Value.PartAt`). A path can be written for a name unless it has both a closing
bracket, which ends a name in brackets even between quotes, and one of the characters that end a
name behind a point (`Segment.IsWritable`). Those are the segments that reading a path can give
(`exists_parsePath?_iff`), so that they decide which locations can be selected
(`exists_select_iff`).
-/

namespace Flowchart.Json

variable {v w : Value} {name : String} {cs : List Char} {segment : Segment}
  {segments location : List Segment}

/-! ## Locations -/

/-- A document has a part at a location: a name leads to a member of an object, a number to an
element of an array. -/
inductive Value.PartAt : Value → List Segment → Value → Prop where
  | here (v : Value) : PartAt v [] v
  | member (members : List (String × Value)) (name : String) (inner : Value)
      (location : List Segment) (part : Value) :
      members.lookup name = some inner → PartAt inner location part →
      PartAt (.object members) (.key name :: location) part
  | element (elements : List Value) (n : Nat) (inner : Value) (location : List Segment)
      (part : Value) :
      elements[n]? = some inner → PartAt inner location part →
      PartAt (.array elements) (.index n :: location) part

/-- A location leads to the part that a document has there. -/
theorem Value.PartAt.reaches {part : Value} (h : v.PartAt location part) :
    v.Reaches location part := by
  induction h with
  | here v => exact .here v
  | member members name inner location part hmember _ ih =>
      exact .onward _ inner _ _ _ (.member members name inner hmember) ih
  | element elements n inner location part helement _ ih =>
      exact .onward _ inner _ _ _ (.element elements n inner helement) ih

/-- A segment that some path has: a number below `2 ^ 64`, a name without closing brackets, or a
name without points and opening brackets. -/
def Segment.IsWritable : Segment → Prop
  | .key name => ']' ∉ name.toList ∨ '.' ∉ name.toList ∧ '[' ∉ name.toList
  | .index n => n < 2 ^ 64

instance : DecidablePred Segment.IsWritable
  | .key name => inferInstanceAs (Decidable (']' ∉ name.toList ∨ _))
  | .index n => inferInstanceAs (Decidable (n < 2 ^ 64))

/-! ## Writing -/

/-- A segment as it can be written if that is possible: between brackets, or behind a point if it
has a closing bracket itself. -/
def Segment.chars : Segment → List Char
  | .key name =>
      if ']' ∈ name.toList then '.' :: name.toList
      else '[' :: ('\'' :: (name.toList ++ ['\'']) ++ [']'])
  | .index n => '[' :: ((toString n).toList ++ [']'])

/-- A path with segments. The point at its end keeps the blanks of a last name from being cut
off. -/
def segmentsText (segments : List Segment) : String :=
  String.ofList ('$' :: (segments.flatMap Segment.chars ++ ['.']))

/-- A segment is written from a point or an opening bracket on. -/
theorem Segment.exists_chars_eq_cons (segment : Segment) :
    ∃ c rest, segment.chars = c :: rest ∧ (c = '.' ∨ c = '[') := by
  cases segment with
  | key name =>
      by_cases hclose : ']' ∈ name.toList
      · exact ⟨_, _, if_pos hclose, Or.inl rfl⟩
      · exact ⟨_, _, if_neg hclose, Or.inr rfl⟩
  | index n => exact ⟨_, _, rfl, Or.inr rfl⟩

/-- Reading takes one writable segment, whatever segments follow it. -/
theorem segmentsFrom?_segment {rest : List Char} (h : segment.IsWritable)
    (hrest : ∀ c ∈ rest.head?, c = '.' ∨ c = '[') (n : Nat) :
    segmentsFrom? (n + 1) (segment.chars ++ rest) = (segmentsFrom? n rest).map (segment :: ·) := by
  cases segment with
  | key name =>
      by_cases hclose : ']' ∈ name.toList
      · obtain ⟨hpoint, hopen⟩ := h.resolve_left (not_not_intro hclose)
        have hempty : name ≠ "" := by
          rintro rfl
          exact absurd hclose (by decide)
        have hname : ∀ c ∈ name.toList, c ≠ '.' ∧ c ≠ '[' := fun c hc =>
          ⟨fun heq => hpoint (heq ▸ hc), fun heq => hopen (heq ▸ hc)⟩
        rw [Segment.chars, if_pos hclose]
        exact segmentsFrom?_dotted hempty hname hrest n
      · rw [Segment.chars, if_neg hclose]
        exact segmentsFrom?_chars (.quoted .single name hclose) hrest n
  | index k =>
      have hread := segmentsFrom?_chars (.numbered [] k [] h (by simp) (by simp)) hrest n
      simpa [WrittenSegment.chars, WrittenSegment.segment, Segment.chars] using hread

/-- Writable segments one after the other, and a point, are read as the segments. -/
theorem segmentsFrom?_segments (h : ∀ segment ∈ segments, segment.IsWritable) {n : Nat}
    (hn : segments.length ≤ n) :
    segmentsFrom? n (segments.flatMap Segment.chars ++ ['.']) = some segments := by
  induction segments generalizing n with
  | nil =>
      -- The point at the end begins a name that is empty, and this is no segment.
      match n with
      | 0 => rfl
      | 1 => rfl
      | n + 2 => rfl
  | cons segment segments ih =>
      obtain ⟨n, rfl⟩ := Nat.exists_eq_add_one.mpr (Nat.zero_lt_of_lt hn)
      obtain ⟨hsegment, hmore⟩ := List.forall_mem_cons.mp h
      have hrest : ∀ c ∈ (segments.flatMap Segment.chars ++ ['.']).head?, c = '.' ∨ c = '[' := by
        cases segments with
        | nil => simp
        | cons next segments =>
            obtain ⟨c, rest, hchars, hc⟩ := next.exists_chars_eq_cons
            simpa [hchars] using hc
      rw [List.flatMap_cons, List.append_assoc, segmentsFrom?_segment hsegment hrest,
        ih hmore (Nat.le_of_succ_le_succ hn)]
      rfl

/-- A path with writable segments is read as these segments. -/
theorem parsePath?_segmentsText (h : ∀ segment ∈ segments, segment.IsWritable) :
    Segment.parsePath? (segmentsText segments) = some segments := by
  have htrim : Text.trimList (segmentsText segments).toList =
      '$' :: (segments.flatMap Segment.chars ++ ['.']) := by
    rw [segmentsText, String.toList_ofList]
    exact Text.trimList_enclosed (by decide) (by decide) _
  have hchars (segment : Segment) : segment.chars ≠ [] := by
    obtain ⟨c, rest, hcons, -⟩ := segment.exists_chars_eq_cons
    rw [hcons]
    exact List.cons_ne_nil c rest
  have hlength := length_le_length_flatMap hchars segments
  simp only [Segment.parsePath?, htrim]
  exact segmentsFrom?_segments h (by rw [List.length_append]; omega)

/-! ## Reading -/

/-- A segment between brackets is writable if no bracket closes before. -/
theorem isWritable_of_ofBrackets? (hclose : ']' ∉ cs)
    (h : Segment.ofBrackets? cs = some segment) : segment.IsWritable := by
  have hname {quote : Char} {between : List Char}
      (hbetween : betweenQuotes? quote (Text.trimList cs) = some between) : ']' ∉ between := by
    intro hmem
    refine hclose (Text.mem_of_mem_trimList ?_)
    cases htrim : Text.trimList cs with
    | nil =>
        rw [htrim] at hbetween
        cases hbetween
    | cons c rest =>
        rw [htrim, betweenQuotes?, Option.ite_none_right_eq_some] at hbetween
        obtain rfl := Option.some.inj hbetween.2
        exact List.mem_cons_of_mem _ (List.mem_of_mem_dropLast hmem)
  simp only [Segment.ofBrackets?] at h
  split at h
  case h_1 between hquoted =>
    obtain rfl := Option.some.inj h
    rw [Option.or_eq_some_iff] at hquoted
    refine Or.inl ?_
    rw [String.toList_ofList]
    exact hquoted.elim hname fun h => hname h.2
  case h_2 =>
    obtain ⟨n, hn, rfl⟩ := Option.map_eq_some_iff.mp h
    exact (Decimal.index?_eq_some_iff.mp hn).lt

/-- Whatever is read as segments, they are all writable. -/
theorem isWritable_of_segmentsFrom? {n : Nat} (h : segmentsFrom? n cs = some segments) :
    ∀ segment ∈ segments, segment.IsWritable := by
  induction n generalizing cs segments with
  | zero =>
      obtain rfl : [] = segments := Option.some.inj h
      simp
  | succ n ih =>
      cases cs with
      | nil =>
          obtain rfl : [] = segments := Option.some.inj h
          simp
      | cons c cs =>
          rw [segmentsFrom?] at h
          split at h
          case isTrue =>
            split at h
            case h_1 => cases h
            case h_2 inside rest hcut =>
              obtain ⟨hclose, -⟩ := Text.cut?_singleton_eq_some_iff.mp hcut
              simp only [Option.bind_eq_bind, Option.bind_eq_some_iff, Option.pure_def] at h
              obtain ⟨segment, hsegment, more, hmore, hsegments⟩ := h
              obtain rfl := Option.some.inj hsegments
              exact List.forall_mem_cons.mpr ⟨isWritable_of_ofBrackets? hclose hsegment, ih hmore⟩
          case isFalse =>
            generalize (if c = '.' then cs else c :: cs) = after at h
            simp only [Option.bind_eq_bind, Option.bind_eq_some_iff, Option.pure_def] at h
            obtain ⟨more, hmore, hsegments⟩ := h
            obtain rfl := Option.some.inj hsegments
            split
            · exact ih hmore
            · refine List.forall_mem_cons.mpr ⟨Or.inr ?_, ih hmore⟩
              rw [String.toList_ofList]
              constructor
              all_goals
                intro hmem
                simpa using List.mem_takeWhile_imp hmem

/-- Segments are what some path is read as just if all of them are writable. -/
theorem exists_parsePath?_iff :
    (∃ path, Segment.parsePath? path = some segments) ↔
      ∀ segment ∈ segments, segment.IsWritable :=
  ⟨fun ⟨_, h⟩ => isWritable_of_segmentsFrom? h, fun h => ⟨_, parsePath?_segmentsText h⟩⟩

/-- A path selects what the segments that it is read as lead to. -/
theorem select_eq_some_iff {path : String} : v.select path = some w ↔
    ∃ segments, Segment.parsePath? path = some segments ∧ v.Reaches segments w := by
  simp only [Value.select, Option.bind_eq_some_iff, follow?_eq_some_iff]

/-! ## Documents with one way -/

/-- A document in which nothing but a location leads to the truth. -/
def Value.withTruthAt : List Segment → Value
  | [] => .bool true
  | .key name :: location => .object [(name, withTruthAt location)]
  | .index n :: location => .array (List.replicate n .null ++ [withTruthAt location])

theorem partAt_withTruthAt (location : List Segment) :
    (Value.withTruthAt location).PartAt location (.bool true) := by
  induction location with
  | nil => exact .here _
  | cons segment location ih =>
      cases segment with
      | key name => exact .member _ _ (.withTruthAt location) _ _ (by simp) ih
      | index n => exact .element _ _ (.withTruthAt location) _ _ (by simp) ih

/-- An object with one member has just this one. -/
theorem lookup_singleton_eq_some_iff {name' : String} :
    [(name, v)].lookup name' = some w ↔ name' = name ∧ v = w := by
  by_cases h : name' = name
  · simp [h]
  · simp [List.lookup_cons, beq_eq_false_iff_ne.mpr h, h]

/-- Only a null and the end of the way are in the arrays of a document with one way. -/
theorem eq_of_getElem?_withTruthAt {n k : Nat} {truth : Value}
    (hpart : (List.replicate n Value.null ++ [truth])[k]? = some v)
    (hreaches : v.Reaches segments (.bool true)) : k = n ∧ v = truth := by
  have hnull : v ≠ .null := by
    rintro rfl
    obtain _ | ⟨_, _, _, _, _, hleads, _⟩ := hreaches
    cases hleads
  rw [List.getElem?_append, List.length_replicate] at hpart
  split at hpart
  case isTrue => exact absurd (List.eq_of_mem_replicate (List.mem_of_getElem? hpart)) hnull
  case isFalse hle =>
    rw [List.getElem?_singleton, Option.ite_none_right_eq_some] at hpart
    exact ⟨by omega, (Option.some.inj hpart.2).symm⟩

/-- Writable segments find the only way just if the location is writable. -/
theorem isWritable_of_reaches_withTruthAt (hsegments : ∀ segment ∈ segments, segment.IsWritable)
    (h : (Value.withTruthAt location).Reaches segments (.bool true)) :
    ∀ segment ∈ location, segment.IsWritable := by
  induction location generalizing segments with
  | nil => simp
  | cons segment location ih =>
      cases segment with
      | key name =>
          obtain _ | ⟨_, part, _, segment, segments, hleads, hreaches⟩ := h
          obtain ⟨hsegment, hmore⟩ := List.forall_mem_cons.mp hsegments
          obtain ⟨_, name', _, hlookup⟩ := hleads
          obtain ⟨rfl, rfl⟩ := lookup_singleton_eq_some_iff.mp hlookup
          exact List.forall_mem_cons.mpr ⟨hsegment, ih hmore hreaches⟩
      | index n =>
          obtain _ | ⟨_, part, _, segment, segments, hleads, hreaches⟩ := h
          obtain ⟨hsegment, hmore⟩ := List.forall_mem_cons.mp hsegments
          obtain - | ⟨_, k, _, hpart⟩ | ⟨_, name, k, _, hname, hpart⟩ := hleads
          · obtain ⟨rfl, rfl⟩ := eq_of_getElem?_withTruthAt hpart hreaches
            exact List.forall_mem_cons.mpr ⟨hsegment, ih hmore hreaches⟩
          · obtain ⟨rfl, rfl⟩ := eq_of_getElem?_withTruthAt hpart hreaches
            exact List.forall_mem_cons.mpr ⟨hname.lt, ih hmore hreaches⟩

/-- The parts that documents have at a location can all be selected by a path just if all segments
of the location are writable. -/
theorem exists_select_iff (location : List Segment) :
    (∀ v part : Value, v.PartAt location part → ∃ path, v.select path = some part) ↔
      ∀ segment ∈ location, segment.IsWritable := by
  constructor
  · intro h
    obtain ⟨path, hpath⟩ := h _ _ (partAt_withTruthAt location)
    obtain ⟨segments, hsegments, hreaches⟩ := select_eq_some_iff.mp hpath
    exact isWritable_of_reaches_withTruthAt (exists_parsePath?_iff.mp ⟨path, hsegments⟩) hreaches
  · intro h v part hpart
    exact ⟨segmentsText location,
      select_eq_some_iff.mpr ⟨location, parsePath?_segmentsText h, hpart.reaches⟩⟩

/-- A member whose name has a closing bracket and a point is not selected by any path. -/
theorem bracketed_name_has_no_path :
    (Value.object [("a].b", .ofNat 1)]).PartAt [.key "a].b"] (.ofNat 1) ∧
      ∀ path, (Value.object [("a].b", .ofNat 1)]).select path ≠ some (.ofNat 1) := by
  refine ⟨.member _ _ (.ofNat 1) _ _ rfl (.here _), fun path hpath => ?_⟩
  obtain ⟨segments, hsegments, hreaches⟩ := select_eq_some_iff.mp hpath
  obtain _ | ⟨_, part, _, segment, segments, hleads, _⟩ := hreaches
  obtain ⟨_, name, _, hlookup⟩ := hleads
  obtain rfl : name = "a].b" := (lookup_singleton_eq_some_iff.mp hlookup).1
  have hwritable : Segment.IsWritable (.key "a].b") :=
    exists_parsePath?_iff.mp ⟨path, hsegments⟩ _ List.mem_cons_self
  exact absurd hwritable (by decide)

end Flowchart.Json
