import Flowchart.Json.Path
import Flowchart.Proofs.Decimal.Whole
import Flowchart.Proofs.Text.Search

/-!
# Paths as they are written

A path is written as a dollar sign and its segments, each in one of several ways
(`WrittenSegment`). Reading takes one written segment after the other (`segmentsFrom?_chars`) and so
gives back all of them (`parsePath?_pathText`). Selecting follows the segments step by step
(`follow?_eq_some_iff`), so that a written path selects what its segments lead to
(`select_pathText`).
-/

namespace Flowchart.Json

open Text (isBlank trimList)

/-! ## Writing -/

/-- A name that can be written behind a point: not empty, without points and opening brackets, and
without blanks at its ends. -/
structure IsPlainKey (name : String) : Prop where
  ne_empty : name ≠ ""
  no_delimiter : ∀ c ∈ name.toList, c ≠ '.' ∧ c ≠ '['
  trimmed : Text.trim name = name

/-- The marks between which a name may stand. -/
inductive QuoteMark where
  | single
  | double
  deriving DecidableEq, Repr

/-- The character of a mark. -/
def QuoteMark.char : QuoteMark → Char
  | single => '\''
  | double => '"'

/-- A segment as it is written: a name behind a point, a name between marks in brackets, or a number
in brackets with blanks around it. -/
inductive WrittenSegment where
  | dotted (name : String) (isPlain : IsPlainKey name)
  | quoted (mark : QuoteMark) (name : String) (not_mem : ']' ∉ name.toList)
  | numbered (before : List Char) (n : Nat) (after : List Char) (lt : n < 2 ^ 64)
      (blank_before : ∀ c ∈ before, isBlank c = true) (blank_after : ∀ c ∈ after, isBlank c = true)

namespace WrittenSegment

/-- The characters of a written segment. -/
def chars : WrittenSegment → List Char
  | dotted name _ => '.' :: name.toList
  | quoted mark name _ => '[' :: (mark.char :: (name.toList ++ [mark.char]) ++ [']'])
  | numbered before n after _ _ _ => '[' :: (before ++ ((toString n).toList ++ after) ++ [']'])

/-- The segment that is written. -/
def segment : WrittenSegment → Segment
  | dotted name _ | quoted _ name _ => .key name
  | numbered _ n _ _ _ _ => .index n

end WrittenSegment

/-- A written path. -/
def pathText (ws : List WrittenSegment) : String :=
  String.ofList ('$' :: ws.flatMap WrittenSegment.chars)

/-! ## Reading -/

variable {name : String} {mark : QuoteMark} {rest : List Char}

theorem toList_toString (n : Nat) : (toString n).toList = Nat.toDigits 10 n := by
  rw [Nat.toString_eq_ofList_toDigits, String.toList_ofList]

theorem QuoteMark.isBlank_char (mark : QuoteMark) : isBlank mark.char = false := by
  cases mark <;> decide

/-- What stands between marks is read whichever mark it is. -/
theorem ofBrackets?_quoted (mark : QuoteMark) (name : String) :
    Segment.ofBrackets? (mark.char :: (name.toList ++ [mark.char])) = some (.key name) := by
  have htrim := Text.trimList_enclosed mark.isBlank_char mark.isBlank_char name.toList
  have hbetween (quote : Char) : betweenQuotes? quote (mark.char :: (name.toList ++ [mark.char])) =
      if mark.char = quote then some name.toList else none := by
    simp only [betweenQuotes?, List.getLast?_concat, List.dropLast_concat]
    by_cases h : mark.char = quote <;> simp [h]
  simp only [Segment.ofBrackets?, htrim, hbetween]
  cases mark <;> simp [QuoteMark.char]

/-- Digits are no name between marks. -/
theorem betweenQuotes?_toDigits {quote : Char} (hquote : quote.isDigit = false) (n : Nat) :
    betweenQuotes? quote (Nat.toDigits 10 n) = none := by
  cases hdigits : Nat.toDigits 10 n with
  | nil => rfl
  | cons c cs =>
      have hc : c.isDigit = true :=
        Decimal.isDigit_of_mem_toDigits (n := n) (hdigits ▸ List.mem_cons_self)
      have hne : c ≠ quote := by
        rintro rfl
        rw [hc] at hquote
        cases hquote
      simp [betweenQuotes?, hne]

/-- A number with blanks around it is read as the number. -/
theorem ofBrackets?_numbered {before after : List Char} {n : Nat} (hn : n < 2 ^ 64)
    (hbefore : ∀ c ∈ before, isBlank c = true) (hafter : ∀ c ∈ after, isBlank c = true) :
    Segment.ofBrackets? (before ++ ((toString n).toList ++ after)) = some (.index n) := by
  have htrim : trimList (before ++ ((toString n).toList ++ after)) = Nat.toDigits 10 n := by
    rw [Text.trimList_surrounded hbefore hafter, toList_toString]
    rw [trimList_toString, toList_toString]
  have hsingle := betweenQuotes?_toDigits (show '\''.isDigit = false from rfl) n
  have hdouble := betweenQuotes?_toDigits (show '"'.isDigit = false from rfl) n
  simp only [Segment.ofBrackets?, htrim, hsingle, hdouble, Decimal.index?_toDigits hn]
  rfl

/-- What stands in brackets is read up to the first closing bracket. -/
theorem segmentsFrom?_bracket {inside : List Char} {segment : Segment} (hinside : ']' ∉ inside)
    (hsegment : Segment.ofBrackets? inside = some segment) (rest : List Char) (n : Nat) :
    segmentsFrom? (n + 1) ('[' :: (inside ++ ']' :: rest)) =
      (segmentsFrom? n rest).map (segment :: ·) := by
  rw [segmentsFrom?, if_pos rfl, Text.cut?_append_cons hinside]
  simp only [hsegment]
  cases segmentsFrom? n rest <;> rfl

/-- A name behind a point is read up to the next point or bracket. -/
theorem segmentsFrom?_dotted (hempty : name ≠ "")
    (hname : ∀ c ∈ name.toList, c ≠ '.' ∧ c ≠ '[')
    (hrest : ∀ c ∈ rest.head?, c = '.' ∨ c = '[') (n : Nat) :
    segmentsFrom? (n + 1) ('.' :: (name.toList ++ rest)) =
      (segmentsFrom? n rest).map (.key name :: ·) := by
  have hspan : (name.toList ++ rest).takeWhile (fun c => c ≠ '.' && c ≠ '[') = name.toList := by
    rw [List.takeWhile_append_of_pos fun c hc => by simpa using hname c hc]
    cases rest with
    | nil => simp
    | cons c cs =>
        have hc := hrest c rfl
        rw [List.takeWhile_cons_of_neg (by grind), List.append_nil]
  have hne : name.toList.isEmpty = false := by simpa using hempty
  rw [segmentsFrom?, if_neg (by decide)]
  simp only [if_true, hspan, List.drop_left, hne]
  cases segmentsFrom? n rest <;> simp

/-- Reading takes one written segment, whatever segments follow it. -/
theorem segmentsFrom?_chars (w : WrittenSegment) (hrest : ∀ c ∈ rest.head?, c = '.' ∨ c = '[')
    (n : Nat) : segmentsFrom? (n + 1) (w.chars ++ rest) =
      (segmentsFrom? n rest).map (w.segment :: ·) := by
  cases w with
  | dotted name hname =>
      exact segmentsFrom?_dotted hname.ne_empty hname.no_delimiter hrest n
  | quoted mark name hname =>
      have hinside : ']' ∉ mark.char :: (name.toList ++ [mark.char]) := by
        cases mark <;> simpa [QuoteMark.char] using hname
      simpa [WrittenSegment.chars, WrittenSegment.segment] using
        segmentsFrom?_bracket hinside (ofBrackets?_quoted mark name) rest n
  | numbered before k after hk hbefore hafter =>
      have hinside : ']' ∉ before ++ ((toString k).toList ++ after) := by
        intro hmem
        simp only [List.mem_append, toList_toString] at hmem
        rcases hmem with h | h | h
        · exact absurd (hbefore _ h) (by decide)
        · exact absurd (Decimal.isDigit_of_mem_toDigits h) (by decide)
        · exact absurd (hafter _ h) (by decide)
      simpa [WrittenSegment.chars, WrittenSegment.segment] using
        segmentsFrom?_bracket hinside (ofBrackets?_numbered hk hbefore hafter) rest n

/-- A written segment begins with a point or an opening bracket. -/
theorem head?_chars (w : WrittenSegment) : ∃ c, w.chars.head? = some c ∧ (c = '.' ∨ c = '[') := by
  cases w <;> simp [WrittenSegment.chars]

/-- What follows a written segment begins with a point or an opening bracket, if there is more. -/
theorem head?_flatMap_chars (ws : List WrittenSegment) :
    ∀ c ∈ (ws.flatMap WrittenSegment.chars).head?, c = '.' ∨ c = '[' := by
  cases ws with
  | nil => simp
  | cons w ws =>
      obtain ⟨d, hd, hdelimiter⟩ := head?_chars w
      intro c hc
      rw [List.flatMap_cons, List.head?_append, hd] at hc
      obtain rfl : d = c := Option.some.inj hc
      exact hdelimiter

/-- Written segments one after the other are read as the segments that were written. -/
theorem segmentsFrom?_flatMap_chars (ws : List WrittenSegment) {n : Nat} (hn : ws.length ≤ n) :
    segmentsFrom? n (ws.flatMap WrittenSegment.chars) = some (ws.map WrittenSegment.segment) := by
  induction ws generalizing n with
  | nil => cases n <;> rfl
  | cons w ws ih =>
      obtain ⟨n, rfl⟩ := Nat.exists_eq_add_one.mpr (Nat.zero_lt_of_lt hn)
      rw [List.flatMap_cons, segmentsFrom?_chars w (head?_flatMap_chars ws),
        ih (Nat.le_of_succ_le_succ hn)]
      rfl

/-- A written segment has no blanks at its ends. -/
theorem trimList_chars (w : WrittenSegment) : trimList w.chars = w.chars := by
  cases w with
  | dotted name hname =>
      have htrimmed : trimList name.toList = name.toList := by
        rw [← String.toList_ofList (l := trimList name.toList)]
        exact congrArg String.toList hname.trimmed
      exact Text.trimList_cons (by decide) htrimmed
  | quoted mark name _ => exact Text.trimList_enclosed (by decide) (by decide) _
  | numbered before n after _ _ _ => exact Text.trimList_enclosed (by decide) (by decide) _

theorem trimList_flatMap_chars (ws : List WrittenSegment) :
    trimList (ws.flatMap WrittenSegment.chars) = ws.flatMap WrittenSegment.chars := by
  induction ws with
  | nil => rfl
  | cons w ws ih => exact Text.trimList_append (trimList_chars w) ih

/-- There are no more pieces of a text than characters if no piece is empty. -/
theorem length_le_length_flatMap {α : Type} {f : α → List Char} (h : ∀ a, f a ≠ [])
    (as : List α) : as.length ≤ (as.flatMap f).length := by
  induction as with
  | nil => simp
  | cons a as ih =>
      have hpos := List.length_pos_iff.mpr (h a)
      rw [List.flatMap_cons, List.length_append, List.length_cons]
      omega

/-- A written path is read as the segments that were written. -/
theorem parsePath?_pathText (ws : List WrittenSegment) :
    Segment.parsePath? (pathText ws) = some (ws.map WrittenSegment.segment) := by
  have htrim : trimList (pathText ws).toList = '$' :: ws.flatMap WrittenSegment.chars := by
    rw [pathText, String.toList_ofList]
    exact Text.trimList_cons (by decide) (trimList_flatMap_chars ws)
  simp only [Segment.parsePath?, htrim]
  have hchars (w : WrittenSegment) : w.chars ≠ [] := by cases w <;> simp [WrittenSegment.chars]
  exact segmentsFrom?_flatMap_chars ws (Nat.le_succ_of_le (length_le_length_flatMap hchars ws))

example : Segment.parsePath? "$.user['odd key'][ 0]" =
    some [.key "user", .key "odd key", .index 0] := by decide

/-! ## Selecting -/

/-- A segment leads from a document to one of its parts: a name to a member of an object, a number
or a name that writes one to an element of an array. -/
inductive Value.Leads : Value → Segment → Value → Prop where
  | member (members : List (String × Value)) (name : String) (part : Value) :
      members.lookup name = some part → Leads (.object members) (.key name) part
  | element (elements : List Value) (n : Nat) (part : Value) :
      elements[n]? = some part → Leads (.array elements) (.index n) part
  | numbered (elements : List Value) (name : String) (n : Nat) (part : Value) :
      Decimal.WritesIndex name.toList n → elements[n]? = some part →
      Leads (.array elements) (.key name) part

/-- Segments lead one after the other from a document to a part of it. -/
inductive Value.Reaches : Value → List Segment → Value → Prop where
  | here (v : Value) : Reaches v [] v
  | onward (v part target : Value) (segment : Segment) (segments : List Segment) :
      v.Leads segment part → Reaches part segments target →
      Reaches v (segment :: segments) target

variable {v w : Value}

/-- One step selects where the segment leads. -/
theorem step?_eq_some_iff {segment : Segment} : v.step? segment = some w ↔ v.Leads segment w := by
  constructor
  · intro h
    unfold Value.step? at h
    split at h
    case h_1 name members => exact .member members name w h
    case h_2 name elements =>
      obtain ⟨n, hn, hw⟩ := Option.bind_eq_some_iff.mp h
      exact .numbered elements name n w (Decimal.index?_eq_some_iff.mp hn) hw
    case h_3 n elements => exact .element elements n w h
    case h_4 => cases h
  · rintro (⟨members, name, _, h⟩ | ⟨elements, n, _, h⟩ | ⟨elements, name, n, _, hn, h⟩)
    · exact h
    · exact h
    · exact Option.bind_eq_some_iff.mpr ⟨n, Decimal.index?_eq_some_iff.mpr hn, h⟩

/-- Following segments selects what they lead to. -/
theorem follow?_eq_some_iff {segments : List Segment} :
    v.follow? segments = some w ↔ v.Reaches segments w := by
  induction segments generalizing v with
  | nil =>
      constructor
      · intro h
        obtain rfl : v = w := Option.some.inj h
        exact .here v
      · rintro ⟨⟩
        rfl
  | cons segment segments ih =>
      rw [Value.follow?, List.foldlM_cons, Option.bind_eq_bind, Option.bind_eq_some_iff]
      constructor
      · rintro ⟨part, hstep, hrest⟩
        exact .onward v part w segment segments (step?_eq_some_iff.mp hstep) (ih.mp hrest)
      · rintro (_ | ⟨_, part, _, _, _, hleads, hreaches⟩)
        exact ⟨part, step?_eq_some_iff.mpr hleads, ih.mpr hreaches⟩

/-- A written path is read as the segments that were written, and selects in every document what
they lead to one after the other, or nothing if one of them leads nowhere. -/
theorem select_pathText (ws : List WrittenSegment) :
    Segment.parsePath? (pathText ws) = some (ws.map WrittenSegment.segment) ∧
    ∀ v : Value,
      (∀ w, v.select (pathText ws) = some w ↔ v.Reaches (ws.map WrittenSegment.segment) w) ∧
      (v.select (pathText ws) = none ↔ ¬ ∃ w, v.Reaches (ws.map WrittenSegment.segment) w) := by
  refine ⟨parsePath?_pathText ws, fun v => ?_⟩
  have hselect : v.select (pathText ws) = v.follow? (ws.map WrittenSegment.segment) := by
    rw [Value.select, parsePath?_pathText]
    rfl
  refine ⟨fun w => by rw [hselect, follow?_eq_some_iff], ?_⟩
  rw [hselect, Option.eq_none_iff_forall_ne_some]
  simp [follow?_eq_some_iff]

end Flowchart.Json
