import Flowchart.Proofs.Json.Compact

/-!
# Numbers in texts

A document with other numbers has the same text exactly if each of its numbers has the same text as
the one in its place (`scalarText_mapNumbers_eq_iff`). For no text of a number has a comma or a
closing bracket in it (`isNumberChar_of_mem_text`), so that from the text of a document it can be
told where each number ends.
-/

namespace Flowchart.Json

open Decimal (Layout natDigits Digits)

variable {n : Number} {v : Value} {f : Number → Number}

/-! ## Characters of numbers -/

/-- The characters of which texts of numbers are made. -/
def isNumberChar (c : Char) : Bool := c.isDigit || ['+', '-', '.', 'e', 'l', 'n', 'u'].contains c

theorem isNumberChar_of_mem_toDigits {c : Char} {n : Nat} (h : c ∈ Nat.toDigits 10 n) :
    isNumberChar c = true := by
  rw [isNumberChar, Decimal.isDigit_of_mem_toDigits h, Bool.true_or]

theorem isNumberChar_of_mem_positionalText {c : Char} {d : Digits}
    (h : c ∈ Layout.document.positionalText d) : isNumberChar c = true := by
  have hdigits (hc : c ∈ natDigits d.digits) : isNumberChar c = true :=
    isNumberChar_of_mem_toDigits hc
  have hsuffix : ∀ c ∈ Layout.document.wholeSuffix.toList, isNumberChar c = true :=
    List.all_eq_true.mp rfl
  simp only [Layout.positionalText] at h
  split at h
  case h_1 =>
    simp only [List.mem_append, List.mem_replicate] at h
    rcases h with (h | ⟨-, rfl⟩) | h
    exacts [hdigits h, rfl, hsuffix c h]
  case h_2 =>
    split at h
    case isTrue =>
      simp only [List.mem_append, List.mem_cons] at h
      rcases h with h | rfl | h
      exacts [hdigits (List.mem_of_mem_take h), rfl, hdigits (List.mem_of_mem_drop h)]
    case isFalse =>
      simp only [List.cons_append, List.mem_append, List.mem_cons, List.mem_replicate] at h
      rcases h with rfl | rfl | ⟨-, rfl⟩ | h
      exacts [rfl, rfl, rfl, hdigits h]

theorem isNumberChar_of_mem_exponentText {c : Char} {d : Digits}
    (h : c ∈ Decimal.exponentText d) : isNumberChar c = true := by
  have hdigits {n : Nat} (hc : c ∈ natDigits n) : isNumberChar c = true :=
    isNumberChar_of_mem_toDigits hc
  have hmark {e : Int} : ∀ c ∈ if e < 0 then ['e', '-'] else ['e', '+'],
      isNumberChar c = true := by
    split <;> exact List.all_eq_true.mp rfl
  simp only [Decimal.exponentText, List.mem_append] at h
  rcases h with ((hfirst | hmore) | hsign) | hexponent
  · exact hdigits (List.mem_of_mem_take hfirst)
  · split at hmore
    case isTrue => cases hmore
    case isFalse =>
      rcases List.mem_cons.mp hmore with rfl | hmore
      exacts [rfl, hdigits (List.mem_of_mem_drop hmore)]
  · exact hmark c hsign
  · exact hdigits hexponent

theorem isNumberChar_of_mem_digitsText {c : Char} {d : Digits}
    (h : c ∈ Layout.document.digitsText d) : isNumberChar c = true := by
  simp only [Layout.digitsText] at h
  split at h
  case isTrue => exact isNumberChar_of_mem_positionalText h
  case isFalse => exact isNumberChar_of_mem_exponentText h

/-- The text of a number is made of such characters. -/
theorem isNumberChar_of_mem_text {c : Char} (h : c ∈ n.text.toList) : isNumberChar c = true := by
  have hnull : ∀ c ∈ Layout.document.nanText.toList, isNumberChar c = true :=
    List.all_eq_true.mp rfl
  have hzero : ∀ c ∈ '0' :: Layout.document.wholeSuffix.toList, isNumberChar c = true :=
    List.all_eq_true.mp rfl
  have hsigned {negative : Bool} {cs : List Char} (hcs : ∀ c ∈ cs, isNumberChar c = true)
      (h : c ∈ (String.ofList ((if negative then ['-'] else []) ++ cs)).toList) :
      isNumberChar c = true := by
    rw [String.toList_ofList, List.mem_append] at h
    rcases h with h | h
    · cases negative
      · cases h
      · obtain rfl := List.mem_singleton.mp h
        rfl
    · exact hcs c h
  obtain (k | k) | x := n
  · rw [toList_text_ofNat] at h
    exact isNumberChar_of_mem_toDigits h
  · rw [toList_text_negSucc] at h
    rcases List.mem_cons.mp h with rfl | h
    exacts [rfl, isNumberChar_of_mem_toDigits h]
  · simp only [Number.text, Layout.write] at h
    split at h
    case isTrue => exact hnull c h
    case isFalse =>
      split at h
      case isTrue => exact hsigned hnull h
      case isFalse =>
        split at h
        case isTrue => exact hsigned hzero h
        case isFalse => exact hsigned (fun _ => isNumberChar_of_mem_digitsText) h

/-- Texts without such characters end where one follows. -/
theorem append_inj_of_delimits {as bs rest rest' : List Char}
    (has : ∀ c ∈ as, isNumberChar c = true) (hbs : ∀ c ∈ bs, isNumberChar c = true)
    (hrest : Delimits rest) (hrest' : Delimits rest') (h : as ++ rest = bs ++ rest') :
    as = bs ∧ rest = rest' := by
  have hspan {cs rest : List Char} (hcs : ∀ c ∈ cs, isNumberChar c = true)
      (hrest : Delimits rest) : (cs ++ rest).takeWhile isNumberChar = cs := by
    rw [List.takeWhile_append_of_pos hcs]
    cases rest with
    | nil => simp
    | cons c rest =>
        have hc : isNumberChar c = false := by
          rcases hrest c rfl with rfl | rfl | rfl <;> rfl
        simp [hc]
  have hsame : as = bs := by rw [← hspan has hrest, h, hspan hbs hrest']
  subst hsame
  exact ⟨rfl, List.append_cancel_left h⟩

/-! ## Documents -/

/-- Two lists of parts, written with commas between them up to a closing character, are told apart
part by part. -/
theorem joined_inj {α : Type} {as : List α} {text text' : α → List Char} {P : α → Prop}
    {closing : Char} (hclosing : closing = ']' ∨ closing = '\x7d')
    (h : ∀ a ∈ as, ∀ rest rest', Delimits rest → Delimits rest' →
      text a ++ rest = text' a ++ rest' → P a ∧ rest = rest')
    {first : Bool} {rest rest' : List Char}
    (heq : joined first (as.map text) ++ closing :: rest =
      joined first (as.map text') ++ closing :: rest') :
    (∀ a ∈ as, P a) ∧ rest = rest' := by
  induction as generalizing first with
  | nil =>
      rw [List.map_nil, List.map_nil, joined, List.nil_append, List.nil_append] at heq
      exact ⟨by simp, List.tail_eq_of_cons_eq heq⟩
  | cons a as ih =>
      obtain ⟨ha, has⟩ := List.forall_mem_cons.mp h
      have hparts : text a ++ (joined false (as.map text) ++ closing :: rest) =
          text' a ++ (joined false (as.map text') ++ closing :: rest') := by
        cases first <;> simpa [joined] using heq
      obtain ⟨hfirst, hmore⟩ := ha _ _ (Reader.delimits_joined hclosing _ rest)
        (Reader.delimits_joined hclosing _ rest') hparts
      obtain ⟨hall, hrest⟩ := ih has hmore
      exact ⟨List.forall_mem_cons.mpr ⟨hfirst, hall⟩, hrest⟩

/-- From a text it can be told what texts the numbers in a document have. -/
theorem text_eq_of_compactChars_eq {rest rest' : List Char} (hrest : Delimits rest)
    (hrest' : Delimits rest')
    (h : (v.mapNumbers f).compactChars ++ rest = v.compactChars ++ rest') :
    (∀ n ∈ v.numbers, (f n).text = n.text) ∧ rest = rest' := by
  induction v using Value.inductionOnParts generalizing rest rest' with
  | null | bool | string => exact ⟨by simp [Value.numbers], List.append_cancel_left h⟩
  | number n =>
      obtain ⟨htext, hsame⟩ := append_inj_of_delimits (fun _ => isNumberChar_of_mem_text)
        (fun _ => isNumberChar_of_mem_text) hrest hrest' h
      refine ⟨?_, hsame⟩
      simpa [Value.numbers] using String.toList_inj.mp htext
  | array vs ih =>
      rw [Value.mapNumbers, array_compactChars_append, array_compactChars_append,
        elementsMapNumbers_eq_map, compactElements_eq_joined, compactElements_eq_joined,
        List.map_map] at h
      obtain ⟨hall, hsame⟩ := joined_inj (Or.inl rfl)
        (fun w hw rest rest' hrest hrest' => ih w hw hrest hrest') (List.tail_eq_of_cons_eq h)
      refine ⟨?_, hsame⟩
      simpa [Value.numbers, elementsNumbers_eq_flatMap] using fun n w hw => hall w hw n
  | object ms ih =>
      rw [Value.mapNumbers, object_compactChars_append, object_compactChars_append,
        membersMapNumbers_eq_map, compactMembers_eq_joined, compactMembers_eq_joined,
        List.map_map] at h
      have hmember : ∀ m ∈ ms, ∀ rest rest', Delimits rest → Delimits rest' →
          (memberChars ∘ fun m => (m.1, m.2.mapNumbers f)) m ++ rest = memberChars m ++ rest' →
          (∀ n ∈ m.2.numbers, (f n).text = n.text) ∧ rest = rest' := by
        intro m hm rest rest' hrest hrest' heq
        simp only [Function.comp, memberChars, List.append_assoc] at heq
        exact ih m hm hrest hrest' (List.tail_eq_of_cons_eq (List.append_cancel_left heq))
      obtain ⟨hall, hsame⟩ := joined_inj (Or.inr rfl) hmember (List.tail_eq_of_cons_eq h)
      refine ⟨?_, hsame⟩
      simpa [Value.numbers, membersNumbers_eq_flatMap] using fun n name w hm => hall (name, w) hm n

/-- Numbers with the same texts make the same text. -/
theorem compactChars_mapNumbers (h : ∀ n ∈ v.numbers, (f n).text = n.text) :
    (v.mapNumbers f).compactChars = v.compactChars := by
  induction v using Value.inductionOnParts with
  | null | bool | string => rfl
  | number n => exact congrArg String.toList (h n (by simp [Value.numbers]))
  | array vs ih =>
      rw [Value.numbers, elementsNumbers_eq_flatMap] at h
      have hparts : (vs.map (Value.mapNumbers f)).map Value.compactChars =
          vs.map Value.compactChars := by
        rw [List.map_map]
        exact List.map_congr_left fun w hw =>
          ih w hw fun n hn => h n (List.mem_flatMap.mpr ⟨w, hw, hn⟩)
      rw [Value.mapNumbers, elementsMapNumbers_eq_map, Value.compactChars, Value.compactChars,
        compactElements_eq_joined, compactElements_eq_joined, hparts]
  | object ms ih =>
      rw [Value.numbers, membersNumbers_eq_flatMap] at h
      have hparts : (ms.map fun m => (m.1, m.2.mapNumbers f)).map memberChars =
          ms.map memberChars := by
        rw [List.map_map]
        refine List.map_congr_left fun m hm => ?_
        rw [Function.comp, memberChars, ih m hm fun n hn => h n (List.mem_flatMap.mpr ⟨m, hm, hn⟩),
          memberChars]
      rw [Value.mapNumbers, membersMapNumbers_eq_map, Value.compactChars, Value.compactChars,
        compactMembers_eq_joined, compactMembers_eq_joined, hparts]

/-- A document with other numbers has the same text just if all numbers have the same texts. -/
theorem scalarText_mapNumbers_eq_iff :
    (v.mapNumbers f).scalarText = v.scalarText ↔ ∀ n ∈ v.numbers, (f n).text = n.text := by
  have hcompact : (v.mapNumbers f).compact = v.compact ↔ ∀ n ∈ v.numbers, (f n).text = n.text := by
    rw [Value.compact, Value.compact, String.ofList_inj]
    refine ⟨fun h => ?_, compactChars_mapNumbers⟩
    exact (text_eq_of_compactChars_eq delimits_nil delimits_nil (congrArg (· ++ []) h)).1
  cases v with
  | null | bool | string => simp [Value.mapNumbers, Value.numbers, Value.scalarText]
  | number n => simp [Value.mapNumbers, Value.numbers, Value.scalarText]
  | array vs => exact hcompact
  | object ms => exact hcompact

end Flowchart.Json
