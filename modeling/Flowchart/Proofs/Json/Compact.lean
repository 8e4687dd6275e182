import Flowchart.Proofs.Json.Reads

/-!
# What is printed is read

The compact form of a document is read as that document, provided that it has less than
`depthLimit` levels and only whole numbers (`Value.ofText_compact`). Where numbers are read as
others, it is read as the document with those in their places (`Value.ofText_compact_mapNumbers`).
The readers for documents, arrays and objects are given what they read part by part;
`reads_elements` and `reads_members` are about any reader for the parts.
-/

namespace Flowchart.Json

/-- Parts of a text with commas between them; after others there is a comma before the first one
too. -/
def joined : Bool → List (List Char) → List Char
  | _, [] => []
  | true, part :: parts => part ++ joined false parts
  | false, part :: parts => ',' :: part ++ joined false parts

/-- The text of a member of an object. -/
def memberChars (m : String × Value) : List Char := stringText m.1 ++ ':' :: m.2.compactChars

/-- The elements of an array are written with commas between them. -/
theorem compactElements_eq_joined (vs : List Value) :
    compactElements vs = joined true (vs.map Value.compactChars) := by
  have hmore (v : Value) (vs : List Value) :
      compactElements (v :: vs) = v.compactChars ++ joined false (vs.map Value.compactChars) := by
    induction vs generalizing v with
    | nil => rw [compactElements, List.map_nil, joined, List.append_nil]
    | cons w rest ih => rw [compactElements, ih, List.map_cons, joined, List.cons_append]
  cases vs with
  | nil => rfl
  | cons v vs => exact hmore v vs

/-- The members of an object are written with commas between them. -/
theorem compactMembers_eq_joined (ms : List (String × Value)) :
    compactMembers ms = joined true (ms.map memberChars) := by
  have hmore (m : String × Value) (ms : List (String × Value)) :
      compactMembers (m :: ms) = memberChars m ++ joined false (ms.map memberChars) := by
    induction ms generalizing m with
    | nil => rw [compactMembers, List.map_nil, joined, List.append_nil, memberChars]
    | cons n rest ih =>
        rw [compactMembers, ih, List.map_cons, joined]
        simp [memberChars]
  cases ms with
  | nil => rfl
  | cons m ms => exact hmore m ms

/-- There are at least as many commas as there are parts, but for one. -/
theorem length_le_joined (first : Bool) (parts : List (List Char)) :
    parts.length ≤ (joined first parts).length + 1 := by
  have hcommas (parts : List (List Char)) : parts.length ≤ (joined false parts).length := by
    induction parts with
    | nil => exact Nat.zero_le _
    | cons part parts ih =>
        simp only [joined, List.length_append, List.length_cons]
        omega
  cases first with
  | false => exact (hcommas parts).trans (Nat.le_succ _)
  | true =>
      cases parts with
      | nil => exact Nat.zero_le _
      | cons part parts =>
          have := hcommas parts
          simp only [joined, List.length_append, List.length_cons]
          omega

/-- An array is written between brackets. -/
theorem array_compactChars_append (vs : List Value) (rest : List Char) :
    (Value.array vs).compactChars ++ rest = '[' :: (compactElements vs ++ ']' :: rest) := by
  rw [Value.compactChars]
  simp

/-- An object is written between braces. -/
theorem object_compactChars_append (ms : List (String × Value)) (rest : List Char) :
    (Value.object ms).compactChars ++ rest = '\x7b' :: (compactMembers ms ++ '\x7d' :: rest) := by
  rw [Value.compactChars]
  simp

/-- A natural number is written with its digits. -/
theorem toList_text_ofNat (n : Nat) :
    (Number.integer (Int.ofNat n)).text.toList = Nat.toDigits 10 n := by
  show (Nat.repr n).toList = _
  rw [Nat.repr_eq_ofList_toDigits, String.toList_ofList]

/-- A negative number is written with the digits of its amount after a sign. -/
theorem toList_text_negSucc (n : Nat) :
    (Number.integer (Int.negSucc n)).text.toList = '-' :: Nat.toDigits 10 (n + 1) := by
  show ("-" ++ Nat.repr (n + 1)).toList = _
  rw [String.toList_append, Nat.repr_eq_ofList_toDigits]
  show '-' :: (String.ofList _).toList = _
  rw [String.toList_ofList]

/-- The digits of a number start with a digit. -/
theorem exists_toDigits_eq_cons (n : Nat) :
    ∃ d ds, Nat.toDigits 10 n = d :: ds ∧ d.isDigit = true := by
  cases hds : Nat.toDigits 10 n with
  | nil => exact absurd hds Nat.toDigits_ne_nil
  | cons d ds => exact ⟨d, ds, rfl, Decimal.isDigit_of_mem_toDigits (hds ▸ List.mem_cons_self)⟩

/-- A digit is no blank. -/
theorem isSpace_of_isDigit {c : Char} (h : c.isDigit = true) : isSpace c = false := by
  by_contra hspace
  simp only [isSpace, Bool.not_eq_false, Bool.or_eq_true, decide_eq_true_eq] at hspace
  rcases hspace with ((rfl | rfl) | rfl) | rfl <;> cases h

/-- Some characters begin with a token that is no closing bracket. -/
def BeginsToken (cs : List Char) : Prop :=
  ∃ c rest, cs = c :: rest ∧ isSpace c = false ∧ c ≠ ']'

/-- What begins with a digit begins with a token. -/
theorem beginsToken_of_isDigit {d : Char} (h : d.isDigit = true) (ds : List Char) :
    BeginsToken (d :: ds) := by
  refine ⟨d, ds, rfl, isSpace_of_isDigit h, ?_⟩
  rintro rfl
  cases h

/-- A whole number begins with a token. -/
theorem beginsToken_integer (n : Int) : BeginsToken (Number.integer n).text.toList := by
  cases n with
  | ofNat n =>
      obtain ⟨d, ds, hds, hdigit⟩ := exists_toDigits_eq_cons n
      rw [toList_text_ofNat, hds]
      exact beginsToken_of_isDigit hdigit ds
  | negSucc n =>
      rw [toList_text_negSucc]
      exact ⟨_, _, rfl, by decide, by decide⟩

/-- A document begins with a token if it does so in case that it is a number. -/
theorem Value.beginsToken {v : Value} (h : ∀ n, v = .number n → BeginsToken n.text.toList) :
    BeginsToken v.compactChars := by
  cases v with
  | null => exact ⟨_, _, rfl, by decide, by decide⟩
  | bool b => cases b <;> exact ⟨_, _, rfl, by decide, by decide⟩
  | string s => exact ⟨_, _, rfl, by decide, by decide⟩
  | array vs => exact ⟨_, _, rfl, by decide, by decide⟩
  | object ms => exact ⟨_, _, rfl, by decide, by decide⟩
  | number n => exact h n rfl

/-- A document that fits begins with a token. -/
theorem Value.Fits.beginsToken {v : Value} {levels : Nat} (h : v.Fits levels) :
    BeginsToken v.compactChars := by
  refine Value.beginsToken ?_
  rintro (n | x) rfl
  · exact beginsToken_integer n
  · cases h.2

namespace Reader

variable {α : Type} {element value : Reader α} {vs : List Value} {ms : List (String × Value)}
  {as : List α} {bs : List (String × α)} {turns : Nat} {rest : List Char}

/-! ## Elements and members -/

/-- An array goes on with another element. -/
theorem reads_hasElement {part : List Char} (h : BeginsToken part) (first : Bool)
    (parts : List (List Char)) (rest : List Char) :
    (hasElement first).Reads (joined first (part :: parts) ++ rest) true
      (part ++ (joined false parts ++ rest)) := by
  obtain ⟨c, more, rfl, hspace, hne⟩ := h
  cases first with
  | true =>
      rw [joined, List.append_assoc]
      refine (reads_nextToken? hspace).bind ?_
      split
      case h_1 heq => cases heq
      case h_2 heq => exact absurd (Option.some.inj heq) hne
      case h_3 => exact .pure true _
  | false =>
      rw [joined, List.append_assoc]
      refine (reads_nextToken? rfl).bind (reads_skip.bind ((reads_nextToken? hspace).bind ?_))
      split
      case h_1 heq => cases heq
      case h_2 heq => exact absurd (Option.some.inj heq) hne
      case h_3 => exact .pure true _

/-- An array does not go on after its bracket. -/
theorem reads_hasElement_last (first : Bool) (rest : List Char) :
    (hasElement first).Reads (']' :: rest) false (']' :: rest) :=
  (reads_nextToken? rfl).bind (.pure false _)

/-- An object goes on with another member. -/
theorem reads_hasMember (first : Bool) (m : String × Value) (parts : List (List Char))
    (rest : List Char) :
    (hasMember first).Reads (joined first (memberChars m :: parts) ++ rest) true
      (memberChars m ++ (joined false parts ++ rest)) := by
  cases first with
  | true =>
      rw [joined, List.append_assoc]
      exact (reads_nextToken? rfl).bind (.pure true _)
  | false =>
      rw [joined, List.append_assoc]
      exact (reads_nextToken? rfl).bind
        (reads_skip.bind ((reads_nextToken? rfl).bind (.pure true _)))

/-- An object does not go on after its brace. -/
theorem reads_hasMember_last (first : Bool) (rest : List Char) :
    (hasMember first).Reads ('\x7d' :: rest) false ('\x7d' :: rest) :=
  (reads_nextToken? rfl).bind (.pure false _)

/-- The text of a document is read to a result, whatever ends it. -/
def ReadsValue (reader : Reader α) (v : Value) (a : α) : Prop :=
  BeginsToken v.compactChars ∧
    ∀ rest, Delimits rest → reader.Reads (v.compactChars ++ rest) a rest

/-- The name and the value of a member are read to results. -/
def ReadsMember (value : Reader α) (m : String × Value) (b : String × α) : Prop :=
  b.1 = m.1 ∧ value.ReadsValue m.2 b.2

/-- After some parts come others after a comma, or what closes an array or object. -/
theorem delimits_joined {closing : Char} (h : closing = ']' ∨ closing = '\x7d')
    (parts : List (List Char)) (rest : List Char) :
    Delimits (joined false parts ++ closing :: rest) := by
  cases parts with
  | nil =>
      intro c hc
      obtain rfl := Option.mem_some.mp hc
      exact Or.inr h
  | cons part parts => exact delimits_comma _

/-- The elements of an array are read up to its bracket. -/
theorem reads_elements (h : List.Forall₂ element.ReadsValue vs as) (hturns : vs.length < turns)
    (first : Bool) (rest : List Char) :
    (elements element turns first).Reads
      (joined first (vs.map Value.compactChars) ++ ']' :: rest) as (']' :: rest) := by
  induction h generalizing turns first with
  | nil =>
      obtain ⟨turns, rfl⟩ := Nat.exists_eq_add_one_of_ne_zero hturns.ne'
      cases first <;> exact (reads_hasElement_last _ rest).bind (.pure [] _)
  | @cons v a vs as hv _ ih =>
      obtain ⟨turns, rfl⟩ := Nat.exists_eq_add_one_of_ne_zero (Nat.ne_zero_of_lt hturns)
      have hvalue := hv.2 _ (delimits_joined (Or.inl rfl) (vs.map Value.compactChars) rest)
      have hmore := ih (Nat.lt_of_succ_lt_succ hturns) false
      exact (reads_hasElement hv.1 first _ _).bind (hvalue.bind (hmore.bind (.pure _ _)))

/-- The members of an object are read up to its brace. -/
theorem reads_members (h : List.Forall₂ value.ReadsMember ms bs) (hturns : ms.length < turns)
    (first : Bool) (rest : List Char) :
    (members value turns first).Reads (joined first (ms.map memberChars) ++ '\x7d' :: rest) bs
      ('\x7d' :: rest) := by
  induction h generalizing turns first with
  | nil =>
      obtain ⟨turns, rfl⟩ := Nat.exists_eq_add_one_of_ne_zero hturns.ne'
      cases first <;> exact (reads_hasMember_last _ rest).bind (.pure [] _)
  | @cons m b ms bs hm _ ih =>
      obtain ⟨turns, rfl⟩ := Nat.exists_eq_add_one_of_ne_zero (Nat.ne_zero_of_lt hturns)
      obtain ⟨a, rfl⟩ : ∃ a, b = (m.1, a) := ⟨b.2, Prod.ext hm.1 rfl⟩
      have hvalue := hm.2.2 _ (delimits_joined (Or.inr rfl) (ms.map memberChars) rest)
      have hmore := ih (Nat.lt_of_succ_lt_succ hturns) false
      refine (reads_hasMember first m _ _).bind ?_
      rw [memberChars, List.append_assoc]
      exact (reads_name m.1 _).bind (reads_colon.bind (hvalue.bind (hmore.bind (.pure _ _))))

/-- The number of characters left is enough for all elements of an array. -/
theorem reads_allElements (h : List.Forall₂ element.ReadsValue vs as) (rest : List Char) :
    (enclosed (elements element (2 * (compactElements vs ++ ']' :: rest).length + 2) true)
      endArray).Reads (compactElements vs ++ ']' :: rest) as rest := by
  have hlength := length_le_joined true (vs.map Value.compactChars)
  rw [compactElements_eq_joined]
  refine (reads_elements h ?_ true rest).enclosed reads_endArray
  simp only [List.length_append, List.length_cons, List.length_map] at hlength ⊢
  omega

/-- The number of characters left is enough for all members of an object. -/
theorem reads_allMembers (h : List.Forall₂ value.ReadsMember ms bs) (rest : List Char) :
    (enclosed (members value (2 * (compactMembers ms ++ '\x7d' :: rest).length + 2) true)
      endObject).Reads (compactMembers ms ++ '\x7d' :: rest) bs rest := by
  have hlength := length_le_joined true (ms.map memberChars)
  rw [compactMembers_eq_joined]
  refine (reads_members h ?_ true rest).enclosed reads_endObject
  simp only [List.length_append, List.length_cons, List.length_map] at hlength ⊢
  omega

/-! ## Documents -/

/-- A negative number in range is exact. -/
theorem wholeNumber_succ {n : Nat} (h : n + 1 ≤ 0x8000000000000000) :
    wholeNumber true (n + 1) = .integer (Int.negSucc n) := by
  simp only [wholeNumber]
  rw [if_neg (by decide), if_neg (by simp; omega)]
  rfl

variable {assemble : List (String × Value) → List (String × Value)} {n : Number}

/-- A number that begins with a digit is read as a document. -/
theorem reads_document_digit {d : Char} {ds : List Char} (hdigit : d.isDigit = true)
    (h : (number false).Reads (d :: ds) n rest) (depth : Nat) :
    (document assemble (depth + 1)).Reads (d :: ds) (.number n) rest := by
  refine (reads_nextToken? (isSpace_of_isDigit hdigit)).bind ?_
  split
  case h_1 heq => cases heq
  case h_9 heq =>
    obtain rfl := Option.some.inj heq
    rw [if_pos hdigit]
    exact h.bind (.pure _ rest)
  -- No other kind of document begins with a digit.
  all_goals
    rename_i heq
    obtain rfl := Option.some.inj heq
    cases hdigit

/-- A number with a sign is read as a document. -/
theorem reads_document_minus {cs : List Char} (h : (number true).Reads cs n rest) (depth : Nat) :
    (document assemble (depth + 1)).Reads ('-' :: cs) (.number n) rest :=
  (reads_nextToken? rfl).bind (reads_skip.bind (h.bind (.pure _ rest)))

/-- The text of a number is read as the document of another number, whatever ends it. -/
structure ReadsNumber (n m : Number) : Prop where
  beginsToken : BeginsToken n.text.toList
  reads : ∀ assemble depth rest, Delimits rest →
    (document assemble (depth + 1)).Reads (n.text.toList ++ rest) (.number m) rest

/-- A whole number is read as itself. -/
theorem readsNumber_of_isWhole (h : n.IsWhole) : ReadsNumber n n := by
  obtain n | x := n
  case double => cases h
  refine ⟨beginsToken_integer n, fun assemble depth rest hrest => ?_⟩
  obtain ⟨hlow, hhigh⟩ := h
  cases n with
  | ofNat n =>
      have hread := reads_number false (Int.ofNat_le.mp hhigh) hrest
      obtain ⟨d, ds, hds, hdigit⟩ := exists_toDigits_eq_cons n
      rw [toList_text_ofNat]
      rw [hds] at hread ⊢
      exact reads_document_digit hdigit hread depth
  | negSucc n =>
      have hmax : n + 1 ≤ maxWord := by
        unfold maxWord
        omega
      have hread := reads_number true hmax hrest
      rw [wholeNumber_succ (by omega)] at hread
      rw [toList_text_negSucc]
      exact reads_document_minus hread depth

/-- Objects are assembled as they stand, or in order if the members of all objects in a document are
in order. -/
def Keeps (assemble : List (String × Value) → List (String × Value)) (v : Value) : Prop :=
  assemble = id ∨ assemble = Dictionary.ofList ∧ v.IsOrdered

/-- A document is read from its compact form as the document with the numbers that its own ones are
read as. -/
theorem reads_document_mapNumbers {P : Number → Prop} {f : Number → Number}
    (hnumber : ∀ n, P n → ReadsNumber n (f n)) {v : Value} (hkeeps : Keeps assemble v)
    {levels depth : Nat} (hwithin : v.IsWithin P levels) (hdepth : levels ≤ depth) :
    (document assemble depth).ReadsValue v (v.mapNumbers f) := by
  induction v using Value.inductionOnParts generalizing levels depth with
  | null =>
      obtain ⟨depth, rfl⟩ := Nat.exists_eq_add_of_le' (hwithin.trans hdepth)
      exact ⟨Value.beginsToken (by simp), fun rest _ => (reads_nextToken? rfl).bind
        ((reads_skip.bind (reads_literal _ rest)).bind (.pure _ rest))⟩
  | bool b =>
      obtain ⟨depth, rfl⟩ := Nat.exists_eq_add_of_le' (hwithin.trans hdepth)
      refine ⟨Value.beginsToken (by simp), fun rest _ => ?_⟩
      cases b <;>
        exact (reads_nextToken? rfl).bind
          ((reads_skip.bind (reads_literal _ rest)).bind (.pure _ rest))
  | number n =>
      obtain ⟨hlevels, hn⟩ := hwithin
      obtain ⟨depth, rfl⟩ := Nat.exists_eq_add_of_le' (hlevels.trans hdepth)
      exact ⟨(hnumber n hn).beginsToken, (hnumber n hn).reads assemble depth⟩
  | string s =>
      obtain ⟨depth, rfl⟩ := Nat.exists_eq_add_of_le' (hwithin.trans hdepth)
      exact ⟨Value.beginsToken (by simp), fun rest _ => (reads_nextToken? rfl).bind
        ((reads_name s rest).bind (.pure _ rest))⟩
  | array vs ih =>
      obtain ⟨hlevels, helements⟩ := hwithin
      obtain ⟨depth, rfl⟩ := Nat.exists_eq_add_of_le' (hlevels.trans hdepth)
      rw [elementsWithin_iff] at helements
      have hparts : List.Forall₂ (document assemble (depth + 1)).ReadsValue vs
          (vs.map (Value.mapNumbers f)) := by
        refine List.forall₂_map_right_iff.mpr (List.forall₂_same.mpr fun w hw => ?_)
        have hinside := hkeeps.imp_right fun h => And.intro h.1 (elementsOrdered_iff.mp h.2 w hw)
        exact ih w hw hinside (helements w hw) (by omega)
      refine ⟨Value.beginsToken (by simp), fun rest _ => ?_⟩
      rw [array_compactChars_append, Value.mapNumbers, elementsMapNumbers_eq_map]
      exact (reads_nextToken? rfl).bind (reads_skip.bind (reads_fuel.bind
        ((reads_allElements hparts rest).bind (.pure _ rest))))
  | object ms ih =>
      obtain ⟨hlevels, hmembers⟩ := hwithin
      obtain ⟨depth, rfl⟩ := Nat.exists_eq_add_of_le' (hlevels.trans hdepth)
      rw [membersWithin_iff] at hmembers
      have hparts : List.Forall₂ (document assemble (depth + 1)).ReadsMember ms
          (membersMapNumbers f ms) := by
        rw [membersMapNumbers_eq_map]
        refine List.forall₂_map_right_iff.mpr (List.forall₂_same.mpr fun m hm => ⟨rfl, ?_⟩)
        have hinside := hkeeps.imp_right fun h => And.intro h.1 (membersOrdered_iff.mp h.2.2 m hm)
        exact ih m hm hinside (hmembers m hm) (by omega)
      have hassemble : assemble (membersMapNumbers f ms) = membersMapNumbers f ms := by
        rcases hkeeps with rfl | ⟨rfl, hordered, _⟩
        · rfl
        · exact (sorted_membersMapNumbers hordered).ofList_eq
      refine ⟨Value.beginsToken (by simp), fun rest _ => ?_⟩
      rw [object_compactChars_append, Value.mapNumbers]
      refine (reads_nextToken? rfl).bind (reads_skip.bind (reads_fuel.bind
        ((reads_allMembers hparts rest).bind ?_)))
      rw [hassemble]
      exact .pure _ rest

/-- A document with whole numbers is read from its compact form. -/
theorem reads_document {v : Value} (hkeeps : Keeps assemble v) {levels depth : Nat}
    (hfits : v.Fits levels) (hdepth : levels ≤ depth) :
    (document assemble depth).ReadsValue v v := by
  have hread := reads_document_mapNumbers (f := id) (fun _ => readsNumber_of_isWhole) hkeeps
    hfits.isWithin hdepth
  rwa [Value.mapNumbers_id] at hread

end Reader

/-- A document with its members in order and not too many levels is read as it was printed, with the
numbers that its own ones are read as. -/
theorem Value.ofText_compact_mapNumbers {P : Number → Prop} {f : Number → Number}
    (hnumber : ∀ n, P n → Reader.ReadsNumber n (f n)) {v : Value} (hordered : v.IsOrdered)
    {levels : Nat} (hwithin : v.IsWithin P levels) (hlevels : levels ≤ depthLimit) :
    ofText v.compact = .ok (v.mapNumbers f) := by
  refine Reader.Reads.readAll ?_
  have hread := (Reader.reads_document_mapNumbers hnumber (Or.inr ⟨rfl, hordered⟩) hwithin
    hlevels).2 [] delimits_nil
  rw [List.append_nil] at hread
  rw [compact, String.toList_ofList]
  exact hread

/-- A document with its members in order, not too many levels and only whole numbers is read as it
was printed. -/
theorem Value.ofText_compact {v : Value} (hordered : v.IsOrdered) (hfits : v.Fits depthLimit) :
    ofText v.compact = .ok v := by
  rw [ofText_compact_mapNumbers (f := id) (fun _ => Reader.readsNumber_of_isWhole) hordered
    hfits.isWithin le_rfl, mapNumbers_id]

end Flowchart.Json
