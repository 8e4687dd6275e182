import Flowchart.Json.Document
import Flowchart.Json.Print
import Flowchart.Proofs.Decimal.Whole
import Flowchart.Proofs.Json.Tree

/-!
# What readers read

A reader reads a result from some characters if it consumes them and leaves the rest, wherever in
the text it starts (`Reader.Reads`). Readers are put together, and so are the facts about what they
read. The tokens of a document are read from their compact forms: texts from between their quotes,
whatever is escaped in them (`reads_name`), and whole numbers from their digits (`reads_number`).
-/

namespace Flowchart.Json

/-- A character that is passed over between tokens. -/
def isSpace (c : Char) : Bool := c = ' ' || c = '\t' || c = '\r' || c = '\n'

/-- What may follow an element or the value of a member: nothing, or one of the characters that
separate and close. -/
def Delimits (rest : List Char) : Prop := ∀ c ∈ rest.head?, c = ',' ∨ c = ']' ∨ c = '\x7d'

/-- Nothing is left. -/
theorem delimits_nil : Delimits [] := fun _ hc => by cases hc

/-- A comma separates. -/
theorem delimits_comma (rest : List Char) : Delimits (',' :: rest) :=
  fun _ hc => Or.inl (Option.mem_some.mp hc).symm

/-! ## Characters of texts and digits of numbers -/

/-- A control character is written with four hexadecimal digits, which denote it. -/
theorem unicodeEscape_of_lt {c : Char} (h : c.toNat < 32) : ∃ y z,
    unicodeEscape c = ['\\', 'u', '0', '0', y, z] ∧ hexUnit? '0' '0' y z = some c.toNat := by
  have hsmall : ∀ n < 32,
      ['\\', 'u'] ++ List.replicate (4 - (Nat.toDigits 16 n).length) '0' ++ Nat.toDigits 16 n =
        ['\\', 'u', '0', '0', Nat.digitChar (n / 16), Nat.digitChar (n % 16)] ∧
      hexUnit? '0' '0' (Nat.digitChar (n / 16)) (Nat.digitChar (n % 16)) = some n := by
    decide +kernel
  exact ⟨_, _, hsmall c.toNat h⟩

/-- A character of one escape is what a scan adds in front. -/
theorem scanString_of_simpleEscape? {c image : Char} (h : simpleEscape? c = some image)
    (rest : List Char) : scanString ('\\' :: c :: rest) = (scanString rest).add [image] 2 := by
  have hne : c ≠ 'u' := by
    rintro rfl
    cases h
  rw [scanString, h]
  all_goals simp [hne]

/-- A character is written with a letter after a backslash, with four hexadecimal digits, or as it
is. -/
theorem escapeChar_cases (c : Char) :
    (∃ letter, escapeChar c = ['\\', letter] ∧ simpleEscape? letter = some c) ∨
    (c.toNat < 32 ∧ escapeChar c = unicodeEscape c) ∨
    (c ≠ '"' ∧ c ≠ '\\' ∧ 32 ≤ c.toNat ∧ escapeChar c = [c]) := by
  unfold escapeChar
  by_cases hquote : c = '"'
  · subst hquote
    exact Or.inl ⟨'"', rfl, rfl⟩
  by_cases hbackslash : c = '\\'
  · subst hbackslash
    exact Or.inl ⟨'\\', rfl, rfl⟩
  rw [if_neg hquote, if_neg hbackslash]
  split
  case isTrue heq => exact Or.inl ⟨'b', rfl, heq ▸ rfl⟩
  split
  case isTrue heq => exact Or.inl ⟨'f', rfl, heq ▸ rfl⟩
  split
  case isTrue heq => exact Or.inl ⟨'n', rfl, heq ▸ rfl⟩
  split
  case isTrue heq => exact Or.inl ⟨'r', rfl, heq ▸ rfl⟩
  split
  case isTrue heq => exact Or.inl ⟨'t', rfl, heq ▸ rfl⟩
  by_cases hcontrol : c.toNat < 32
  · exact Or.inr (Or.inl ⟨hcontrol, if_pos hcontrol⟩)
  · exact Or.inr (Or.inr ⟨hquote, hbackslash, Nat.not_lt.mp hcontrol, if_neg hcontrol⟩)

/-- A character is scanned from the form in which it is written. -/
theorem scanString_escapeChar (c : Char) (rest : List Char) :
    ∃ bytes, scanString (escapeChar c ++ rest) = (scanString rest).add [c] bytes := by
  rcases escapeChar_cases c with ⟨letter, hescape, himage⟩ | ⟨hcontrol, hescape⟩ |
    ⟨hquote, hbackslash, hplain, hescape⟩
  · rw [hescape]
    exact ⟨2, scanString_of_simpleEscape? himage rest⟩
  · obtain ⟨y, z, hdigits, hunit⟩ := unicodeEscape_of_lt hcontrol
    have htrailing : isTrailing c.toNat = false := by simp [isTrailing]; omega
    have hleading : isLeading c.toNat = false := by simp [isLeading]; omega
    refine ⟨6, ?_⟩
    rw [hescape, hdigits]
    simp [scanString, hunit, htrailing, hleading]
  · refine ⟨c.utf8Size, ?_⟩
    rw [hescape, List.singleton_append, scanString, if_neg (Nat.not_lt.mpr hplain)]
    -- No earlier case of the scan applies to a plain character.
    all_goals simp [hquote, hbackslash]

/-- Characters as they are written, up to a quote, are what a text holds. -/
theorem scanString_flatMap_escapeChar (cs rest : List Char) :
    ∃ bytes, scanString (cs.flatMap escapeChar ++ '"' :: rest) = .closed cs bytes rest := by
  induction cs with
  | nil => exact ⟨1, rfl⟩
  | cons c cs ih =>
      obtain ⟨bytes, hrest⟩ := ih
      obtain ⟨more, hfirst⟩ := scanString_escapeChar c (cs.flatMap escapeChar ++ '"' :: rest)
      refine ⟨more + bytes, ?_⟩
      rw [List.flatMap_cons, List.append_assoc, hfirst, hrest]
      rfl

/-- Numbers do not get smaller with more digits. -/
theorem le_ofDigitChars (ds : List Char) (n : Nat) : n ≤ Nat.ofDigitChars 10 ds n := by
  induction ds generalizing n with
  | nil => exact le_rfl
  | cons d ds ih =>
      rw [Nat.ofDigitChars_cons]
      exact le_trans (by omega) (ih _)

/-- One more digit. -/
theorem ofDigitChars_cons_eq (d : Char) (ds : List Char) (n : Nat) :
    Nat.ofDigitChars 10 (d :: ds) n = Nat.ofDigitChars 10 ds (n * 10 + Decimal.digitValue d) := by
  rw [Nat.ofDigitChars_cons, Nat.mul_comm]
  rfl

/-- Digits that fit into a significand all go into it. -/
theorem extendSignificand_eq {ds : List Char} {n : Nat}
    (h : Nat.ofDigitChars 10 ds n ≤ maxWord) :
    extendSignificand n ds = (Nat.ofDigitChars 10 ds n, []) := by
  induction ds generalizing n with
  | nil => rfl
  | cons d ds ih =>
      rw [ofDigitChars_cons_eq] at h ⊢
      simp only [extendSignificand]
      rw [if_pos ((le_ofDigitChars ds _).trans h), ih h]

namespace Reader

/-- A reader goes from some characters to others with a result, wherever it starts. -/
def Reads {α : Type} (reader : Reader α) (cs : List Char) (a : α) (rest : List Char) : Prop :=
  ∀ p, ∃ q, reader.run ⟨cs, p⟩ = (.ok a, ⟨rest, q⟩)

variable {α β : Type} {reader : Reader α} {f : α → Reader β} {a : α} {b : β}
  {c : Char} {cs mid rest ds : List Char} {s : String}

/-! ## Putting readers together -/

/-- A result without reading. -/
theorem Reads.pure (a : α) (cs : List Char) : Reads (Pure.pure a : Reader α) cs a cs :=
  fun p => ⟨p, rfl⟩

/-- After a reader that does not fail, the next one goes on from where it stopped. -/
theorem Reads.run_bind (h : reader.Reads cs a mid) (p : Position) :
    ∃ q, ∀ f : α → Reader β, (reader >>= f).run ⟨cs, p⟩ = (f a).run ⟨mid, q⟩ := by
  obtain ⟨q, hq⟩ := h p
  refine ⟨q, fun f => ?_⟩
  rw [ExceptT.run_bind]
  simp only [Bind.bind, StateT.bind, hq]

/-- One reader after another. -/
theorem Reads.bind (h : reader.Reads cs a mid) (h' : (f a).Reads mid b rest) :
    (reader >>= f).Reads cs b rest := by
  intro p
  obtain ⟨q, hq⟩ := h.run_bind p
  obtain ⟨q', hq'⟩ := h' q
  exact ⟨q', (hq f).trans hq'⟩

/-- A reader that does not fail needs no help. -/
theorem Reads.tryCatch (h : reader.Reads cs a rest) (handler : Error → Reader α) :
    (tryCatch reader handler).Reads cs a rest := by
  intro p
  obtain ⟨q, hq⟩ := h p
  refine ⟨q, ?_⟩
  rw [ExceptT.run_tryCatch]
  simp only [Bind.bind, StateT.bind, hq]
  rfl

/-- A reader for the inside of an array or object, and then one for its end. -/
theorem Reads.enclosed {closing : Reader Unit} (h : reader.Reads cs a mid)
    (hclosing : closing.Reads mid () rest) : (enclosed reader closing).Reads cs a rest :=
  Reads.bind ((h.bind (.pure (Except.ok a) mid)).tryCatch _) (hclosing.bind (.pure a rest))

/-- A reader that reads a whole text gives what it reads. -/
theorem Reads.readAll {s : String} (h : reader.Reads s.toList a []) :
    readAll reader s = .ok a := by
  obtain ⟨q, hq⟩ := h.run_bind ⟨1, 0⟩
  exact congrArg Prod.fst (hq _)

/-! ## Tokens -/

/-- The next character is passed over. -/
theorem reads_skip : skip.Reads (c :: cs) () cs := fun _ => ⟨_, rfl⟩

/-- The number of characters left bounds the turns of a loop. -/
theorem reads_fuel : fuel.Reads cs (2 * cs.length + 2) cs := fun p => ⟨p, rfl⟩

/-- The next token begins at once if no blank is before it. -/
theorem reads_nextToken? (h : isSpace c = false) :
    nextToken?.Reads (c :: cs) (some c) (c :: cs) := by
  intro p
  refine ⟨p, ?_⟩
  have hskip : nextToken?.skipBlanks (c :: cs) p = ⟨c :: cs, p⟩ := by
    simp only [isSpace, Bool.or_eq_false_iff, decide_eq_false_iff_not] at h
    simp [nextToken?.skipBlanks, h]
  show (Except.ok (nextToken?.skipBlanks (c :: cs) p).rest.head?,
    nextToken?.skipBlanks (c :: cs) p) = _
  rw [hskip]
  rfl

/-- A literal is read. -/
theorem reads_literal (cs rest : List Char) : (literal cs).Reads (cs ++ rest) () rest := by
  induction cs with
  | nil => exact .pure () rest
  | cons c cs ih =>
      refine Reads.bind (a := some c) (fun p => ⟨p, rfl⟩) ?_
      simp only [if_true]
      exact reads_skip.bind ih

/-- The next character is looked at. -/
theorem reads_peek? (cs : List Char) : peek?.Reads cs cs.head? cs := fun p => ⟨p, rfl⟩

/-- All digits up to another character are read. -/
theorem reads_digits (hds : ∀ c ∈ ds, c.isDigit = true)
    (hrest : ∀ c ∈ rest.head?, c.isDigit = false) : digits.Reads (ds ++ rest) ds rest := by
  intro p
  have htake := (Decimal.takeWhile_isDigit_append hds hrest).1
  refine ⟨⟨p.line, p.column + ds.length⟩, ?_⟩
  show (Except.ok ((ds ++ rest).takeWhile Char.isDigit), (_ : Cursor)) = _
  rw [htake, List.drop_left]

/-- A text is read up to its closing quote. -/
theorem reads_string (s : String) (rest : List Char) :
    string.Reads (s.toList.flatMap escapeChar ++ '"' :: rest) s rest := by
  intro p
  obtain ⟨bytes, hscan⟩ := scanString_flatMap_escapeChar s.toList rest
  refine ⟨⟨p.line, p.column + bytes⟩, ?_⟩
  have hget (f : Cursor → Reader String) (cursor : Cursor) :
      ((get : Reader Cursor) >>= f).run cursor = (f cursor).run cursor := rfl
  rw [string, finishString, hget]
  simp only [hscan, String.ofList_toList]
  rfl

/-- A text is read from its opening quote on. -/
theorem reads_name (s : String) (rest : List Char) : name.Reads (stringText s ++ rest) s rest := by
  rw [stringText, List.append_assoc]
  exact reads_skip.bind (reads_string s rest)

/-- After the digits of a whole number there is nothing more to it. -/
theorem reads_afterWhole (negative : Bool) (n : Nat) (hrest : Delimits rest) :
    (afterWhole negative n 0).Reads rest (wholeNumber negative n) rest := by
  refine (reads_peek? rest).bind ?_
  split
  case h_1 heq => exact absurd (hrest _ heq) (by decide)
  case h_2 heq => exact absurd (hrest _ heq) (by decide)
  case h_3 heq => exact absurd (hrest _ heq) (by decide)
  case h_4 => exact .pure _ rest

/-- The digits before the point are read, and then what follows them. There is no zero before other
digits. -/
theorem reads_number_digits {negative : Bool} {n : Nat} {a : Number}
    (hdigits : ∀ c ∈ ds, c.isDigit = true) (hzero : ds = ['0'] ∨ ds ≠ [] ∧ ds.head? ≠ some '0')
    (hn : extendSignificand 0 ds = (n, [])) (hmid : ∀ c ∈ mid.head?, c.isDigit = false)
    (h : (afterWhole negative n 0).Reads mid a rest) :
    (number negative).Reads (ds ++ mid) a rest := by
  rcases hzero with rfl | ⟨hne, hzero⟩
  · obtain rfl : 0 = n := congrArg Prod.fst hn
    have hnext : noDigitNext.Reads mid () mid := by
      refine (reads_peek? mid).bind ?_
      split
      case h_1 d heq =>
        rw [hmid d heq]
        exact .pure () mid
      case h_2 => exact .pure () mid
    exact (reads_peek? _).bind (reads_skip.bind (hnext.bind h))
  · have hread := reads_digits hdigits hmid
    cases ds with
    | nil => exact absurd rfl hne
    | cons d ds =>
        refine (reads_peek? _).bind ?_
        rw [List.cons_append, List.head?_cons]
        split
        case h_1 heq => cases heq
        case h_2 heq => exact absurd heq hzero
        case h_3 c _ heq =>
          obtain rfl := Option.some.inj heq
          rw [hdigits d List.mem_cons_self, if_pos rfl]
          refine hread.bind ?_
          rw [hn]
          exact h

/-- What ends a document is no digit. -/
theorem not_isDigit_of_delimits (h : Delimits rest) : ∀ c ∈ rest.head?, c.isDigit = false := by
  intro c hc
  rcases h c hc with rfl | rfl | rfl <;> rfl

/-- The digits of a natural number in range are read, with the sign that was read before. -/
theorem reads_number (negative : Bool) {n : Nat} (hn : n ≤ maxWord) (hrest : Delimits rest) :
    (number negative).Reads (Nat.toDigits 10 n ++ rest) (wholeNumber negative n) rest := by
  have hvalue : Nat.ofDigitChars 10 (Nat.toDigits 10 n) 0 = n := Nat.ofDigitChars_ten_toDigits
  have hsignificand : extendSignificand 0 (Nat.toDigits 10 n) = (n, []) := by
    rw [extendSignificand_eq (hvalue.symm ▸ hn), hvalue]
  exact reads_number_digits (fun _ => Decimal.isDigit_of_mem_toDigits)
    (Decimal.toDigits_no_leading_zero n) hsignificand (not_isDigit_of_delimits hrest)
    (reads_afterWhole negative n hrest)

/-- A colon is read. -/
theorem reads_colon : colon.Reads (':' :: rest) () rest :=
  (reads_nextToken? rfl).bind reads_skip

/-- The end of an object is read. -/
theorem reads_endObject : endObject.Reads ('\x7d' :: rest) () rest :=
  (reads_nextToken? rfl).bind reads_skip

/-- The end of an array is read. -/
theorem reads_endArray : endArray.Reads (']' :: rest) () rest :=
  (reads_nextToken? rfl).bind reads_skip

end Reader
end Flowchart.Json
