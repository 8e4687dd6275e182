import Mathlib.Data.List.Basic
import Flowchart.Proofs.Refusal
import Flowchart.Xml.Tag

/-!
# Texts with entities

A text is written with entities for the characters that would end it, and possibly for others, by
name or by number (`WritesText`). With the entities replaced it is the text again
(`unescape_of_writesText`). `escape` writes a text with the names of all characters that have one.
-/

namespace Flowchart.Xml

/-! ## Writing -/

/-- Digits in a base write a number. -/
inductive WritesCode (base : Nat) : List Char → Nat → Prop where
  | digit {c : Char} {d : Nat} : digitIn? base c = some d → WritesCode base [c] d
  | more {cs : List Char} {n : Nat} {c : Char} {d : Nat} :
      WritesCode base cs n → digitIn? base c = some d → WritesCode base (cs ++ [c]) (n * base + d)

/-- What stands between `&` and `;` writes a character: its name, or its number in base 10 or 16. -/
inductive WritesEntity : List Char → Char → Prop where
  | named {name : String} {c : Char} : (name, c) ∈ namedCharacters → WritesEntity name.toList c
  | decimal {digits : List Char} {c : Char} :
      WritesCode 10 digits c.toNat → c ≠ '\x00' → WritesEntity ('#' :: digits) c
  | hexadecimal {digits : List Char} {c : Char} :
      WritesCode 16 digits c.toNat → c ≠ '\x00' → WritesEntity ('#' :: 'x' :: digits) c

/-- A text is written with entities at least for `&` and for some reserved characters. -/
inductive WritesText (reserved : List Char) : List Char → List Char → Prop where
  | nil : WritesText reserved [] []
  | plain {c : Char} {raw text : List Char} : c ≠ '&' → c ∉ reserved →
      WritesText reserved raw text → WritesText reserved (c :: raw) (c :: text)
  | entity {name : List Char} {c : Char} {raw text : List Char} : WritesEntity name c →
      WritesText reserved raw text → WritesText reserved ('&' :: (name ++ ';' :: raw)) (c :: text)

/-- A text with the names of all characters that have one. -/
def escape (text : List Char) : List Char :=
  text.flatMap fun c => match namedCharacters.find? (·.2 = c) with
    | some (name, _) => '&' :: (name.toList ++ [';'])
    | none => [c]

variable {base n d first last : Nat} {c k : Char} {cs name raw text reserved : List Char}

/-- Escaping writes a text whatever characters with a name are reserved. -/
theorem writesText_escape (hreserved : ∀ c ∈ reserved, c ∈ namedCharacters.map Prod.snd)
    (text : List Char) : WritesText reserved (escape text) text := by
  induction text with
  | nil => exact .nil
  | cons c text ih =>
      rw [escape, List.flatMap_cons]
      split
      case h_1 name k hfind =>
        obtain rfl : k = c := by simpa using List.find?_some hfind
        simpa [escape] using WritesText.entity (.named (List.mem_of_find?_eq_some hfind)) ih
      case h_2 hfind =>
        have hunnamed : c ∉ namedCharacters.map Prod.snd := by
          rw [List.mem_map]
          rintro ⟨p, hmem, rfl⟩
          simpa using List.find?_eq_none.mp hfind p hmem
        refine .plain ?_ (fun hmem => hunnamed (hreserved c hmem)) ih
        rintro rfl
        exact hunnamed (by decide)

/-! ## Characters -/

/-- Digits are letters and digits. -/
theorem isAlphanum_of_digitIn? (h : digitIn? base c = some d) : c.isAlphanum = true := by
  have hhex : Json.hexDigit? c = some d := (Option.filter_eq_some_iff.mp h).1
  change (decide (c.val ≥ 65 ∧ c.val ≤ 90) || (decide (c.val ≥ 97) && decide (c.val ≤ 122)) ||
    (decide (c.val ≥ 48) && decide (c.val ≤ 57))) = true
  simp only [Bool.or_eq_true, Bool.and_eq_true, decide_eq_true_eq, UInt32.le_iff_toNat_le,
    ge_iff_le]
  change ((65 ≤ c.toNat ∧ c.toNat ≤ 90) ∨ (97 ≤ c.toNat ∧ c.toNat ≤ 122)) ∨
    (48 ≤ c.toNat ∧ c.toNat ≤ 57)
  simp only [Json.hexDigit?, Char.isDigit, Bool.and_eq_true, decide_eq_true_eq, Char.le_def,
    UInt32.le_iff_toNat_le, ge_iff_le] at hhex
  change (if 48 ≤ c.toNat ∧ c.toNat ≤ 57 then _ else if 97 ≤ c.toNat ∧ c.toNat ≤ 102 then _
    else if 65 ≤ c.toNat ∧ c.toNat ≤ 70 then _ else none) = some d at hhex
  grind

theorem isAlphanum_of_writesCode (h : WritesCode base cs n) : ∀ k ∈ cs, k.isAlphanum = true := by
  induction h with
  | digit hc => simpa using isAlphanum_of_digitIn? hc
  | more _ hc ih =>
      rw [List.forall_mem_append]
      exact ⟨ih, by simpa using isAlphanum_of_digitIn? hc⟩

/-- In an entity there are letters and digits, and possibly `#`. -/
theorem WritesEntity.isAlphanum (h : WritesEntity name c) :
    ∀ k ∈ name, k.isAlphanum = true ∨ k = '#' := by
  cases h with
  | named hmem =>
      have hnames : ∀ p ∈ namedCharacters, p.1.toList.all Char.isAlphanum = true := by decide
      exact fun k hk => Or.inl (List.all_eq_true.mp (hnames _ hmem) k hk)
  | decimal hdigits _ =>
      rw [List.forall_mem_cons]
      exact ⟨Or.inr rfl, fun k hk => Or.inl (isAlphanum_of_writesCode hdigits k hk)⟩
  | hexadecimal hdigits _ =>
      rw [List.forall_mem_cons, List.forall_mem_cons]
      exact ⟨Or.inr rfl, Or.inl (by decide),
        fun k hk => Or.inl (isAlphanum_of_writesCode hdigits k hk)⟩

/-- Reserved characters do not occur in what is written, unless entities are written with them. -/
theorem WritesText.not_mem (h : WritesText reserved raw text) (hk : k ∈ reserved)
    (hentity : k.isAlphanum = false ∧ k ∉ ['&', '#', ';']) : k ∉ raw := by
  induction h with
  | nil => exact List.not_mem_nil
  | plain _ hc _ ih =>
      rw [List.mem_cons, not_or]
      exact ⟨fun heq => hc (heq ▸ hk), ih⟩
  | @entity name c raw text hname _ ih =>
      obtain ⟨halphanum, hother⟩ := hentity
      simp only [List.mem_cons, List.not_mem_nil, or_false, not_or] at hother
      simp only [List.mem_cons, List.mem_append, not_or]
      refine ⟨hother.1, fun hmem => ?_, hother.2.2, ih⟩
      rcases hname.isAlphanum k hmem with hk | hk
      · rw [halphanum] at hk
        cases hk
      · exact hother.2.1 hk

/-- A text that does not begin with a space is not written with one. -/
theorem WritesText.head_not_isSpace (h : WritesText reserved raw text)
    (htext : ∀ c ∈ text.head?, isSpace c = false) : ∀ c ∈ raw.head?, isSpace c = false := by
  cases h with
  | nil => exact htext
  | plain => exact htext
  | entity =>
      rintro _ ⟨⟩
      decide

/-- What is written ends like the text, or with an entity. -/
theorem WritesText.getLast?_eq (h : WritesText reserved raw text) :
    raw.getLast? = text.getLast? ∨ raw.getLast? = some ';' := by
  induction h with
  | nil => exact Or.inl rfl
  | plain _ _ _ ih =>
      rw [List.getLast?_cons, List.getLast?_cons]
      rcases ih with ih | ih
      · exact Or.inl (by rw [ih])
      · exact Or.inr (by rw [ih, Option.getD_some])
  | @entity name c raw text _ _ ih =>
      rw [← List.cons_append, List.getLast?_append_cons, List.getLast?_cons, List.getLast?_cons]
      rcases ih with ih | ih
      · cases hlast : raw.getLast? with
        | none => exact Or.inr rfl
        | some k => exact Or.inl (by rw [← ih, hlast, Option.getD_some, Option.getD_some])
      · exact Or.inr (by rw [ih, Option.getD_some])

/-- A text that does not end with a space is not written with one. -/
theorem WritesText.last_not_isSpace (h : WritesText reserved raw text)
    (htext : ∀ c ∈ text.getLast?, isSpace c = false) : ∀ c ∈ raw.getLast?, isSpace c = false := by
  rcases h.getLast?_eq with hlast | hlast
  · rwa [hlast]
  · rw [hlast]
    rintro _ ⟨⟩
    decide

/-! ## Reading -/

/-- Another digit is read behind those before it. -/
theorem readCode_append_singleton {m : Nat} (hcs : readCode base m cs = .ok n)
    (hc : digitIn? base c = some d) (hbound : n * base + d < 0x100000000) :
    readCode base m (cs ++ [c]) = .ok (n * base + d) := by
  induction cs generalizing m with
  | nil =>
      obtain rfl := Except.ok.inj hcs
      simp [readCode, hc, Nat.not_le.mpr hbound]
  | cons k cs ih =>
      rw [readCode] at hcs
      rw [List.cons_append, readCode]
      split at hcs
      case h_1 => cases hcs
      case h_2 hk =>
        split at hcs
        case isTrue => cases hcs
        case isFalse hle =>
          rw [if_neg hle]
          exact ih hcs

/-- Digits are read as the number that they write, if it is not too large. -/
theorem readCode_of_writesCode (hbase : 1 ≤ base) (h : WritesCode base cs n)
    (hbound : n < 0x100000000) : readCode base 0 cs = .ok n := by
  induction h with
  | digit hc => simp [readCode, hc, Nat.not_le.mpr hbound]
  | @more cs n c d _ hc ih =>
      have hle : n * 1 ≤ n * base := Nat.mul_le_mul_left n hbase
      exact readCode_append_singleton (ih (by omega)) hc hbound

/-- A number begins with a digit. -/
theorem WritesCode.exists_cons (h : WritesCode base cs n) :
    ∃ c more d, cs = c :: more ∧ digitIn? base c = some d := by
  induction h with
  | digit hc => exact ⟨_, [], _, rfl, hc⟩
  | more _ _ ih =>
      obtain ⟨c, more, d, rfl, hc⟩ := ih
      exact ⟨c, _, d, rfl, hc⟩

theorem readUnsigned_of_writesCode (hbase : 1 ≤ base) (h : WritesCode base cs c.toNat) :
    readUnsigned base cs = .ok c.toNat := by
  have hread := readCode_of_writesCode hbase h c.val.toNat_lt
  obtain ⟨k, more, d, rfl, hk⟩ := h.exists_cons
  have hsign : ¬ (k = '+' || k = '-') = true := by
    simp only [Bool.or_eq_true, decide_eq_true_eq, not_or]
    constructor <;> rintro rfl <;> cases hk
  rw [readUnsigned, if_neg hsign, hread]

/-- The number of a character is read as the character, which is not zero. -/
theorem numberedCharacter_of_writesEntity (h : WritesEntity ('#' :: cs) c) :
    numberedCharacter cs = .ok c := by
  have hvalid : c.toNat.isValidChar := c.valid
  have hcode (hc : c ≠ '\x00') : c.toNat ≠ 0 := fun h => hc (Char.toNat_inj.mp h)
  generalize hname : '#' :: cs = name at h
  cases h with
  | @named name _ hmem =>
      have hnames : ∀ p ∈ namedCharacters, p.1.toList.head? ≠ some '#' := by decide
      exact absurd (by rw [← hname]; rfl) (hnames _ hmem)
  | decimal hdigits hc =>
      obtain rfl := (List.cons.inj hname).2
      have hread := readUnsigned_of_writesCode (by decide) hdigits
      obtain ⟨k, more, d, rfl, hk⟩ := hdigits.exists_cons
      unfold numberedCharacter
      split
      case h_1 heq =>
        obtain rfl := (List.cons.inj heq).1
        cases hk
      case h_2 => simp [hread, bind, Except.bind, pure, Except.pure, hcode hc, hvalid]
  | hexadecimal hdigits hc =>
      obtain rfl := (List.cons.inj hname).2
      have hread := readUnsigned_of_writesCode (by decide) hdigits
      simp [numberedCharacter, hread, bind, Except.bind, pure, Except.pure, hcode hc, hvalid]

/-- An entity is read as the character that it writes. -/
theorem entity_of_writesEntity (h : WritesEntity name c) : entity first last name = .ok c := by
  have hnumber (cs : List Char) (h : WritesEntity ('#' :: cs) c) :
      entity first last ('#' :: cs) = .ok c := by
    rw [entity, numberedCharacter_of_writesEntity h]
  cases h with
  | named hmem =>
      simp only [namedCharacters, List.mem_cons, List.not_mem_nil, or_false, Prod.mk.injEq] at hmem
      rcases hmem with ⟨rfl, rfl⟩ | ⟨rfl, rfl⟩ | ⟨rfl, rfl⟩ | ⟨rfl, rfl⟩ | ⟨rfl, rfl⟩ <;> rfl
  | decimal hdigits hc => exact hnumber _ (.decimal hdigits hc)
  | hexadecimal hdigits hc => exact hnumber _ (.hexadecimal hdigits hc)

/-- A name ends at its semicolon. -/
theorem entityName?_append (hname : ∀ k ∈ name, k ≠ ';' ∧ k ≠ '&') :
    entityName? (name ++ ';' :: raw) = some (name, raw) := by
  induction name with
  | nil => rfl
  | cons k name ih =>
      obtain ⟨⟨hsemicolon, hampersand⟩, hname⟩ := List.forall_mem_cons.mp hname
      rw [List.cons_append, entityName?, if_neg hsemicolon, if_neg hampersand, ih hname]
      rfl

/-- What is written is read as the text. -/
theorem unescapeFrom_of_writesText (h : WritesText reserved raw text) {fuel position : Nat}
    (hfuel : raw.length ≤ fuel) : unescapeFrom last fuel position raw = .ok text := by
  induction h generalizing fuel position with
  | nil => cases fuel <;> rfl
  | @plain c raw text hc _ _ ih =>
      obtain ⟨fuel, rfl⟩ := Nat.exists_eq_add_of_lt hfuel
      rw [unescapeFrom, if_neg hc, ih (by omega)]
      rfl
  | @entity name c raw text hname _ ih =>
      simp only [List.length_cons, List.length_append] at hfuel
      obtain ⟨fuel, rfl⟩ : ∃ more, fuel = more + 1 := ⟨fuel - 1, by omega⟩
      have hclosed : entityName? (name ++ ';' :: raw) = some (name, raw) := by
        refine entityName?_append fun k hk => ?_
        rcases hname.isAlphanum k hk with hk | rfl
        · constructor <;> rintro rfl <;> cases hk
        · decide
      simp only [unescapeFrom, if_pos, hclosed, entity_of_writesEntity hname,
        ih (show raw.length ≤ fuel by omega)]
      rfl

theorem unescape_of_writesText (h : WritesText reserved raw text) : unescape raw = .ok text :=
  unescapeFrom_of_writesText h (Nat.le_refl _)

end Flowchart.Xml
