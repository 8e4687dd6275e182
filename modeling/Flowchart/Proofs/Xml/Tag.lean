import Mathlib.Data.List.TakeWhile
import Flowchart.Proofs.Xml.Entity
import Flowchart.Text.CharSet
import Flowchart.Xml.Element

/-!
# Tags as they are written

A tag is written as a name and its attributes: spaces, a name, an equals sign that may have spaces
around it, and a value in quotes (`WritesTag`). If the names are those of the grammar of Xml without
colons and no attribute comes twice, the tag is read as the element that it stands for
(`ofTag_of_writesTag`), and a scan for its end passes over it (`Unquoted`).
-/

namespace Flowchart.Xml

open Text (CharSet)

/-! ## Names -/

/-- The characters that begin names, without the colon. -/
def nameStarts : CharSet :=
  ⟨[(0x41, 0x5A), (0x5F, 0x5F), (0x61, 0x7A), (0xC0, 0xD6), (0xD8, 0xF6), (0xF8, 0x2FF),
    (0x370, 0x37D), (0x37F, 0x1FFF), (0x200C, 0x200D), (0x2070, 0x218F), (0x2C00, 0x2FEF),
    (0x3001, 0xD7FF), (0xF900, 0xFDCF), (0xFDF0, 0xFFFD), (0x10000, 0xEFFFF)]⟩

/-- The characters of names, without the colon. -/
def nameChars : CharSet :=
  ⟨[(0x2D, 0x2E), (0x30, 0x39), (0x41, 0x5A), (0x5F, 0x5F), (0x61, 0x7A), (0xB7, 0xB7),
    (0xC0, 0xD6), (0xD8, 0xF6), (0xF8, 0x37D), (0x37F, 0x1FFF), (0x200C, 0x200D),
    (0x203F, 0x2040), (0x2070, 0x218F), (0x2C00, 0x2FEF), (0x3001, 0xD7FF), (0xF900, 0xFDCF),
    (0xFDF0, 0xFFFD), (0x10000, 0xEFFFF)]⟩

/-- A name of the grammar of Xml without colons. -/
structure IsName (name : String) : Prop where
  beginning : ∃ c ∈ name.toList.head?, nameStarts.contains c = true
  all : ∀ c ∈ name.toList, nameChars.contains c = true

/-- A tag that can be written and read back: its names are plain, and no attribute comes twice. -/
structure IsPlainTag (name : String) (attributes : Attributes) : Prop where
  name : IsName name
  names : ∀ a ∈ attributes, IsName a.1
  distinct : (attributes.map Prod.fst).Nodup

/-! ## Writing -/

/-- Some characters are all spaces. -/
def IsSpaces (cs : List Char) : Prop := ∀ c ∈ cs, isSpace c = true

theorem IsSpaces.nil : IsSpaces [] := fun _ hc => absurd hc List.not_mem_nil

/-- The characters that can stand around the value of an attribute. -/
def IsQuote (c : Char) : Prop := c = '"' ∨ c = '\''

/-- An attribute is written as its name, an equals sign that may have spaces around it, and its
value in quotes. -/
inductive WritesAttribute : List Char → String × String → Prop where
  | mk {name value : String} {before after raw : List Char} {quote : Char} :
      IsSpaces before → IsSpaces after → IsQuote quote →
      WritesText ['<', quote] raw value.toList →
      WritesAttribute (name.toList ++ (before ++ '=' :: (after ++ quote :: (raw ++ [quote]))))
        (name, value)

/-- Attributes are written with spaces before each one, and possibly behind them. -/
inductive WritesAttributes : List Char → Attributes → Prop where
  | nil {spaces : List Char} : IsSpaces spaces → WritesAttributes spaces []
  | cons {spaces cs more : List Char} {a : String × String} {attributes : Attributes} :
      spaces ≠ [] → IsSpaces spaces → WritesAttribute cs a →
      WritesAttributes more attributes →
      WritesAttributes (spaces ++ (cs ++ more)) (a :: attributes)

/-- A tag is written as a name and attributes. -/
inductive WritesTag : List Char → String → Attributes → Prop where
  | mk {name : String} {cs : List Char} {attributes : Attributes} :
      WritesAttributes cs attributes → WritesTag (name.toList ++ cs) name attributes

variable {name value : String} {a : String × String} {attributes : Attributes}
  {cs more rest spaces raw content : List Char} {c quote : Char}

/-! ## Characters of tags -/

/-- What no name can hold is not in a name. -/
theorem IsName.not_mem (h : IsName name) (hc : nameChars.contains c = false) : c ∉ name.toList :=
  fun hmem => by simp [h.all c hmem] at hc

theorem IsName.exists_cons (h : IsName name) : ∃ c more, name.toList = c :: more := by
  obtain ⟨c, hc, -⟩ := h.beginning
  exact ⟨c, _, (List.cons_head?_tail hc).symm⟩

theorem IsName.not_isSpace (h : IsName name) : ∀ c ∈ name.toList, isSpace c = false := by
  intro c hc
  have hne {d : Char} (hd : nameChars.contains d = false) : c ≠ d := fun heq =>
    h.not_mem hd (heq ▸ hc)
  have hspaces : c ≠ ' ' ∧ c ≠ '\t' ∧ c ≠ '\n' ∧ c ≠ '\r' := ⟨hne rfl, hne rfl, hne rfl, hne rfl⟩
  simp [isSpace, hspaces]

/-- The quotes around a value do not occur in it. -/
theorem IsQuote.not_mem (hquote : IsQuote quote) (hraw : WritesText ['<', quote] raw cs) :
    quote ∉ raw := by
  refine hraw.not_mem (by simp) ?_
  rcases hquote with rfl | rfl <;> decide

/-- A tag begins with a character of its name. -/
theorem WritesTag.exists_cons (h : WritesTag cs name attributes) (hname : IsName name) :
    ∃ c more, cs = c :: more ∧ nameChars.contains c = true := by
  obtain ⟨-⟩ := h
  obtain ⟨c, more, hcons⟩ := hname.exists_cons
  exact ⟨c, _, by rw [hcons, List.cons_append], hname.all c (hcons ▸ List.mem_cons_self)⟩

/-- Attributes begin with a space. -/
theorem WritesAttributes.head_isSpace (h : WritesAttributes cs attributes) :
    ∀ c ∈ cs.head?, isSpace c = true := by
  cases h with
  | nil hspaces => exact fun c hc => hspaces c (List.mem_of_mem_head? hc)
  | @cons spaces cs more _ _ hne hspaces _ _ =>
      rw [List.head?_append_of_ne_nil _ hne]
      exact fun c hc => hspaces c (List.mem_of_mem_head? hc)

/-- A list does not end in a character if neither of its parts does. -/
theorem getLast?_append_ne (hcs : cs.getLast? ≠ some c) (hmore : more.getLast? ≠ some c) :
    (cs ++ more).getLast? ≠ some c := by
  rw [List.getLast?_append]
  cases hlast : more.getLast? with
  | none => exact hcs
  | some d => rwa [hlast] at hmore

/-- There is no slash at the end of a tag. -/
theorem WritesTag.getLast?_ne (h : WritesTag cs name attributes) (hname : IsName name) :
    cs.getLast? ≠ some '/' := by
  have hspaces {cs : List Char} (h : IsSpaces cs) : cs.getLast? ≠ some '/' := fun hlast =>
    absurd (h _ (List.mem_of_getLast? hlast)) (by decide)
  obtain ⟨hattributes⟩ := h
  refine getLast?_append_ne (fun hlast => hname.not_mem rfl (List.mem_of_getLast? hlast)) ?_
  induction hattributes with
  | nil h => exact hspaces h
  | cons _ h hattribute _ ih =>
      refine getLast?_append_ne (hspaces h) (getLast?_append_ne ?_ ih)
      obtain ⟨-, -, hquote, -⟩ := hattribute
      simp only [← List.cons_append, ← List.append_assoc, List.getLast?_concat]
      rcases hquote with rfl | rfl <;> decide

/-! ## The end of a tag -/

/-- A scan for the end of a tag passes over some characters and is outside quotes behind them. -/
def Unquoted (cs : List Char) : Prop :=
  ∀ rest, cutTag? none (cs ++ rest) =
    (cutTag? none rest).map fun (content, more) => (cs ++ content, more)

theorem Unquoted.append (h : Unquoted cs) (hmore : Unquoted more) : Unquoted (cs ++ more) := by
  intro rest
  rw [List.append_assoc, h, hmore, Option.map_map]
  simp [Function.comp_def]

/-- A scan passes over characters that are neither quotes nor the end. -/
theorem unquoted_of_forall (h : ∀ c ∈ cs, c ∉ ['>', '"', '\'']) : Unquoted cs := by
  intro rest
  induction cs with
  | nil => simp
  | cons c cs ih =>
      obtain ⟨hc, hcs⟩ := List.forall_mem_cons.mp h
      simp only [List.mem_cons, List.not_mem_nil, or_false, not_or] at hc
      simp [cutTag?, nextQuote, hc, ih hcs, Function.comp_def]

theorem IsName.unquoted (h : IsName name) : Unquoted name.toList := by
  refine unquoted_of_forall fun c hc hmem => h.not_mem ?_ hc
  obtain rfl | rfl | rfl : c = '>' ∨ c = '"' ∨ c = '\'' := by simpa using hmem
  all_goals decide

theorem IsSpaces.unquoted (h : IsSpaces spaces) : Unquoted spaces := by
  refine unquoted_of_forall fun c hc hmem => ?_
  have hnone : ∀ c ∈ ['>', '"', '\''], isSpace c = false := by simp [isSpace]
  exact absurd (h c hc) (by simp [hnone c hmem])

/-- A scan passes over what is in quotes. -/
theorem unquoted_quoted (hquote : IsQuote quote) (hraw : quote ∉ raw) :
    Unquoted (quote :: (raw ++ [quote])) := by
  intro rest
  have hinside : cutTag? (some quote) (raw ++ quote :: rest) =
      (cutTag? none rest).map fun (content, more) => (raw ++ quote :: content, more) := by
    induction raw with
    | nil => simp [cutTag?, nextQuote]
    | cons c raw ih =>
        obtain ⟨hne, hraw⟩ := not_or.mp (mt List.mem_cons.mpr hraw)
        simp [cutTag?, nextQuote, Ne.symm hne, ih hraw, Function.comp_def]
  have hopen : quote ≠ '>' ∧ nextQuote none quote = some quote := by
    rcases hquote with rfl | rfl <;> decide
  rw [List.cons_append, List.append_assoc, List.singleton_append]
  simp [cutTag?, hopen, hinside, Function.comp_def]

/-- A scan passes over a tag. -/
theorem WritesTag.unquoted (h : WritesTag cs name attributes)
    (hplain : IsPlainTag name attributes) : Unquoted cs := by
  obtain ⟨hattributes⟩ := h
  obtain ⟨hname, hnames, -⟩ := hplain
  refine hname.unquoted.append ?_
  induction hattributes with
  | nil h => exact h.unquoted
  | cons _ h hattribute _ ih =>
      obtain ⟨ha, hnames⟩ := List.forall_mem_cons.mp hnames
      refine h.unquoted.append (Unquoted.append ?_ (ih hnames))
      obtain @⟨name, value, before, after, raw, quote, hbefore, hafter, hquote, hraw⟩ := hattribute
      have hequals : Unquoted ['='] := unquoted_of_forall (by simp)
      have hvalue := unquoted_quoted hquote (hquote.not_mem hraw)
      exact ha.unquoted.append (hbefore.unquoted.append
        (hequals.append (hafter.unquoted.append hvalue)))

/-! ## Reading -/

/-- Characters that satisfy a condition are taken up to one that does not. -/
theorem Place.takeWhile_append {p : Char → Bool} (hcs : ∀ c ∈ cs, p c = true) {rest : List Char}
    (hrest : ∀ c ∈ rest.head?, p c = false) (n : Nat) :
    Place.takeWhile p ⟨cs ++ rest, n⟩ = (cs, ⟨rest, n + Json.byteCount cs⟩) := by
  have htake : rest.takeWhile p = [] := by
    cases rest with
    | nil => rfl
    | cons c rest => simp [hrest c rfl]
  simp [Place.takeWhile, List.takeWhile_append_of_pos hcs, htake]

/-- Spaces are passed over up to another character. -/
theorem Place.skipSpaces_append (hspaces : IsSpaces spaces) {rest : List Char}
    (hrest : ∀ c ∈ rest.head?, isSpace c = false) (n : Nat) :
    Place.skipSpaces ⟨spaces ++ rest, n⟩ = ⟨rest, n + Json.byteCount spaces⟩ :=
  congrArg Prod.snd (Place.takeWhile_append hspaces hrest n)

/-- A name is read up to its equals sign. -/
theorem attributeName_append (hname : IsName name) {before : List Char} (hbefore : IsSpaces before)
    (rest : List Char) (n : Nat) : ∃ m, attributeName ⟨name.toList ++ (before ++ '=' :: rest), n⟩ =
      .ok (name.toList, ⟨'=' :: rest, m⟩) := by
  obtain ⟨c, more, hcons⟩ := hname.exists_cons
  have hmore : ∀ d ∈ more, (d ≠ '=' && !isSpace d) = true := by
    intro d hd
    have hmem : d ∈ name.toList := hcons ▸ List.mem_cons_of_mem _ hd
    have hequals : d ≠ '=' := fun heq => hname.not_mem rfl (heq ▸ hmem)
    simp [hequals, hname.not_isSpace d hmem]
  have hend : ∀ d ∈ (before ++ '=' :: rest).head?, (d ≠ '=' && !isSpace d) = false := by
    intro d hd
    cases before with
    | nil =>
        obtain rfl : '=' = d := by simpa using hd
        rfl
    | cons b before =>
        obtain rfl : b = d := by simpa using hd
        simp [hbefore b List.mem_cons_self]
  have hspace : ∀ d ∈ ('=' :: rest).head?, isSpace d = false := by
    rintro _ ⟨⟩
    rfl
  have hread : attributeName ⟨name.toList ++ (before ++ '=' :: rest), n⟩ = .ok (name.toList,
      ⟨'=' :: rest, n + c.utf8Size + Json.byteCount more + Json.byteCount before⟩) := by
    rw [hcons]
    simp only [attributeName, List.cons_append, Place.next, Place.takeWhile_append hmore hend,
      Place.skipSpaces_append hbefore hspace, List.head?_cons, if_pos]
  exact ⟨_, hread⟩

/-- A value is read from its opening quote to its closing one. -/
theorem attributeValue_append {after : List Char} (hafter : IsSpaces after)
    (hquote : IsQuote quote) (hraw : quote ∉ raw) (rest : List Char) (n : Nat) :
    ∃ m, attributeValue ⟨after ++ quote :: (raw ++ quote :: rest), n⟩ = .ok (raw, ⟨rest, m⟩) := by
  have hopen : isSpace quote = false ∧ (quote = '"' || quote = '\'') = true := by
    rcases hquote with rfl | rfl <;> decide
  have hspace : ∀ d ∈ (quote :: (raw ++ quote :: rest)).head?, isSpace d = false := by
    rintro _ ⟨⟩
    exact hopen.1
  have hmore : ∀ d ∈ raw, decide (d ≠ quote) = true := by
    intro d hd
    rw [decide_eq_true_eq]
    exact fun heq => hraw (heq ▸ hd)
  have hend : ∀ d ∈ (quote :: rest).head?, decide (d ≠ quote) = false := by
    rintro _ ⟨⟩
    exact decide_eq_false (not_not_intro rfl)
  have hread : attributeValue ⟨after ++ quote :: (raw ++ quote :: rest), n⟩ = .ok (raw, ⟨rest,
      n + Json.byteCount after + quote.utf8Size + Json.byteCount raw + quote.utf8Size⟩) := by
    simp only [attributeValue, Place.skipSpaces_append hafter hspace, hopen.2, if_pos, Place.next,
      Place.takeWhile_append hmore hend]
    rfl
  exact ⟨_, hread⟩

/-- A name without colon is its own local name. -/
theorem localName_eq (hname : IsName name) : localName name.toList = name := by
  have hcolon : name.toList.dropWhile (· ≠ ':') = [] := by
    rw [List.dropWhile_eq_nil_iff]
    intro c hc
    simp only [decide_eq_true_eq]
    exact fun heq => hname.not_mem rfl (heq ▸ hc)
  rw [localName, hcolon]
  exact String.ofList_toList

/-- An attribute that has not been read before is read as what it writes. -/
theorem attributesFrom_cons (hspaces : IsSpaces spaces) (h : WritesAttribute cs (name, value))
    (hname : IsName name) {seen : List (List Char × Nat)}
    (hseen : seen.lookup name.toList = none) (fuel n : Nat) (more : List Char) :
    ∃ p m, attributesFrom (fuel + 1) seen ⟨spaces ++ (cs ++ more), n⟩ =
      (attributesFrom fuel (seen ++ [(name.toList, p)]) ⟨more, m⟩).map ((name, value) :: ·) := by
  obtain @⟨_, _, before, after, raw, quote, hbefore, hafter, hquote, hraw⟩ := h
  have hspace : ∀ c ∈ (name.toList ++ (before ++ '=' ::
      (after ++ quote :: (raw ++ quote :: more)))).head?, isSpace c = false := by
    obtain ⟨c, cs, hcons⟩ := hname.exists_cons
    rw [hcons]
    rintro _ ⟨⟩
    exact hname.not_isSpace c (hcons ▸ List.mem_cons_self)
  have hsome : (name.toList ++ (before ++ '=' ::
      (after ++ quote :: (raw ++ quote :: more)))).isEmpty = false := by simp
  obtain ⟨p, hequals⟩ := attributeName_append hname hbefore
    (after ++ quote :: (raw ++ quote :: more)) (n + Json.byteCount spaces)
  obtain ⟨m, hvalue⟩ := attributeValue_append hafter hquote (hquote.not_mem hraw) more
    (p + '='.utf8Size)
  refine ⟨n + Json.byteCount spaces, m, ?_⟩
  simp only [List.append_assoc, List.cons_append, List.nil_append, attributesFrom,
    Place.skipSpaces_append hspaces hspace, hsome, hequals, hseen, Place.next, hvalue,
    unescape_of_writesText hraw, Except.mapError, bind, Except.bind, localName_eq hname,
    String.ofList_toList]
  cases attributesFrom fuel (seen ++ [(name.toList, n + Json.byteCount spaces)]) ⟨more, m⟩ <;> rfl

/-- Attributes are read as what they write, if none has been read before. -/
theorem attributesFrom_of_writes (h : WritesAttributes cs attributes)
    (hnames : ∀ a ∈ attributes, IsName a.1) (hnodup : (attributes.map Prod.fst).Nodup)
    {fuel n : Nat} {seen : List (List Char × Nat)} (hfuel : attributes.length ≤ fuel)
    (hseen : ∀ a ∈ attributes, seen.lookup a.1.toList = none) :
    attributesFrom fuel seen ⟨cs, n⟩ = .ok attributes := by
  induction h generalizing fuel n seen with
  | @nil spaces hspaces =>
      cases fuel with
      | zero => rfl
      | succ fuel =>
          have hskip : Place.skipSpaces ⟨spaces ++ [], n⟩ = _ :=
            Place.skipSpaces_append hspaces (by simp) n
          rw [List.append_nil] at hskip
          simp [attributesFrom, hskip]
  | @cons spaces cs more a attributes _ hspaces ha _ ih =>
      obtain ⟨name, value⟩ := a
      obtain ⟨fuel, rfl⟩ := Nat.exists_eq_add_of_lt hfuel
      obtain ⟨hname, hnames⟩ := List.forall_mem_cons.mp hnames
      obtain ⟨hlookup, hseen⟩ := List.forall_mem_cons.mp hseen
      obtain ⟨hfresh, hnodup⟩ := List.nodup_cons.mp hnodup
      obtain ⟨p, m, hread⟩ :=
        attributesFrom_cons hspaces ha hname hlookup (attributes.length + fuel) n more
      have hmore : ∀ a ∈ attributes, (seen ++ [(name.toList, p)]).lookup a.1.toList = none := by
        intro a hmem
        have hne : (a.1.toList == name.toList) = false := by
          rw [beq_eq_false_iff_ne]
          intro heq
          exact hfresh (List.mem_map.mpr ⟨a, hmem, String.toList_inj.mp heq⟩)
        simp [List.lookup_append, hseen a hmem, List.lookup_cons, hne]
      rw [hread, ih hnames hnodup (Nat.le_add_right _ _) hmore]
      rfl

/-- Nothing but a name of a tag stands before its first space. -/
theorem tagName_append (hname : IsName name) (h : WritesAttributes cs attributes) :
    tagName (name.toList ++ cs) = name.toList := by
  have hend : ∀ c ∈ cs.head?, (!isSpace c) = false := fun c hc => by simp [h.head_isSpace c hc]
  exact congrArg Prod.fst (Place.takeWhile_append (p := fun c => !isSpace c)
    (fun c hc => by simp [hname.not_isSpace c hc]) hend 0)

/-- There are not more attributes than characters. -/
theorem WritesAttributes.length_le (h : WritesAttributes cs attributes) :
    attributes.length ≤ cs.length := by
  induction h with
  | nil => exact Nat.zero_le _
  | cons hne _ _ _ ih =>
      have hpos := List.length_pos_iff.mpr hne
      simp only [List.length_cons, List.length_append]
      omega

/-- A tag is read as the element that it stands for. -/
theorem ofTag_of_writesTag (h : WritesTag cs name attributes)
    (hplain : IsPlainTag name attributes) : Element.ofTag cs = .ok (.mk name attributes "" []) := by
  obtain @⟨_, cs, _, h⟩ := h
  have hattributes : tagAttributes (name.toList ++ cs) = .ok attributes := by
    rw [tagAttributes, tagName_append hplain.name h, List.drop_left]
    refine attributesFrom_of_writes h hplain.names hplain.distinct ?_ (by simp)
    rw [List.length_append]
    exact h.length_le.trans (Nat.le_add_left _ _)
  rw [Element.ofTag, hattributes, tagName_append hplain.name h, localName_eq hplain.name]
  rfl

end Flowchart.Xml
