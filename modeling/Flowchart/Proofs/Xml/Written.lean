import Mathlib.Data.List.DropRight
import Flowchart.Proofs.Text.Search
import Flowchart.Proofs.Xml.Stream
import Flowchart.Proofs.Xml.Tag
import Flowchart.Xml.Token

/-!
# Documents as they are written

An element is written as its start tag, its text, its children and its end tag, or as one tag if
there is neither text nor a child; spaces, comments and processing instructions may stand next to
tags (`Writes`). There is such a document for every tree (`Writes.print`).

Comments, processing instructions and tags are read as the tokens that they stand for, and then what
follows is read (`ReadsAs.behind_markup`); a text is read up to the next markup, without the spaces
behind it (`ReadsAs.behind_text`). So what is written is read as the tokens of pieces that stand for
just these elements (`exists_pieces_of_writes`), and a document gives its tree back if its names are
plain and none of its texts begins or ends with a space (`reads_written_documents`).
-/

namespace Flowchart.Xml

/-! ## Writing -/

/-- An element that can be written and read back: so can its tag, its text neither begins nor ends
with a space, and the same holds of its children. -/
inductive Element.IsPlain : Element → Prop where
  | mk {name : String} {attributes : Attributes} {text : String} {children : List Element} :
      IsPlainTag name attributes →
      (∀ c ∈ text.toList.head?, isSpace c = false) →
      (∀ c ∈ text.toList.getLast?, isSpace c = false) →
      (∀ child ∈ children, child.IsPlain) → IsPlain (.mk name attributes text children)

/-- What may stand next to tags: spaces, a comment, or a processing instruction. -/
inductive IsAside : List Char → Prop where
  | spaces {cs : List Char} : IsSpaces cs → IsAside cs
  | comment {body : List Char} : ¬ ['-', '-', '>'] <:+: body →
      IsAside ('<' :: '!' :: '-' :: '-' :: (body ++ ['-', '-', '>']))
  | instruction {body : List Char} : ¬ ['?', '>'] <:+: '?' :: body →
      IsAside ('<' :: '?' :: (body ++ ['?', '>']))

/-- Elements are written one after the other, among asides. A text stands behind the start tag,
before the children. -/
inductive Writes : List Char → List Element → Prop where
  | nil : Writes [] []
  | aside {cs more : List Char} {es : List Element} :
      IsAside cs → Writes more es → Writes (cs ++ more) es
  | emptyElement {tag more : List Char} {name : String} {attributes : Attributes}
      {es : List Element} : WritesTag tag name attributes → Writes more es →
      Writes ('<' :: (tag ++ '/' :: '>' :: more)) (.mk name attributes "" [] :: es)
  | element {tag before raw inside spaces more : List Char} {name text : String}
      {attributes : Attributes} {children es : List Element} :
      WritesTag tag name attributes → Writes before [] → WritesText ['<'] raw text.toList →
      Writes inside children → IsSpaces spaces → Writes more es →
      Writes ('<' :: (tag ++ '>' :: (before ++ (raw ++ (inside ++
        '<' :: '/' :: (name.toList ++ (spaces ++ '>' :: more)))))))
        (.mk name attributes text children :: es)

/-- Writes attributes with escaped values. -/
def printAttributes (attributes : Attributes) : List Char :=
  attributes.flatMap fun (name, value) =>
    ' ' :: (name.toList ++ '=' :: '"' :: (escape value.toList ++ ['"']))

mutual
/-- Writes an element with an escaped text and no asides. -/
def Element.print : Element → List Char
  | .mk name attributes text children =>
      '<' :: (name.toList ++ printAttributes attributes ++
        if text.isEmpty && children.isEmpty then ['/', '>']
        else '>' :: (escape text.toList ++ (printAll children ++
          '<' :: '/' :: (name.toList ++ ['>']))))

/-- Writes elements one after the other. -/
def printAll : List Element → List Char
  | [] => []
  | e :: rest => e.print ++ printAll rest
end

variable {names names' : List (List Char)} {token : Token} {ts : List Token}
  {cs more body rest raw spaces tag : List Char} {name text : String} {attributes : Attributes}
  {es es' children : List Element} {root : Element} {pieces pieces' : List Piece}

/-- Printing writes an attribute. -/
theorem writesAttributes_print (attributes : Attributes) :
    WritesAttributes (printAttributes attributes) attributes := by
  induction attributes with
  | nil => exact .nil .nil
  | cons a attributes ih =>
      obtain ⟨name, value⟩ := a
      have hone : IsSpaces [' '] := by simp [IsSpaces, isSpace]
      have hvalue : WritesText ['<', '"'] (escape value.toList) value.toList :=
        writesText_escape (by simp [namedCharacters]) _
      have hattribute : WritesAttribute _ (name, value) := .mk .nil .nil (.inl rfl) hvalue
      simpa [printAttributes] using WritesAttributes.cons (by simp) hone hattribute ih

/-- Printing writes an element, whatever is written behind it. -/
theorem Writes.print (e : Element) (h : Writes more es) : Writes (e.print ++ more) (e :: es) := by
  induction e using Element.inductionOnChildren generalizing more es with
  | mk name attributes text children ih =>
      have htag : WritesTag (name.toList ++ printAttributes attributes) name attributes :=
        .mk (writesAttributes_print attributes)
      rw [Element.print]
      split
      case isTrue hempty =>
        obtain ⟨htext, hchildren⟩ := Bool.and_eq_true_iff.mp hempty
        obtain rfl := String.isEmpty_iff.mp htext
        obtain rfl := List.isEmpty_iff.mp hchildren
        simpa using Writes.emptyElement htag h
      case isFalse =>
        have hinside (es : List Element) (hes : ∀ e ∈ es, e ∈ children) :
            Writes (printAll es) es := by
          induction es with
          | nil => exact .nil
          | cons e es ihes =>
              obtain ⟨he, hes⟩ := List.forall_mem_cons.mp hes
              exact ih e he (ihes hes)
        have htext : WritesText ['<'] (escape text.toList) text.toList :=
          writesText_escape (by simp [namedCharacters]) _
        simpa using Writes.element htag .nil htext (hinside children fun _ => id) .nil h

/-! ## Markup -/

/-- A comment ends where its end first occurs. -/
theorem markup_comment (h : ¬ ['-', '-', '>'] <:+: body) :
    markup names ('!' :: '-' :: '-' :: (body ++ ['-', '-', '>']) ++ rest) =
      .ok (.ignored, names, rest) := by
  have hcut : Text.cut? ['-', '-', '>'] (body ++ ['-', '-', '>'] ++ rest) = some (body, rest) := by
    rw [List.append_assoc]
    exact Text.cut?_append (show '>' ∉ ['-', '-'] by decide) h
  simp only [List.cons_append, markup, declarationToken, List.drop_succ_cons, List.drop_zero,
    commentToken, hcut, List.take_succ_cons, List.take_zero, if_pos]
  rfl

/-- A processing instruction ends where its end first occurs. -/
theorem markup_instruction (h : ¬ ['?', '>'] <:+: '?' :: body) :
    markup names ('?' :: (body ++ ['?', '>']) ++ rest) = .ok (.ignored, names, rest) := by
  have hcut : Text.cut? ['?', '>'] ('?' :: (body ++ ['?', '>'] ++ rest)) =
      some ('?' :: body, rest) := by
    rw [List.append_assoc]
    exact Text.cut?_append (show '>' ∉ ['?'] by decide) h
  simp only [List.cons_append, markup, instructionToken, hcut]
  rfl

/-- Markup that begins with a character of a name is a tag. -/
theorem markup_tag {c : Char} (hc : nameChars.contains c = true)
    (hcut : cutTag? none (c :: cs) = some (c :: tag, rest)) :
    markup names (c :: cs) =
      if (c :: tag).getLast? = some '/' then .ok (.emptyTag (c :: tag).dropLast, names, rest)
      else .ok (.startTag (c :: tag), tagName (c :: tag) :: names, rest) := by
  have hne {d : Char} (hd : nameChars.contains d = false) : c ≠ d := by
    rintro rfl
    cases hc.symm.trans hd
  unfold markup
  split
  case h_1 heq => cases heq
  case h_2 heq => exact absurd (List.cons.inj heq).1 (hne rfl)
  case h_3 heq => exact absurd (List.cons.inj heq).1 (hne rfl)
  case h_4 =>
    rw [hcut]
    split
    case h_1 heq => cases heq
    case h_2 heq => exact absurd (List.cons.inj (Prod.mk.inj (Option.some.inj heq)).1).1 (hne rfl)
    case h_3 heq =>
      obtain ⟨rfl, rfl⟩ := Prod.mk.inj (Option.some.inj heq)
      rfl

/-- A start tag opens an element. -/
theorem markup_startTag (h : WritesTag tag name attributes) (hplain : IsPlainTag name attributes) :
    markup names (tag ++ '>' :: rest) = .ok (.startTag tag, name.toList :: names, rest) := by
  have hcut : cutTag? none (tag ++ '>' :: rest) = some (tag, rest) := by
    rw [h.unquoted hplain]
    simp [cutTag?]
  have hlast := h.getLast?_ne hplain.name
  have hopened : tagName tag = name.toList := by
    obtain ⟨h⟩ := h
    exact tagName_append hplain.name h
  obtain ⟨c, more, rfl, hc⟩ := h.exists_cons hplain.name
  rw [List.cons_append] at hcut ⊢
  rw [markup_tag hc hcut, if_neg hlast, hopened]

/-- A tag with a slash at its end is an element by itself. -/
theorem markup_emptyTag (h : WritesTag tag name attributes) (hplain : IsPlainTag name attributes) :
    markup names (tag ++ '/' :: '>' :: rest) = .ok (.emptyTag tag, names, rest) := by
  have hslash : Unquoted ['/'] := unquoted_of_forall (by simp)
  have hcut : cutTag? none (tag ++ '/' :: '>' :: rest) = some (tag ++ ['/'], rest) := by
    have happend := ((h.unquoted hplain).append hslash) ('>' :: rest)
    simpa [cutTag?] using happend
  obtain ⟨c, more, rfl, hc⟩ := h.exists_cons hplain.name
  simp only [List.cons_append] at hcut ⊢
  rw [markup_tag hc hcut, ← List.cons_append, List.getLast?_concat, if_pos rfl,
    List.dropLast_concat]

/-- Spaces are cut off behind another character. -/
theorem trimEnd_append (hcs : ∀ c ∈ cs.getLast?, isSpace c = false) (hspaces : IsSpaces spaces) :
    trimEnd (cs ++ spaces) = cs := by
  have hkeep : cs.rdropWhile isSpace = cs := by
    rw [List.rdropWhile_eq_self_iff]
    intro hne
    simpa using hcs _ (List.getLast?_eq_some_getLast hne)
  rw [trimEnd, List.reverse_append,
    List.dropWhile_append_of_pos fun c hc => hspaces c (List.mem_reverse.mp hc)]
  exact hkeep

/-- An end tag closes the element of its name. -/
theorem markup_endTag (hname : IsName name) (hspaces : IsSpaces spaces) :
    markup (name.toList :: names) ('/' :: (name.toList ++ (spaces ++ ['>'])) ++ rest) =
      .ok (.endTag, names, rest) := by
  have hcut : cutTag? none ('/' :: (name.toList ++ (spaces ++ ['>'])) ++ rest) =
      some ('/' :: (name.toList ++ spaces), rest) := by
    have hslash : Unquoted ['/'] := unquoted_of_forall (by simp)
    have hpassed := hslash.append (hname.unquoted.append hspaces.unquoted)
    simpa [cutTag?] using hpassed ('>' :: rest)
  have htrim : trimEnd (name.toList ++ spaces) = name.toList :=
    trimEnd_append (fun c hc => hname.not_isSpace c (List.mem_of_getLast? hc)) hspaces
  have hfull : (name.toList ++ spaces).all isSpace = false := by
    obtain ⟨c, more, hcons⟩ := hname.exists_cons
    simp [hcons, hname.not_isSpace c (hcons ▸ List.mem_cons_self)]
  have hclose : closeElement (name.toList :: names) (name.toList ++ spaces) = .ok names := by
    simp [closeElement, hfull, htrim]
  simp only [List.cons_append] at hcut ⊢
  simp only [markup, hcut, hclose]
  rfl

/-! ## Texts with markup -/

/-- A text is read as some tokens without a fault while some elements are open. -/
def ReadsAs (names : List (List Char)) (cs : List Char) (ts : List Token) : Prop :=
  ∀ fuel, cs.length < fuel → tokensFrom fuel names cs = (ts, none)

/-- There is nothing to read in spaces. -/
theorem tokensFrom_spaces (hspaces : IsSpaces spaces) (fuel : Nat) :
    tokensFrom fuel names (spaces ++ cs) = tokensFrom fuel names cs := by
  cases fuel with
  | zero => rfl
  | succ fuel => simp only [tokensFrom, List.dropWhile_append_of_pos hspaces]

/-- Markup is read first, then what follows. -/
theorem tokensFrom_markup (hmarkup : markup names cs = .ok (token, names', rest)) (fuel : Nat) :
    tokensFrom (fuel + 1) names ('<' :: cs) =
      (token :: (tokensFrom fuel names' rest).1, (tokensFrom fuel names' rest).2) := by
  have hspace : isSpace '<' = false := rfl
  simp [tokensFrom, hspace, trimEnd, hmarkup]

/-- A text is read first if it neither begins nor ends with a space, then the markup behind it. -/
theorem tokensFrom_text (hne : raw ≠ []) (hraw : '<' ∉ raw)
    (hfirst : ∀ c ∈ raw.head?, isSpace c = false) (hlast : ∀ c ∈ raw.getLast?, isSpace c = false)
    (hspaces : IsSpaces spaces) (fuel : Nat) :
    tokensFrom (fuel + 1) names (raw ++ (spaces ++ '<' :: cs)) =
      (.text raw :: (tokensFrom (fuel + 1) names ('<' :: cs)).1,
        (tokensFrom (fuel + 1) names ('<' :: cs)).2) := by
  have hspace : isSpace '<' = false := rfl
  have hbegin : (raw ++ (spaces ++ '<' :: cs)).dropWhile isSpace =
      raw ++ (spaces ++ '<' :: cs) := by
    obtain ⟨c, more, rfl⟩ := List.exists_cons_of_ne_nil hne
    simp [hfirst c rfl]
  have hbefore : ∀ c ∈ raw ++ spaces, decide (c ≠ '<') = true := by
    intro c hc
    rw [decide_eq_true_eq]
    rintro rfl
    rcases List.mem_append.mp hc with hc | hc
    · exact hraw hc
    · exact absurd (hspaces _ hc) (by decide)
  have htext : (raw ++ (spaces ++ '<' :: cs)).takeWhile (fun c => decide (c ≠ '<')) =
      raw ++ spaces := by
    rw [← List.append_assoc, List.takeWhile_append_of_pos hbefore]
    simp
  have hrest : (raw ++ (spaces ++ '<' :: cs)).dropWhile (fun c => decide (c ≠ '<')) =
      '<' :: cs := by
    rw [← List.append_assoc, List.dropWhile_append_of_pos hbefore]
    simp
  have hnonempty : raw.isEmpty = false := by simpa using hne
  have hnil : trimEnd [] = [] := rfl
  simp only [tokensFrom, hbegin, htext, hrest, trimEnd_append hlast hspaces, hnonempty]
  cases hmarkup : markup names cs <;> simp [hspace, hnil, hmarkup]

theorem ReadsAs.nil (names : List (List Char)) : ReadsAs names [] [] := by
  intro fuel _
  cases fuel <;> rfl

theorem ReadsAs.behind_spaces (hspaces : IsSpaces spaces) (h : ReadsAs names cs ts) :
    ReadsAs names (spaces ++ cs) ts := by
  intro fuel hfuel
  rw [List.length_append] at hfuel
  rw [tokensFrom_spaces hspaces]
  exact h fuel (by omega)

theorem ReadsAs.behind_markup (hmarkup : markup names (cs ++ rest) = .ok (token, names', rest))
    (h : ReadsAs names' rest ts) : ReadsAs names ('<' :: (cs ++ rest)) (token :: ts) := by
  intro fuel hfuel
  rw [List.length_cons, List.length_append] at hfuel
  obtain ⟨fuel, rfl⟩ : ∃ k, fuel = k + 1 := ⟨fuel - 1, by omega⟩
  rw [tokensFrom_markup hmarkup, h fuel (by omega)]

theorem ReadsAs.behind_text (hne : raw ≠ []) (hraw : '<' ∉ raw)
    (hfirst : ∀ c ∈ raw.head?, isSpace c = false) (hlast : ∀ c ∈ raw.getLast?, isSpace c = false)
    (hspaces : IsSpaces spaces) (h : ReadsAs names (spaces ++ '<' :: cs) ts) :
    ReadsAs names (raw ++ (spaces ++ '<' :: cs)) (.text raw :: ts) := by
  intro fuel hfuel
  rw [List.length_append] at hfuel
  obtain ⟨fuel, rfl⟩ : ∃ k, fuel = k + 1 := ⟨fuel - 1, by omega⟩
  have hmore := h (fuel + 1) (by omega)
  rw [tokensFrom_spaces hspaces] at hmore
  rw [tokensFrom_text hne hraw hfirst hlast hspaces, hmore]

/-! ## Documents -/

/-- What is written begins with spaces and then with markup, if there is any. -/
theorem Writes.exists_spaces (h : Writes cs es) (rest : List Char) :
    ∃ spaces more, IsSpaces spaces ∧ cs ++ '<' :: rest = spaces ++ '<' :: more := by
  induction h with
  | nil => exact ⟨[], rest, IsSpaces.nil, rfl⟩
  | emptyElement => exact ⟨[], _, IsSpaces.nil, rfl⟩
  | element => exact ⟨[], _, IsSpaces.nil, rfl⟩
  | aside haside _ ih =>
      cases haside with
      | comment => exact ⟨[], _, IsSpaces.nil, rfl⟩
      | instruction => exact ⟨[], _, IsSpaces.nil, rfl⟩
      | spaces hspaces =>
          obtain ⟨before, more, hbefore, heq⟩ := ih
          refine ⟨_ ++ before, more, List.forall_mem_append.mpr ⟨hspaces, hbefore⟩, ?_⟩
          rw [List.append_assoc, heq, List.append_assoc]

theorem elementsOf_append (pieces more : List Piece) :
    elementsOf (pieces ++ more) = elementsOf pieces ++ elementsOf more := by
  simp [elementsOf_eq_map]

/-- Pieces that can be read and stand for a text and some elements. -/
structure StandFor (pieces : List Piece) (text : List Char) (es : List Element) : Prop where
  elements : elementsOf pieces = es
  ownText : pieces.flatMap Piece.ownText = text
  isReadable : ∀ token ∈ tokensOf pieces, token.IsReadable

namespace StandFor

theorem nil : StandFor [] [] [] := ⟨rfl, rfl, fun _ htoken => absurd htoken List.not_mem_nil⟩

theorem append {text text' : List Char} (h : StandFor pieces text es)
    (h' : StandFor pieces' text' es') :
    StandFor (pieces ++ pieces') (text ++ text') (es ++ es') where
  elements := by rw [elementsOf_append, h.elements, h'.elements]
  ownText := by rw [List.flatMap_append, h.ownText, h'.ownText]
  isReadable := by
    rw [tokensOf_append, List.forall_mem_append]
    exact ⟨h.isReadable, h'.isReadable⟩

theorem ignored : StandFor [.ignored] [] [] :=
  ⟨rfl, rfl, by simp [tokensOf, Piece.tokens, Token.IsReadable]⟩

theorem textPiece {text : List Char} (h : unescape raw = .ok text) :
    StandFor [.text raw] text [] :=
  ⟨rfl, by simp [Piece.ownText, Piece.isElement, Piece.tokens, textOf, Token.written, h,
    Except.toOption], by simpa [tokensOf, Piece.tokens] using ⟨_, h⟩⟩

theorem emptyElement (h : Element.ofTag tag = .ok (.mk name attributes "" [])) :
    StandFor [.emptyElement tag] [] [.mk name attributes "" []] :=
  ⟨by simp [elementsOf, Piece.isElement, Piece.toElement, h, Except.toOption], rfl,
    by simpa [tokensOf, Piece.tokens] using ⟨_, h⟩⟩

/-- An element has the text and the children that the pieces inside it stand for. -/
theorem element (h : Element.ofTag tag = .ok (.mk name attributes "" []))
    (hinside : StandFor pieces text.toList children) :
    StandFor [.element tag pieces] [] [.mk name attributes text children] := by
  refine ⟨?_, rfl, ?_⟩
  · simp [elementsOf, Piece.isElement, Piece.toElement, h, Except.toOption, hinside.ownText,
      hinside.elements, Element.extend]
  · simp only [tokensOf, Piece.tokens, List.append_nil, List.forall_mem_cons,
      List.forall_mem_append]
    exact ⟨⟨_, h⟩, hinside.isReadable, True.intro, fun _ htoken => absurd htoken List.not_mem_nil⟩

end StandFor

/-- Characters are read as the tokens of pieces, whatever is open before and read behind them. -/
def AreReadAs (cs : List Char) (pieces : List Piece) : Prop :=
  ∀ names rest ts, ReadsAs names rest ts → ReadsAs names (cs ++ rest) (tokensOf pieces ++ ts)

theorem AreReadAs.append (h : AreReadAs cs pieces) (h' : AreReadAs more pieces') :
    AreReadAs (cs ++ more) (pieces ++ pieces') := by
  intro names rest ts hrest
  rw [tokensOf_append, List.append_assoc, List.append_assoc]
  exact h names _ _ (h' names rest ts hrest)

/-- Asides are read as nothing. -/
theorem exists_aside (h : IsAside cs) : ∃ pieces, StandFor pieces [] [] ∧ AreReadAs cs pieces := by
  cases h with
  | spaces hspaces => exact ⟨[], .nil, fun _ _ _ hrest => hrest.behind_spaces hspaces⟩
  | comment hbody =>
      exact ⟨[.ignored], .ignored, fun _ _ _ hrest => hrest.behind_markup (markup_comment hbody)⟩
  | instruction hbody =>
      exact ⟨[.ignored], .ignored, fun _ _ _ hrest =>
        hrest.behind_markup (markup_instruction hbody)⟩

/-- A text is read up to the first markup among the asides and elements behind it. -/
theorem exists_text {text : List Char} (htext : WritesText ['<'] raw text)
    (hfirst : ∀ c ∈ text.head?, isSpace c = false)
    (hlast : ∀ c ∈ text.getLast?, isSpace c = false) (hinside : Writes cs es) :
    ∃ pieces, StandFor pieces text [] ∧ ∀ names rest ts, ReadsAs names (cs ++ '<' :: rest) ts →
      ReadsAs names (raw ++ (cs ++ '<' :: rest)) (tokensOf pieces ++ ts) := by
  cases raw with
  | nil =>
      cases htext
      exact ⟨[], .nil, fun _ _ _ => id⟩
  | cons c raw =>
      refine ⟨_, .textPiece (unescape_of_writesText htext), fun names rest ts h => ?_⟩
      obtain ⟨spaces, more, hspaces, heq⟩ := hinside.exists_spaces rest
      rw [heq] at h ⊢
      exact h.behind_text (List.cons_ne_nil _ _) (htext.not_mem (by simp) (by decide))
        (htext.head_not_isSpace hfirst) (htext.last_not_isSpace hlast) hspaces

/-- A tag with a slash at its end is read as an element by itself. -/
theorem areReadAs_emptyElement (htag : WritesTag tag name attributes)
    (hplain : IsPlainTag name attributes) :
    AreReadAs ('<' :: (tag ++ ['/', '>'])) [.emptyElement tag] := by
  intro names rest ts hrest
  have hmarkup : markup names (tag ++ ['/', '>'] ++ rest) = .ok (.emptyTag tag, names, rest) := by
    rw [List.append_assoc]
    exact markup_emptyTag htag hplain
  exact hrest.behind_markup hmarkup

/-- Between a start tag and its end tag the pieces inside an element are read. -/
theorem areReadAs_element {before inside : List Char} {beforePieces textPieces : List Piece}
    (htag : WritesTag tag name attributes) (hplain : IsPlainTag name attributes)
    (hbefore : AreReadAs before beforePieces)
    (htext : ∀ names rest ts, ReadsAs names (inside ++ '<' :: rest) ts →
      ReadsAs names (raw ++ (inside ++ '<' :: rest)) (tokensOf textPieces ++ ts))
    (hinside : AreReadAs inside pieces) (hspaces : IsSpaces spaces) :
    AreReadAs ('<' :: (tag ++ '>' :: (before ++ (raw ++ (inside ++
        '<' :: '/' :: (name.toList ++ (spaces ++ ['>'])))))))
      [.element tag (beforePieces ++ (textPieces ++ pieces))] := by
  intro names rest ts hrest
  have hend := hrest.behind_markup (markup_endTag hplain.name hspaces)
  have hcontent := hbefore _ _ _ (htext _ _ _ (hinside _ _ _ hend))
  have hmarkup (cs : List Char) : markup names (tag ++ ['>'] ++ cs) =
      .ok (.startTag tag, name.toList :: names, cs) := by
    rw [List.append_assoc]
    exact markup_startTag htag hplain
  simpa [tokensOf, Piece.tokens, tokensOf_append] using hcontent.behind_markup (hmarkup _)

/-- What is written can be read as pieces that stand for the elements. -/
theorem exists_pieces_of_writes (h : Writes cs es) (hplain : ∀ e ∈ es, e.IsPlain) :
    ∃ pieces, StandFor pieces [] es ∧ AreReadAs cs pieces := by
  induction h with
  | nil => exact ⟨[], .nil, fun _ _ _ => id⟩
  | aside haside _ ih =>
      obtain ⟨pieces, hstand, hread⟩ := exists_aside haside
      obtain ⟨pieces', hstand', hread'⟩ := ih hplain
      exact ⟨_, hstand.append hstand', hread.append hread'⟩
  | emptyElement htag _ ih =>
      obtain ⟨⟨hnames, -, -, -⟩, hmore⟩ := List.forall_mem_cons.mp hplain
      obtain ⟨pieces', hstand', hread'⟩ := ih hmore
      refine ⟨_, (StandFor.emptyElement (ofTag_of_writesTag htag hnames)).append hstand', ?_⟩
      simpa using (areReadAs_emptyElement htag hnames).append hread'
  | element htag _ hraw hwrites hspaces _ ihbefore ihinside ih =>
      obtain ⟨⟨hnames, hfirst, hlast, hchildren⟩, hmore⟩ := List.forall_mem_cons.mp hplain
      obtain ⟨beforePieces, hbefore, hreadBefore⟩ := ihbefore (by simp)
      obtain ⟨textPieces, htext, hreadText⟩ := exists_text hraw hfirst hlast hwrites
      obtain ⟨insidePieces, hinside, hreadInside⟩ := ihinside hchildren
      obtain ⟨pieces', hstand', hread'⟩ := ih hmore
      have hcontent : StandFor (beforePieces ++ (textPieces ++ insidePieces)) _ _ :=
        hbefore.append (htext.append hinside)
      refine ⟨_, (StandFor.element (ofTag_of_writesTag htag hnames)
        (by simpa using hcontent)).append
        hstand', ?_⟩
      have helement := areReadAs_element htag hnames hreadBefore hreadText hreadInside hspaces
      simpa using helement.append hread'

/-- A document begins with a space or with markup. -/
theorem Writes.head_ne (h : Writes cs es) : cs.head? ≠ some '\ufeff' := by
  obtain ⟨spaces, more, hspaces, heq⟩ := h.exists_spaces []
  rintro hhead
  cases cs with
  | nil => cases hhead
  | cons c cs =>
      obtain rfl := Option.some.inj hhead
      cases spaces with
      | nil => exact absurd (List.cons.inj heq).1 (by decide)
      | cons s spaces =>
          obtain rfl := (List.cons.inj heq).1
          exact absurd (hspaces _ List.mem_cons_self) (by decide)

/-- A written document is read as its tree. -/
theorem ofText_of_writes (h : Writes cs [root]) (hplain : root.IsPlain) :
    Element.ofText (String.ofList cs) = .ok root := by
  obtain ⟨pieces, hstand, hread⟩ := exists_pieces_of_writes h (by simpa using hplain)
  have htokens : tokens cs = (tokensOf pieces, none) := by
    have hall := hread [] [] [] (.nil []) (cs.length + 1) (by simp)
    rw [List.append_nil, List.append_nil] at hall
    unfold tokens
    split
    case h_1 => exact absurd rfl h.head_ne
    case h_2 => exact hall
  rw [Element.ofText, String.toList_ofList, htokens]
  exact ofTokens_tokensOf hstand.isReadable hstand.elements

/-- Every plain tree can be written, and however it is written, the document is read as this tree. A
stream of tokens is accepted as a tree just if no fault comes behind it, its tags and texts can be
read, its start and end tags are balanced, as they are in pieces, and exactly one element is at top
level, which is the tree. -/
theorem reads_written_documents :
    (∀ root : Element, root.IsPlain → Writes root.print [root] ∧
      ∀ cs, Writes cs [root] → Element.ofText (String.ofList cs) = .ok root) ∧
    ∀ ts fault root, Element.ofTokens ts fault = .ok root ↔
      fault = none ∧ (∀ token ∈ ts, token.IsReadable) ∧
        ∃ pieces top, tokensOf pieces = ts ∧ pieces.filter Piece.isElement = [top] ∧
          top.toElement = root := by
  refine ⟨fun root hplain => ⟨?_, fun cs hcs => ofText_of_writes hcs hplain⟩,
    fun ts fault root => ?_⟩
  · simpa using Writes.nil.print root
  · simp only [ofTokens_eq_ok_iff, elementsOf_eq_map, List.map_eq_singleton_iff]
    constructor
    · rintro ⟨hfault, hread, pieces, htokens, top, hfilter, hroot⟩
      exact ⟨hfault, hread, pieces, top, htokens, hfilter, hroot⟩
    · rintro ⟨hfault, hread, pieces, top, htokens, hfilter, hroot⟩
      exact ⟨hfault, hread, pieces, htokens, top, hfilter, hroot⟩

/-- An element with an attribute, a text and a child. -/
def memo : Element := .mk "a" [("k", "1<2")] "x & y" [.mk "b" [] "" []]

theorem memo_isPlain : memo.IsPlain := by
  have hname (c : Char) (hstart : nameStarts.contains c = true) (hc : nameChars.contains c = true) :
      IsName (String.ofList [c]) :=
    ⟨⟨c, by simp, hstart⟩, by simpa using hc⟩
  have hb : Element.IsPlain (.mk "b" [] "" []) :=
    .mk ⟨hname 'b' (by decide) (by decide), by simp, by simp⟩ (by simp) (by simp) (by simp)
  have ha : IsPlainTag "a" [("k", "1<2")] :=
    ⟨hname 'a' (by decide) (by decide), by simpa using hname 'k' (by decide) (by decide), by simp⟩
  exact .mk ha (by simp [isSpace]) (by simp [isSpace]) (by simpa using hb)

/-- The text of the element, with more than needed: an instruction and a comment, spaces around the
parts of its tags, single quotes, and an entity by number. -/
def memoText : String := "<?p?><a k = '1&lt;2' ><!-- n -->\nx &#38; y<b/></a >"

theorem memo_writes : Writes memoText.toList [memo] := by
  have hspace : IsSpaces [' '] := by simp [IsSpaces, isSpace]
  have hvalue : WritesText ['<', '\''] ('1' :: '&' :: ("lt".toList ++ ';' :: ['2']))
      ['1', '<', '2'] :=
    .plain (by decide) (by decide)
      (.entity (.named (by decide)) (.plain (by decide) (by decide) .nil))
  have htag : WritesTag _ "a" [("k", "1<2")] :=
    .mk (.cons (by simp) hspace (.mk hspace hspace (.inr rfl) hvalue) (.nil hspace))
  have hcode : WritesCode 10 (['3'] ++ ['8']) (3 * 10 + 8) := .more (.digit rfl) rfl
  have htext : WritesText ['<']
      ('x' :: ' ' :: '&' :: ('#' :: (['3'] ++ ['8']) ++ ';' :: [' ', 'y']))
      ['x', ' ', '&', ' ', 'y'] :=
    .plain (by decide) (by decide) (.plain (by decide) (by decide)
      (.entity (.decimal hcode (by decide))
        (.plain (by decide) (by decide) (.plain (by decide) (by decide) .nil))))
  have hinstruction : IsAside ('<' :: '?' :: (['p'] ++ ['?', '>'])) := .instruction (by decide)
  have hcomment : IsAside ('<' :: '!' :: '-' :: '-' :: ([' ', 'n', ' '] ++ ['-', '-', '>'])) :=
    .comment (by decide)
  have hnewline : IsAside ['\n'] := .spaces (by simp [IsSpaces, isSpace])
  have hchild : Writes _ [.mk "b" [] "" []] := .emptyElement (.mk (.nil .nil)) .nil
  have hwritten : Writes _ [memo] := .aside hinstruction
    (.element htag (.aside hcomment (.aside hnewline .nil)) htext hchild hspace .nil)
  exact (congrArg (Writes · [memo]) (by decide)).mpr hwritten

/-- The element is read from its text. -/
theorem memo_read : memo.IsPlain ∧ Writes memoText.toList [memo] ∧
    Element.ofText memoText = .ok memo := by
  have hread := (reads_written_documents.1 memo memo_isPlain).2 _ memo_writes
  rw [String.ofList_toList] at hread
  exact ⟨memo_isPlain, memo_writes, hread⟩

end Flowchart.Xml
