import Mathlib.Data.List.Induction
import Flowchart.Proofs.Refusal
import Flowchart.Proofs.Xml.Address

/-!
# Elements and the text they were read from

A document is written in pieces, some of which are elements with pieces inside them (`Piece`). The
tokens of an accepted document are those of such pieces (`exists_pieces`), and the tree that is
built of them is the tree of their elements (`Builder.takes_tokensOf`), so that every element has
its place in the text. The string value of an element is the text directly inside it and then that
of its children, each the same way (`toList_stringValue_toElement`). That is all the text from its
start tag to its end tag as it stands there if no text directly inside an element follows a child
with text (`stringValue_of_source`).
-/

namespace Flowchart.Xml

/-! ## Pieces -/

/-- What a document is written in. -/
inductive Piece where
  | text (raw : List Char)
  | characterData (content : List Char)
  | ignored
  | emptyElement (tag : List Char)
  | element (tag : List Char) (inside : List Piece)

mutual
/-- The tokens of a piece. -/
def Piece.tokens : Piece → List Token
  | .text raw => [.text raw]
  | .characterData content => [.characterData content]
  | .ignored => [.ignored]
  | .emptyElement tag => [.emptyTag tag]
  | .element tag inside => .startTag tag :: (tokensOf inside ++ [.endTag])

/-- The tokens of pieces one after the other. -/
def tokensOf : List Piece → List Token
  | [] => []
  | p :: rest => p.tokens ++ tokensOf rest
end

/-- The characters that a token adds to the text around it. -/
def Token.written : Token → List Char
  | .text raw => (unescape raw).toOption.getD []
  | .characterData content => content
  | _ => []

/-- All text in some tokens, in their order. -/
def textOf (tokens : List Token) : List Char := tokens.flatMap Token.written

namespace Piece

/-- Whether a piece is an element. -/
def isElement : Piece → Bool
  | emptyElement _ | element _ _ => true
  | _ => false

/-- The pieces inside an element. -/
def inside : Piece → List Piece
  | element _ inside => inside
  | _ => []

/-- The characters that a piece adds to the text directly inside the element around it. -/
def ownText (p : Piece) : List Char := if p.isElement then [] else textOf p.tokens

end Piece

/-- An element with more text and more children. -/
def Element.extend (text : List Char) (children : List Element) : Element → Element
  | mk n a t c => mk n a (t ++ String.ofList text) (c ++ children)

mutual
/-- The element that a piece stands for. -/
def Piece.toElement : Piece → Element
  | .emptyElement tag => (Element.ofTag tag).toOption.getD default
  | .element tag inside => ((Element.ofTag tag).toOption.getD default).extend
      (inside.flatMap Piece.ownText) (elementsOf inside)
  | _ => default

/-- The elements among some pieces. -/
def elementsOf : List Piece → List Element
  | [] => []
  | p :: rest => if p.isElement then p.toElement :: elementsOf rest else elementsOf rest
end

mutual
/-- The text directly inside an element, then that of its children in order. -/
def Piece.outerTextFirst : Piece → List Char
  | .element _ inside => inside.flatMap Piece.ownText ++ outerTextsFirst inside
  | _ => []

/-- The texts of the elements among some pieces. -/
def outerTextsFirst : List Piece → List Char
  | [] => []
  | p :: rest => p.outerTextFirst ++ outerTextsFirst rest
end

namespace Piece

/-- No text directly inside an element follows a child with text, at any depth. -/
inductive IsTextFirst : Piece → Prop where
  | intro (p : Piece) :
      (p.inside.Pairwise fun q r => q.isElement → textOf q.tokens ≠ [] → r.ownText = []) →
      (∀ q ∈ p.inside, q.IsTextFirst) → IsTextFirst p

/-- The piece at an address, which counts the elements only. -/
def at? : Piece → Address → Option Piece
  | p, [] => some p
  | p, i :: address => (p.inside.filter isElement)[i]?.bind fun child => child.at? address

/-- What holds of a piece whenever it holds of those inside it holds of all pieces. -/
theorem inductionOnInside {P : Piece → Prop} (leaf : ∀ p : Piece, p.isElement = false → P p)
    (emptyElement : ∀ tag, P (emptyElement tag))
    (element : ∀ tag inside, (∀ p ∈ inside, P p) → P (element tag inside)) (p : Piece) : P p := by
  refine Piece.rec (motive_1 := P) (motive_2 := fun ps => ∀ p ∈ ps, P p)
    (fun _ => leaf _ rfl) (fun _ => leaf _ rfl) (leaf _ rfl) emptyElement element ?_ ?_ p
  · exact fun _ hp => absurd hp List.not_mem_nil
  · exact fun _ _ hp hps => List.forall_mem_cons.mpr ⟨hp, hps⟩

end Piece

variable {b b' b'' : Builder} {e root : Element} {p piece : Piece} {pieces : List Piece}
  {ts : List Token} {cs cs' : List Char} {es es' : List Element} {address : Address}

theorem tokensOf_append (pieces more : List Piece) :
    tokensOf (pieces ++ more) = tokensOf pieces ++ tokensOf more := by
  induction pieces with
  | nil => rfl
  | cons p rest ih => rw [List.cons_append, tokensOf, tokensOf, ih, List.append_assoc]

theorem elementsOf_eq_map (pieces : List Piece) :
    elementsOf pieces = (pieces.filter Piece.isElement).map Piece.toElement := by
  induction pieces with
  | nil => rfl
  | cons p rest ih =>
      rw [elementsOf, List.filter_cons, ih]
      split <;> rfl

/-! ## Building -/

/-- Text and elements are taken into the innermost open element, or behind the root so far if no
element is open. -/
inductive Builder.Takes (cs : List Char) (es : List Element) : Builder → Builder → Prop where
  | inside (e : Element) (opened : List Element) (root : Option Element) :
      Takes cs es ⟨e :: opened, root⟩ ⟨e.extend cs es :: opened, root⟩
  | outside (root root' : Option Element) :
      root'.toList = root.toList ++ es → Takes cs es ⟨[], root⟩ ⟨[], root'⟩

namespace Builder

theorem Takes.refl (b : Builder) : Takes [] [] b b := by
  obtain ⟨opened, root⟩ := b
  cases opened with
  | nil => exact .outside root root (by simp)
  | cons e opened =>
      have hextend : e.extend [] [] = e := by
        obtain ⟨n, a, t, c⟩ := e
        simp [Element.extend]
      have htakes : Takes [] [] ⟨e :: opened, root⟩ ⟨e.extend [] [] :: opened, root⟩ :=
        .inside e opened root
      rwa [hextend] at htakes

theorem Takes.trans (h : Takes cs es b b') (h' : Takes cs' es' b' b'') :
    Takes (cs ++ cs') (es ++ es') b b'' := by
  cases h with
  | inside e opened root =>
      obtain ⟨⟩ := h'
      have hextend : (e.extend cs es).extend cs' es' = e.extend (cs ++ cs') (es ++ es') := by
        obtain ⟨n, a, t, c⟩ := e
        simp [Element.extend, String.append_assoc]
      rw [hextend]
      exact .inside e opened root
  | outside root root' hroot =>
      obtain _ | ⟨_, root'', hroot'⟩ := h'
      exact .outside root root'' (by rw [hroot', hroot, List.append_assoc])

/-- A closed element becomes a child or the root. -/
theorem takes_of_attach (h : b.attach e = .ok b') : Takes [] [e] b b' := by
  obtain ⟨opened, root⟩ := b
  cases opened with
  | cons parent opened =>
      obtain rfl := Except.ok.inj h
      have hextend : parent.addChild e = parent.extend [] [e] := by
        obtain ⟨n, a, t, c⟩ := parent
        simp [Element.extend, Element.addChild]
      rw [hextend]
      exact .inside parent opened root
  | nil =>
      cases root with
      | some root => cases h
      | none =>
          obtain rfl := Except.ok.inj h
          exact .outside none (some e) rfl

/-- Text is added to the innermost open element. -/
theorem takes_addText (b : Builder) (cs : List Char) : Takes cs [] b (b.addText cs) := by
  obtain ⟨opened, root⟩ := b
  cases opened with
  | nil => exact .outside root root (by simp)
  | cons e opened =>
      have hextend : e.addText (String.ofList cs) = e.extend cs [] := by
        obtain ⟨n, a, t, c⟩ := e
        simp [Element.extend, Element.addText]
      simp only [addText, hextend]
      exact .inside e opened root

/-- A piece that is no element is taken in as its text. -/
theorem takes_leaf (hp : p.isElement = false) (h : p.tokens.foldlM accept b = .ok b') :
    Takes p.ownText [] b b' := by
  cases p with
  | text raw =>
      simp only [Piece.tokens, List.foldlM_cons, List.foldlM_nil, bind_pure, accept,
        bind_eq_ok_iff] at h
      obtain ⟨image, himage, h⟩ := h
      obtain rfl := Except.ok.inj h
      have hown : (Piece.text raw).ownText = image := by
        simp [Piece.ownText, Piece.isElement, Piece.tokens, textOf, Token.written, himage,
          Except.toOption]
      rw [hown]
      exact takes_addText b image
  | characterData content =>
      obtain rfl := Except.ok.inj h
      have hown : (Piece.characterData content).ownText = content := List.append_nil content
      rw [hown]
      exact takes_addText b content
  | ignored =>
      obtain rfl := Except.ok.inj h
      exact .refl b
  | emptyElement tag => cases hp
  | element tag inside => cases hp

/-- Pieces are taken in one after the other if each of them is. -/
theorem takes_of_forall (hpieces : ∀ p ∈ pieces, ∀ b b' : Builder,
      p.tokens.foldlM accept b = .ok b' → Takes p.ownText (elementsOf [p]) b b')
    (h : (tokensOf pieces).foldlM accept b = .ok b') :
    Takes (pieces.flatMap Piece.ownText) (elementsOf pieces) b b' := by
  induction pieces generalizing b with
  | nil =>
      obtain rfl := Except.ok.inj h
      exact .refl b
  | cons p pieces ih =>
      obtain ⟨hp, hpieces⟩ := List.forall_mem_cons.mp hpieces
      rw [tokensOf, List.foldlM_append, bind_eq_ok_iff] at h
      obtain ⟨mid, hmid, h⟩ := h
      have helements : elementsOf (p :: pieces) = elementsOf [p] ++ elementsOf pieces := by
        simp only [elementsOf]
        split <;> rfl
      rw [helements]
      exact (hp b mid hmid).trans (ih hpieces h)

/-- The tokens of a piece are taken in as its text, or as the element that it stands for. -/
theorem takes_tokens (p : Piece) (b b' : Builder) (h : p.tokens.foldlM accept b = .ok b') :
    Takes p.ownText (elementsOf [p]) b b' := by
  induction p using Piece.inductionOnInside generalizing b b' with
  | leaf p hp =>
      have hnone : elementsOf [p] = [] := by simp [elementsOf, hp]
      rw [hnone]
      exact takes_leaf hp h
  | emptyElement tag =>
      simp only [Piece.tokens, List.foldlM_cons, List.foldlM_nil, bind_pure, accept,
        bind_eq_ok_iff] at h
      obtain ⟨e, he, h⟩ := h
      have hself : elementsOf [.emptyElement tag] = [e] := by
        simp [elementsOf, Piece.isElement, Piece.toElement, he, Except.toOption]
      rw [hself]
      exact takes_of_attach h
  | element tag inside ih =>
      simp only [Piece.tokens, List.foldlM_cons, List.foldlM_append, List.foldlM_nil, bind_pure,
        accept, bind_eq_ok_iff] at h
      obtain ⟨_, ⟨e, he, hstart⟩, closing, hinside, h⟩ := h
      obtain rfl := Except.ok.inj hstart
      obtain ⟨⟩ := takes_of_forall ih hinside
      have hself : elementsOf [.element tag inside] =
          [e.extend (inside.flatMap Piece.ownText) (elementsOf inside)] := by
        simp [elementsOf, Piece.isElement, Piece.toElement, he, Except.toOption]
      rw [hself]
      exact takes_of_attach h

/-- The tokens of pieces are taken in as the text of those that are no elements, and as the elements
that the others stand for. -/
theorem takes_tokensOf (h : (tokensOf pieces).foldlM accept b = .ok b') :
    Takes (pieces.flatMap Piece.ownText) (elementsOf pieces) b b' :=
  takes_of_forall (fun p _ => takes_tokens p) h

end Builder

/-- The tree of pieces is that of the only element among them. -/
theorem elementsOf_of_ofTokens {fault : Option Fault}
    (h : Element.ofTokens (tokensOf pieces) fault = .ok root) : elementsOf pieces = [root] := by
  rw [Element.ofTokens, bind_eq_ok_iff] at h
  obtain ⟨b, hb, h⟩ := h
  cases fault with
  | some fault => cases h
  | none =>
      obtain _ | ⟨_, root', hroot⟩ := Builder.takes_tokensOf hb
      cases root' with
      | none => cases h
      | some e =>
          obtain rfl := Except.ok.inj h
          simpa using hroot.symm

/-! ## Pieces of accepted documents -/

/-- Tokens in which so many elements have been opened and not closed. -/
def IsOpen : Nat → List Token → Prop
  | 0, ts => ∃ pieces, ts = tokensOf pieces
  | n + 1, ts => ∃ before tag pieces,
      ts = before ++ .startTag tag :: tokensOf pieces ∧ IsOpen n before

/-- The number of open elements after a token. -/
def Token.deepen? : Token → Nat → Option Nat
  | .startTag _, n => some (n + 1)
  | .endTag, 0 => none
  | .endTag, n + 1 => some n
  | _, n => some n

/-- A piece can stand wherever elements are open. -/
theorem IsOpen.append_piece {n : Nat} (h : IsOpen n ts) (p : Piece) :
    IsOpen n (ts ++ p.tokens) := by
  have hsnoc (pieces : List Piece) : tokensOf pieces ++ p.tokens = tokensOf (pieces ++ [p]) := by
    rw [tokensOf_append, tokensOf, tokensOf, List.append_nil]
  cases n with
  | zero =>
      obtain ⟨pieces, rfl⟩ := h
      exact ⟨_, hsnoc pieces⟩
  | succ n =>
      obtain ⟨before, tag, pieces, rfl, hbefore⟩ := h
      exact ⟨before, tag, _, by rw [List.append_assoc, List.cons_append, hsnoc], hbefore⟩

/-- Another token opens an element, closes the innermost one, or is a piece by itself. -/
theorem IsOpen.append_token {n d : Nat} {token : Token} (h : IsOpen n ts)
    (htoken : token.deepen? n = some d) : IsOpen d (ts ++ [token]) := by
  have hleaf {p : Piece} (hp : p.tokens = [token]) (hd : n = d) : IsOpen d (ts ++ [token]) := by
    rw [← hp, ← hd]
    exact h.append_piece p
  cases token with
  | startTag tag =>
      obtain rfl := Option.some.inj htoken
      exact ⟨ts, tag, [], rfl, h⟩
  | endTag =>
      cases n with
      | zero => cases htoken
      | succ n =>
          obtain rfl := Option.some.inj htoken
          obtain ⟨before, tag, pieces, rfl, hbefore⟩ := h
          simpa [Piece.tokens] using hbefore.append_piece (.element tag pieces)
  | emptyTag tag => exact hleaf (p := .emptyElement tag) rfl (Option.some.inj htoken)
  | text raw => exact hleaf (p := .text raw) rfl (Option.some.inj htoken)
  | characterData content => exact hleaf (p := .characterData content) rfl (Option.some.inj htoken)
  | ignored => exact hleaf (p := .ignored) rfl (Option.some.inj htoken)

/-- Taking in pieces leaves open what was open. -/
theorem Builder.Takes.length_eq (h : Takes cs es b b') : b'.opened.length = b.opened.length := by
  cases h <;> rfl

/-- The builder has as many elements open as the tokens so far. -/
theorem deepen?_of_accept {token : Token} (h : b.accept token = .ok b') :
    token.deepen? b.opened.length = some b'.opened.length := by
  cases token with
  | startTag tag =>
      obtain ⟨e, -, h⟩ := bind_eq_ok_iff.mp h
      obtain rfl := Except.ok.inj h
      rfl
  | emptyTag tag =>
      obtain ⟨e, -, h⟩ := bind_eq_ok_iff.mp h
      rw [(Builder.takes_of_attach h).length_eq]
      rfl
  | endTag =>
      obtain ⟨opened, root⟩ := b
      cases opened with
      | nil => cases h
      | cons e opened =>
          rw [(Builder.takes_of_attach h).length_eq]
          rfl
  | text raw =>
      obtain ⟨image, -, h⟩ := bind_eq_ok_iff.mp h
      obtain rfl := Except.ok.inj h
      rw [(Builder.takes_addText b image).length_eq]
      rfl
  | characterData content =>
      obtain rfl := Except.ok.inj h
      rw [(Builder.takes_addText b content).length_eq]
      rfl
  | ignored =>
      obtain rfl := Except.ok.inj h
      rfl

/-- Accepted tokens have as many elements open as the builder. -/
theorem isOpen_of_foldlM (h : ts.foldlM Builder.accept ⟨[], none⟩ = .ok b) :
    IsOpen b.opened.length ts := by
  induction ts using List.reverseRecOn generalizing b with
  | nil =>
      obtain rfl := Except.ok.inj h
      exact ⟨[], rfl⟩
  | append_singleton ts token ih =>
      rw [List.foldlM_append, bind_eq_ok_iff] at h
      obtain ⟨mid, hmid, h⟩ := h
      simp only [List.foldlM_cons, List.foldlM_nil, bind_pure] at h
      exact (ih hmid).append_token (deepen?_of_accept h)

/-- Accepted tokens are those of pieces. -/
theorem exists_tokensOf_eq {fault : Option Fault} (h : Element.ofTokens ts fault = .ok root) :
    ∃ pieces, tokensOf pieces = ts := by
  rw [Element.ofTokens, bind_eq_ok_iff] at h
  obtain ⟨b, hb, hfinish⟩ := h
  have hclosed : b.opened = [] := by
    split at hfinish
    · cases hfinish
    · unfold Builder.finish at hfinish
      split at hfinish
      case h_1 => cases hfinish
      case h_2 hempty _ => exact hempty
      case h_3 hempty _ => exact hempty
  have hopen := isOpen_of_foldlM hb
  rw [hclosed] at hopen
  obtain ⟨pieces, hpieces⟩ := hopen
  exact ⟨pieces, hpieces.symm⟩

/-- An accepted document is written in pieces. -/
theorem exists_pieces {s : String} (h : Element.ofText s = .ok root) :
    ∃ pieces, tokensOf pieces = (tokens s.toList).1 :=
  exists_tokensOf_eq h

/-! ## Places -/

/-- A tag stands for an element with nothing in it. -/
theorem exists_ofTag (tag : List Char) :
    ∃ n a, (Element.ofTag tag).toOption.getD default = .mk n a "" [] := by
  rw [Element.ofTag]
  cases tagAttributes tag with
  | ok attributes => exact ⟨_, attributes, rfl⟩
  | error fault => exact ⟨_, _, rfl⟩

/-- The children of an element are the elements inside its piece. -/
theorem children_toElement (p : Piece) :
    p.toElement.children = (p.inside.filter Piece.isElement).map Piece.toElement := by
  cases p with
  | element tag inside =>
      obtain ⟨n, a, htag⟩ := exists_ofTag tag
      rw [Piece.toElement, htag, ← elementsOf_eq_map]
      rfl
  | emptyElement tag =>
      obtain ⟨n, a, htag⟩ := exists_ofTag tag
      rw [Piece.toElement, htag]
      rfl
  | text raw => rfl
  | characterData content => rfl
  | ignored => rfl

/-- The element at an address is that of the piece there. -/
theorem at?_toElement (p : Piece) (address : Address) :
    p.toElement.at? address = (p.at? address).map Piece.toElement := by
  induction address generalizing p with
  | nil => rfl
  | cons i address ih =>
      rw [Element.at?, Piece.at?, children_toElement, List.getElem?_map, Option.bind_map,
        Option.map_bind]
      exact congrArg _ (funext ih)

/-- Only elements are at the addresses in an element. -/
theorem isElement_of_at? (hp : p.isElement = true) (h : p.at? address = some piece) :
    piece.isElement = true := by
  induction address generalizing p with
  | nil => exact Option.some.inj h ▸ hp
  | cons i address ih =>
      obtain ⟨child, hchild, h⟩ := Option.bind_eq_some_iff.mp h
      exact ih (List.mem_filter.mp (List.mem_of_getElem? hchild)).2 h

/-- The tokens of one of some pieces are part of all tokens. -/
theorem infix_tokensOf (h : p ∈ pieces) : p.tokens <:+: tokensOf pieces := by
  obtain ⟨before, after, rfl⟩ := List.append_of_mem h
  rw [tokensOf_append, tokensOf]
  exact ⟨tokensOf before, tokensOf after, List.append_assoc _ _ _⟩

/-- The tokens of what is inside a piece are part of its tokens. -/
theorem infix_of_at? (h : p.at? address = some piece) : piece.tokens <:+: p.tokens := by
  induction address generalizing p with
  | nil => exact Option.some.inj h ▸ List.infix_rfl
  | cons i address ih =>
      obtain ⟨child, hchild, hpiece⟩ := Option.bind_eq_some_iff.mp h
      have hinside := (List.mem_filter.mp (List.mem_of_getElem? hchild)).1
      cases p with
      | element tag inside =>
          refine (ih hpiece).trans ((infix_tokensOf hinside).trans ?_)
          exact ⟨[.startTag tag], [.endTag], by simp [Piece.tokens, Piece.inside]⟩
      | _ => cases hinside

/-! ## String values -/

theorem textOf_append (ts ts' : List Token) : textOf (ts ++ ts') = textOf ts ++ textOf ts' :=
  List.flatMap_append

/-- A piece that is no element has no children, and so no texts of children. -/
theorem outerTextFirst_of_leaf (hp : p.isElement = false) : p.outerTextFirst = [] := by
  cases p <;> first | rfl | cases hp

/-- A piece with nothing inside has no text behind a child. -/
theorem Piece.isTextFirst_of_leaf (hp : p.inside = []) : p.IsTextFirst :=
  .intro p (by simp [hp]) (by simp [hp])

/-- The string value of an element is the text directly inside it, then that of its children. -/
theorem toList_stringValue_toElement (hp : p.isElement = true) :
    p.toElement.stringValue.toList = p.outerTextFirst := by
  induction p using Piece.inductionOnInside with
  | leaf p hleaf => cases hleaf.symm.trans hp
  | emptyElement tag =>
      obtain ⟨n, a, htag⟩ := exists_ofTag tag
      rw [Piece.toElement, htag]
      rfl
  | element tag inside ih =>
      have hinside (ps : List Piece) (hps : ∀ p ∈ ps, p ∈ inside) :
          (Element.stringValues (elementsOf ps)).toList = outerTextsFirst ps := by
        induction ps with
        | nil => rfl
        | cons p ps ihps =>
            obtain ⟨hp, hps⟩ := List.forall_mem_cons.mp hps
            rw [elementsOf, outerTextsFirst, ← ihps hps]
            split
            case isTrue helement =>
              rw [Element.stringValues, String.toList_append, ih p hp helement]
            case isFalse hleaf =>
              rw [outerTextFirst_of_leaf (Bool.eq_false_iff.mpr hleaf), List.nil_append]
      obtain ⟨n, a, htag⟩ := exists_ofTag tag
      rw [Piece.toElement, htag, Piece.outerTextFirst, ← hinside inside fun _ => id]
      simp [Element.extend, Element.stringValue]

/-- If no text follows a child with text, the text directly inside and then that of the children is
all text in its order. -/
theorem outerTextsFirst_eq
    (horder : pieces.Pairwise fun p q => p.isElement → textOf p.tokens ≠ [] → q.ownText = [])
    (hpieces : ∀ p ∈ pieces, p.isElement = true → p.outerTextFirst = textOf p.tokens) :
    pieces.flatMap Piece.ownText ++ outerTextsFirst pieces = textOf (tokensOf pieces) := by
  induction pieces with
  | nil => rfl
  | cons p pieces ih =>
      obtain ⟨hp, hpieces⟩ := List.forall_mem_cons.mp hpieces
      obtain ⟨hfollows, horder⟩ := List.pairwise_cons.mp horder
      rw [List.flatMap_cons, outerTextsFirst, tokensOf, textOf_append, ← ih horder hpieces]
      cases helement : p.isElement with
      | false =>
          rw [outerTextFirst_of_leaf helement, Piece.ownText, helement]
          simp
      | true =>
          have hown : p.ownText = [] := by rw [Piece.ownText, helement, if_pos rfl]
          rw [hown, hp helement, List.nil_append]
          by_cases htext : textOf p.tokens = []
          · rw [htext, List.nil_append, List.nil_append]
          · have hrest : pieces.flatMap Piece.ownText = [] :=
              List.flatMap_eq_nil_iff.mpr fun q hq => hfollows q hq helement htext
            rw [hrest, List.nil_append, List.nil_append]

/-- Where no text follows a child with text, an element has all text in its order. -/
theorem Piece.IsTextFirst.outerTextFirst_eq (h : p.IsTextFirst) (hp : p.isElement = true) :
    p.outerTextFirst = textOf p.tokens := by
  induction h with
  | intro p horder _ ih =>
      cases p with
      | element tag inside =>
          have hinside : inside.flatMap ownText ++ outerTextsFirst inside =
              textOf (tokensOf inside) :=
            outerTextsFirst_eq horder ih
          rw [outerTextFirst, hinside]
          simp [tokens, textOf, Token.written]
      | emptyElement tag => rfl
      | _ => cases hp

/-- An accepted document is written in pieces with one element at top level, and at the address of
each element of the tree stands the piece that it was read from. The string value of the element is
the text directly inside, then that of its children in order; this is all text from the start tag to
the end tag in the order of the document, unless in this element or one inside it some text directly
inside follows a child with text. -/
theorem stringValue_of_source {s : String} (h : Element.ofText s = .ok root) :
    (∃ pieces, tokensOf pieces = (tokens s.toList).1) ∧
    ∀ pieces, tokensOf pieces = (tokens s.toList).1 →
      ∃ top, pieces.filter Piece.isElement = [top] ∧
        ∀ address e, root.at? address = some e →
          ∃ p, top.at? address = some p ∧ p.toElement = e ∧
            p.tokens <:+: (tokens s.toList).1 ∧
            e.stringValue = String.ofList p.outerTextFirst ∧
            (p.IsTextFirst → e.stringValue = String.ofList (textOf p.tokens)) := by
  refine ⟨exists_pieces h, fun pieces hpieces => ?_⟩
  have htokens : Element.ofTokens (tokensOf pieces) (tokens s.toList).2 = .ok root := by
    rw [hpieces]
    exact h
  have helements := elementsOf_of_ofTokens htokens
  rw [elementsOf_eq_map, List.map_eq_singleton_iff] at helements
  obtain ⟨top, hfilter, rfl⟩ := helements
  obtain ⟨htop, helement⟩ : top ∈ pieces ∧ top.isElement = true := by
    rw [← List.mem_filter, hfilter]
    exact List.mem_singleton_self top
  refine ⟨top, hfilter, fun address e he => ?_⟩
  rw [at?_toElement, Option.map_eq_some_iff] at he
  obtain ⟨p, hp, rfl⟩ := he
  have hvalue := toList_stringValue_toElement (isElement_of_at? helement hp)
  have hstring : p.toElement.stringValue = String.ofList p.outerTextFirst := by
    rw [← hvalue, String.ofList_toList]
  refine ⟨p, hp, rfl, ?_, hstring, fun hfirst => ?_⟩
  · rw [← hpieces]
    exact (infix_of_at? hp).trans (infix_tokensOf htop)
  · rw [hstring, hfirst.outerTextFirst_eq (isElement_of_at? helement hp)]

/-- In `<a>x<b>y</b></a>` the text of the element comes before that of its child. -/
theorem text_before_child :
    Element.ofText "<a>x<b>y</b></a>" = .ok (.mk "a" [] "x" [.mk "b" [] "y" []]) ∧
      (Element.mk "a" [] "x" [.mk "b" [] "y" []]).stringValue =
        String.ofList (textOf (tokens "<a>x<b>y</b></a>".toList).1) := by
  have hread : Element.ofText "<a>x<b>y</b></a>" = .ok (.mk "a" [] "x" [.mk "b" [] "y" []]) := rfl
  have htokens : tokensOf [.element ['a'] [.text ['x'], .element ['b'] [.text ['y']]]] =
      (tokens "<a>x<b>y</b></a>".toList).1 := by decide
  have htext (c : Char) : Piece.IsTextFirst (.text [c]) := Piece.isTextFirst_of_leaf rfl
  have hinner : Piece.IsTextFirst (.element ['b'] [.text ['y']]) :=
    .intro _ (by simp [Piece.inside]) (by simp [Piece.inside, htext])
  have houter : Piece.IsTextFirst
      (.element ['a'] [.text ['x'], .element ['b'] [.text ['y']]]) :=
    .intro _ (by simp [Piece.inside, Piece.isElement]) (by simp [Piece.inside, htext, hinner])
  obtain ⟨top, hfilter, hplaces⟩ := (stringValue_of_source hread).2 _ htokens
  obtain rfl := (List.cons.inj hfilter).1
  obtain ⟨p, hp, -, -, -, hvalue⟩ := hplaces [] _ rfl
  obtain rfl := Option.some.inj hp
  refine ⟨hread, (hvalue houter).trans ?_⟩
  rw [← htokens, tokensOf, tokensOf, List.append_nil]

/-- In `<a><b>x</b>y</a>` the text of the element comes behind that of its child, but is put
first. -/
theorem text_behind_child :
    Element.ofText "<a><b>x</b>y</a>" = .ok (.mk "a" [] "y" [.mk "b" [] "x" []]) ∧
      (Element.mk "a" [] "y" [.mk "b" [] "x" []]).stringValue = "yx" ∧
      (tokens "<a><b>x</b>y</a>".toList).1 =
        (Piece.element ['a'] [.element ['b'] [.text ['x']], .text ['y']]).tokens ∧
      textOf (tokens "<a><b>x</b>y</a>".toList).1 = ['x', 'y'] :=
  ⟨rfl, by decide, by decide, by decide⟩

end Flowchart.Xml
