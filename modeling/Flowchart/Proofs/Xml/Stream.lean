import Flowchart.Proofs.Xml.Source

/-!
# Accepted streams of tokens

A stream of tokens is accepted just if all its tags and texts can be read and it is that of pieces
with one element among them, in which every start tag has its end tag (`ofTokens_eq_ok_iff`).
-/

namespace Flowchart.Xml

/-- A token that can be taken into a tree by itself: the attributes of a tag and the entities of a
text are well-formed. -/
def Token.IsReadable : Token → Prop
  | .startTag tag | .emptyTag tag => ∃ e, Element.ofTag tag = .ok e
  | .text raw => ∃ image, unescape raw = .ok image
  | .endTag | .characterData _ | .ignored => True

/-- If no element is open, there is still room at top level for so many. -/
def Builder.HasRoom (n : Nat) (b : Builder) : Prop :=
  b.opened = [] → b.root.toList.length + n ≤ 1

variable {b b' : Builder} {root : Element} {pieces : List Piece} {ts : List Token}
  {cs : List Char} {es : List Element} {fault : Option Fault} {n : Nat}

/-! ## What is accepted can be read -/

/-- A token that is taken in can be read. -/
theorem isReadable_of_accept {token : Token} (h : b.accept token = .ok b') : token.IsReadable := by
  cases token with
  | startTag tag =>
      obtain ⟨e, he, -⟩ := bind_eq_ok_iff.mp h
      exact ⟨e, he⟩
  | emptyTag tag =>
      obtain ⟨e, he, -⟩ := bind_eq_ok_iff.mp h
      exact ⟨e, he⟩
  | text raw =>
      obtain ⟨image, himage, -⟩ := bind_eq_ok_iff.mp h
      exact ⟨image, himage⟩
  | endTag => exact True.intro
  | characterData content => exact True.intro
  | ignored => exact True.intro

/-- Tokens that are taken in can be read. -/
theorem isReadable_of_foldlM (h : ts.foldlM Builder.accept b = .ok b') :
    ∀ token ∈ ts, token.IsReadable := by
  induction ts generalizing b with
  | nil => exact fun _ htoken => absurd htoken List.not_mem_nil
  | cons token ts ih =>
      rw [List.foldlM_cons, bind_eq_ok_iff] at h
      obtain ⟨mid, htoken, h⟩ := h
      exact List.forall_mem_cons.mpr ⟨isReadable_of_accept htoken, ih h⟩

/-! ## What can be read is accepted -/

namespace Builder

/-- What is taken in needs its room at top level. -/
theorem Takes.hasRoom (h : Takes cs es b b') (hroom : HasRoom (es.length + n) b) :
    HasRoom n b' := by
  cases h with
  | inside e opened root => exact fun hopened => absurd hopened (List.cons_ne_nil _ _)
  | outside root root' hroot =>
      intro _
      have hle := hroom rfl
      simp only [hroot, List.length_append] at hle ⊢
      omega

/-- A closed element has its place where there is room. -/
theorem exists_attach (hroom : HasRoom 1 b) (e : Element) : ∃ b', b.attach e = .ok b' := by
  obtain ⟨opened, root⟩ := b
  cases opened with
  | cons parent opened => exact ⟨_, rfl⟩
  | nil =>
      cases root with
      | none => exact ⟨_, rfl⟩
      | some root => exact absurd (hroom rfl) (by simp)

/-- Pieces are taken in one after the other if each of them is. -/
theorem exists_foldlM_of_forall (hpieces : ∀ p ∈ pieces, ∀ b : Builder,
      HasRoom (elementsOf [p]).length b → (∀ token ∈ p.tokens, token.IsReadable) →
        ∃ b', p.tokens.foldlM accept b = .ok b')
    (hroom : HasRoom (elementsOf pieces).length b)
    (hread : ∀ token ∈ tokensOf pieces, token.IsReadable) :
    ∃ b', (tokensOf pieces).foldlM accept b = .ok b' := by
  induction pieces generalizing b with
  | nil => exact ⟨b, rfl⟩
  | cons p pieces ih =>
      obtain ⟨hp, hpieces⟩ := List.forall_mem_cons.mp hpieces
      rw [tokensOf, List.forall_mem_append] at hread
      have helements : elementsOf (p :: pieces) = elementsOf [p] ++ elementsOf pieces := by
        simp only [elementsOf]
        split <;> rfl
      rw [helements, List.length_append] at hroom
      obtain ⟨mid, hmid⟩ := hp b (fun hopened => by have := hroom hopened; omega) hread.1
      obtain ⟨b', hb'⟩ := ih hpieces ((takes_tokens p b mid hmid).hasRoom hroom) hread.2
      refine ⟨b', ?_⟩
      rw [tokensOf, List.foldlM_append, bind_eq_ok_iff]
      exact ⟨mid, hmid, hb'⟩

/-- A piece whose tokens can be read is taken in where there is room for it. -/
theorem exists_foldlM_tokens (p : Piece) (b : Builder) (hroom : HasRoom (elementsOf [p]).length b)
    (hread : ∀ token ∈ p.tokens, token.IsReadable) : ∃ b', p.tokens.foldlM accept b = .ok b' := by
  induction p using Piece.inductionOnInside generalizing b with
  | leaf p hp =>
      cases p with
      | text raw =>
          obtain ⟨image, himage⟩ := hread (.text raw) (List.mem_singleton_self _)
          exact ⟨b.addText image, by simp [Piece.tokens, accept, himage]⟩
      | characterData content => exact ⟨_, rfl⟩
      | ignored => exact ⟨b, rfl⟩
      | emptyElement tag => cases hp
      | element tag inside => cases hp
  | emptyElement tag =>
      obtain ⟨e, he⟩ := hread (.emptyTag tag) (List.mem_singleton_self _)
      obtain ⟨b', hb'⟩ := exists_attach hroom e
      refine ⟨b', ?_⟩
      simp only [Piece.tokens, List.foldlM_cons, List.foldlM_nil, bind_pure, accept, bind_eq_ok_iff]
      exact ⟨e, he, hb'⟩
  | element tag inside ih =>
      simp only [Piece.tokens, List.forall_mem_cons, List.forall_mem_append] at hread
      obtain ⟨⟨e, he⟩, hinside, -⟩ := hread
      have hnested : HasRoom (elementsOf inside).length ⟨e :: b.opened, b.root⟩ :=
        fun hopened => absurd hopened (List.cons_ne_nil _ _)
      obtain ⟨closing, hclosing⟩ := exists_foldlM_of_forall ih hnested hinside
      obtain ⟨⟩ := takes_tokensOf hclosing
      obtain ⟨b', hb'⟩ := exists_attach hroom
        (e.extend (inside.flatMap Piece.ownText) (elementsOf inside))
      refine ⟨b', ?_⟩
      simp only [Piece.tokens, List.foldlM_cons, List.foldlM_append, List.foldlM_nil, bind_pure,
        accept, bind_eq_ok_iff]
      exact ⟨_, ⟨e, he, rfl⟩, _, hclosing, hb'⟩

end Builder

/-- The tokens of pieces that can be read are accepted if there is one element among them, and give
this one. -/
theorem ofTokens_tokensOf (hread : ∀ token ∈ tokensOf pieces, token.IsReadable)
    (helements : elementsOf pieces = [root]) :
    Element.ofTokens (tokensOf pieces) none = .ok root := by
  have hroom : Builder.HasRoom (elementsOf pieces).length ⟨[], none⟩ := by
    rw [helements]
    exact fun _ => Nat.le_refl 1
  obtain ⟨b, hb⟩ := Builder.exists_foldlM_of_forall
    (fun p _ b => Builder.exists_foldlM_tokens p b) hroom hread
  rw [Element.ofTokens, bind_eq_ok_iff]
  refine ⟨b, hb, ?_⟩
  obtain _ | ⟨_, root', hroot⟩ := Builder.takes_tokensOf hb
  obtain rfl : root' = some root := by
    rw [helements] at hroot
    cases root' with
    | none => cases hroot
    | some e => simpa using hroot
  rfl

/-- A stream of tokens is accepted as a tree just if no fault comes behind it, all its tags and
texts can be read, its start and end tags are balanced, as they are in pieces, and the tree is that
of the only element at top level. -/
theorem ofTokens_eq_ok_iff : Element.ofTokens ts fault = .ok root ↔
    fault = none ∧ (∀ token ∈ ts, token.IsReadable) ∧
      ∃ pieces, tokensOf pieces = ts ∧ elementsOf pieces = [root] := by
  constructor
  · intro h
    obtain ⟨pieces, rfl⟩ := exists_tokensOf_eq h
    have helements := elementsOf_of_ofTokens h
    rw [Element.ofTokens, bind_eq_ok_iff] at h
    obtain ⟨b, hb, hfinish⟩ := h
    refine ⟨?_, isReadable_of_foldlM hb, pieces, rfl, helements⟩
    cases fault with
    | none => rfl
    | some fault => cases hfinish
  · rintro ⟨rfl, hread, pieces, rfl, helements⟩
    exact ofTokens_tokensOf hread helements

end Flowchart.Xml
