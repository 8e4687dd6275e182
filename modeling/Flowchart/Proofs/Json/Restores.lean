import Flowchart.Json.Decoder
import Flowchart.Proofs.Json.Compact

/-!
# What decoders restore

A decoder restores a value from a document if it gives that value both from the text of the
document, at any depth that leaves room for the levels of the document, and from the document itself
(`Decoder.Restores`). There is one lemma here for each kind of decoder but those of records.
-/

namespace Flowchart.Json

namespace Reader

variable {α : Type} {reader : Reader α} {inside : Nat → Reader α} {a : α} {c : Char}
  {cs rest : List Char} {depth : Nat}

/-- The character of the next token is looked at. -/
theorem reads_token (h : isSpace c = false) : token.Reads (c :: cs) c (c :: cs) :=
  (reads_nextToken? h).bind (.pure c _)

/-- A reader that does not fail needs no place. -/
theorem Reads.located (h : reader.Reads cs a rest) : (Reader.located reader).Reads cs a rest :=
  h.tryCatch _

/-- A result is given as it is. -/
theorem reads_ofExcept (a : α) (cs : List Char) : (ofExcept (.ok a)).Reads cs a cs := .pure a cs

/-- Inside an array or object one level less is left. -/
theorem Reads.deeper (h : (inside (depth + 1)).Reads cs a rest) :
    (Reader.deeper (depth + 2) inside).Reads (c :: cs) a rest :=
  reads_skip.bind h

end Reader

namespace Decoder

open Reader

variable {α β : Type} {d : Decoder α} {levels more : Nat} {v : Value} {a : α} {s name : String}

/-- A decoder gives a value from a document that has no more than so many levels, and from its
text. -/
structure Restores (d : Decoder α) (levels : Nat) (v : Value) (a : α) : Prop where
  fits : v.Fits levels
  ofValue : d.ofValue v = .ok a
  read : ∀ {depth rest}, levels ≤ depth → Delimits rest →
    (d.read depth).Reads (v.compactChars ++ rest) a rest

/-- What is restored is read, whatever ends the text. -/
theorem Restores.readsValue (h : d.Restores levels v a) {depth : Nat} (hdepth : levels ≤ depth) :
    (d.read depth).ReadsValue v a :=
  ⟨h.fits.beginsToken, fun _ hrest => h.read hdepth hrest⟩

/-- What is restored from a document is restored from its text. -/
theorem Restores.ofText (h : d.Restores levels v a) (hlevels : levels ≤ depthLimit) :
    d.ofText v.compact = .ok a := by
  refine Reads.readAll ?_
  have hread := h.read hlevels delimits_nil
  rw [List.append_nil] at hread
  rw [Value.compact, String.toList_ofList]
  exact hread

/-- A function is applied to what is restored. -/
theorem Restores.map (h : d.Restores levels v a) (f : α → β) :
    (d.map f).Restores levels v (f a) where
  fits := h.fits
  ofValue := by
    show f <$> d.ofValue v = _
    rw [h.ofValue]
    rfl
  read hdepth hrest := by
    show Reads (f <$> d.read _) _ _ _
    rw [map_eq_pure_bind]
    exact (h.read hdepth hrest).bind (.pure (f a) _)

/-- A text that can be interpreted is restored as what it means. -/
theorem restores_parsed {parse : String → Except Fault α} (h : parse s = .ok a)
    (expected : String) : (parsed expected parse).Restores 1 (.string s) a where
  fits := le_refl 1
  ofValue := h
  read _ _ := by
    refine (reads_token rfl).bind ?_
    rw [if_pos rfl]
    refine ((reads_name s _).bind ?_).located
    rw [h]
    exact reads_ofExcept a _

/-- A text is restored as it is. -/
theorem restores_string (s : String) : Decoder.string.Restores 1 (.string s) s :=
  restores_parsed rfl _

/-- A truth value is restored. -/
theorem restores_bool (b : Bool) : Decoder.bool.Restores 1 (.bool b) b where
  fits := le_refl 1
  ofValue := rfl
  read _ _ := by
    cases b <;>
      exact (reads_token rfl).bind ((reads_skip.bind (reads_literal _ _)).bind (.pure _ _))

/-- A whole number of a range is restored. -/
theorem restores_integer {low high n : Int} (hwhole : (Number.integer n).IsWhole) (hlow : low ≤ n)
    (hhigh : n ≤ high) (expected : String) :
    (integer low high expected).Restores 1 (.ofInt n) n := by
  have hrange : inRange low high expected (.integer n) = .ok n := by
    simp [inRange, hlow, hhigh]
  have hresult (cs : List Char) :
      (ofExcept (inRange low high expected (.integer n))).Reads cs n cs := by
    rw [hrange]
    exact reads_ofExcept n cs
  refine ⟨⟨le_refl 1, hwhole⟩, hrange, fun {depth rest} _ hrest => ?_⟩
  show Reads _ ((Number.integer n).text.toList ++ rest) n rest
  obtain ⟨hleast, hgreatest⟩ := hwhole
  cases n with
  | ofNat n =>
      obtain ⟨d, ds, hds, hdigit⟩ := exists_toDigits_eq_cons n
      have hnumber := reads_number false (Int.ofNat_le.mp hgreatest) hrest
      have hsign : d ≠ '-' := by
        rintro rfl
        cases hdigit
      rw [toList_text_ofNat]
      rw [hds] at hnumber ⊢
      refine (reads_token (isSpace_of_isDigit hdigit)).bind ?_
      rw [if_neg hsign, if_pos hdigit]
      exact (hnumber.bind (hresult rest)).located
  | negSucc n =>
      have hmax : n + 1 ≤ maxWord := by
        unfold maxWord
        omega
      have hnumber := reads_number true hmax hrest
      rw [wholeNumber_succ (by omega)] at hnumber
      rw [toList_text_negSucc]
      refine (reads_token rfl).bind ?_
      rw [if_pos rfl]
      exact reads_skip.bind (hnumber.bind (hresult rest)).located

/-- A natural number below `2 ^ 64` is restored. -/
theorem restores_word {n : Nat} (h : n ≤ maxWord) (expected : String) :
    (word expected).Restores 1 (.ofNat n) n := by
  have hwhole : (Number.integer n).IsWhole := ⟨by omega, by omega⟩
  exact (restores_integer hwhole (by omega) (by omega) expected).map Int.toNat

/-- A whole number from `-2 ^ 63` to `2 ^ 63 - 1` is restored. -/
theorem restores_signedWord {n : Int} (hlow : -0x8000000000000000 ≤ n)
    (hhigh : n ≤ 0x7FFFFFFFFFFFFFFF) : signedWord.Restores 1 (.ofInt n) n :=
  restores_integer ⟨hlow, by unfold maxWord; omega⟩ hlow hhigh "i64"

/-- Nothing is restored from null. -/
theorem restores_none (d : Decoder α) : d.option.Restores 1 .null none where
  fits := le_refl 1
  ofValue := rfl
  read _ _ := (reads_nextToken? rfl).bind ((reads_skip.bind (reads_literal _ _)).bind (.pure _ _))

/-- What is restored from a text is restored where it may be missing. -/
theorem Restores.some (h : d.Restores levels (.string s) a) :
    d.option.Restores levels (.string s) (some a) where
  fits := h.fits
  ofValue := by
    show Option.some <$> d.ofValue (.string s) = _
    rw [h.ofValue]
    rfl
  read hdepth hrest := (reads_nextToken? rfl).bind ((h.read hdepth hrest).bind (.pure _ _))

/-- A constant is restored from its name. -/
theorem restores_enumeration {variants : List (String × α)} (h : variants.lookup name = some a) :
    (enumeration variants).Restores 1 (.string name) a := by
  have hvariant : variant variants name = .ok a := by rw [variant, h]
  have hparsed := restores_parsed hvariant "variant identifier"
  exact ⟨le_refl 1, hvariant, fun hdepth hrest =>
    (reads_nextToken? rfl).bind (hparsed.read hdepth hrest)⟩

/-- A list is restored element by element. -/
theorem restores_list {vs : List Value} {as : List α}
    (h : List.Forall₂ (d.Restores levels) vs as) (hlevels : 1 ≤ levels) :
    (list d).Restores (levels + 1) (.array vs) as where
  fits := by
    refine ⟨by omega, ?_⟩
    induction h with
    | nil => exact True.intro
    | cons hv _ ih => exact ⟨hv.fits, ih⟩
  ofValue := mapM_eq_ok_iff_forall₂.mpr (h.imp fun _ _ hv => hv.ofValue)
  read {depth rest} hdepth hrest := by
    obtain ⟨depth, rfl⟩ : ∃ below, depth = below + 2 := ⟨depth - 2, by omega⟩
    have hparts : List.Forall₂ (d.read (depth + 1)).ReadsValue vs as :=
      h.imp fun _ _ h => h.readsValue (by omega)
    rw [array_compactChars_append]
    refine (reads_token rfl).bind ?_
    rw [if_pos rfl]
    exact (Reads.deeper (reads_fuel.bind (reads_allElements hparts rest))).located

/-- A dictionary in order is restored value by value. -/
theorem restores_dictionary {text : α → Value} {entries : Dictionary α} (hsorted : entries.Sorted)
    (h : ∀ p ∈ entries, d.Restores levels (text p.2) p.2) (hlevels : 1 ≤ levels) :
    (dictionary d).Restores (levels + 1) (.object (entries.map fun p => (p.1, text p.2)))
      entries where
  fits := by
    refine ⟨by omega, membersFit_iff.mpr fun m hm => ?_⟩
    obtain ⟨p, hp, rfl⟩ := List.mem_map.mp hm
    exact (h p hp).fits
  ofValue := by
    have hmembers : (entries.map fun p => (p.1, text p.2)).mapM
        (fun m => do return (m.1, ← d.ofValue m.2)) = .ok entries := by
      refine mapM_eq_ok_iff_forall₂.mpr ?_
      rw [List.forall₂_map_left_iff]
      refine List.forall₂_same.mpr fun p hp => ?_
      rw [(h p hp).ofValue]
      rfl
    unfold dictionary
    simp only
    rw [hmembers]
    exact congrArg Except.ok hsorted.ofList_eq
  read {depth rest} hdepth hrest := by
    obtain ⟨depth, rfl⟩ : ∃ below, depth = below + 2 := ⟨depth - 2, by omega⟩
    have hparts : List.Forall₂ (d.read (depth + 1)).ReadsMember
        (entries.map fun p => (p.1, text p.2)) entries := by
      rw [List.forall₂_map_left_iff]
      exact List.forall₂_same.mpr fun p hp => ⟨rfl, (h p hp).readsValue (by omega)⟩
    rw [object_compactChars_append]
    refine (reads_token rfl).bind ?_
    rw [if_pos rfl]
    refine (Reads.deeper (reads_fuel.bind ((reads_allMembers hparts rest).bind ?_))).located
    rw [hsorted.ofList_eq]
    exact .pure entries rest

end Decoder
end Flowchart.Json
