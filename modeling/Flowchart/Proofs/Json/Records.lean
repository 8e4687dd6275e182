import Flowchart.Proofs.Json.Restores

/-!
# What decoders of records restore

A record is restored from the members of an object if each member is restored by a field of its own,
and no field that must be present is left without one (`Record.Filled`). Of a sum the tag comes
first and the members of a variant follow (`Tagged.restores`).
-/

namespace Flowchart.Json.Decoder

open Reader

variable {σ α : Type} {r : Record σ} {levels : Nat} {seen : List String} {s t : σ}
  {ms : List (String × Value)}

namespace Record

/-- From one state of a record some members lead to another, when some fields were seen before. -/
inductive Filled (r : Record σ) (levels : Nat) :
    List String → σ → List (String × Value) → σ → Prop
  | done {seen : List String} (s : σ)
      (h : ∀ f ∈ r.fields, f.optional = true ∨ f.name ∈ seen) : Filled r levels seen s [] s
  | member {seen : List String} {s t : σ} {name : String} {v : Value} {f : RecordField σ}
      {set : σ → σ} {ms : List (String × Value)} (hfield : r.field? name = some f)
      (hnew : f.name ∉ seen) (hv : f.assign.Restores levels v set)
      (hrest : Filled r levels (f.name :: seen) (set s) ms t) :
      Filled r levels seen s ((name, v) :: ms) t

/-- No field is missing if each one that must be present was seen. -/
theorem checkPresent_eq_ok (h : ∀ f ∈ r.fields, f.optional = true ∨ f.name ∈ seen) :
    r.checkPresent seen = .ok () := by
  have hnone : (r.fields.find? fun f => !f.optional && !seen.contains f.name) = none := by
    refine List.find?_eq_none.mpr fun f hf => ?_
    rcases h f hf with hoptional | hseen
    · simp [hoptional]
    · simp [hseen]
  rw [checkPresent, hnone]

/-- The members have no more levels than is said of them. -/
theorem Filled.fits (h : r.Filled levels seen s ms t) : MembersFit ms levels := by
  induction h with
  | done => exact True.intro
  | member _ _ hv _ ih => exact ⟨hv.fits, ih⟩

/-- The members of an object fill a record. -/
theorem Filled.ofMembers (h : r.Filled levels seen s ms t) : r.ofMembers seen s ms = .ok t := by
  induction h with
  | done s h =>
      unfold Record.ofMembers
      rw [checkPresent_eq_ok h]
      rfl
  | member hfield hnew hv _ ih =>
      unfold Record.ofMembers
      rw [hfield]
      simp only
      rw [if_neg (by simpa using hnew), hv.ofValue]
      exact ih

/-- The text of the members of an object fills a record. -/
theorem Filled.reads (h : r.Filled levels seen s ms t) {depth turns : Nat} (hdepth : levels ≤ depth)
    (hturns : ms.length < turns) (first : Bool) (rest : List Char) :
    (r.readMembers depth turns first seen s).Reads
      (joined first (ms.map memberChars) ++ '\x7d' :: rest) t ('\x7d' :: rest) := by
  induction h generalizing turns first with
  | done s h =>
      obtain ⟨turns, rfl⟩ := Nat.exists_eq_add_one_of_ne_zero hturns.ne'
      cases first <;>
        · refine (reads_hasMember_last _ rest).bind ?_
          rw [checkPresent_eq_ok h]
          exact (reads_ofExcept () _).bind (.pure s _)
  | @member seen s t name v f set ms hfield hnew hv _ ih =>
      obtain ⟨turns, rfl⟩ := Nat.exists_eq_add_one_of_ne_zero (Nat.ne_zero_of_lt hturns)
      have hvalue := hv.read hdepth (delimits_joined (Or.inr rfl) (ms.map memberChars) rest)
      have hmore := ih (Nat.lt_of_succ_lt_succ hturns) false
      refine (reads_hasMember first (name, v) _ _).bind ?_
      rw [memberChars, List.append_assoc]
      refine (reads_name name _).bind ?_
      rw [hfield]
      simp only
      rw [if_neg (by simpa using hnew)]
      exact reads_colon.bind (hvalue.bind hmore)

/-- A record is restored from an object that fills it. -/
theorem Filled.restores (h : r.Filled levels [] r.start ms t) (hlevels : 1 ≤ levels) :
    r.decoder.Restores (levels + 1) (.object ms) t where
  fits := ⟨by omega, h.fits⟩
  ofValue := h.ofMembers
  read {depth rest} hdepth hrest := by
    obtain ⟨depth, rfl⟩ : ∃ below, depth = below + 2 := ⟨depth - 2, by omega⟩
    have hlength := length_le_joined true (ms.map memberChars)
    rw [object_compactChars_append, compactMembers_eq_joined]
    refine (reads_token rfl).bind (Reads.deeper (reads_fuel.bind ?_)).located
    refine (h.reads (by omega) ?_ true rest).enclosed reads_endObject
    simp only [List.length_append, List.length_cons, List.length_map] at hlength ⊢
    omega

end Record

namespace Tagged

variable {t : Tagged α} {decode : Value → Except Fault α}

/-- After the tag the other members of an object are kept as they are. -/
theorem splitTag_some (decode : Value → Except Fault α) (htag : t.tag ∉ ms.map (·.1)) :
    t.splitTag (some decode) ms = .ok (decode, ms) := by
  induction ms with
  | nil => rfl
  | cons m ms ih =>
      rw [List.map_cons, List.mem_cons, not_or] at htag
      unfold splitTag
      rw [if_neg (Ne.symm htag.1), ih htag.2]
      rfl

/-- After the tag the other members of an object are read as documents. -/
theorem reads_members (decode : Value → Except Fault α) (htag : t.tag ∉ ms.map (·.1))
    (hfits : MembersFit ms levels) {depth turns : Nat} (hdepth : levels ≤ depth)
    (hturns : ms.length < turns) (others : List (String × Value)) (rest : List Char) :
    (t.readMembers depth turns false (some decode) others).Reads
      (joined false (ms.map memberChars) ++ '\x7d' :: rest) (decode, others.reverse ++ ms)
      ('\x7d' :: rest) := by
  induction ms generalizing turns others with
  | nil =>
      obtain ⟨turns, rfl⟩ := Nat.exists_eq_add_one_of_ne_zero hturns.ne'
      rw [List.append_nil]
      exact (reads_hasMember_last false rest).bind (.pure _ _)
  | cons m ms ih =>
      obtain ⟨turns, rfl⟩ := Nat.exists_eq_add_one_of_ne_zero (Nat.ne_zero_of_lt hturns)
      obtain ⟨name, v⟩ := m
      rw [List.map_cons, List.mem_cons, not_or] at htag
      have hvalue := (reads_document (Or.inl rfl) hfits.1 hdepth).2 _
        (delimits_joined (Or.inr rfl) (ms.map memberChars) rest)
      have hmore := ih htag.2 hfits.2 (Nat.lt_of_succ_lt_succ hturns) ((name, v) :: others)
      rw [List.reverse_cons, List.append_assoc] at hmore
      refine (reads_hasMember false (name, v) _ _).bind ?_
      rw [memberChars, List.append_assoc]
      refine (reads_name name _).bind ?_
      rw [if_neg (Ne.symm htag.1)]
      exact reads_colon.bind (hvalue.bind hmore)

/-- The tag is read first, as the name of a variant. -/
theorem reads_tag {name : String} (hvariant : variant t.variants name = .ok decode)
    (htag : t.tag ∉ ms.map (·.1)) (hfits : MembersFit ms levels) {depth turns : Nat}
    (hdepth : levels ≤ depth) (hturns : ms.length + 1 < turns) (rest : List Char) :
    (t.readMembers depth turns true none []).Reads
      (joined true (((t.tag, .string name) :: ms).map memberChars) ++ '\x7d' :: rest) (decode, ms)
      ('\x7d' :: rest) := by
  obtain ⟨turns, rfl⟩ := Nat.exists_eq_add_one_of_ne_zero (Nat.ne_zero_of_lt hturns)
  have hvalue := (restores_parsed hvariant "variant identifier").read
    (le_refl 1) (delimits_joined (Or.inr rfl) (ms.map memberChars) rest)
  have hmore := reads_members decode htag hfits hdepth (Nat.lt_of_succ_lt_succ hturns) [] rest
  refine (reads_hasMember true (t.tag, .string name) _ _).bind ?_
  rw [memberChars, List.append_assoc]
  refine (reads_name t.tag _).bind ?_
  rw [if_pos rfl]
  exact reads_colon.bind (hvalue.bind hmore)

/-- A variant of a sum is restored from an object that has its name as a tag before the members of
its record. -/
theorem restores {σ : Type} {r : Record σ} {s : σ} {wrap : σ → α} {name : String}
    (hname : t.variants.lookup name = some (variantOf r wrap)) (htag : t.tag ∉ ms.map (·.1))
    (h : r.Filled levels [] r.start ms s) (hlevels : 1 ≤ levels) :
    t.decoder.Restores (levels + 1) (.object ((t.tag, .string name) :: ms)) (wrap s) := by
  have hvariant : variant t.variants name = .ok (variantOf r wrap) := by rw [variant, hname]
  have hwrap : variantOf r wrap (.object ms) = .ok (wrap s) := by
    show wrap <$> r.ofMembers [] r.start ms = _
    rw [h.ofMembers]
    rfl
  refine ⟨⟨by omega, hlevels, h.fits⟩, ?_, fun {depth rest} hdepth hrest => ?_⟩
  · have hsplit : t.splitTag none ((t.tag, .string name) :: ms) = .ok (variantOf r wrap, ms) := by
      unfold splitTag
      rw [if_pos rfl]
      simp only
      rw [hvariant]
      exact splitTag_some _ htag
    show (t.splitTag none _ >>= fun split => split.1 (.object split.2)) = _
    rw [hsplit]
    exact hwrap
  · obtain ⟨depth, rfl⟩ : ∃ below, depth = below + 2 := ⟨depth - 2, by omega⟩
    have hlength := length_le_joined true (((t.tag, .string name) :: ms).map memberChars)
    rw [object_compactChars_append, compactMembers_eq_joined]
    refine (reads_token rfl).bind (Reads.bind (Reads.deeper (reads_fuel.bind
      ((reads_tag hvariant htag h.fits (by omega) ?_ rest).enclosed reads_endObject))).located ?_)
    · simp only [List.length_append, List.length_cons, List.length_map] at hlength ⊢
      omega
    · simp only
      rw [hwrap]
      exact reads_ofExcept (wrap s) rest

end Tagged
end Flowchart.Json.Decoder
