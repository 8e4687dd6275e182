import Flowchart.Proofs.Json.Records

/-!
# Documents with members left out

A document may be thinned: at any depth, members that hold their default may be left out
(`Thinned`). A decoder recovers a value from a document if it restores it from the document however
it is thinned (`Decoder.Recovers`). For a record the members have to lead through its fields in
order from the start to the value, and those that may be left out must change nothing
(`Record.Rebuilds`).
-/

namespace Flowchart.Json

mutual
/-- One document is another one with some members left out that hold their default, at any depth. -/
inductive Thinned (defaults : List (String × Value)) : Value → Value → Prop
  | null : Thinned defaults .null .null
  | bool (b : Bool) : Thinned defaults (.bool b) (.bool b)
  | number (n : Number) : Thinned defaults (.number n) (.number n)
  | string (s : String) : Thinned defaults (.string s) (.string s)
  | array {vs ws : List Value} (h : List.Forall₂ (Thinned defaults) vs ws) :
      Thinned defaults (.array vs) (.array ws)
  | object {ms ns : List (String × Value)} (h : MembersThinned defaults ms ns) :
      Thinned defaults (.object ms) (.object ns)

/-- Some members are others, of which some are left out that hold their default, and the others may
be thinned in turn. -/
inductive MembersThinned (defaults : List (String × Value)) :
    List (String × Value) → List (String × Value) → Prop
  | nil : MembersThinned defaults [] []
  | keep {name : String} {v w : Value} {ms ns : List (String × Value)} (hv : Thinned defaults v w)
      (hms : MembersThinned defaults ms ns) :
      MembersThinned defaults ((name, v) :: ms) ((name, w) :: ns)
  | leave {name : String} {v : Value} {ms ns : List (String × Value)}
      (h : defaults.lookup name = some v) (hms : MembersThinned defaults ms ns) :
      MembersThinned defaults ((name, v) :: ms) ns
end

/-- A document that is neither an array nor an object. -/
def Value.IsScalar : Value → Prop
  | .array _ | .object _ => False
  | .null | .bool _ | .number _ | .string _ => True

variable {defaults : List (String × Value)} {v w : Value}

/-- Members need not be thinned if their values need not. -/
theorem MembersThinned.same {ms : List (String × Value)}
    (h : ∀ m ∈ ms, Thinned defaults m.2 m.2) : MembersThinned defaults ms ms := by
  induction ms with
  | nil => exact .nil
  | cons m ms ih =>
      obtain ⟨hm, hms⟩ := List.forall_mem_cons.mp h
      exact .keep hm (ih hms)

/-- A document need not be thinned. -/
theorem Thinned.refl (defaults : List (String × Value)) (v : Value) : Thinned defaults v v := by
  induction v using Value.inductionOnParts with
  | null => exact .null
  | bool b => exact .bool b
  | number n => exact .number n
  | string s => exact .string s
  | array vs ih => exact .array (List.forall₂_same.mpr ih)
  | object ms ih => exact .object (.same ih)

/-- Members need not be thinned. -/
theorem MembersThinned.refl (defaults ms : List (String × Value)) :
    MembersThinned defaults ms ms :=
  .same fun m _ => .refl defaults m.2

/-- In a scalar there is nothing to leave out. -/
theorem Thinned.eq_of_isScalar (h : Thinned defaults v w) (hv : v.IsScalar) : w = v := by
  cases h with
  | null => rfl
  | bool b => rfl
  | number n => rfl
  | string s => rfl
  | array h => cases hv
  | object h => cases hv

/-- Where no member has a default none is left out. -/
theorem Thinned.eq_of_noDefaults (h : Thinned [] v w) : w = v := by
  induction v using Value.inductionOnParts generalizing w with
  | null | bool | number | string => exact h.eq_of_isScalar True.intro
  | array vs ih =>
      cases h with
      | array h =>
          refine congrArg Value.array ?_
          induction h with
          | nil => rfl
          | cons hv _ ihvs =>
              obtain ⟨hw, hmore⟩ := List.forall_mem_cons.mp ih
              rw [hw hv, ihvs hmore]
  | object ms ih =>
      cases h with
      | @object _ ns h =>
          refine congrArg Value.object ?_
          induction ms generalizing ns with
          | nil =>
              cases h
              rfl
          | cons m ms ihms =>
              obtain ⟨hm, hmore⟩ := List.forall_mem_cons.mp ih
              cases h with
              | keep hv hms => rw [hm hv, ihms hmore hms]
              | leave hdefault => cases hdefault

/-- A document with no more than so many levels has no more than any greater number of them. -/
theorem Value.Fits.mono {levels more : Nat} (h : v.Fits levels) (hle : levels ≤ more) :
    v.Fits more := by
  induction v using Value.inductionOnParts generalizing levels more with
  | null | bool | string => exact h.trans hle
  | number n => exact ⟨h.1.trans hle, h.2⟩
  | array vs ih =>
      refine ⟨h.1.trans hle, elementsFit_iff.mpr fun w hw => ?_⟩
      exact ih w hw (elementsFit_iff.mp h.2 w hw) (Nat.sub_le_sub_right hle 1)
  | object ms ih =>
      refine ⟨h.1.trans hle, membersFit_iff.mpr fun m hm => ?_⟩
      exact ih m hm (membersFit_iff.mp h.2 m hm) (Nat.sub_le_sub_right hle 1)

namespace Decoder

variable {α σ : Type} {d : Decoder α} {levels more : Nat} {a : α}

/-- A decoder restores a value from a document however it is thinned. -/
def Recovers (d : Decoder α) (defaults : List (String × Value)) (levels : Nat) (v : Value) (a : α) :
    Prop :=
  ∀ ⦃w⦄, Thinned defaults v w → d.Restores levels w a

/-- More levels may be allowed than there are. -/
theorem Recovers.mono (h : d.Recovers defaults levels v a) (hle : levels ≤ more) :
    d.Recovers defaults more v a := by
  intro w hw
  have hrestores := h hw
  exact ⟨hrestores.fits.mono hle, hrestores.ofValue,
    fun hdepth hrest => hrestores.read (hle.trans hdepth) hrest⟩

/-- What is restored from a scalar is recovered. -/
theorem Restores.recovers (h : d.Restores levels v a) (hv : v.IsScalar) :
    d.Recovers defaults levels v a := by
  intro w hw
  rw [hw.eq_of_isScalar hv]
  exact h

/-- What is restored is recovered if nothing may be left out. -/
theorem Restores.recovers_whole (h : d.Restores levels v a) : d.Recovers [] levels v a := by
  intro w hw
  rw [hw.eq_of_noDefaults]
  exact h

/-- What is recovered is restored from the document itself. -/
theorem Recovers.restores (h : d.Recovers defaults levels v a) : d.Restores levels v a :=
  h (.refl defaults v)

/-- A list is recovered element by element. -/
theorem recovers_list {text : α → Value} {as : List α}
    (h : ∀ a ∈ as, d.Recovers defaults levels (text a) a) (hlevels : 1 ≤ levels) :
    (list d).Recovers defaults (levels + 1) (.array (as.map text)) as := by
  intro w hw
  cases hw with
  | @array _ ws hws =>
      rw [List.forall₂_map_left_iff] at hws
      refine restores_list ?_ hlevels
      induction hws with
      | nil => exact .nil
      | cons hv _ ih =>
          obtain ⟨ha, has⟩ := List.forall_mem_cons.mp h
          exact .cons (ha hv) (ih has)

namespace Record

variable {r : Record σ} {fields : List (RecordField σ)} {ms ns : List (String × Value)}
  {name : String} {set : α → σ → σ} {s t : σ}

/-- Members lead from one state of a record to another through some fields in order. Each field
recovers the step it makes, and a step that may be left out changes nothing. -/
inductive Rebuilds (defaults : List (String × Value)) (levels : Nat) :
    List (RecordField σ) → List (String × Value) → σ → σ → Prop
  | nil (s : σ) : Rebuilds defaults levels [] [] s s
  | cons {f : RecordField σ} {fields : List (RecordField σ)} {v : Value}
      {ms : List (String × Value)} {step : σ → σ} {s t : σ}
      (hv : f.assign.Recovers defaults levels v step)
      (hdefault : defaults.lookup f.name = some v → f.optional = true ∧ step s = s)
      (hrest : Rebuilds defaults levels fields ms (step s) t) :
      Rebuilds defaults levels (f :: fields) ((f.name, v) :: ms) s t

/-- A field recovers the step to what its decoder recovers. -/
theorem recovers_map (h : d.Recovers defaults more v a) (hle : more ≤ levels)
    (set : α → σ → σ) : (d.map set).Recovers defaults levels v (set a) :=
  fun _ hw => (h.mono hle hw).map set

/-- A member without a default is always there. -/
theorem Rebuilds.required (h : d.Recovers defaults more v a) (hle : more ≤ levels)
    (hdefault : defaults.lookup name = none)
    (hrest : Rebuilds defaults levels fields ms (set a s) t) :
    Rebuilds defaults levels (required name d set :: fields) ((name, v) :: ms) s t := by
  refine .cons (f := Decoder.required name d set) (recovers_map h hle set) (fun hv => ?_) hrest
  cases hdefault.symm.trans hv

/-- A member of a field that may be absent may be left out if its default is what the record holds
anyway. -/
theorem Rebuilds.omissible {f : RecordField σ} {v₀ : Value} {a₀ : α}
    (hassign : f.assign = d.map set) (hoptional : f.optional = true)
    (h : d.Recovers defaults more v a) (hle : more ≤ levels)
    (hdefault : defaults.lookup f.name = some v₀) (hvalue : d.ofValue v₀ = .ok a₀)
    (hsame : set a₀ s = s) (hrest : Rebuilds defaults levels fields ms (set a s) t) :
    Rebuilds defaults levels (f :: fields) ((f.name, v) :: ms) s t := by
  refine .cons (hassign ▸ recovers_map h hle set) (fun hv => ⟨hoptional, ?_⟩) hrest
  -- The default is decoded to one value only.
  obtain rfl : v₀ = v := Option.some.inj (hdefault.symm.trans hv)
  obtain rfl : a₀ = a := Except.ok.inj (hvalue.symm.trans h.restores.ofValue)
  exact hsame

/-- A member of a field with a default may be left out. -/
theorem Rebuilds.defaulted {v₀ : Value} {a₀ : α} (h : d.Recovers defaults more v a)
    (hle : more ≤ levels) (hdefault : defaults.lookup name = some v₀)
    (hvalue : d.ofValue v₀ = .ok a₀) (hsame : set a₀ s = s)
    (hrest : Rebuilds defaults levels fields ms (set a s) t) :
    Rebuilds defaults levels (defaulted name d set :: fields) ((name, v) :: ms) s t :=
  .omissible (f := Decoder.defaulted name d set) rfl rfl h hle hdefault hvalue hsame hrest

/-- A name addresses the field that has it. -/
theorem field?_name (hnodup : (r.fields.map (·.name)).Nodup)
    (haliases : ∀ f ∈ r.fields, f.aliases = []) {f : RecordField σ} (hf : f ∈ r.fields) :
    r.field? f.name = some f := by
  obtain ⟨g, hg⟩ : ∃ g, r.field? f.name = some g :=
    Option.isSome_iff_exists.mp (List.find?_isSome.mpr ⟨f, hf, by simp⟩)
  have hmem := List.mem_of_find?_eq_some hg
  have hname : g.name = f.name := by
    have hfound := List.find?_some hg
    rw [haliases g hmem] at hfound
    simpa using hfound
  rw [hg, List.inj_on_of_nodup_map hnodup hmem hf hname]

/-- However the members are thinned, they fill the record from where some fields were seen. -/
theorem Rebuilds.filled_from (h : Rebuilds defaults levels fields ms s t)
    (hthinned : MembersThinned defaults ms ns) {seen : List String}
    (hfields : ∀ f ∈ fields, r.field? f.name = some f) (hnodup : (fields.map (·.name)).Nodup)
    (hnew : ∀ f ∈ fields, f.name ∉ seen)
    (hseen : ∀ f ∈ r.fields, f ∈ fields ∨ f.optional = true ∨ f.name ∈ seen) :
    r.Filled levels seen s ns t := by
  induction h generalizing ns seen with
  | nil s =>
      cases hthinned
      exact .done s fun f hf => (hseen f hf).resolve_left List.not_mem_nil
  | @cons f fields v ms step s t hv hdefault _ ih =>
      obtain ⟨hf, hfields⟩ := List.forall_mem_cons.mp hfields
      obtain ⟨hfresh, hnew⟩ := List.forall_mem_cons.mp hnew
      obtain ⟨hother, hnodup⟩ := List.nodup_cons.mp hnodup
      cases hthinned with
      | keep hw hms =>
          refine .member hf hfresh (hv hw) (ih hms hfields hnodup ?_ ?_)
          · intro g hg hmem
            rcases List.mem_cons.mp hmem with heq | hmem
            · exact hother (List.mem_map.mpr ⟨g, hg, heq⟩)
            · exact hnew g hg hmem
          · intro g hg
            rcases hseen g hg with hmem | hoptional | hmem
            · rcases List.mem_cons.mp hmem with rfl | hmem
              · exact Or.inr (Or.inr List.mem_cons_self)
              · exact Or.inl hmem
            · exact Or.inr (Or.inl hoptional)
            · exact Or.inr (Or.inr (List.mem_cons_of_mem _ hmem))
      | leave hlookup hms =>
          obtain ⟨hoptional, hsame⟩ := hdefault hlookup
          rw [hsame] at ih
          refine ih hms hfields hnodup hnew fun g hg => ?_
          rcases hseen g hg with hmem | hrest
          · rcases List.mem_cons.mp hmem with rfl | hmem
            · exact Or.inr (Or.inl hoptional)
            · exact Or.inl hmem
          · exact Or.inr hrest

/-- Members that lead through all fields of a record fill it, however they are thinned. -/
theorem Rebuilds.filled (h : Rebuilds defaults levels r.fields ms r.start t)
    (hnodup : (r.fields.map (·.name)).Nodup) (haliases : ∀ f ∈ r.fields, f.aliases = [])
    (hthinned : MembersThinned defaults ms ns) : r.Filled levels [] r.start ns t :=
  h.filled_from hthinned (fun _ hf => field?_name hnodup haliases hf) hnodup
    (fun _ _ => List.not_mem_nil) fun _ hf => Or.inl hf

/-- A record is recovered from members that lead to it through all its fields. -/
theorem Rebuilds.recovers (h : Rebuilds defaults levels r.fields ms r.start t)
    (hnodup : (r.fields.map (·.name)).Nodup) (haliases : ∀ f ∈ r.fields, f.aliases = [])
    (hlevels : 1 ≤ levels) : r.decoder.Recovers defaults (levels + 1) (.object ms) t := by
  intro w hw
  cases hw with
  | object hms => exact (h.filled hnodup haliases hms).restores hlevels

/-- The members have the names of the fields. -/
theorem Rebuilds.names_eq (h : Rebuilds defaults levels fields ms s t) :
    ms.map (·.1) = fields.map (·.name) := by
  induction h with
  | nil => rfl
  | cons _ _ _ ih => rw [List.map_cons, List.map_cons, ih]

end Record

/-- A variant of a sum is restored from its name and from members that lead to its record through
all fields. -/
theorem Tagged.restores_rebuilt {t : Tagged α} {r : Record σ} {ms : List (String × Value)} {s : σ}
    {wrap : σ → α} {name : String}
    (hname : t.variants.lookup name = some (Tagged.variantOf r wrap))
    (h : Record.Rebuilds [] levels r.fields ms r.start s) (ha : wrap s = a)
    (hnodup : (t.tag :: r.fields.map (·.name)).Nodup) (haliases : ∀ f ∈ r.fields, f.aliases = [])
    (hlevels : 1 ≤ levels) :
    t.decoder.Restores (levels + 1) (.object ((t.tag, .string name) :: ms)) a := by
  obtain ⟨htag, hnodup⟩ := List.nodup_cons.mp hnodup
  rw [← h.names_eq] at htag
  subst ha
  exact Tagged.restores hname htag (h.filled hnodup haliases (.refl [] ms)) hlevels

end Decoder
end Flowchart.Json
