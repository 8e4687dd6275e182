import Flowchart.Proofs.Json.Tree
import Flowchart.Proofs.Settings.NormalForm

/-!
# Fields of settings

A field of a record decodes one part of it and leaves the others alone (`Record.Decodes`). What a
document gives for a field, by name as a member or by place as an element (`Gives`), is therefore
what the record holds in that part once the normal form of the document is decoded
(`Gives.ofValue_eq`).
-/

namespace Flowchart

open Json

namespace Json.Decoder

variable {σ α β : Type}

namespace RecordField

/-- Whatever a field is given, it puts what a decoder makes of it into a part of the record. -/
def Sets (f : RecordField σ) (d : Decoder α) (get : σ → α) : Prop :=
  ∀ ⦃v set⦄, f.assign.ofValue v = .ok set → ∀ s, d.ofValue v = .ok (get (set s))

/-- Whatever a field is given, it leaves a part of the record alone. -/
def Leaves (f : RecordField σ) (get : σ → α) : Prop :=
  ∀ ⦃v set⦄, f.assign.ofValue v = .ok set → ∀ s, get (set s) = get s

end RecordField

/-- A decoder with a function applied decodes what the function is applied to. -/
theorem map_ofValue_eq_ok {f : α → β} {d : Decoder α} {v : Value} {b : β}
    (h : (d.map f).ofValue v = .ok b) : ∃ a, d.ofValue v = .ok a ∧ f a = b := by
  show ∃ a, d.ofValue v = .ok a ∧ f a = b
  unfold map at h
  simp only at h
  cases hv : d.ofValue v with
  | error fault =>
      rw [hv] at h
      cases h
  | ok a =>
      rw [hv] at h
      cases h
      exact ⟨a, rfl, rfl⟩

/-- What a function makes of what is decoded is decoded with the function applied. -/
theorem ofValue_map {d : Decoder α} {v : Value} {a : α} (h : d.ofValue v = .ok a) (f : α → β) :
    (d.map f).ofValue v = .ok (f a) := by
  show f <$> d.ofValue v = _
  rw [h]
  rfl

/-- Elements that are decoded one by one are decoded as a list. -/
theorem list_ofValue_map {d : Decoder α} {write : α → Value}
    (h : ∀ a, d.ofValue (write a) = .ok a) (as : List α) :
    d.list.ofValue (.array (as.map write)) = .ok as := by
  refine mapM_eq_ok_iff_forall₂.mpr (List.forall₂_map_left_iff.mpr ?_)
  exact List.forall₂_same.mpr fun a _ => h a

/-- A field with a default puts what is decoded where it belongs. -/
theorem sets_defaulted {name : String} {d : Decoder α} {set : α → σ → σ} {aliases : List String}
    {get : σ → α} (h : ∀ a s, get (set a s) = a) :
    (defaulted name d set aliases).Sets d get := by
  intro v update hv s
  obtain ⟨a, ha, rfl⟩ := map_ofValue_eq_ok hv
  rw [h, ha]

/-- A field with a default leaves alone what it does not set. -/
theorem leaves_defaulted {name : String} {d : Decoder α} {set : α → σ → σ} {aliases : List String}
    {get : σ → β} (h : ∀ a s, get (set a s) = get s) :
    (defaulted name d set aliases).Leaves get := by
  intro v update hv s
  obtain ⟨a, -, rfl⟩ := map_ofValue_eq_ok hv
  exact h a s

namespace Record

variable {r : Record σ} {name : String} {d : Decoder α} {get : σ → α} {f : RecordField σ}

/-- The field of a name decodes a part of the record, and all other fields leave it alone. -/
structure Decodes (r : Record σ) (name : String) (d : Decoder α) (get : σ → α) : Prop where
  nodup : (r.fields.map (·.name)).Nodup
  sets : ∀ f ∈ r.fields, f.name = name → f.Sets d get
  leaves : ∀ f ∈ r.fields, f.name ≠ name → f.Leaves get

/-- The field that a name addresses is one of the record. -/
theorem mem_fields_of_field? {written : String} (h : r.field? written = some f) : f ∈ r.fields :=
  List.mem_of_find?_eq_some h

/-- Of members, the first is passed over, or decoded into a field that was not seen before; then
come the others. -/
theorem ofMembers_cons_cases {written : String} {v : Value} {rest : List (String × Value)}
    {seen : List String} {s t : σ} (h : r.ofMembers seen s ((written, v) :: rest) = .ok t) :
    (r.field? written = none ∧ r.ofMembers seen s rest = .ok t) ∨
    ∃ f set, r.field? written = some f ∧ f.name ∉ seen ∧ f.assign.ofValue v = .ok set ∧
      r.ofMembers (f.name :: seen) (set s) rest = .ok t := by
  unfold ofMembers at h
  cases hfield : r.field? written with
  | none =>
      rw [hfield] at h
      exact Or.inl ⟨rfl, h⟩
  | some f =>
      rw [hfield] at h
      simp only at h
      by_cases hdouble : seen.contains f.name = true
      · rw [if_pos hdouble] at h
        cases h
      · rw [if_neg hdouble] at h
        cases hv : f.assign.ofValue v with
        | error fault =>
            rw [hv] at h
            cases h
        | ok set =>
            rw [hv] at h
            exact Or.inr ⟨f, set, rfl, fun hmem => hdouble (List.contains_iff_mem.mpr hmem), hv, h⟩

/-- After the last member nothing is changed any more. -/
theorem eq_of_ofMembers_nil {seen : List String} {s t : σ} (h : r.ofMembers seen s [] = .ok t) :
    t = s := by
  unfold ofMembers at h
  cases hcheck : r.checkPresent seen with
  | error fault =>
      rw [hcheck] at h
      cases h
  | ok u =>
      rw [hcheck] at h
      cases h
      rfl

/-- Once a field was seen, no more members address it, and those of other fields leave its part
alone. -/
theorem Decodes.get_ofMembers_of_seen (h : r.Decodes name d get) {ms : List (String × Value)}
    {seen : List String} {s t : σ} (hseen : name ∈ seen) (hms : r.ofMembers seen s ms = .ok t) :
    get t = get s := by
  induction ms generalizing seen s with
  | nil => rw [eq_of_ofMembers_nil hms]
  | cons m rest ih =>
      rcases ofMembers_cons_cases hms with ⟨-, hrest⟩ | ⟨f, set, hfield, hnew, hv, hrest⟩
      · exact ih hseen hrest
      · have hne : f.name ≠ name := fun heq => hnew (heq ▸ hseen)
        exact (ih (List.mem_cons_of_mem _ hseen) hrest).trans
          (h.leaves f (mem_fields_of_field? hfield) hne hv s)

/-- A member that addresses a field is what its part is decoded from. -/
theorem Decodes.ofValue_member (h : r.Decodes name d get) {ms : List (String × Value)}
    {seen : List String} {s t : σ} {written : String} {v : Value} (hmem : (written, v) ∈ ms)
    (hfield : r.field? written = some f) (hname : f.name = name)
    (hms : r.ofMembers seen s ms = .ok t) : d.ofValue v = .ok (get t) := by
  induction ms generalizing seen s with
  | nil => cases hmem
  | cons m rest ih =>
      rcases List.mem_cons.mp hmem with rfl | hmem
      · rcases ofMembers_cons_cases hms with ⟨hnone, -⟩ | ⟨g, set, hg, -, hv, hrest⟩
        · cases hnone.symm.trans hfield
        · obtain rfl := Option.some.inj (hg.symm.trans hfield)
          rw [h.get_ofMembers_of_seen (hname ▸ List.mem_cons_self) hrest]
          exact h.sets g (mem_fields_of_field? hg) hname hv s
      · rcases ofMembers_cons_cases hms with ⟨-, hrest⟩ | ⟨g, set, -, -, -, hrest⟩
        · exact ih hmem hrest
        · exact ih hmem hrest

/-- The first element is decoded into the first field; then come the others. -/
theorem ofElements_cons_cases {fields : List (RecordField σ)} {v : Value} {vs left : List Value}
    {count : Nat} {s t : σ} (h : r.ofElements count s (f :: fields) (v :: vs) = .ok (t, left)) :
    ∃ set, f.assign.ofValue v = .ok set ∧
      r.ofElements (count + 1) (set s) fields vs = .ok (t, left) := by
  unfold ofElements at h
  cases hv : f.assign.ofValue v with
  | error fault =>
      rw [hv] at h
      cases h
  | ok set =>
      rw [hv] at h
      exact ⟨set, rfl, h⟩

/-- Elements for other fields leave a part alone. -/
theorem get_ofElements_of_leaves {fields : List (RecordField σ)} {vs left : List Value}
    {count : Nat} {s t : σ} (hleaves : ∀ f ∈ fields, f.Leaves get)
    (h : r.ofElements count s fields vs = .ok (t, left)) : get t = get s := by
  induction fields generalizing vs count s with
  | nil =>
      cases h
      rfl
  | cons f fields ih =>
      obtain ⟨hf, hfields⟩ := List.forall_mem_cons.mp hleaves
      cases vs with
      | nil =>
          unfold ofElements at h
          split at h
          · exact ih hfields h
          · cases h
      | cons v vs =>
          obtain ⟨set, hv, hrest⟩ := ofElements_cons_cases h
          exact (ih hfields hrest).trans (hf hv s)

/-- The element in the place of a field is what its part is decoded from. -/
theorem ofValue_element {fields : List (RecordField σ)} {vs left : List Value} {count i : Nat}
    {s t : σ} {v : Value} (hnodup : (fields.map (·.name)).Nodup)
    (hsets : ∀ f ∈ fields, f.name = name → f.Sets d get)
    (hleaves : ∀ f ∈ fields, f.name ≠ name → f.Leaves get) (hfield : fields[i]? = some f)
    (hname : f.name = name) (hv : vs[i]? = some v)
    (h : r.ofElements count s fields vs = .ok (t, left)) : d.ofValue v = .ok (get t) := by
  induction fields generalizing vs count s i with
  | nil => cases hfield
  | cons g fields ih =>
      obtain ⟨hg, hnodup⟩ := List.nodup_cons.mp hnodup
      cases vs with
      | nil => cases hv
      | cons w vs =>
          obtain ⟨set, hw, hrest⟩ := ofElements_cons_cases h
          cases i with
          | zero =>
              obtain rfl := Option.some.inj hfield
              obtain rfl := Option.some.inj hv
              have hothers : ∀ k ∈ fields, k.Leaves get := by
                intro k hk
                refine hleaves k (List.mem_cons_of_mem _ hk) fun heq => hg ?_
                exact List.mem_map.mpr ⟨k, hk, heq.trans hname.symm⟩
              rw [get_ofElements_of_leaves hothers hrest]
              exact hsets g List.mem_cons_self hname hw s
          | succ i =>
              exact ih hnodup (fun k hk => hsets k (List.mem_cons_of_mem _ hk))
                (fun k hk => hleaves k (List.mem_cons_of_mem _ hk)) hfield hv hrest

/-- A record is decoded from an array element by element, and none is left over. -/
theorem ofElements_of_decoder {vs : List Value} {s : σ}
    (h : r.decoder.ofValue (.array vs) = .ok s) :
    r.ofElements 0 r.start r.fields vs = .ok (s, []) := by
  unfold decoder at h
  simp only at h
  cases helements : r.ofElements 0 r.start r.fields vs with
  | error fault =>
      rw [helements] at h
      cases h
  | ok result =>
      obtain ⟨t, left⟩ := result
      rw [helements] at h
      cases left with
      | nil =>
          cases h
          rfl
      | cons w left => cases h

end Record
end Json.Decoder

namespace Settings

open Json.Decoder

variable {σ α : Type} {record : Record σ} {name : String} {d : Decoder α} {get : σ → α}

/-- A document gives a value for a field of a record: as a member under any spelling of a name of
the field, and no other member has a spelling of that name, or as the element in the place of the
field. -/
inductive Gives (record : Record σ) (name : String) : Value → Value → Prop
  | member {ms : List (String × Value)} {written : String} {v : Value} {f : RecordField σ}
      (hmem : (written, v) ∈ ms) (hfield : record.field? (normalName written) = some f)
      (hname : f.name = name)
      (hunique : ∀ m ∈ ms, normalName m.1 = normalName written → m = (written, v)) :
      Gives record name (.object ms) v
  | element {vs : List Value} {i : Nat} {v : Value} {f : RecordField σ} (hv : vs[i]? = some v)
      (hfield : record.fields[i]? = some f) (hname : f.name = name) :
      Gives record name (.array vs) v

/-- In an object without two spellings of one name every member with the name of a field gives a
value for it. -/
theorem Gives.of_nodup {ms : List (String × Value)} {written : String} {v : Value}
    {f : RecordField σ} (normal : String) (hmem : (written, v) ∈ ms)
    (hnodup : (ms.map fun m => normalName m.1).Nodup) (hnormal : normalName written = normal)
    (hfield : record.field? normal = some f) (hname : f.name = name) :
    Gives record name (.object ms) v :=
  .member hmem (hnormal ▸ hfield) hname fun _ hm hsame =>
    List.inj_on_of_nodup_map hnodup hm hmem hsame

/-- What a document gives is in order if the document is. -/
theorem Gives.isOrdered {document v : Value} (h : Gives record name document v)
    (hordered : document.IsOrdered) : v.IsOrdered := by
  cases h with
  | member hmem => exact membersOrdered_iff.mp hordered.2 _ hmem
  | element hv => exact elementsOrdered_iff.mp hordered _ (List.mem_of_getElem? hv)

/-- What a document gives for a field is what the record, decoded from the normal form of the
document, holds in the part of the field. -/
theorem Gives.ofValue_eq {document v : Value} {s : σ} (h : Gives record name document v)
    (hpart : record.Decodes name d get)
    (hdecode : record.decoder.ofValue (normalize document) = .ok s) :
    d.ofValue (normalize v) = .ok (get s) := by
  cases h with
  | @member ms written v f hmem hfield hname hunique =>
      have hmem : (normalName written, normalize v) ∈ Dictionary.ofList (normalizeMembers ms) := by
        rw [normalizeMembers_eq_map]
        refine Dictionary.mem_ofList (List.mem_map.mpr ⟨(written, v), hmem, rfl⟩) ?_
        intro q hq hsame
        obtain ⟨m, hm, rfl⟩ := List.mem_map.mp hq
        have hm : m = (written, v) := hunique m hm hsame
        subst hm
        rfl
      exact hpart.ofValue_member hmem hfield hname hdecode
  | @element vs i v f hv hfield hname =>
      have hv : (normalizeElements vs)[i]? = some (normalize v) := by
        rw [normalizeElements_eq_map, List.getElem?_map, hv]
        rfl
      exact Record.ofValue_element hpart.nodup hpart.sets hpart.leaves hfield hname hv
        (Record.ofElements_of_decoder hdecode)

end Settings
end Flowchart
