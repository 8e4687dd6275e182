import Flowchart.Proofs.Json.Doubles
import Flowchart.Proofs.Json.Part

/-!
# Reading again what was read

What has been read is printed and read again with the same members, elements and texts
(`IsReadable.ofText_compact`). Each number becomes the one that its own text is read as
(`Number.reread`), which need not be the same one. So does each part of a document, and a path
selects the same in it (`select_reread`).
-/

namespace Flowchart.Json

/-- The number that the text of a number is read as. -/
def Number.reread (n : Number) : Number :=
  match Value.ofText n.text with
  | .ok (.number m) => m
  | _ => n

/-- A document with each number read again. -/
def Value.reread (v : Value) : Value := v.mapNumbers Number.reread

variable {n m : Number} {v w : Value} {f : Number → Number}

/-! ## Numbers -/

/-- The text of a number is a document. -/
theorem Reader.ReadsNumber.ofText (h : Reader.ReadsNumber n m) :
    Value.ofText n.text = .ok (.number m) := by
  have hread := h.reads Dictionary.ofList 127 [] delimits_nil
  rw [List.append_nil] at hread
  exact hread.readAll

/-- The text of a number that was read is read. -/
theorem Number.IsValid.readsNumber_reread (h : n.IsValid) : Reader.ReadsNumber n n.reread := by
  obtain ⟨m, hm⟩ := Reader.exists_readsNumber h
  rwa [Number.reread, hm.ofText]

/-! ## Documents -/

/-- A document as reading gives it, or a part of one: its members are in order, and it has neither
more levels nor other numbers than what is read. -/
structure Value.IsReadable (v : Value) : Prop where
  isOrdered : v.IsOrdered
  isWithin : ∃ levels ≤ depthLimit, v.IsWithin Number.IsValid levels

/-- What was read is readable. -/
theorem Value.isReadable_of_ofText {s : String} (h : ofText s = .ok v) : v.IsReadable := by
  obtain ⟨hordered, hwithin⟩ :=
    (Reader.value_yields_within Reader.number_yields depthLimit).readAll h
  exact ⟨hordered, depthLimit, le_rfl, hwithin⟩

/-- What is readable is printed and read again with the numbers that are read for its own ones. -/
theorem Value.IsReadable.ofText_compact (h : v.IsReadable) : ofText v.compact = .ok v.reread := by
  obtain ⟨hordered, levels, hlevels, hwithin⟩ := h
  exact ofText_compact_mapNumbers (fun _ => Number.IsValid.readsNumber_reread) hordered hwithin
    hlevels

/-- An element of a readable array is readable. -/
theorem Value.IsReadable.of_mem_array {vs : List Value} (h : (array vs).IsReadable)
    (hw : w ∈ vs) : w.IsReadable := by
  obtain ⟨hordered, levels, hlevels, -, hwithin⟩ := h
  exact ⟨elementsOrdered_iff.mp hordered w hw, levels - 1, (Nat.sub_le _ _).trans hlevels,
    elementsWithin_iff.mp hwithin w hw⟩

/-- A member of a readable object is readable. -/
theorem Value.IsReadable.of_mem_object {ms : List (String × Value)} {name : String}
    (h : (object ms).IsReadable) (hw : (name, w) ∈ ms) : w.IsReadable := by
  obtain ⟨⟨-, hordered⟩, levels, hlevels, -, hwithin⟩ := h
  exact ⟨membersOrdered_iff.mp hordered _ hw, levels - 1, (Nat.sub_le _ _).trans hlevels,
    membersWithin_iff.mp hwithin _ hw⟩

/-- A part of what is readable is readable. -/
theorem Value.Leads.isReadable {segment : Segment} (h : v.Leads segment w) (hv : v.IsReadable) :
    w.IsReadable := by
  cases h with
  | member ms name _ hlookup =>
      obtain ⟨before, after, rfl, -⟩ := List.lookup_eq_some_iff.mp hlookup
      exact hv.of_mem_object (List.mem_append_right _ List.mem_cons_self)
  | element vs n _ hget => exact hv.of_mem_array (List.mem_of_getElem? hget)
  | numbered vs name n _ _ hget => exact hv.of_mem_array (List.mem_of_getElem? hget)

/-- Whatever segments lead to in what is readable is readable. -/
theorem Value.Reaches.isReadable {segments : List Segment} (h : v.Reaches segments w)
    (hv : v.IsReadable) : w.IsReadable := by
  induction h with
  | here => exact hv
  | onward _ _ _ _ _ hleads _ ih => exact ih (hleads.isReadable hv)

/-! ## Paths -/

/-- A name is looked up among members with other values. -/
theorem lookup_membersMapNumbers (f : Number → Number) (ms : List (String × Value))
    (name : String) :
    (membersMapNumbers f ms).lookup name = (ms.lookup name).map (Value.mapNumbers f) := by
  induction ms with
  | nil => rfl
  | cons m rest ih =>
      rw [membersMapNumbers, List.lookup_cons, List.lookup_cons, ih]
      split <;> rfl

/-- A segment selects in a document with other numbers what it selects in the document. -/
theorem step?_mapNumbers (f : Number → Number) (v : Value) (segment : Segment) :
    (v.mapNumbers f).step? segment = (v.step? segment).map (Value.mapNumbers f) := by
  cases segment with
  | key name =>
      cases v with
      | object ms => exact lookup_membersMapNumbers f ms name
      | array vs =>
          rw [Value.mapNumbers, elementsMapNumbers_eq_map, Value.step?, Value.step?]
          cases Decimal.index? name.toList with
          | none => rfl
          | some n => simp
      | null | bool | number | string => rfl
  | index n =>
      cases v with
      | array vs =>
          rw [Value.mapNumbers, elementsMapNumbers_eq_map, Value.step?, Value.step?,
            List.getElem?_map]
      | object | null | bool | number | string => rfl

/-- So do segments one after another. -/
theorem follow?_mapNumbers (f : Number → Number) (v : Value) (segments : List Segment) :
    (v.mapNumbers f).follow? segments = (v.follow? segments).map (Value.mapNumbers f) := by
  induction segments generalizing v with
  | nil => rfl
  | cons segment segments ih =>
      simp only [Value.follow?, List.foldlM_cons, Option.bind_eq_bind, step?_mapNumbers] at ih ⊢
      cases v.step? segment with
      | none => rfl
      | some part => exact ih part

/-- And so does a path. -/
theorem select_mapNumbers (f : Number → Number) (v : Value) (path : String) :
    (v.mapNumbers f).select path = (v.select path).map (Value.mapNumbers f) := by
  rw [Value.select, Value.select]
  cases Segment.parsePath? path with
  | none => rfl
  | some segments => exact follow?_mapNumbers f v segments

/-- A part of a document that was read is read again from its text; and what a path selects there
is, with its numbers read again, what the path selects behind the one to the part. -/
theorem select_reread {s p q : String} (hread : Value.ofText s = .ok v)
    (hp : ∀ c ∈ p.toList.getLast?, Text.isBlank c = false)
    (hq : ∀ c ∈ q.toList.head?, c = '.' ∨ c = '[') (hpart : v.select ("$" ++ p) = some w) :
    Value.ofText w.compact = .ok w.reread ∧
      w.reread.select ("$" ++ q) = (v.select ("$" ++ p ++ q)).map Value.reread := by
  obtain ⟨segments, -, hreaches⟩ := select_eq_some_iff.mp hpart
  have hreadable := hreaches.isReadable (Value.isReadable_of_ofText hread)
  refine ⟨hreadable.ofText_compact, ?_⟩
  rw [select_append hp hq hpart]
  exact select_mapNumbers Number.reread w ("$" ++ q)

end Flowchart.Json
