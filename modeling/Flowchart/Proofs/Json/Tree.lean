import Mathlib.Data.List.Forall2
import Flowchart.Json.Token
import Flowchart.Proofs.Variables.Dictionary

/-!
# The tree of a document

Documents are trees whose nodes are arrays and objects, and what holds of a document whenever it
holds of its parts holds of all documents (`Value.inductionOnParts`). Two things are asked of trees:
that the members of all objects are in order (`Value.IsOrdered`), and that there are not too many
levels and all numbers are whole and in range (`Value.Fits`) or have some other property
(`Value.IsWithin`). Other numbers can be put in the places of those of a tree
(`Value.mapNumbers`).
-/

namespace Flowchart.Json

namespace Value

/-- What holds of a document whenever it holds of its elements or members holds of all documents. -/
theorem inductionOnParts {P : Value → Prop} (null : P .null) (bool : ∀ b, P (.bool b))
    (number : ∀ n, P (.number n)) (string : ∀ s, P (.string s))
    (array : ∀ vs, (∀ v ∈ vs, P v) → P (.array vs))
    (object : ∀ ms : List (String × Value), (∀ m ∈ ms, P m.2) → P (.object ms)) (v : Value) :
    P v := by
  refine Value.rec (motive_1 := P) (motive_2 := fun vs => ∀ v ∈ vs, P v)
    (motive_3 := fun ms => ∀ m ∈ ms, P m.2) (motive_4 := fun m => P m.2)
    null bool number string array object ?_ ?_ ?_ ?_ ?_ v
  · exact fun _ hv => absurd hv List.not_mem_nil
  · exact fun _ _ hv hvs => List.forall_mem_cons.mpr ⟨hv, hvs⟩
  · exact fun _ hm => absurd hm List.not_mem_nil
  · exact fun _ _ hm hms => List.forall_mem_cons.mpr ⟨hm, hms⟩
  · exact fun _ _ hv => hv

end Value

/-- A list is decoded to another one if each element is decoded to the one in its place. -/
theorem mapM_eq_ok_iff_forall₂ {α β ε : Type} {f : α → Except ε β} {as : List α} {bs : List β} :
    as.mapM f = .ok bs ↔ List.Forall₂ (fun a b => f a = .ok b) as bs := by
  induction as generalizing bs with
  | nil =>
      rw [List.mapM_nil, List.forall₂_nil_left_iff]
      exact ⟨fun h => (Except.ok.inj h).symm, fun h => h ▸ rfl⟩
  | cons a as ih =>
      rw [List.mapM_cons, List.forall₂_cons_left_iff]
      constructor
      · intro h
        cases ha : f a with
        | error fault =>
            rw [ha] at h
            cases h
        | ok b =>
            rw [ha] at h
            cases has : as.mapM f with
            | error fault =>
                rw [has] at h
                cases h
            | ok rest =>
                rw [has] at h
                cases h
                exact ⟨b, rest, rfl, ih.mp has, rfl⟩
      · rintro ⟨b, rest, ha, has, rfl⟩
        rw [ha, ih.mpr has]
        rfl

/-! ## Order -/

mutual
/-- A document whose objects all have their members in strictly ascending order. -/
def Value.IsOrdered : Value → Prop
  | .object ms => Dictionary.Sorted ms ∧ MembersOrdered ms
  | .array vs => ElementsOrdered vs
  | .null | .bool _ | .number _ | .string _ => True

/-- The elements of an array are ordered documents. -/
def ElementsOrdered : List Value → Prop
  | [] => True
  | v :: rest => v.IsOrdered ∧ ElementsOrdered rest

/-- The members of an object are ordered documents. -/
def MembersOrdered : List (String × Value) → Prop
  | [] => True
  | (_, v) :: rest => v.IsOrdered ∧ MembersOrdered rest
end

/-- All elements of an array of ordered documents are ordered. -/
theorem elementsOrdered_iff {vs : List Value} : ElementsOrdered vs ↔ ∀ v ∈ vs, v.IsOrdered := by
  induction vs with
  | nil => simp [ElementsOrdered]
  | cons v rest ih => rw [ElementsOrdered, ih, List.forall_mem_cons]

/-- All members of an object of ordered documents are ordered. -/
theorem membersOrdered_iff {ms : List (String × Value)} :
    MembersOrdered ms ↔ ∀ m ∈ ms, m.2.IsOrdered := by
  induction ms with
  | nil => simp [MembersOrdered]
  | cons m rest ih => rw [MembersOrdered, ih, List.forall_mem_cons]

/-! ## Depth and numbers -/

/-- A number that is written without a point and without an exponent, and read as it was written. -/
def Number.IsWhole : Number → Prop
  | .integer n => -0x8000000000000000 ≤ n ∧ n ≤ maxWord
  | .double _ => False

mutual
/-- A document that has no more than so many levels and only whole numbers. -/
def Value.Fits : Value → Nat → Prop
  | .number n, levels => 1 ≤ levels ∧ n.IsWhole
  | .array vs, levels => 2 ≤ levels ∧ ElementsFit vs (levels - 1)
  | .object ms, levels => 2 ≤ levels ∧ MembersFit ms (levels - 1)
  | .null, levels | .bool _, levels | .string _, levels => 1 ≤ levels

/-- The elements of an array have no more than so many levels. -/
def ElementsFit : List Value → Nat → Prop
  | [], _ => True
  | v :: rest, levels => v.Fits levels ∧ ElementsFit rest levels

/-- The members of an object have no more than so many levels. -/
def MembersFit : List (String × Value) → Nat → Prop
  | [], _ => True
  | (_, v) :: rest, levels => v.Fits levels ∧ MembersFit rest levels
end

/-- All elements of an array have no more levels than is said of them. -/
theorem elementsFit_iff {vs : List Value} {levels : Nat} :
    ElementsFit vs levels ↔ ∀ v ∈ vs, v.Fits levels := by
  induction vs with
  | nil => simp [ElementsFit]
  | cons v rest ih => rw [ElementsFit, ih, List.forall_mem_cons]

/-- All members of an object have no more levels than is said of them. -/
theorem membersFit_iff {ms : List (String × Value)} {levels : Nat} :
    MembersFit ms levels ↔ ∀ m ∈ ms, m.2.Fits levels := by
  induction ms with
  | nil => simp [MembersFit]
  | cons m rest ih => rw [MembersFit, ih, List.forall_mem_cons]

mutual
/-- A document that has no more than so many levels, and whose numbers all have a property. -/
def Value.IsWithin (P : Number → Prop) : Value → Nat → Prop
  | .number n, levels => 1 ≤ levels ∧ P n
  | .array vs, levels => 2 ≤ levels ∧ ElementsWithin P vs (levels - 1)
  | .object ms, levels => 2 ≤ levels ∧ MembersWithin P ms (levels - 1)
  | .null, levels | .bool _, levels | .string _, levels => 1 ≤ levels

/-- The elements of an array have no more than so many levels. -/
def ElementsWithin (P : Number → Prop) : List Value → Nat → Prop
  | [], _ => True
  | v :: rest, levels => v.IsWithin P levels ∧ ElementsWithin P rest levels

/-- The members of an object have no more than so many levels. -/
def MembersWithin (P : Number → Prop) : List (String × Value) → Nat → Prop
  | [], _ => True
  | (_, v) :: rest, levels => v.IsWithin P levels ∧ MembersWithin P rest levels
end

variable {P : Number → Prop}

theorem elementsWithin_iff {vs : List Value} {levels : Nat} :
    ElementsWithin P vs levels ↔ ∀ v ∈ vs, v.IsWithin P levels := by
  induction vs with
  | nil => simp [ElementsWithin]
  | cons v rest ih => rw [ElementsWithin, ih, List.forall_mem_cons]

theorem membersWithin_iff {ms : List (String × Value)} {levels : Nat} :
    MembersWithin P ms levels ↔ ∀ m ∈ ms, m.2.IsWithin P levels := by
  induction ms with
  | nil => simp [MembersWithin]
  | cons m rest ih => rw [MembersWithin, ih, List.forall_mem_cons]

/-- A document fits if it is within its levels and has whole numbers. -/
theorem Value.Fits.isWithin {v : Value} {levels : Nat} (h : v.Fits levels) :
    v.IsWithin Number.IsWhole levels := by
  induction v using Value.inductionOnParts generalizing levels with
  | null | bool | number | string => exact h
  | array vs ih =>
      exact ⟨h.1, elementsWithin_iff.mpr fun v hv => ih v hv (elementsFit_iff.mp h.2 v hv)⟩
  | object ms ih =>
      exact ⟨h.1, membersWithin_iff.mpr fun m hm => ih m hm (membersFit_iff.mp h.2 m hm)⟩

/-! ## Numbers -/

mutual
/-- The numbers of a document, in the order in which they stand. -/
def Value.numbers : Value → List Number
  | .number n => [n]
  | .array vs => elementsNumbers vs
  | .object ms => membersNumbers ms
  | .null | .bool _ | .string _ => []

/-- The numbers in the elements of an array. -/
def elementsNumbers : List Value → List Number
  | [] => []
  | v :: rest => v.numbers ++ elementsNumbers rest

/-- The numbers in the members of an object. -/
def membersNumbers : List (String × Value) → List Number
  | [] => []
  | (_, v) :: rest => v.numbers ++ membersNumbers rest
end

theorem elementsNumbers_eq_flatMap (vs : List Value) :
    elementsNumbers vs = vs.flatMap Value.numbers := by
  induction vs with
  | nil => rfl
  | cons v rest ih => rw [elementsNumbers, ih, List.flatMap_cons]

theorem membersNumbers_eq_flatMap (ms : List (String × Value)) :
    membersNumbers ms = ms.flatMap fun m => m.2.numbers := by
  induction ms with
  | nil => rfl
  | cons m rest ih => rw [membersNumbers, ih, List.flatMap_cons]

mutual
/-- A document with other numbers in place of its own. -/
def Value.mapNumbers (f : Number → Number) : Value → Value
  | .number n => .number (f n)
  | .array vs => .array (elementsMapNumbers f vs)
  | .object ms => .object (membersMapNumbers f ms)
  | .null => .null
  | .bool b => .bool b
  | .string s => .string s

/-- The elements of an array with other numbers. -/
def elementsMapNumbers (f : Number → Number) : List Value → List Value
  | [] => []
  | v :: rest => v.mapNumbers f :: elementsMapNumbers f rest

/-- The members of an object with other numbers. -/
def membersMapNumbers (f : Number → Number) : List (String × Value) → List (String × Value)
  | [] => []
  | (name, v) :: rest => (name, v.mapNumbers f) :: membersMapNumbers f rest
end

variable {f : Number → Number}

theorem elementsMapNumbers_eq_map (vs : List Value) :
    elementsMapNumbers f vs = vs.map (Value.mapNumbers f) := by
  induction vs with
  | nil => rfl
  | cons v rest ih => rw [elementsMapNumbers, ih, List.map_cons]

theorem membersMapNumbers_eq_map (ms : List (String × Value)) :
    membersMapNumbers f ms = ms.map fun m => (m.1, m.2.mapNumbers f) := by
  induction ms with
  | nil => rfl
  | cons m rest ih => rw [membersMapNumbers, ih, List.map_cons]

/-- Members keep their names and with them their order. -/
theorem sorted_membersMapNumbers {ms : List (String × Value)} (h : Dictionary.Sorted ms) :
    Dictionary.Sorted (membersMapNumbers f ms) := by
  rw [membersMapNumbers_eq_map]
  exact List.pairwise_map.mpr h

/-- A document whose numbers stay the same stays the same. -/
theorem Value.mapNumbers_id (v : Value) : v.mapNumbers id = v := by
  induction v using Value.inductionOnParts with
  | null | bool | number | string => rfl
  | array vs ih =>
      rw [mapNumbers, elementsMapNumbers_eq_map, List.map_congr_left ih, List.map_id']
  | object ms ih =>
      have hmembers : ms.map (fun m => (m.1, m.2.mapNumbers id)) = ms := by
        rw [List.map_congr_left fun m hm => congrArg (Prod.mk m.1) (ih m hm), List.map_id']
      rw [mapNumbers, membersMapNumbers_eq_map, hmembers]

end Flowchart.Json
