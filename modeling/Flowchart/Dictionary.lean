/-!
# Dictionaries

Lists of pairs ordered by name, each name once. They hold the variables of a run and the members of
a document, and are always shown in that order.
-/

namespace Flowchart

/-- Values by name. -/
abbrev Dictionary (α : Type) := List (String × α)

namespace Dictionary

/-- Puts a value under a name; a value already there is replaced. -/
def insert {α : Type} (name : String) (value : α) : Dictionary α → Dictionary α
  | [] => [(name, value)]
  | (other, otherValue) :: rest =>
      if name = other then (name, value) :: rest
      else if name < other then (name, value) :: (other, otherValue) :: rest
      else (other, otherValue) :: insert name value rest

/-- Orders pairs by name; of several pairs with one name the last is kept. -/
def ofList {α : Type} (pairs : List (String × α)) : Dictionary α :=
  pairs.foldl (fun ordered (name, value) => insert name value ordered) []

/-- The value under a name. -/
def get? {α : Type} (name : String) (d : Dictionary α) : Option α :=
  d.lookup name

/-- A value is found under the name under which it was put last. -/
theorem get?_insert {α : Type} (name other : String) (value : α) (d : Dictionary α) :
    (d.insert name value).get? other = if other = name then some value else d.get? other := by
  have lookup_cons (key : String) (v : α) (rest : Dictionary α) :
      List.lookup other ((key, v) :: rest) =
        if other = key then some v else List.lookup other rest := by
    by_cases h : other = key <;> simp [List.lookup_cons, h, beq_false_of_ne]
  unfold get?
  induction d with
  | nil => simp [insert, lookup_cons]
  | cons pair rest ih =>
      obtain ⟨key, v⟩ := pair
      unfold insert
      split
      · next h => subst h; simp only [lookup_cons]; split <;> rfl
      · split
        · simp only [lookup_cons]
        · next h _ =>
            simp only [lookup_cons, ih]
            by_cases ho : other = key
            · subst ho; simp [Ne.symm h]
            · simp [ho]

end Dictionary
end Flowchart
