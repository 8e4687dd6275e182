/-!
# Computations that may be refused

What the success and the refusal of a sequence of checks say about each of them. A traversal of a
list is refused for the first element that is refused, and succeeds when every element does.
-/

namespace Flowchart

variable {α β ε : Type}

/-- A sequence succeeds exactly when each part succeeds in turn. -/
theorem bind_eq_ok_iff {x : Except ε α} {f : α → Except ε β} {b : β} :
    (x >>= f) = .ok b ↔ ∃ a, x = .ok a ∧ f a = .ok b := by
  cases x <;> simp [bind, Except.bind]

/-- The refusal of a sequence is that of its first part, or else that of the second one. -/
theorem bind_eq_error_iff {x : Except ε α} {f : α → Except ε β} {first second : Option ε}
    (hx : ∀ e, x = .error e ↔ first = some e)
    (hf : ∀ a, x = .ok a → ∀ e, f a = .error e ↔ second = some e) (e : ε) :
    (x >>= f) = .error e ↔ first.or second = some e := by
  cases hr : x with
  | error found =>
      rw [(hx found).mp hr]
      simp [bind, Except.bind]
  | ok a =>
      have hnone : first = none := by
        rw [Option.eq_none_iff_forall_ne_some]
        intro found hfound
        rw [← hx, hr] at hfound
        cases hfound
      rw [hnone, Option.none_or, ← hf a hr]
      rfl

/-- A computation succeeds exactly when it is not refused. -/
theorem exists_eq_ok_iff {x : Except ε α} : (∃ a, x = .ok a) ↔ ∀ e, x ≠ .error e := by
  cases x <;> simp

/-- The first finding in a list is that of its head, or else the first one in the rest. -/
theorem findSome?_cons_eq_or (f : α → Option β) (a : α) (as : List α) :
    (a :: as).findSome? f = (f a).or (as.findSome? f) := by
  rw [List.findSome?_cons]
  cases f a <;> rfl

/-- A traversal with results is refused for the first element that is refused. -/
theorem mapM_eq_error_iff {f : α → Except ε β} {refusal : α → Option ε}
    (hf : ∀ a e, f a = .error e ↔ refusal a = some e) (as : List α) (e : ε) :
    as.mapM f = .error e ↔ as.findSome? refusal = some e := by
  induction as generalizing e with
  | nil => simp [pure, Except.pure]
  | cons a as ih =>
      rw [List.mapM_cons, findSome?_cons_eq_or]
      refine bind_eq_error_iff (hf a) (fun b _ e => ?_) e
      rw [← Option.or_none (o := as.findSome? refusal)]
      exact bind_eq_error_iff ih (fun bs _ e => by simp [pure, Except.pure]) e

/-- A traversal without results is refused for the first element that is refused. -/
theorem forM_eq_error_iff {f : α → Except ε Unit} {refusal : α → Option ε}
    (hf : ∀ a e, f a = .error e ↔ refusal a = some e) (as : List α) (e : ε) :
    as.forM f = .error e ↔ as.findSome? refusal = some e := by
  rw [List.forM_eq_forM]
  induction as generalizing e with
  | nil => simp [pure, Except.pure]
  | cons a as ih =>
      rw [List.forM_cons, findSome?_cons_eq_or]
      exact bind_eq_error_iff (hf a) (fun _ _ => ih) e

/-- A traversal without results succeeds exactly when every element does. -/
theorem forM_eq_ok_iff {f : α → Except ε Unit} {as : List α} :
    as.forM f = .ok () ↔ ∀ a ∈ as, f a = .ok () := by
  rw [List.forM_eq_forM]
  induction as with
  | nil => simp [pure, Except.pure]
  | cons a as ih =>
      rw [List.forM_cons, bind_eq_ok_iff, List.forall_mem_cons, ← ih]
      exact ⟨fun ⟨(), ha, has⟩ => ⟨ha, has⟩, fun ⟨ha, has⟩ => ⟨(), ha, has⟩⟩

/-- A traversal whose results show the elements they come from succeeds exactly with the results
of the elements one by one. -/
theorem mapM_eq_ok_iff {f : α → Except ε β} {origin : β → α}
    (hf : ∀ a b, f a = .ok b → origin b = a) (as : List α) (bs : List β) :
    as.mapM f = .ok bs ↔ bs.map origin = as ∧ ∀ b ∈ bs, f (origin b) = .ok b := by
  induction as generalizing bs with
  | nil => cases bs <;> simp [pure, Except.pure]
  | cons a as ih =>
      simp only [List.mapM_cons, bind_eq_ok_iff, ih, pure, Except.pure, Except.ok.injEq]
      constructor
      · rintro ⟨b, hb, rest, ⟨hmap, hall⟩, rfl⟩
        have horigin := hf a b hb
        refine ⟨by rw [List.map_cons, horigin, hmap], ?_⟩
        simpa [horigin, hb] using hall
      · rintro ⟨hmap, hall⟩
        cases bs with
        | nil => simp at hmap
        | cons b rest =>
            simp only [List.map_cons, List.cons.injEq] at hmap
            simp only [List.forall_mem_cons] at hall
            exact ⟨b, hmap.1 ▸ hall.1, rest, ⟨hmap.2, hall.2⟩, rfl⟩

end Flowchart
