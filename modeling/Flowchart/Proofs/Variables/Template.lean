import Flowchart.Proofs.Text.Search
import Flowchart.Proofs.Variables.Names

/-!
# Free text as a template

Free text is a list of slots and a rest without placeholders (`Template`). A slot is what stands
before a placeholder and the name in it, and to fill a template is to put the value of the variable
in the place of each placeholder (`Template.fill`). Read `expand_fills` first: a text is expanded by
filling its template, which is a matter of the text alone. So what is put in is not looked at again,
and an opening without a closing stays as it is.

A template whose texts have no opening brace and whose names have no closing one is plain
(`Template.IsPlain`). Any text is that of a template which is read from left to right
(`exists_isScanned`), and plain templates are of that kind.
-/

namespace Flowchart

/-- Some text with a placeholder behind it. -/
structure Slot where
  literal : List Char
  name : List Char
  deriving DecidableEq

/-- A text as slots and what comes after them. -/
structure Template where
  slots : List Slot
  rest : List Char
  deriving DecidableEq

namespace Slot

/-- A slot as it is written. -/
def text (s : Slot) : List Char := s.literal ++ ['\x7b', '\x7b'] ++ s.name ++ ['\x7d', '\x7d']

/-- A slot with the value of the variable in the place of the placeholder. -/
def fill (store : Store) (s : Slot) : List Char :=
  s.literal ++ (store.getD (String.ofList s.name)).toList

/-- A slot is plain if no opening brace stands before the placeholder and no closing one in it. -/
structure IsPlain (s : Slot) : Prop where
  literal : '\x7b' ∉ s.literal
  name : '\x7d' ∉ s.name

/-- A slot is scanned if its first two opening braces in a row open the placeholder, and the first
two closing ones after them close it. -/
structure IsScanned (s : Slot) : Prop where
  literal : ¬ ['\x7b', '\x7b'] <:+: s.literal ++ ['\x7b']
  name : ¬ ['\x7d', '\x7d'] <:+: s.name ++ ['\x7d']

/-- Whether a slot is plain is decided by its characters. -/
instance (s : Slot) : Decidable s.IsPlain :=
  decidable_of_iff ('\x7b' ∉ s.literal ∧ '\x7d' ∉ s.name)
    ⟨fun h => ⟨h.1, h.2⟩, fun h => ⟨h.literal, h.name⟩⟩

end Slot

/-- A text has a placeholder in it. -/
def HoldsPlaceholder (cs : List Char) : Prop :=
  ∃ before name after, cs = before ++ ['\x7b', '\x7b'] ++ name ++ ['\x7d', '\x7d'] ++ after

namespace Template

/-- A template as it is written. -/
def text (t : Template) : List Char := t.slots.flatMap Slot.text ++ t.rest

/-- A template with the values of the variables in the places of the placeholders. -/
def fill (store : Store) (t : Template) : List Char := t.slots.flatMap (Slot.fill store) ++ t.rest

/-- A template is plain if all its slots are and its rest has no placeholder in it. -/
structure IsPlain (t : Template) : Prop where
  slots : ∀ s ∈ t.slots, s.IsPlain
  rest : ¬ HoldsPlaceholder t.rest

/-- A template is scanned if all its slots are and its rest has no placeholder in it. -/
structure IsScanned (t : Template) : Prop where
  slots : ∀ s ∈ t.slots, s.IsScanned
  rest : ¬ HoldsPlaceholder t.rest

end Template

variable {cs : List Char} {store : Store} {fuel : Nat}

/-! ## Templates that are read from left to right -/

/-- A text has a placeholder in it exactly if an opening is found, and a closing behind it. -/
theorem holdsPlaceholder_iff : HoldsPlaceholder cs ↔ ∃ before after name rest,
    Text.cut? ['\x7b', '\x7b'] cs = some (before, after) ∧
      Text.cut? ['\x7d', '\x7d'] after = some (name, rest) := by
  constructor
  · rintro ⟨before, name, after, hcs⟩
    have hopen : ['\x7b', '\x7b'] <:+: cs := by
      refine ⟨before, name ++ ['\x7d', '\x7d'] ++ after, ?_⟩
      simp [hcs]
    cases hcut : Text.cut? ['\x7b', '\x7b'] cs with
    | none => exact absurd hopen (Text.cut?_eq_none_iff.mp hcut)
    | some opened =>
        obtain ⟨first, behind⟩ := opened
        obtain ⟨heq, hfirst⟩ := Text.cut?_eq_some_iff.mp hcut
        -- The first opening is not behind the one at hand, and so the closing is behind both.
        have hle : first.length ≤ before.length := by
          by_contra hlong
          refine hfirst before.length (Nat.not_le.mp hlong)
            ⟨name ++ ['\x7d', '\x7d'] ++ after, ?_⟩
          simp [hcs]
        have hclose : ['\x7d', '\x7d'] <:+: behind := by
          have hsuffix : name ++ (['\x7d', '\x7d'] ++ after) <:+ behind := by
            have hinner : name ++ (['\x7d', '\x7d'] ++ after) <:+ cs :=
              ⟨before ++ ['\x7b', '\x7b'], by simp [hcs]⟩
            have houter : behind <:+ cs := ⟨first ++ ['\x7b', '\x7b'], by simp [heq]⟩
            have hlength := congrArg List.length (hcs.symm.trans heq)
            refine List.suffix_of_suffix_length_le hinner houter ?_
            simp only [List.length_append, List.length_cons, List.length_nil] at hlength ⊢
            omega
          exact List.IsInfix.trans ⟨name, after, List.append_assoc ..⟩ hsuffix.isInfix
        cases hcut' : Text.cut? ['\x7d', '\x7d'] behind with
        | none => exact absurd hclose (Text.cut?_eq_none_iff.mp hcut')
        | some closed => exact ⟨first, behind, closed.1, closed.2, rfl, hcut'⟩
  · rintro ⟨before, after, name, rest, hopen, hclose⟩
    obtain ⟨-, rfl⟩ := Text.cut?_pair_eq_some_iff.mp hopen
    obtain ⟨-, rfl⟩ := Text.cut?_pair_eq_some_iff.mp hclose
    exact ⟨before, name, rest, by simp⟩

/-- Whether a text has a placeholder in it is decided by looking for it. -/
instance (cs : List Char) : Decidable (HoldsPlaceholder cs) :=
  decidable_of_iff (((Text.cut? ['\x7b', '\x7b'] cs).bind fun opened =>
    Text.cut? ['\x7d', '\x7d'] opened.2).isSome = true) <| by
      rw [holdsPlaceholder_iff]
      simp only [Option.isSome_iff_exists, Option.bind_eq_some_iff, Prod.exists]
      constructor
      · rintro ⟨name, rest, before, after, hopen, hclose⟩
        exact ⟨before, after, name, rest, hopen, hclose⟩
      · rintro ⟨before, after, name, rest, hopen, hclose⟩
        exact ⟨name, rest, before, after, hopen, hclose⟩

/-- A character that does not occur does not stand twice before its next occurrence. -/
theorem not_pair_isInfix {d : Char} (h : d ∉ cs) : ¬ [d, d] <:+: cs ++ [d] := by
  intro hpair
  have hcount := hpair.sublist.count_le d
  rw [List.count_append, List.count_eq_zero.mpr h] at hcount
  simp at hcount

theorem Slot.IsPlain.isScanned {s : Slot} (h : s.IsPlain) : s.IsScanned :=
  ⟨not_pair_isInfix h.literal, not_pair_isInfix h.name⟩

namespace Template

variable {t : Template} {s : Slot} {slots : List Slot} {rest : List Char}

theorem IsPlain.isScanned (h : t.IsPlain) : t.IsScanned :=
  ⟨fun s hs => (h.slots s hs).isScanned, h.rest⟩

theorem text_cons (s : Slot) (slots : List Slot) (rest : List Char) :
    text ⟨s :: slots, rest⟩ =
      s.literal ++ '\x7b' :: '\x7b' :: (s.name ++ '\x7d' :: '\x7d' :: text ⟨slots, rest⟩) := by
  simp [text, Slot.text]

theorem fill_cons : fill store ⟨s :: slots, rest⟩ =
    s.literal ++ (store.getD (String.ofList s.name)).toList ++ fill store ⟨slots, rest⟩ := by
  simp [fill, Slot.fill]

/-- No template has more slots than characters. -/
theorem length_slots_le (t : Template) : t.slots.length ≤ t.text.length := by
  obtain ⟨slots, rest⟩ := t
  induction slots with
  | nil => exact Nat.zero_le _
  | cons s slots ih =>
      simp only [text_cons, List.length_append, List.length_cons] at ih ⊢
      omega

/-- Every text is that of a scanned template. -/
theorem exists_isScanned (cs : List Char) : ∃ t : Template, t.IsScanned ∧ t.text = cs := by
  -- The induction is on the length of the text, which each placeholder makes shorter.
  induction hlength : cs.length using Nat.strong_induction_on generalizing cs with
  | h n ih =>
      by_cases hholds : HoldsPlaceholder cs
      · obtain ⟨before, after, name, rest, hopen, hclose⟩ := holdsPlaceholder_iff.mp hholds
        obtain ⟨hliteral, rfl⟩ := Text.cut?_pair_eq_some_iff.mp hopen
        obtain ⟨hname, rfl⟩ := Text.cut?_pair_eq_some_iff.mp hclose
        have hshorter : rest.length < n := by
          simp only [List.length_append, List.length_cons] at hlength
          omega
        obtain ⟨⟨slots, last⟩, hscanned, rfl⟩ := ih rest.length hshorter rest rfl
        refine ⟨⟨⟨before, name⟩ :: slots, last⟩, ⟨?_, hscanned.rest⟩, text_cons _ _ _⟩
        exact List.forall_mem_cons.mpr ⟨⟨hliteral, hname⟩, hscanned.slots⟩
      · exact ⟨⟨[], cs⟩, ⟨by simp, hholds⟩, rfl⟩

end Template

/-! ## Filling templates -/

namespace Store

variable {t : Template}

/-- A variable is found under its name with blanks around it. -/
theorem getD_ofList_trimList (store : Store) (name : List Char) :
    store.getD (String.ofList (Text.trimList name)) = store.getD (String.ofList name) := by
  unfold getD get?
  rw [variableName_congr (s := String.ofList (Text.trimList name)) (t := String.ofList name)]
  simp

/-- A text without placeholders is left alone. -/
theorem fillPlaceholders_of_not_holds (h : ¬ HoldsPlaceholder cs) :
    store.fillPlaceholders fuel cs = cs := by
  cases fuel with
  | zero => rfl
  | succ fuel =>
      unfold fillPlaceholders
      split
      · rfl
      · next before after hopen =>
          split
          · rfl
          · next name rest hclose =>
              exact absurd (holdsPlaceholder_iff.mpr ⟨_, _, _, _, hopen, hclose⟩) h

/-- The first placeholder gets its value, and the same is done with all behind it. -/
theorem fillPlaceholders_succ {before after name rest : List Char}
    (hopen : Text.cut? ['\x7b', '\x7b'] cs = some (before, after))
    (hclose : Text.cut? ['\x7d', '\x7d'] after = some (name, rest)) :
    store.fillPlaceholders (fuel + 1) cs =
      before ++ (store.getD (String.ofList name)).toList ++ store.fillPlaceholders fuel rest := by
  rw [fillPlaceholders, hopen]
  dsimp only
  rw [hclose]
  dsimp only
  rw [getD_ofList_trimList]

/-- A scanned template is filled by as many replacements as it has slots. -/
theorem fillPlaceholders_text (h : t.IsScanned) (hfuel : t.slots.length ≤ fuel) :
    store.fillPlaceholders fuel t.text = t.fill store := by
  obtain ⟨slots, rest⟩ := t
  induction slots generalizing fuel with
  | nil => exact fillPlaceholders_of_not_holds h.rest
  | cons s slots ih =>
      obtain ⟨hs, hslots⟩ := List.forall_mem_cons.mp h.slots
      obtain ⟨fuel, rfl⟩ : ∃ more, fuel = more + 1 :=
        Nat.exists_eq_add_one.mpr ((Nat.succ_pos _).trans_le hfuel)
      have hopen := Text.cut?_pair_eq_some_iff.mpr ⟨hs.literal, Template.text_cons s slots rest⟩
      have hclose := Text.cut?_pair_eq_some_iff.mpr ⟨hs.name, Eq.refl
        (s.name ++ '\x7d' :: '\x7d' :: Template.text ⟨slots, rest⟩)⟩
      rw [fillPlaceholders_succ hopen hclose, Template.fill_cons,
        ih ⟨hslots, h.rest⟩ (Nat.le_of_succ_le_succ hfuel)]

/-- A text that is not a single reference has its placeholders filled. -/
theorem expand_eq_fillPlaceholders {text : String}
    (h : ¬ IsReference text ∨ ∃ c ∈ Text.trimList text.toList, Text.isBlank c = true)
    (store : Store) :
    store.expand text = String.ofList (store.fillPlaceholders text.length text.toList) := by
  rw [expand]
  refine if_neg ?_
  rw [Bool.and_eq_true, Bool.not_eq_true', decide_eq_true_iff]
  rintro ⟨hsigil, hblank⟩
  rcases h with hnot | ⟨c, hc, hc'⟩
  · exact hnot hsigil
  · rw [List.any_eq_true.mpr ⟨c, hc, hc'⟩] at hblank
    cases hblank

/-- A text that is not a single reference is expanded by filling any plain template that it is
written as. If there is none, there is still one template that all stores fill. The bound on the
replacements is never what ends them, and each time an opening or a closing is looked for among
bytes, it is found where the characters are cut. -/
theorem expand_fills {text : String}
    (h : ¬ IsReference text ∨ ∃ c ∈ Text.trimList text.toList, Text.isBlank c = true) :
    (∀ t : Template, t.IsPlain → t.text = text.toList →
      ∀ store : Store, store.expand text = String.ofList (t.fill store)) ∧
    (∃ t : Template, t.IsScanned ∧ t.text = text.toList ∧
      ∀ store : Store, store.expand text = String.ofList (t.fill store)) ∧
    (∀ (store : Store) (fuel : Nat), text.length ≤ fuel →
      store.expand text = String.ofList (store.fillPlaceholders fuel text.toList)) ∧
    (∀ cs, cs <:+ text.toList → ∀ brace ∈ ['\x7b', '\x7d'], ∀ i,
      Text.IsFirstByte [brace, brace] cs i ↔ ∃ before after,
        Text.cut? [brace, brace] cs = some (before, after) ∧ (Text.bytes before).length = i) := by
  have hfill {t : Template} (ht : t.IsScanned) (htext : t.text = text.toList) (store : Store)
      {fuel : Nat} (hfuel : text.length ≤ fuel) :
      store.fillPlaceholders fuel text.toList = t.fill store := by
    have hslots := t.length_slots_le
    rw [htext, String.length_toList] at hslots
    rw [← htext, fillPlaceholders_text ht (hslots.trans hfuel)]
  obtain ⟨t, ht, htext⟩ := Template.exists_isScanned text.toList
  refine ⟨fun t ht htext store => ?_, ⟨t, ht, htext, fun store => ?_⟩, fun store fuel hfuel => ?_,
    fun cs _ brace hbrace i => ?_⟩
  · rw [expand_eq_fillPlaceholders h, hfill ht.isScanned htext store le_rfl]
  · rw [expand_eq_fillPlaceholders h, hfill ht htext store le_rfl]
  · rw [expand_eq_fillPlaceholders h, hfill ht htext store le_rfl, hfill ht htext store hfuel]
  · have hascii : ∀ c ∈ ['\x7b', '\x7d'], c.toNat < 128 := by simp
    refine Text.isFirstByte_iff (List.cons_ne_nil _ _) fun c hc => ?_
    obtain rfl : c = brace := by simpa using hc
    exact hascii c hbrace

/-- A template of three slots, with an opening in its rest that is not closed. -/
def addressTemplate : Template where
  slots := [⟨"https://".toList, "host".toList⟩, ⟨"/items/".toList, " id ".toList⟩,
    ⟨"/".toList, "raw".toList⟩]
  rest := " \x7b\x7bunclosed".toList

/-- The text of the template. -/
def addressText : String := String.ofList addressTemplate.text

/-- A store with a value that looks like a placeholder and a reference. -/
def addressStore : Store :=
  .ofList [("host", "example.com"), ("id", "7"), ("raw", "\x7b\x7bid\x7d\x7d $id")]

/-- Names with blanks around them are looked up, and neither values nor the rest are expanded. -/
theorem addressTemplate_fills : ¬ IsReference addressText ∧ addressTemplate.IsPlain ∧
    addressTemplate.text = addressText.toList ∧
    addressStore.expand addressText =
      "https://example.com/items/7/\x7b\x7bid\x7d\x7d $id \x7b\x7bunclosed" := by
  have hreference : ¬ IsReference addressText := by decide +kernel
  have hplain : addressTemplate.IsPlain :=
    ⟨by decide +kernel, by decide +kernel⟩
  have htext : addressTemplate.text = addressText.toList := String.toList_ofList.symm
  refine ⟨hreference, hplain, htext, ?_⟩
  rw [(expand_fills (Or.inl hreference)).1 addressTemplate hplain htext]
  decide +kernel

end Store
end Flowchart
