import Flowchart.Blocks.TextTransform
import Flowchart.Proofs.Variables.Store

/-!
# What settings look up

Which variables a token or a free text looks up is fixed by the token or text alone
(`tokenLookups`, `textLookups`): a value that was looked up is never read as a token or a text
again. Stores that agree on these variables give the same result, which is what `resolve_congr` and
`expand_congr` say.
-/

namespace Flowchart

/-- The variable that a token refers to. -/
def tokenLookups (token : String) : List String :=
  match Text.trimList token.toList with
  | c :: rest => if c = sigil then [variableName (String.ofList rest)] else []
  | [] => []

/-- The variables between double braces, from left to right, as far as `fuel` reaches. -/
def placeholderLookups : Nat → List Char → List String
  | 0, _ => []
  | fuel + 1, cs =>
      match Text.cut? ['\x7b', '\x7b'] cs with
      | none => []
      | some (_, after) =>
          match Text.cut? ['\x7d', '\x7d'] after with
          | none => []
          | some (name, rest) =>
              variableName (String.ofList (Text.trimList name)) :: placeholderLookups fuel rest

/-- The variables that a free text looks up: that of a single token, or else those of its
placeholders. -/
def textLookups (text : String) : List String :=
  let trimmed := Text.trimList text.toList
  if trimmed.head? = some sigil && !trimmed.any Text.isBlank then
    tokenLookups (String.ofList trimmed)
  else placeholderLookups text.length text.toList

/-- The variable that a text to work on is taken from: the one named, or else that of a token. -/
def inputLookups (input inputVariable : String) : List String :=
  if Text.isBlankText inputVariable then tokenLookups input else [variableName inputVariable]

namespace Store

/-- Two stores agree on some variables. -/
def AgreesOn (names : List String) (s t : Store) : Prop :=
  ∀ x ∈ names, s.values.get? x = t.values.get? x

variable {s t : Store} {name : String} {names more : List String} {hidden : String → Prop}

/-- Stores that agree on all that is not hidden agree on what is not. -/
theorem AgreesOff.agreesOn (h : s.AgreesOff hidden t) (hnames : ∀ x ∈ names, ¬ hidden x) :
    s.AgreesOn names t :=
  fun x hx => h x (hnames x hx)

/-- Stores that agree on the variables of two lists agree on those of the first one. -/
theorem AgreesOn.left (h : s.AgreesOn (names ++ more) t) : s.AgreesOn names t :=
  fun x hx => h x (List.mem_append_left _ hx)

/-- Stores that agree on the variables of two lists agree on those of the second one. -/
theorem AgreesOn.right (h : s.AgreesOn (names ++ more) t) : s.AgreesOn more t :=
  fun x hx => h x (List.mem_append_right _ hx)

/-- Stores that agree on a list of variables agree on the first one. -/
theorem AgreesOn.head (h : s.AgreesOn (name :: names) t) : s.AgreesOn [name] t := by
  intro x hx
  rw [List.mem_singleton.mp hx]
  exact h name List.mem_cons_self

/-- Stores that agree on a list of variables agree on the others. -/
theorem AgreesOn.tail (h : s.AgreesOn (name :: names) t) : s.AgreesOn names t :=
  fun x hx => h x (List.mem_cons_of_mem name hx)

/-- Stores that agree on a variable find the same under every text that names it. -/
theorem get?_congr (h : s.AgreesOn [variableName name] t) :
    s.get? name = t.get? name :=
  h _ List.mem_cons_self

/-- Stores that agree on a variable have the same value for every text that names it. -/
theorem getD_congr (h : s.AgreesOn [variableName name] t) :
    s.getD name = t.getD name := by
  rw [getD, getD, get?_congr h]

/-- Stores that agree on the variable of a token resolve it to the same text. -/
theorem resolve_congr {token : String} (h : s.AgreesOn (tokenLookups token) t) :
    s.resolve token = t.resolve token := by
  unfold resolve
  unfold tokenLookups at h
  cases htrim : Text.trimList token.toList with
  | nil => rfl
  | cons c rest =>
      rw [htrim] at h
      by_cases hc : c = sigil
      · simp only [if_pos hc] at h ⊢
        exact getD_congr h
      · simp only [if_neg hc]

/-- Stores that agree on the variable of a token resolve it to the same number. -/
theorem resolveNumber_congr {token : String} (h : s.AgreesOn (tokenLookups token) t) :
    s.resolveNumber token = t.resolveNumber token := by
  rw [resolveNumber, resolveNumber, resolve_congr h]

/-- Stores that agree on the variables of placeholders fill them with the same texts. -/
theorem fillPlaceholders_congr {fuel : Nat} {cs : List Char}
    (h : s.AgreesOn (placeholderLookups fuel cs) t) :
    s.fillPlaceholders fuel cs = t.fillPlaceholders fuel cs := by
  -- The induction follows the placeholders; what was put in for one is not looked at again.
  induction fuel generalizing cs with
  | zero => rfl
  | succ fuel ih =>
      unfold fillPlaceholders
      unfold placeholderLookups at h
      cases hopen : Text.cut? ['\x7b', '\x7b'] cs with
      | none => rfl
      | some opened =>
          obtain ⟨before, after⟩ := opened
          simp only [hopen] at h ⊢
          cases hclose : Text.cut? ['\x7d', '\x7d'] after with
          | none => rfl
          | some closed =>
              obtain ⟨name, rest⟩ := closed
              simp only [hclose] at h ⊢
              rw [getD_congr h.head, ih h.tail]

/-- Stores that agree on the variables of a free text expand it to the same text. -/
theorem expand_congr {text : String} (h : s.AgreesOn (textLookups text) t) :
    s.expand text = t.expand text := by
  simp only [expand]
  simp only [textLookups] at h
  split
  · next htoken =>
      rw [if_pos htoken] at h
      exact resolve_congr h
  · next htext =>
      rw [if_neg htext] at h
      rw [fillPlaceholders_congr h]

example : textLookups "\x7b\x7bgreeting\x7d\x7d, \x7b\x7b $name \x7d\x7d!" =
    ["greeting", "name"] := by
  decide +kernel

end Store

open Store

/-- Stores that agree on the variable of a text to work on give the same text. -/
theorem Blocks.inputText_congr {s t : Store} {input inputVariable : String}
    (h : s.AgreesOn (inputLookups input inputVariable) t) :
    inputText s input inputVariable = inputText t input inputVariable := by
  unfold inputText
  unfold inputLookups at h
  split
  · next hblank =>
      rw [if_pos hblank] at h
      exact resolve_congr h
  · next hnamed =>
      rw [if_neg hnamed] at h
      exact getD_congr h

end Flowchart
