import Mathlib.Data.String.Basic
import Mathlib.Order.Compare
import Flowchart.Blocks.Condition
import Flowchart.Command.Example
import Flowchart.Proofs.Blocks.Footprint
import Flowchart.Proofs.Decimal.Spelling

/-!
# Conditions

A condition is a question about its two operands (`Asks`), and succeeds just if the answer is yes
(`isError_condition_iff`). Six of the comparisons look at nothing but the order of the operands,
which is that of the texts or that of the numbers they are read as (`operandOrder`). So the laws of
a total order are laws of conditions (`conditions_respect_order`). The three others are questions
about texts in either mode (`textQuestion?`).
-/

namespace Flowchart.Blocks

open Std (OrientedCmp)

/-! ## Questions -/

/-- A condition asks for a comparison of two operands. -/
structure Asks (context : Context) (scene : Scene) (numeric : Bool) (comparison : Comparison)
    (first second : String) : Prop where
  operator : Comparison.ofName? (Settings.ofBlock ConditionSettings.record context.block).operator =
    some comparison
  mode : Text.equalAsciiCase
    (Text.trim (Settings.ofBlock ConditionSettings.record context.block).dataType)
      "number" = numeric
  first : scene.store.resolve (Settings.ofBlock ConditionSettings.record context.block).first =
    first
  second :
    scene.store.resolve (Settings.ofBlock ConditionSettings.record context.block).second = second

/-- A comparison of two operands has the answer yes. -/
def Succeeds (numeric : Bool) (comparison : Comparison) (first second : String) : Prop :=
  evaluate comparison numeric first second = some true

instance (numeric : Bool) (comparison : Comparison) (first second : String) :
    Decidable (Succeeds numeric comparison first second) :=
  inferInstanceAs (Decidable (evaluate comparison numeric first second = some true))

variable {context : Context} {scene : Scene} {numeric : Bool} {comparison : Comparison}
variable {a b c : String}

/-- A condition succeeds just if the answer to its question is yes. -/
theorem isError_condition_iff (h : Asks context scene numeric comparison a b) :
    (condition.run context scene).1.isError = false ↔ Succeeds numeric comparison a b := by
  obtain ⟨notes, hread⟩ := Settings.exists_read_eq ConditionSettings.record context scene
  rw [condition, Handler.run_named, Succeeds]
  simp only [runCondition, hread, h.operator, h.mode, h.first, h.second]
  cases evaluate comparison numeric a b with
  | none => simp [StepResult.failure]
  | some holds => cases holds <;> simp [StepResult.success, StepResult.failure]

/-- A condition that names no comparison fails. -/
theorem isError_condition_of_unknown (h : Comparison.ofName?
    (Settings.ofBlock ConditionSettings.record context.block).operator = none) (scene : Scene) :
    (condition.run context scene).1.isError = true := by
  obtain ⟨notes, hread⟩ := Settings.exists_read_eq ConditionSettings.record context scene
  rw [condition, Handler.run_named]
  simp only [runCondition, hread, h]
  rfl

/-- The question about two texts that a comparison stands for, if it does not look at an order. -/
def Comparison.textQuestion? : Comparison → Option (String → String → Bool)
  | .contains => some Text.contains
  | .startsWith => some Text.startsWith
  | .endsWith => some Text.endsWith
  | _ => none

/-- Questions about texts are answered in either mode. -/
theorem evaluate_of_textQuestion {question : String → String → Bool}
    (h : comparison.textQuestion? = some question) (numeric : Bool) (a b : String) :
    evaluate comparison numeric a b = some (question a b) := by
  cases comparison <;> cases h <;> rfl

/-! ## Orders -/

/-- The order in which two operands stand; none if one of them is no number but should be. -/
def operandOrder (numeric : Bool) (first second : String) : Option Ordering :=
  if numeric then
    match parseNumber first, parseNumber second with
    | some x, some y => some (x.order y)
    | _, _ => none
  else some (textOrder first second)

/-- The other comparisons look at nothing but the order. -/
theorem evaluate_eq_map_operandOrder (h : comparison.textQuestion? = none) (numeric : Bool)
    (a b : String) :
    evaluate comparison numeric a b = (operandOrder numeric a b).map comparison.holds := by
  have heval : evaluate comparison numeric a b = if numeric then
      match parseNumber a, parseNumber b with
      | some x, some y => some (comparison.holds (x.order y))
      | _, _ => none
    else some (comparison.holds (textOrder a b)) := by
    cases comparison <;> first | rfl | cases h
  rw [heval, operandOrder]
  cases numeric with
  | false => rfl
  | true => cases parseNumber a <;> cases parseNumber b <;> rfl

/-- A comparison of order has the answer yes just if it holds for the order of the operands. -/
theorem succeeds_iff (h : comparison.textQuestion? = none) : Succeeds numeric comparison a b ↔
    ∃ o, operandOrder numeric a b = some o ∧ comparison.holds o = true := by
  rw [Succeeds, evaluate_eq_map_operandOrder h, Option.map_eq_some_iff]

/-- An operand can be compared: as a number it has to be one. -/
def Comparable (numeric : Bool) (operand : String) : Prop :=
  numeric = true → (parseNumber operand).isSome = true

/-- Operands that can be compared stand in an order. -/
theorem exists_operandOrder (ha : Comparable numeric a) (hb : Comparable numeric b) :
    ∃ o, operandOrder numeric a b = some o := by
  cases numeric with
  | false => exact ⟨_, rfl⟩
  | true =>
      obtain ⟨x, hx⟩ := Option.isSome_iff_exists.mp (ha rfl)
      obtain ⟨y, hy⟩ := Option.isSome_iff_exists.mp (hb rfl)
      exact ⟨x.order y, by simp only [operandOrder, hx, hy, if_true]⟩

/-- Numbers stand in the order of their values. -/
theorem operandOrder_true_eq_some_iff {o : Ordering} : operandOrder true a b = some o ↔
    ∃ x y, parseNumber a = some x ∧ parseNumber b = some y ∧ compare x.value y.value = o := by
  simp only [operandOrder, if_true]
  constructor
  · intro h
    cases ha : parseNumber a with
    | none => simp [ha] at h
    | some x =>
        cases hb : parseNumber b with
        | none => simp [ha, hb] at h
        | some y =>
            simp only [ha, hb, Option.some.injEq] at h
            exact ⟨x, y, rfl, rfl, h⟩
  · rintro ⟨x, y, ha, hb, rfl⟩
    simp only [ha, hb, Binary64.order]

/-- Texts stand in the order of their code points. -/
theorem textOrder_eq_compare (a b : String) : textOrder a b = compare a b := by
  unfold textOrder
  by_cases heq : a = b
  · rw [if_pos heq, compare_eq_iff_eq.mpr heq]
  · rw [if_neg heq]
    by_cases hlt : a < b
    · rw [if_pos hlt, compare_lt_iff_lt.mpr hlt]
    · have hgt : b < a := lt_of_le_of_ne (not_lt.mp hlt) (Ne.symm heq)
      rw [if_neg hlt, compare_gt_iff_gt.mpr hgt]

/-- Operands that are swapped stand in the opposite order. -/
theorem operandOrder_swap (numeric : Bool) (a b : String) :
    operandOrder numeric b a = (operandOrder numeric a b).map Ordering.swap := by
  cases numeric with
  | false =>
      show some (textOrder b a) = some (textOrder a b).swap
      rw [textOrder_eq_compare, textOrder_eq_compare]
      exact congrArg some (@OrientedCmp.eq_swap String compare _ b a)
  | true =>
      simp only [operandOrder, if_true]
      cases parseNumber a with
      | none => cases parseNumber b <;> rfl
      | some x =>
          cases parseNumber b with
          | none => rfl
          | some y => exact congrArg some (@OrientedCmp.eq_swap Int compare _ y.value x.value)

/-- Orders are transitive. -/
theorem operandOrder_trans {o : Ordering} (ho : o = .lt ∨ o = .eq)
    (hab : operandOrder numeric a b = some o) (hbc : operandOrder numeric b c = some o) :
    operandOrder numeric a c = some o := by
  have htrans {α : Type} [LinearOrder α] {x y z : α} (hxy : compare x y = o)
      (hyz : compare y z = o) : compare x z = o := by
    rcases ho with rfl | rfl
    · rw [compare_lt_iff_lt] at hxy hyz ⊢
      exact hxy.trans hyz
    · rw [compare_eq_iff_eq] at hxy hyz ⊢
      exact hxy.trans hyz
  cases numeric with
  | false =>
      have hab : textOrder a b = o := Option.some.inj hab
      have hbc : textOrder b c = o := Option.some.inj hbc
      show some (textOrder a c) = some o
      rw [textOrder_eq_compare] at hab hbc ⊢
      rw [htrans hab hbc]
  | true =>
      rw [operandOrder_true_eq_some_iff] at hab hbc ⊢
      obtain ⟨x, y, hx, hy, hxy⟩ := hab
      obtain ⟨y', z, hy', hz, hyz⟩ := hbc
      obtain rfl : y = y' := Option.some.inj (hy.symm.trans hy')
      exact ⟨x, z, hx, hz, htrans hxy hyz⟩

/-! ## Laws -/

/-- The laws of the comparisons that look at an order. Operands have to be comparable where a law
says that something holds. -/
structure OrderLaws (numeric : Bool) : Prop where
  exactly_one : ∀ {a b}, Comparable numeric a → Comparable numeric b →
    ∃! comparison, comparison ∈ [Comparison.less, .equals, .greater] ∧
      Succeeds numeric comparison a b
  notEquals_iff : ∀ {a b}, Comparable numeric a → Comparable numeric b →
    (Succeeds numeric .notEquals a b ↔ ¬ Succeeds numeric .equals a b)
  greaterOrEqual_iff : ∀ {a b}, Comparable numeric a → Comparable numeric b →
    (Succeeds numeric .greaterOrEqual a b ↔ ¬ Succeeds numeric .less a b)
  lessOrEqual_iff : ∀ {a b}, Comparable numeric a → Comparable numeric b →
    (Succeeds numeric .lessOrEqual a b ↔ ¬ Succeeds numeric .greater a b)
  greater_swap : ∀ {a b}, Succeeds numeric .greater b a ↔ Succeeds numeric .less a b
  greaterOrEqual_swap : ∀ {a b},
    Succeeds numeric .greaterOrEqual b a ↔ Succeeds numeric .lessOrEqual a b
  less_trans : ∀ {a b c}, Succeeds numeric .less a b → Succeeds numeric .less b c →
    Succeeds numeric .less a c
  equals_trans : ∀ {a b c}, Succeeds numeric .equals a b → Succeeds numeric .equals b c →
    Succeeds numeric .equals a c

/-- The answer yes to a comparison of order is an order for which it holds. -/
theorem succeeds_iff_of_operandOrder {o : Ordering} (h : comparison.textQuestion? = none)
    (ho : operandOrder numeric a b = some o) :
    Succeeds numeric comparison a b ↔ comparison.holds o = true := by
  rw [succeeds_iff h, ho]
  simp

/-- If one comparison holds for an order just if another one does not, the answers are opposite. -/
theorem succeeds_iff_not {opposite : Comparison} (h : comparison.textQuestion? = none)
    (h' : opposite.textQuestion? = none)
    (hholds : ∀ o, comparison.holds o = !opposite.holds o) (ha : Comparable numeric a)
    (hb : Comparable numeric b) :
    Succeeds numeric comparison a b ↔ ¬ Succeeds numeric opposite a b := by
  obtain ⟨o, ho⟩ := exists_operandOrder ha hb
  rw [succeeds_iff_of_operandOrder h ho, succeeds_iff_of_operandOrder h' ho, hholds,
    Bool.not_eq_true', Bool.not_eq_true]

/-- If one comparison holds for an order just if another one holds for the opposite order, the
answers for swapped operands are the same. -/
theorem succeeds_swap_iff {swapped : Comparison} (h : comparison.textQuestion? = none)
    (h' : swapped.textQuestion? = none) (hholds : ∀ o, swapped.holds o.swap = comparison.holds o) :
    Succeeds numeric swapped b a ↔ Succeeds numeric comparison a b := by
  rw [Succeeds, Succeeds, evaluate_eq_map_operandOrder h', evaluate_eq_map_operandOrder h,
    operandOrder_swap numeric a b, Option.map_map]
  have hcomp : swapped.holds ∘ Ordering.swap = comparison.holds := funext hholds
  rw [hcomp]

/-- An operand is less just if it stands before the other one. -/
theorem succeeds_less_iff : Succeeds numeric .less a b ↔ operandOrder numeric a b = some .lt := by
  rw [succeeds_iff rfl]
  simp [Comparison.holds]

/-- Operands are equal just if neither of them stands before the other one. -/
theorem succeeds_equals_iff :
    Succeeds numeric .equals a b ↔ operandOrder numeric a b = some .eq := by
  rw [succeeds_iff rfl]
  simp [Comparison.holds]

/-- Of the three orders, operands that can be compared stand in exactly one. -/
theorem existsUnique_succeeds (ha : Comparable numeric a) (hb : Comparable numeric b) :
    ∃! comparison, comparison ∈ [Comparison.less, .equals, .greater] ∧
      Succeeds numeric comparison a b := by
  obtain ⟨o, ho⟩ := exists_operandOrder ha hb
  have hexact : ∃! comparison, comparison ∈ [Comparison.less, .equals, .greater] ∧
      comparison.holds o = true := by
    cases o with
    | lt => exact ⟨.less, by decide, by rintro (_ | _) <;> decide⟩
    | eq => exact ⟨.equals, by decide, by rintro (_ | _) <;> decide⟩
    | gt => exact ⟨.greater, by decide, by rintro (_ | _) <;> decide⟩
  refine (existsUnique_congr fun comparison => and_congr_right fun hmem => ?_).mpr hexact
  refine succeeds_iff_of_operandOrder ?_ ho
  simp only [List.mem_cons, List.not_mem_nil, or_false] at hmem
  rcases hmem with rfl | rfl | rfl <;> rfl

/-- The laws hold for texts and for numbers. -/
theorem orderLaws (numeric : Bool) : OrderLaws numeric where
  exactly_one ha hb := existsUnique_succeeds ha hb
  notEquals_iff ha hb := succeeds_iff_not rfl rfl (fun _ => rfl) ha hb
  greaterOrEqual_iff ha hb := succeeds_iff_not rfl rfl (fun _ => rfl) ha hb
  lessOrEqual_iff ha hb := succeeds_iff_not rfl rfl (fun _ => rfl) ha hb
  greater_swap := succeeds_swap_iff rfl rfl fun o => by cases o <;> rfl
  greaterOrEqual_swap := succeeds_swap_iff rfl rfl fun o => by cases o <;> rfl
  less_trans hab hbc := by
    rw [succeeds_less_iff] at hab hbc ⊢
    exact operandOrder_trans (Or.inl rfl) hab hbc
  equals_trans hab hbc := by
    rw [succeeds_equals_iff] at hab hbc ⊢
    exact operandOrder_trans (Or.inr rfl) hab hbc

/-- Numbers are compared by their values, whatever the texts look like. -/
theorem succeeds_true_equals_iff : Succeeds true .equals a b ↔
    ∃ x y, parseNumber a = some x ∧ parseNumber b = some y ∧ x.value = y.value := by
  rw [succeeds_equals_iff, operandOrder_true_eq_some_iff]
  simp only [compare_eq_iff_eq]

/-- An operand may be replaced by another text that is read as a number of the same value. -/
theorem operandOrder_congr {a' b' : String}
    (ha : (parseNumber a).map Binary64.value = (parseNumber a').map Binary64.value)
    (hb : (parseNumber b).map Binary64.value = (parseNumber b').map Binary64.value) :
    operandOrder true a b = operandOrder true a' b' := by
  have hvalues (s t : String) : operandOrder true s t =
      ((parseNumber s).map Binary64.value).bind fun x =>
        ((parseNumber t).map Binary64.value).map fun y => compare x y := by
    simp only [operandOrder, if_true]
    cases parseNumber s with
    | none => rfl
    | some x => cases parseNumber t <;> rfl
  rw [hvalues, hvalues, ha, hb]

/-- What is equal as numbers does not depend on how the numbers are spelled. -/
theorem succeeds_true_equals_congr {a' b' : String} {q r : ℚ} (ha : Spells a q) (ha' : Spells a' q)
    (hb : Spells b r) (hb' : Spells b' r) :
    Succeeds true .equals a b ↔ Succeeds true .equals a' b' := by
  rw [succeeds_equals_iff, succeeds_equals_iff,
    operandOrder_congr (ha.value_parseNumber_eq ha') (hb.value_parseNumber_eq hb')]

/-- Two spellings of one number are equal as numbers, unless it is too great to be one. -/
theorem succeeds_true_equals_of_spells {q : ℚ} (ha : Spells a q) (hb : Spells b q)
    (h : Comparable true a) : Succeeds true .equals a b := by
  obtain ⟨x, hx⟩ := Option.isSome_iff_exists.mp (h rfl)
  have hsame := ha.value_parseNumber_eq hb
  rw [hx, Option.map_some, eq_comm, Option.map_eq_some_iff] at hsame
  obtain ⟨y, hy, hvalue⟩ := hsame
  exact succeeds_true_equals_iff.mpr ⟨x, y, hx, hy, hvalue.symm⟩

/-- Conditions respect the order of their operands. A condition succeeds just if the answer to its
question is yes, and the answers obey the laws of a total order, for texts and for numbers. As
numbers, operands are equal just if they are read as numbers of one value, so that it does not
matter how they are spelled. -/
theorem conditions_respect_order (numeric : Bool) :
    (∀ context scene comparison a b, Asks context scene numeric comparison a b →
      ((condition.run context scene).1.isError = false ↔ Succeeds numeric comparison a b)) ∧
    OrderLaws numeric ∧
    (∀ a b, Succeeds true .equals a b ↔
      ∃ x y, parseNumber a = some x ∧ parseNumber b = some y ∧ x.value = y.value) ∧
    (∀ a a' b b' q r, Spells a q → Spells a' q → Spells b r → Spells b' r →
      (Succeeds true .equals a b ↔ Succeeds true .equals a' b')) ∧
    ∀ a b q, Spells a q → Spells b q → Comparable true a → Succeeds true .equals a b :=
  ⟨fun _ _ _ _ _ h => isError_condition_iff h, orderLaws numeric,
    fun _ _ => succeeds_true_equals_iff,
    fun _ _ _ _ _ _ ha ha' hb hb' => succeeds_true_equals_congr ha ha' hb hb',
    fun _ _ _ ha hb h => succeeds_true_equals_of_spells ha hb h⟩

/-- The settings of a block that compares the variables `a` and `b` as numbers. -/
def numericSettings (operator : String) : Json.Value := .object [
  ("First", .string "$a"), ("Second", .string "$b"), ("DataType", .string "Number"),
  ("Operator", .string operator)]

/-- A block that compares the variables `a` and `b` as numbers. -/
def comparing (operator : String) : Context where
  block := Workflow.standardBlock (.ofNat 1) "Compare" "If" (some (numericSettings operator))
  type := default
  outgoing := []

/-- A scene in which the variables `a` and `b` have these values. -/
def operands (a b : String) : Scene :=
  ((default : Scene).set "a" a).set "b" b

/-- Ten is equal to ten and not less than nine, however it is spelled. -/
theorem ten_respects_order :
    Asks (comparing "==") (operands "10" " 1e1 ") true .equals "10" " 1e1 " ∧
    (condition.run (comparing "==") (operands "10" " 1e1 ")).1.isError = false ∧
    Comparable true "10" ∧ Comparable true "9" ∧
    (Succeeds true .greaterOrEqual "10" "9" ↔ ¬ Succeeds true .less "10" "9") := by
  have hasks : Asks (comparing "==") (operands "10" " 1e1 ") true .equals "10" " 1e1 " :=
    ⟨by decide +kernel, by decide +kernel, by decide +kernel, by decide +kernel⟩
  have hten : Comparable true "10" := fun _ => by decide +kernel
  have hnine : Comparable true "9" := fun _ => by decide +kernel
  obtain ⟨hverdict, hlaws, -, -, hspelled⟩ := conditions_respect_order true
  refine ⟨hasks, (hverdict _ _ _ _ _ hasks).mpr ?_, hten,
    hnine, hlaws.greaterOrEqual_iff hten hnine⟩
  have hplain : Spells "10" 10 :=
    ⟨⟨false, 10, 0⟩, rfl, by norm_num [Decimal.Value.toRat, Decimal.Value.magnitude]⟩
  have hpower : Spells " 1e1 " 10 :=
    ⟨⟨false, 1, 1⟩, rfl, by norm_num [Decimal.Value.toRat, Decimal.Value.magnitude]⟩
  exact hspelled _ _ _ hplain hpower hten

end Flowchart.Blocks
