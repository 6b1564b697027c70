/-
**Lists without items.**

A condition whose value is blank gets a warning. The value of IN and NOT IN is not only blank without
items: commas among blanks are no items either. So a list that nothing warns of is written without
items exactly when its value is made of commas and blanks and has a comma.

* `Dialect.occurs_conditionText` — conditions stand in the statement as they were written.
* `Query.allBlank_eq_false_of_unwarned` — what the absence of warnings says of values.
* `Dialect.selectText_emptyList_iff` — which lists are written without items.
-/

import SchemaCompiler.Proofs.Generation.Outcomes
import SchemaCompiler.Proofs.Lexical.ListItems
import SchemaCompiler.Proofs.Lexical.Occurrence

namespace SchemaCompiler

/-! ### Conditions in statements -/

/-- The conditions of WHERE or those of HAVING. -/
def Query.conditionsOf (q : Query) (isHaving : Bool) : List Condition :=
  if isHaving then q.having else q.filters

namespace Dialect

variable {d : Dialect} {q : Query} {options : SelectOptions} {c : Condition}

theorem occurs_conditionsText (d : Dialect) (isHaving : Bool) {conditions : List Condition}
    (member : c ∈ conditions) :
    Occurs (d.conditionText isHaving c) (d.conditionsText isHaving conditions) := by
  cases conditions with
  | nil => cases member
  | cons first rest =>
    have itself := occurs_self (d.conditionText isHaving c)
    rcases List.mem_cons.mp member with rfl | inRest
    · exact itself.before _
    · exact ((itself.after _).join (List.mem_map.mpr ⟨c, inRest, rfl⟩)).after _

theorem mem_clauseOf {α : Type} {keyword : String} {entries : List α} {text : List α → String}
    {entry : α} (member : entry ∈ entries) :
    keyword ++ text entries ∈ clauseOf keyword entries text := by
  have nonempty : ¬ entries.isEmpty = true := by
    rw [List.isEmpty_iff]
    exact List.ne_nil_of_mem member
  rw [clauseOf, if_neg nonempty]
  exact List.mem_singleton.mpr rfl

/-- **A condition stands in the statement** as it was written. -/
theorem occurs_conditionText {text : String} (written : d.selectText q options = .ok text)
    (isHaving : Bool) (member : c ∈ q.conditionsOf isHaving) :
    Occurs (d.conditionText isHaving c) text := by
  obtain ⟨s, -, rfl⟩ := selectText_eq_ok_iff.mp written
  have inConditions := occurs_conditionsText d isHaving member
  cases isHaving with
  | false =>
    have isClause : "WHERE " ++ d.conditionsText false q.filters ∈ d.selectClauses q s options := by
      simp only [selectClauses, List.mem_append]
      exact .inl (.inl (.inl (.inl (.inr (mem_clauseOf member)))))
    exact ((inConditions.after _).intercalate _ isClause).before _
  | true =>
    have isClause : "HAVING " ++ d.conditionsText true q.having ∈ d.selectClauses q s options := by
      simp only [selectClauses, List.mem_append]
      exact .inl (.inl (.inr (mem_clauseOf member)))
    exact ((inConditions.after _).intercalate _ isClause).before _

end Dialect

/-! ### Conditions without warnings -/

/-- How the warning of a condition without a value ends. -/
def emptyValueEnding : String := "has an empty value"

namespace Query

variable {q : Query}

theorem mem_conditions_of_mem_conditionsOf {isHaving : Bool} {c : Condition}
    (member : c ∈ q.conditionsOf isHaving) : c ∈ q.conditions := by
  cases isHaving with
  | false => exact List.mem_append_left _ member
  | true => exact List.mem_append_right _ member

/-- **No warning, no blank value**: where no warning says that a value is empty, the operators that take
a value have one. -/
theorem allBlank_eq_false_of_unwarned (selected : q.tables ≠ [])
    (unwarned : ∀ warning ∈ q.validate.warnings, ¬ emptyValueEnding.toList <:+ warning.toList)
    {c : Condition} (member : c ∈ q.conditions) (takesValue : c.operator.takesValue = true) :
    Text.allBlank c.value = false := by
  rw [← Bool.not_eq_true]
  intro blank
  have isWarning : (QueryWarning.emptyValue c.ref).message ∈ q.validate.warnings := by
    have isCause : QueryWarning.emptyValue c.ref ∈ q.warnings := by
      rw [warnings, if_neg (by simpa using selected)]
      refine List.mem_append_left _ (List.mem_map.mpr ⟨c, List.mem_filter.mpr ⟨member, ?_⟩, rfl⟩)
      rw [lacksValue, takesValue, blank, Bool.and_self]
    exact List.mem_eraseDups.mpr (List.mem_map_of_mem isCause)
  have worded : (QueryWarning.emptyValue c.ref).message =
      "Condition on '" ++ c.ref.text ++ ("' " ++ emptyValueEnding) := rfl
  refine unwarned _ isWarning ⟨("Condition on '" ++ c.ref.text ++ "' ").toList, ?_⟩
  rw [worded, ← String.toList_append]
  simp only [String.append_assoc]

end Query

/-! ### Lists -/

namespace Dialect

variable {d : Dialect} {q : Query} {options : SelectOptions}

/-- **A list is written without items** that nothing warns of exactly when its value is made of commas
and blanks and has a comma. Items are values between commas, and none of them is empty. -/
theorem selectText_emptyList_iff {text : String} (written : d.selectText q options = .ok text)
    (valid : q.validate.errors = [])
    (unwarned : ∀ warning ∈ q.validate.warnings, ¬ emptyValueEnding.toList <:+ warning.toList)
    (isHaving : Bool) {c : Condition} (member : c ∈ q.conditionsOf isHaving)
    (isList : c.operator = .isIn ∨ c.operator = .notIn) :
    Occurs (d.conditionText isHaving c) text ∧
      d.conditionText isHaving c =
        d.leftSide isHaving c ++ " " ++ c.operator.sql ++ " " ++ tupleText (d.operands c.value) ∧
      (∀ item ∈ d.operands c.value, d.IsValue item ∧ item ≠ "") ∧
      (d.operands c.value = [] ↔
        ',' ∈ c.value.toList ∧ ∀ x ∈ c.value.toList, x = ',' ∨ Text.isBlank x = true) := by
  have selected := (Query.errors_eq_nil_iff.mp (Query.validate_errors_eq_nil_iff.mp valid)).1
  have notBlank := Query.allBlank_eq_false_of_unwarned selected unwarned
    (Query.mem_conditions_of_mem_conditionsOf member) (Operator.takes_of_isList isList).2
  refine ⟨occurs_conditionText written isHaving member, conditionText_of_isList isList,
    fun item isItem => ?_, ?_⟩
  · obtain ⟨entered, isEntered, rfl⟩ := List.mem_map.mp isItem
    exact ⟨isValue_operand entered, operand_ne_empty (mem_listItems_iff.mp isEntered).1⟩
  · rw [operands, List.map_eq_nil_iff, listItems_eq_nil_iff]
    refine ⟨fun each => ⟨?_, each⟩, And.right⟩
    -- Blanks alone would have been warned of, so one of the characters is a comma.
    by_contra noComma
    have blank : Text.allBlank c.value = true := by
      rw [Text.allBlank, beq_iff_eq, Text.trim_eq_empty_iff]
      intro x inValue
      refine (each x inValue).resolve_left ?_
      rintro rfl
      exact noComma inValue
    rw [notBlank] at blank
    cases blank

end Dialect

/-! ### Orders by their state -/

namespace Query

/-- Orders in one of two states, with an empty piece between them and one behind them. -/
def ordersInStates : Query :=
  { tables := ["orders"],
    filters :=
      [{ table := "orders", column := "state", operator := .isIn, value := " paid,, 'on hold' ," }] }

/-- Orders in no state at all: a comma between blanks. -/
def ordersInNoState : Query :=
  { tables := ["orders"],
    filters := [{ table := "orders", column := "state", operator := .isIn, value := " , " }] }

end Query

theorem Dialect.selectText_ordersInStates :
    postgres.selectText Query.ordersInStates {} =
        .ok "SELECT * FROM orders WHERE orders.state IN ('paid', 'on hold');" ∧
      Query.ordersInStates.validate = ⟨[], []⟩ ∧
      postgres.operands " paid,, 'on hold' ," ≠ [] := by
  have written : postgres.selectText Query.ordersInStates {} =
      .ok "SELECT * FROM orders WHERE orders.state IN ('paid', 'on hold');" := by decide +kernel
  have clean : Query.ordersInStates.validate = ⟨[], []⟩ := by decide
  have valid : Query.ordersInStates.validate.errors = [] := by rw [clean]
  have unwarned : ∀ warning ∈ Query.ordersInStates.validate.warnings,
      ¬ emptyValueEnding.toList <:+ warning.toList := by
    rw [clean]
    exact fun _ member => nomatch member
  obtain ⟨-, -, -, emptyIff⟩ :=
    selectText_emptyList_iff written valid unwarned false List.mem_cons_self (.inl rfl)
  have letter : ¬ ('p' = ',' ∨ Text.isBlank 'p' = true) := by decide
  exact ⟨written, clean, mt emptyIff.mp fun ⟨_, each⟩ => letter (each 'p' (by decide))⟩

/-- A list of a comma and blanks goes unnoticed: nothing warns of it, and it is written without
items. -/
theorem Dialect.selectText_ordersInNoState :
    Query.ordersInNoState.validate = ⟨[], []⟩ ∧
      postgres.selectText Query.ordersInNoState {} =
        .ok "SELECT * FROM orders WHERE orders.state IN ();" ∧
      postgres.operands " , " = [] := by
  exact ⟨by decide, by decide +kernel, by decide⟩

end SchemaCompiler
