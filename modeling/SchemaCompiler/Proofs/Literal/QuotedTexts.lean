/-
**Quoted texts keep their value.**

A user who wants a text taken as it is writes it between single quotes. A default and the operand of a
condition go different ways from there, with tests for null, functions, expressions, numbers and truth
values on each. None of these takes a quoted text for its own, so both ways end with the text as a string,
even where the text itself is a number, a word, a function, blank or empty.

* `Literal.function?_quote`, `Literal.isNull_quote`, `Literal.isExpression_quote` — the tests.
* `Dialect.isOnlyString_stringLiteral` — what a string is not taken for.
* `Dialect.quoted_text_is_kept` — both ways.
-/

import SchemaCompiler.Proofs.Lexical.ListItems
import SchemaCompiler.Proofs.Literal.WrittenDefaults

namespace SchemaCompiler

open Text.Quoted (quote toList_quote)

/-- The comparisons with one value, LIKE and NOT LIKE among them. -/
def Operator.comparisons : List Operator := [.eq, .ne, .gt, .gte, .lt, .lte, .like, .notLike]

theorem Operator.takes_of_comparison {operator : Operator} (compares : operator ∈ comparisons) :
    operator.takesList = false ∧ operator.takesValue = true := by
  have all : ∀ other ∈ comparisons, other.takesList = false ∧ other.takesValue = true := by decide
  exact all operator compares

/-! ### The tests for other values -/

namespace Literal

/-- A quoted text starts with its quote, also without the blanks around it. -/
theorem trimmed_quote_eq_cons (text : String) :
    ∃ rest, Text.trimmed (quote '\'' text).toList = '\'' :: rest := by
  rw [trimmed_quote, toList_quote]
  exact ⟨_, rfl⟩

theorem trim_quote (text : String) : Text.trim (quote '\'' text) = quote '\'' text := by
  rw [Text.trim, trimmed_quote, String.ofList_toList]

theorem isNull_quote (text : String) : isNull (quote '\'' text) = false :=
  sameName_quote "null" (by decide) text

/-- **A quoted text names no function**, whatever it holds. -/
theorem function?_quote (text : String) : function? (quote '\'' text) = none := by
  rw [← Option.not_isSome_iff_eq_none]
  intro isFunction
  obtain ⟨first, _, trimmed, initial, -⟩ := exists_start_of_function isFunction
  obtain ⟨_, quoted⟩ := trimmed_quote_eq_cons text
  rw [quoted] at trimmed
  obtain ⟨rfl, -⟩ := List.cons.inj trimmed
  exact absurd initial (by decide)

/-- **A quoted text is no expression**, whatever it holds. -/
theorem isExpression_quote (text : String) : isExpression (quote '\'' text) = false := by
  obtain ⟨_, quoted⟩ := trimmed_quote_eq_cons text
  simp [isExpression, quoted]

end Literal

namespace Dialect

variable {d : Dialect}

/-! ### Strings and nothing else -/

/-- A text that is taken neither for a number, nor for null, nor for a truth value, a function or an
expression. -/
structure IsOnlyString (d : Dialect) (operand : String) : Prop where
  number : Literal.isDecimal operand = false
  null : Literal.isNull operand = false
  bool : ∀ value, operand ≠ d.boolLiteral value
  function : ∀ name, d.functionText? name ≠ some operand
  expression : Literal.isExpression operand = false

/-- **A string is a string and nothing else**, whatever it holds. -/
theorem isOnlyString_stringLiteral (d : Dialect) (text : String) :
    d.IsOnlyString (d.stringLiteral text) where
  number := by
    rw [Literal.isDecimal, toList_stringLiteral]
    rfl
  null := Literal.sameName_of_quote "null" (by decide) (by rw [toList_stringLiteral]; rfl)
  bool := fun value => (ne_stringLiteral (head?_boolLiteral_ne d value) text).symm
  function := fun _ spelled => head?_functionText_ne spelled (by rw [toList_stringLiteral]; rfl)
  expression := by
    rw [← Bool.not_eq_true]
    intro isExpr
    have starts := Literal.head?_of_isExpression isExpr
    rw [Text.trim, String.toList_ofList, (isValue_stringLiteral (d := d) text).trimmed,
      toList_stringLiteral] at starts
    cases starts

/-! ### Defaults and conditions -/

/-- **A quoted default** of a type without numbers and truth values is written as a string. -/
theorem defaultLiteral_quote {c : Column} {text : String}
    (given : c.defaultText = some (quote '\'' text)) (notNumeric : c.dataType.category ≠ .numeric)
    (notBoolean : c.dataType.category ≠ .boolean) :
    d.defaultLiteral? c = some (d.stringLiteral text) := by
  have entered : c.default? = some (quote '\'' text) := by
    simp [Column.default?, Text.trim?, given, Literal.trim_quote, Literal.quote_ne_empty]
  rw [defaultLiteral_of_value entered (Literal.isNull_quote text) (Literal.function?_quote text)
    (Literal.isExpression_quote text), Literal.unquote_quote, textLiteral_of_other notNumeric notBoolean]

/-- **A quoted operand** of a comparison is written as a string. -/
theorem conditionText_quote {isHaving : Bool} {c : Condition} {text : String}
    (compares : c.operator ∈ Operator.comparisons) (quoted : c.value = quote '\'' text) :
    d.conditionText isHaving c =
      d.leftSide isHaving c ++ " " ++ c.operator.sql ++ " " ++ d.stringLiteral text := by
  obtain ⟨noList, takesValue⟩ := Operator.takes_of_comparison compares
  have rightSide : d.rightSide c = " " ++ d.stringLiteral text := by
    rw [Dialect.rightSide, if_neg (by simp [noList]), if_pos takesValue, quoted, Literal.trim_quote,
      operand_quote]
  rw [conditionText, rightSide, leftSide, ← String.append_assoc]

/-- **Quoted texts keep their value**: a text between quotes is read as it is, and in every dialect it is
written as a string and as nothing else, both as the default of a column whose type has neither numbers
nor truth values and as the operand of a comparison. -/
theorem quoted_text_is_kept (text : String) :
    Literal.unquote (quote '\'' text) = text ∧ ∀ d : Dialect,
      d.IsOnlyString (d.stringLiteral text) ∧
      (∀ c : Column, c.defaultText = some (quote '\'' text) → c.dataType.category ≠ .numeric →
        c.dataType.category ≠ .boolean → d.defaultLiteral? c = some (d.stringLiteral text)) ∧
      ∀ (isHaving : Bool) (c : Condition), c.operator ∈ Operator.comparisons →
        c.value = quote '\'' text →
          d.conditionText isHaving c =
            d.leftSide isHaving c ++ " " ++ c.operator.sql ++ " " ++ d.stringLiteral text := by
  refine ⟨Literal.unquote_quote text, fun d => ⟨d.isOnlyString_stringLiteral text, ?_, ?_⟩⟩
  · exact fun c given notNumeric notBoolean => defaultLiteral_quote given notNumeric notBoolean
  · exact fun isHaving c compares quoted => conditionText_quote compares quoted

/-! ### A quoted number -/

/-- A code whose default is a zero between quotes of its own, with a backslash behind it. -/
def codeColumn : Column :=
  { id := "c", name := "code", dataType := .varchar, defaultText := some "'''0''\\'" }

/-- The parts without that code. -/
def otherCodes : Condition :=
  { table := "parts", column := "code", operator := .notLike, value := "'''0''\\'" }

theorem quoted_text_is_kept_code :
    quote '\'' "'0'\\" = "'''0''\\'" ∧
      mysql.defaultLiteral? codeColumn = some "'''0''\\\\'" ∧
      sqlite.defaultLiteral? codeColumn = some "'''0''\\'" ∧
      postgres.conditionText false otherCodes = "parts.code NOT LIKE '''0''\\'" := by
  have quoted : quote '\'' "'0'\\" = "'''0''\\'" := by decide
  have given : codeColumn.defaultText = some (quote '\'' "'0'\\") := by rw [quoted]; rfl
  have value : otherCodes.value = quote '\'' "'0'\\" := by rw [quoted]; rfl
  obtain ⟨-, kept⟩ := quoted_text_is_kept "'0'\\"
  refine ⟨quoted, ?_, ?_, ?_⟩
  · rw [(kept mysql).2.1 codeColumn given (by decide) (by decide)]
    decide
  · rw [(kept sqlite).2.1 codeColumn given (by decide) (by decide)]
    decide
  · rw [(kept postgres).2.2 false otherCodes (by decide) value]
    decide +kernel

end Dialect

end SchemaCompiler
