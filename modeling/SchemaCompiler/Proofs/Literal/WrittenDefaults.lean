/-
**Defaults as they are written.**

Whether a text may be the default of a column is decided in one place, and how it is written in another;
each has its own order of tests. For a default that is accepted the two agree: it is written as null, as
the expression that it is, as the number or the truth value that it spells, as a function of the dialect,
or as a string.

* `Literal.isValidDefault_trim` — blanks around a default do not count.
* `Dialect.defaultLiteral_of_null`, `Dialect.defaultLiteral_of_function`,
  `Dialect.defaultLiteral_of_expression`, `Dialect.defaultLiteral_of_value` — the operand of a default.
* `Column.writes_accepted_default` — the contract.
-/

import Mathlib
import SchemaCompiler.Proofs.Lexical.Insert
import SchemaCompiler.Proofs.Literal.DefaultGrammar
import SchemaCompiler.Proofs.Literal.NumberReaders

namespace SchemaCompiler

/-! ### Texts without the blanks around them -/

namespace Literal

variable {t : DataType} {text : String}

theorem unquote_trim (text : String) : unquote (Text.trim text) = unquote text := by
  rw [unquote, unquote, Text.trimmed_trim]

theorem function?_trim (text : String) : function? (Text.trim text) = function? text := by
  rw [function?, function?, Text.trim_trim]

theorem isExpression_trim (text : String) : isExpression (Text.trim text) = isExpression text := by
  rw [isExpression, isExpression, Text.trimmed_trim]

/-- **Blanks around a default** do not count when it is checked. -/
theorem isValidDefault_trim (t : DataType) (text : String) :
    isValidDefault t (Text.trim text) = isValidDefault t text := by
  simp only [isValidDefault, Text.trim_trim, isExpression_trim, unquote_trim, function?_trim]

/-! ### Null, expressions and functions -/

/-- An expression starts with a parenthesis. -/
theorem head?_of_isExpression (isExpr : isExpression text = true) :
    (Text.trim text).toList.head? = some '(' := by
  simp only [isExpression, Bool.and_eq_true, beq_iff_eq] at isExpr
  rw [Text.trim, String.toList_ofList]
  exact isExpr.1.2

theorem isExpression_of_isNull (isNull : isNull (Text.trim text) = true) :
    isExpression text = false := by
  rw [← Bool.not_eq_true]
  intro isExpr
  have starts := head?_of_isExpression isExpr
  rw [Literal.isNull, Text.sameName, beq_iff_eq] at isNull
  have lowered := congrArg (fun word => word.toList.head?) isNull
  simp [Text.lowerAscii, starts] at lowered

/-- **No function is a truth value.** -/
theorem bool?_of_function (isFunction : (function? text).isSome = true) :
    bool? (unquote text) = none := by
  have noWord : ∀ name ∈ functions,
      ["true", "1", "t", "yes", "y", "on"].contains (Text.lowerAscii name) = false ∧
        ["false", "0", "f", "no", "n", "off"].contains (Text.lowerAscii name) = false := by
    decide
  have lowered : Text.lowerAscii (Text.upperAscii (Text.trim text)) =
      Text.lowerAscii (Text.trim text) := by
    rw [Text.upperAscii, Text.lowerAscii, String.toList_ofList, List.map_map]
    exact congrArg String.ofList (List.map_congr_left fun c _ => c.toLower_toUpper_eq_toLower)
  obtain ⟨notTrue, notFalse⟩ := noWord _ (upperAscii_mem_of_function isFunction)
  rw [lowered] at notTrue notFalse
  simp only [bool?, unquote_of_function isFunction, Text.trim_trim, notTrue, notFalse,
    Bool.false_eq_true, if_false]

/-! ### Accepted values -/

section Accepted

variable (accepted : isValidDefault t text = true) (notNull : isNull (Text.trim text) = false)
  (notExpression : isExpression text = false)

include accepted notNull notExpression

/-- A value of a numeric type is a number. -/
theorem number_of_accepted (numeric : t.isNumeric = true) :
    if t.isInteger then isInteger (unquote text) = true else isDecimal (unquote text) = true := by
  have category : t.category = .numeric := beq_iff_eq.mp numeric
  simp only [isValidDefault, notNull, notExpression, category, Bool.false_or] at accepted
  split at accepted
  · rename_i ofIntegers
    rwa [if_pos ofIntegers]
  · rename_i ofDecimals
    rwa [if_neg ofDecimals]

/-- A value of a boolean type is a truth value. -/
theorem bool?_of_accepted (boolean : t.isBoolean = true) :
    ∃ value, bool? (unquote text) = some value := by
  have category : t.category = .boolean := by
    cases t <;> first | rfl | cases boolean
  simp only [isValidDefault, notNull, notExpression, category, Bool.false_or] at accepted
  exact Option.isSome_iff_exists.mp accepted

/-- A value of a temporal type is a function or a date or time of the type. -/
theorem temporal_of_accepted (temporal : t.category = .temporal) :
    (function? text).isSome = true ∨ isTemporal t (unquote text) = true := by
  simp only [isValidDefault, notNull, notExpression, temporal, Bool.false_or] at accepted
  exact Bool.or_eq_true_iff.mp accepted

end Accepted

/-- A value of a numeric type is read as a decimal number in any case. -/
theorem isDecimal_of_accepted (accepted : isValidDefault t text = true)
    (notNull : isNull (Text.trim text) = false) (notExpression : isExpression text = false)
    (numeric : t.isNumeric = true) : isDecimal (unquote text) = true := by
  have number := number_of_accepted accepted notNull notExpression numeric
  split at number
  · exact isDecimal_of_isInteger number
  · exact number

end Literal

/-! ### The operand of a default -/

namespace Dialect

open Literal

variable {d : Dialect} {c : Column} {t : DataType} {text operand : String}

/-- What does not start with a quote is no string. -/
theorem ne_stringLiteral (unquoted : text.toList.head? ≠ some '\'') (string : String) :
    text ≠ d.stringLiteral string := by
  rintro rfl
  rw [toList_stringLiteral] at unquoted
  exact unquoted rfl

/-- No function is spelled as a string. -/
theorem head?_functionText_ne {name spelling : String}
    (spelled : d.functionText? name = some spelling) : spelling.toList.head? ≠ some '\'' := by
  unfold functionText? at spelled
  split at spelled
  all_goals first | (cases spelled; decide) | cases spelled

/-- A dialect spells every function that may be a default. -/
theorem exists_functionText (d : Dialect) {name : String} (found : function? text = some name) :
    ∃ spelling, d.functionText? name = some spelling ∧ spelling.toList.head? ≠ some '\'' := by
  have all : ∀ name ∈ functions, (d.functionText? name).isSome = true := by
    cases d <;> decide
  unfold function? at found
  have ofName := all name (List.mem_of_find?_eq_some found)
  obtain ⟨spelling, spelled⟩ := Option.isSome_iff_exists.mp ofName
  exact ⟨spelling, spelled, head?_functionText_ne spelled⟩

theorem defaultLiteral_of_null (given : c.default? = some text) (null : isNull text = true) :
    d.defaultLiteral? c = some "NULL" := by
  rw [defaultLiteral?, given, Option.map_some, if_pos null]

theorem defaultLiteral_of_function (given : c.default? = some text) (notNull : isNull text = false)
    {name spelling : String} (found : function? text = some name)
    (spelled : d.functionText? name = some spelling) : d.defaultLiteral? c = some spelling := by
  rw [defaultLiteral?, given, Option.map_some, if_neg (by simp [notNull]), found]
  dsimp only
  rw [spelled, Option.getD_some]

theorem defaultLiteral_of_expression (given : c.default? = some text)
    (notNull : isNull text = false) (noFunction : function? text = none)
    (isExpr : isExpression text = true) : d.defaultLiteral? c = some text := by
  rw [defaultLiteral?, given, Option.map_some, if_neg (by simp [notNull]), noFunction]
  dsimp only
  rw [if_pos isExpr]

theorem defaultLiteral_of_value (given : c.default? = some text) (notNull : isNull text = false)
    (noFunction : function? text = none) (notExpression : isExpression text = false) :
    d.defaultLiteral? c = some (d.textLiteral (unquote text) (some c.dataType)) := by
  rw [defaultLiteral?, given, Option.map_some, if_neg (by simp [notNull]), noFunction]
  dsimp only
  rw [if_neg (by simp [notExpression])]

/-! ### Numbers and truth values -/

/-- A number has no blanks, and does not start with a quote. -/
theorem textLiteral_of_number (numeric : t.isNumeric = true) (isNumber : isDecimal text = true) :
    d.textLiteral text (some t) = text ∧ text.toList.head? ≠ some '\'' := by
  have characters := (Numeral.of_isDecimal isNumber).characters
  have unpadded : Text.trim text = text := trim_eq_self_of_isDecimal isNumber
  have category : t.category = .numeric := beq_iff_eq.mp numeric
  constructor
  · simp only [textLiteral, Option.map_some, category, unpadded, isNumber, if_true]
  · intro starts
    exact absurd (characters _ (List.mem_of_mem_head? starts)) (by decide)

theorem textLiteral_of_bool (boolean : t.isBoolean = true) {value : Bool}
    (parsed : bool? text = some value) : d.textLiteral text (some t) = d.boolLiteral value := by
  have category : t.category = .boolean := by
    cases t <;> first | rfl | cases boolean
  simp only [textLiteral, Option.map_some, category, parsed]

/-- Values that are neither of a numeric nor of a boolean type are strings. -/
theorem textLiteral_of_other (notNumeric : t.category ≠ .numeric) (notBoolean : t.category ≠ .boolean)
    (text : String) : d.textLiteral text (some t) = d.stringLiteral text := by
  unfold textLiteral
  split
  · rename_i numeric
    exact absurd (Option.some.inj numeric) notNumeric
  · rename_i boolean
    exact absurd (Option.some.inj boolean) notBoolean
  · rfl

theorem head?_boolLiteral_ne (d : Dialect) (value : Bool) :
    (d.boolLiteral value).toList.head? ≠ some '\'' := by
  cases d <;> cases value <;> decide

theorem isNumeric_of_isInteger (ofIntegers : t.isInteger = true) : t.isNumeric = true := by
  cases t <;> first | rfl | cases ofIntegers

/-! ### Literals of a type -/

/-- How a default that is neither null nor an expression is written for a column of a type: a number as
it was entered, without quotes, a truth value as the dialect writes it, and the default of a temporal type
as a function of the dialect, or as a string when it is a date or time of the type. -/
structure WritesValue (d : Dialect) (t : DataType) (text operand : String) : Prop where
  whole : t.isInteger = true → operand = unquote text ∧ IsWhole operand.toList
  decimal : t.isNumeric = true → operand = unquote text ∧ IsNumber operand.toList
  boolean : t.isBoolean = true →
    ∃ value, bool? (unquote text) = some value ∧ operand = d.boolLiteral value
  temporal : t.category = .temporal →
    (∃ name, function? text = some name ∧ d.functionText? name = some operand) ∨
      function? text = none ∧ isTemporal t (unquote text) = true ∧
        operand = d.stringLiteral (unquote text)

/-- **How a default is written** for a column of a type: null as null, an expression as it is, and
otherwise a value of the type. A function is spelled as the dialect has it. Neither a number, nor a truth
value, nor a function is written as a string. -/
structure WritesDefault (d : Dialect) (t : DataType) (text operand : String) : Prop where
  null : isNull text = true → operand = "NULL"
  expression : isExpression text = true → operand = text
  value : isNull text = false → isExpression text = false → d.WritesValue t text operand
  function : ∀ name, function? text = some name → d.functionText? name = some operand
  unquoted : t.isNumeric = true ∨ t.isBoolean = true ∨ (function? text).isSome = true →
    ∀ string, operand ≠ d.stringLiteral string

namespace WritesDefault

variable (unpadded : Text.trim text = text)

include unpadded

theorem of_null (null : isNull text = true) : d.WritesDefault t text "NULL" := by
  have notExpression : isExpression text = false := isExpression_of_isNull (by rwa [unpadded])
  have noFunction : function? text = none := by
    rw [← Option.not_isSome_iff_eq_none]
    intro isFunction
    have notNull := isNull_of_function isFunction
    rw [unpadded, null] at notNull
    cases notNull
  exact {
    null := fun _ => rfl
    expression := fun isExpr => absurd isExpr (by simp [notExpression])
    value := fun notNull => absurd null (by simp [notNull])
    function := fun _ found => absurd found (by simp [noFunction])
    unquoted := fun _ => ne_stringLiteral (by decide) }

theorem of_expression (isExpr : isExpression text = true) : d.WritesDefault t text text := by
  have notNull : ¬ isNull text = true := by
    intro null
    have notExpression : isExpression text = false := isExpression_of_isNull (by rwa [unpadded])
    rw [isExpr] at notExpression
    cases notExpression
  have noFunction : function? text = none := by
    rw [← Option.not_isSome_iff_eq_none]
    intro isFunction
    have notExpression := isExpression_of_function isFunction
    rw [isExpr] at notExpression
    cases notExpression
  have starts := head?_of_isExpression isExpr
  rw [unpadded] at starts
  exact {
    null := fun null => absurd null notNull
    expression := fun _ => rfl
    value := fun _ notExpression => absurd isExpr (by simp [notExpression])
    function := fun _ found => absurd found (by simp [noFunction])
    unquoted := fun _ => ne_stringLiteral (by rw [starts]; decide) }

/-- An accepted function is no number and no truth value, so its type is none of these. -/
theorem of_function (accepted : isValidDefault t text = true) {name : String}
    (found : function? text = some name) (spelled : d.functionText? name = some operand)
    (unquoted : operand.toList.head? ≠ some '\'') : d.WritesDefault t text operand := by
  have isFunction : (function? text).isSome = true := by rw [found]; rfl
  have notNull := isNull_of_function isFunction
  have notExpression := isExpression_of_function isFunction
  have notNumeric : ¬ t.isNumeric = true := by
    intro numeric
    have isNumber := isDecimal_of_accepted accepted notNull notExpression numeric
    rw [isDecimal_of_function isFunction] at isNumber
    cases isNumber
  have notBoolean : ¬ t.isBoolean = true := by
    intro boolean
    obtain ⟨value, parsed⟩ := bool?_of_accepted accepted notNull notExpression boolean
    rw [bool?_of_function isFunction] at parsed
    cases parsed
  rw [unpadded] at notNull
  have value : d.WritesValue t text operand := {
    whole := fun ofIntegers => absurd (isNumeric_of_isInteger ofIntegers) notNumeric
    decimal := fun numeric => absurd numeric notNumeric
    boolean := fun boolean => absurd boolean notBoolean
    temporal := fun _ => .inl ⟨name, found, spelled⟩ }
  have isSpelling (other : String) (isOther : function? text = some other) :
      d.functionText? other = some operand := by
    rw [found] at isOther
    cases isOther
    exact spelled
  exact {
    null := fun null => absurd null (by simp [notNull])
    expression := fun isExpr => absurd isExpr (by simp [notExpression])
    value := fun _ _ => value
    function := isSpelling
    unquoted := fun _ => ne_stringLiteral unquoted }

theorem of_value (accepted : isValidDefault t text = true) (notNull : isNull text = false)
    (noFunction : function? text = none) (notExpression : isExpression text = false) :
    d.WritesDefault t text (d.textLiteral (unquote text) (some t)) := by
  have trimmedNotNull : isNull (Text.trim text) = false := by
    rw [unpadded]
    exact notNull
  have isNumber (numeric : t.isNumeric = true) : isDecimal (unquote text) = true :=
    isDecimal_of_accepted accepted trimmedNotNull notExpression numeric
  have truth (boolean : t.isBoolean = true) : ∃ value, bool? (unquote text) = some value :=
    bool?_of_accepted accepted trimmedNotNull notExpression boolean
  have value : d.WritesValue t text (d.textLiteral (unquote text) (some t)) := {
    whole := fun ofIntegers => by
      have numeric := isNumeric_of_isInteger ofIntegers
      have number := number_of_accepted accepted trimmedNotNull notExpression numeric
      rw [if_pos ofIntegers] at number
      rw [(textLiteral_of_number numeric (isNumber numeric)).1]
      exact ⟨rfl, isInteger_iff_isWhole.mp number⟩
    decimal := fun numeric => by
      rw [(textLiteral_of_number numeric (isNumber numeric)).1]
      exact ⟨rfl, isDecimal_iff_isNumber.mp (isNumber numeric)⟩
    boolean := fun boolean => by
      obtain ⟨value, parsed⟩ := truth boolean
      exact ⟨value, parsed, textLiteral_of_bool boolean parsed⟩
    temporal := fun temporal => by
      have made := temporal_of_accepted accepted trimmedNotNull notExpression temporal
      rw [noFunction] at made
      exact .inr ⟨noFunction, made.resolve_left (by simp),
        textLiteral_of_other (by simp [temporal]) (by simp [temporal]) _⟩ }
  refine ⟨fun null => absurd null (by simp [notNull]),
    fun isExpr => absurd isExpr (by simp [notExpression]), fun _ _ => value,
    fun name found => absurd found (by simp [noFunction]), fun kind => ?_⟩
  rcases kind with numeric | boolean | isFunction
  · obtain ⟨asEntered, unquoted⟩ := textLiteral_of_number (d := d) numeric (isNumber numeric)
    rw [asEntered]
    exact ne_stringLiteral unquoted
  · obtain ⟨value, parsed⟩ := truth boolean
    rw [textLiteral_of_bool boolean parsed]
    exact ne_stringLiteral (head?_boolLiteral_ne d value)
  · rw [noFunction] at isFunction
    cases isFunction

end WritesDefault

end Dialect

namespace Column

/-- **Accepted defaults are written as literals of their type.** A default that is not blank and that the
type of its column accepts has an operand in every dialect, and the operand is what the type asks for. -/
theorem writes_accepted_default (c : Column) (d : Dialect) {raw : String}
    (given : c.defaultText = some raw) (nonblank : Text.trim raw ≠ "")
    (accepted : Literal.isValidDefault c.dataType raw = true) :
    ∃ operand, d.defaultLiteral? c = some operand ∧
      d.WritesDefault c.dataType (Text.trim raw) operand := by
  have entered : c.default? = some (Text.trim raw) := by
    simp [Column.default?, Text.trim?, given, nonblank]
  have unpadded := Text.trim_trim raw
  rw [← Literal.isValidDefault_trim] at accepted
  generalize Text.trim raw = text at *
  by_cases null : Literal.isNull text = true
  · exact ⟨"NULL", Dialect.defaultLiteral_of_null entered null, .of_null unpadded null⟩
  · rw [Bool.not_eq_true] at null
    cases found : Literal.function? text with
    | some name =>
      obtain ⟨spelling, spelled, unquoted⟩ := d.exists_functionText found
      exact ⟨spelling, Dialect.defaultLiteral_of_function entered null found spelled,
        .of_function unpadded accepted found spelled unquoted⟩
    | none =>
      by_cases isExpr : Literal.isExpression text = true
      · exact ⟨text, Dialect.defaultLiteral_of_expression entered null found isExpr,
          .of_expression unpadded isExpr⟩
      · rw [Bool.not_eq_true] at isExpr
        exact ⟨_, Dialect.defaultLiteral_of_value entered null found isExpr,
          .of_value unpadded accepted null found isExpr⟩

/-- A surcharge whose default is entered between quotes, with blanks around them. -/
def surcharge : Column :=
  { id := "s", name := "surcharge", dataType := .decimal, defaultText := some " '-1.50e+3' " }

theorem writes_accepted_default_surcharge :
    Text.trim " '-1.50e+3' " ≠ "" ∧
      Literal.isValidDefault surcharge.dataType " '-1.50e+3' " = true ∧
      (∃ operand, Dialect.postgres.defaultLiteral? surcharge = some operand ∧
        Dialect.postgres.WritesDefault .decimal (Text.trim " '-1.50e+3' ") operand) ∧
      Dialect.postgres.defaultLiteral? surcharge = some "-1.50e+3" := by
  have nonblank : Text.trim " '-1.50e+3' " ≠ "" := by decide +kernel
  have accepted : Literal.isValidDefault surcharge.dataType " '-1.50e+3' " = true := by
    decide +kernel
  exact ⟨nonblank, accepted, surcharge.writes_accepted_default .postgres rfl nonblank accepted,
    by decide +kernel⟩

end Column

end SchemaCompiler
