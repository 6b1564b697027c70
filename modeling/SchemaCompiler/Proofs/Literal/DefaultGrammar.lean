/-
**The grammars of defaults.**

Which texts may be the default of a column depends on its type through one of a few grammars only;
null and expressions in parentheses are read by none of them and are defaults of every type.

* `isValidDefault_eq` — the defaults of a type by its grammar.
* `grammar_substitute` — the type that stands for another one has the same grammar or takes any
  text, years excepted.
* `isDecimal_of_function` — no function is a number.
* `isValidDefault_integer_of_function` — no function is a default of a whole number.
-/

import SchemaCompiler.Proofs.Literal.Numbers
import SchemaCompiler.Support

namespace SchemaCompiler.Literal

/-! ### Grammars -/

/-- The grammars of defaults. -/
inductive DefaultGrammar where
  | integer
  | decimal
  | boolean
  | date
  | time
  | dateTime
  | year
  | interval
  | any
  deriving DecidableEq

/-- Whether a text is made by a grammar. -/
def DefaultGrammar.accepts (grammar : DefaultGrammar) (text : String) : Bool :=
  match grammar with
  | .integer => isInteger (unquote text)
  | .decimal => isDecimal (unquote text)
  | .boolean => (bool? (unquote text)).isSome
  | .date => (function? text).isSome || isTemporal .date (unquote text)
  | .time => (function? text).isSome || isTemporal .time (unquote text)
  | .dateTime => (function? text).isSome || isTemporal .dateTime (unquote text)
  | .year => (function? text).isSome || isTemporal .year (unquote text)
  | .interval => (function? text).isSome || isTemporal .interval (unquote text)
  | .any => true

/-- The grammar of the defaults of a type. -/
def grammar : DataType → DefaultGrammar
  | .tinyInt | .smallInt | .mediumInt | .integer | .bigInt => .integer
  | .decimal | .numeric | .float | .double | .real => .decimal
  | .boolean | .bool => .boolean
  | .date => .date
  | .time => .time
  | .dateTime | .timestamp | .timestampTz => .dateTime
  | .year => .year
  | .interval => .interval
  | _ => .any

/-- **The defaults of a type** are null, the expressions, and what its grammar makes. -/
theorem isValidDefault_eq (t : DataType) (text : String) :
    isValidDefault t text =
      (isNull (Text.trim text) || isExpression text || (grammar t).accepts text) := by
  unfold isValidDefault
  cases t <;> simp only [DataType.category, DataType.traits, DataType.isInteger, grammar,
    DefaultGrammar.accepts, isTemporal, if_true, Bool.false_eq_true, if_false]

/-- **A substitute keeps the grammar** or takes any text; years where there are none are the
exception. -/
theorem grammar_substitute (d : Dialect) (t : DataType) :
    grammar (d.substitute t) = grammar t ∨ grammar (d.substitute t) = .any ∨
      t = .year ∧ d.supports .year = false := by
  cases d <;> cases t <;> decide

/-- Where there are no years, whole numbers stand for them. -/
theorem grammar_substitute_year {d : Dialect} (noYears : d.supports .year = false) :
    grammar (d.substitute .year) = .integer := by
  cases d with
  | mysql => cases noYears
  | postgres => rfl
  | sqlite => rfl

/-- The default of a year is a function or made of digits, which is a whole number. -/
theorem function_or_integer_of_year {text : String}
    (made : DefaultGrammar.year.accepts text = true) :
    (function? text).isSome = true ∨ DefaultGrammar.integer.accepts text = true := by
  simp only [DefaultGrammar.accepts, isTemporal, Bool.or_eq_true, Bool.and_eq_true] at made ⊢
  exact made.imp_right And.right

/-! ### Functions -/

section Functions

variable {text : String}

/-- The text of a function is its name, in any case. -/
theorem upperAscii_mem_of_function (isFunction : (function? text).isSome = true) :
    Text.upperAscii (Text.trim text) ∈ functions := by
  obtain ⟨name, found⟩ := Option.isSome_iff_exists.mp isFunction
  unfold function? at found
  have isName := List.find?_some found
  simp only [beq_iff_eq] at isName
  rw [← isName]
  exact List.mem_of_find?_eq_some found

/-- The letters that the names of functions start with. -/
def functionInitials : List Char := ['C', 'N', 'L', 'U', 'G']

/-- The trimmed text of a function starts with a letter, and is not as long as the word for null. -/
theorem exists_start_of_function (isFunction : (function? text).isSome = true) :
    ∃ first rest, Text.trimmed text.toList = first :: rest ∧
      first.toUpper ∈ functionInitials ∧ rest.length ≠ 3 := by
  have shape : (functions.all fun name =>
      name.toList.head?.any functionInitials.contains && name.toList.length != 4) = true := by
    decide
  have ofName := List.all_eq_true.mp shape _ (upperAscii_mem_of_function isFunction)
  rw [Text.upperAscii, Text.trim, String.toList_ofList, String.toList_ofList] at ofName
  cases trimmed : Text.trimmed text.toList with
  | nil => simp [trimmed] at ofName
  | cons first rest => exact ⟨first, rest, rfl, by simpa [trimmed] using ofName⟩

theorem ne_of_toUpper_mem {c other : Char} (initial : c.toUpper ∈ functionInitials)
    (isOther : other.toUpper ∉ functionInitials) : c ≠ other := by
  rintro rfl
  exact isOther initial

theorem toUpper_of_isDigit {c : Char} (digit : c.isDigit = true) : c.toUpper = c := by
  have small : ¬ ('a' ≤ c) := by
    intro large
    simp only [Char.isDigit, Bool.and_eq_true, decide_eq_true_eq] at digit
    exact absurd (UInt32.le_trans large digit.2) (by decide)
  unfold Char.toUpper
  rw [dif_neg fun range => small range.1]

theorem not_isDigit_of_toUpper_mem {c : Char} (initial : c.toUpper ∈ functionInitials) :
    c.isDigit = false := by
  rw [← Bool.not_eq_true]
  intro digit
  rw [toUpper_of_isDigit digit] at initial
  have noDigits : (functionInitials.all fun letter => !letter.isDigit) = true := by decide
  have notDigit := List.all_eq_true.mp noDigits c initial
  rw [digit] at notDigit
  cases notDigit

/-- The word for null names no function. -/
theorem isNull_of_function (isFunction : (function? text).isSome = true) :
    isNull (Text.trim text) = false := by
  obtain ⟨first, rest, trimmed, -, size⟩ := exists_start_of_function isFunction
  rw [isNull, Text.sameName, beq_eq_false_iff_ne]
  intro same
  have sizes := congrArg (fun word => word.toList.length) same
  simp [Text.lowerAscii, Text.trim, trimmed] at sizes
  exact size (by omega)

/-- No function starts with a parenthesis. -/
theorem isExpression_of_function (isFunction : (function? text).isSome = true) :
    isExpression text = false := by
  obtain ⟨first, rest, trimmed, initial, -⟩ := exists_start_of_function isFunction
  have opens : first ≠ '(' := ne_of_toUpper_mem initial (by decide)
  simp [isExpression, trimmed, opens]

/-- No function starts with a quote, so what is read from it is its text. -/
theorem unquote_of_function (isFunction : (function? text).isSome = true) :
    unquote text = Text.trim text := by
  obtain ⟨first, rest, trimmed, initial, -⟩ := exists_start_of_function isFunction
  have quoted : first ≠ '\'' := ne_of_toUpper_mem initial (by decide)
  rw [unquote, Text.trim, trimmed]
  split
  · rename_i same
    exact absurd (List.cons.inj same).1 quoted
  · rfl

/-- **No function is a number.** -/
theorem isDecimal_of_function (isFunction : (function? text).isSome = true) :
    isDecimal (unquote text) = false := by
  obtain ⟨first, rest, trimmed, initial, -⟩ := exists_start_of_function isFunction
  have noSign : dropSign (first :: rest) = first :: rest := by
    have plus : first ≠ '+' := ne_of_toUpper_mem initial (by decide)
    have minus : first ≠ '-' := ne_of_toUpper_mem initial (by decide)
    exact dropSign_append (.inl rfl) ⟨by simpa using plus, by simpa using minus⟩
  have point : first ≠ '.' := ne_of_toUpper_mem initial (by decide)
  rw [unquote_of_function isFunction, isDecimal, Text.trim, String.toList_ofList, trimmed, noSign]
  unfold isUnsigned
  split
  · rename_i same
    exact absurd (List.cons.inj same).1 point
  · rw [startsWithDigit, not_isDigit_of_toUpper_mem initial, Bool.false_and]

/-- **No function is a default of a whole number.** -/
theorem isValidDefault_integer_of_function {t : DataType} (ofIntegers : grammar t = .integer)
    (isFunction : (function? text).isSome = true) : isValidDefault t text = false := by
  have notInteger : isInteger (unquote text) = false := by
    rw [← Bool.not_eq_true]
    intro isInteger
    have noNumber := isDecimal_of_function isFunction
    rw [isDecimal_of_isInteger isInteger] at noNumber
    cases noNumber
  rw [isValidDefault_eq, isNull_of_function isFunction, isExpression_of_function isFunction,
    ofIntegers, DefaultGrammar.accepts, notInteger]
  rfl

end Functions

end SchemaCompiler.Literal
