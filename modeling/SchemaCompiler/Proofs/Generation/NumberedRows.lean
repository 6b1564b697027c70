/-
**Where SQLite numbers rows.**

SQLite numbers the rows of a table by the keyword behind the inline primary key, and takes the keyword with
the type INTEGER only. The check looks at the type of the column and at the size of the key; what is
printed for the type may be an override. So the keyword stands with the only column of the key, and the
type that stands before it is INTEGER exactly when no override puts another type there.

* `Column.keyThenCounting_infix_clauses` — the keyword stands right behind the inline key.
* `Dialect.typeName_eq_integer_iff` — when the type that is printed for an integer is INTEGER.
* `Table.autoIncrement_placed` — the contract.
-/

import SchemaCompiler.Proofs.Generation.PrimaryKey
import SchemaCompiler.Proofs.Validation.Legality

namespace SchemaCompiler

namespace Column

variable {c : Column} {comments : Bool}

/-- A column of an inline key that numbers its rows says so right behind the key. -/
theorem keyThenCounting_infix_clauses (isKey : c.isPrimaryKey = true)
    (counts : c.isAutoIncrement = true) :
    [.primaryKey, .autoIncrement] <:+: c.clauses .sqlite true comments := by
  refine ⟨c.collateClause .sqlite ++ when c.isNotNull .notNull ++ c.defaultClause .sqlite,
    c.checkExpressions.map .check, ?_⟩
  simp [clauses, isKey, counts, when]

end Column

/-- **The type that is printed for an integer** is INTEGER unless an override is another one. -/
theorem Dialect.typeName_eq_integer_iff {c : Column} (isInteger : c.dataType.isInteger = true)
    (options : GenerateOptions) :
    Dialect.sqlite.typeName options c = "INTEGER" ↔
      ∀ override, c.extension? .sqlite "type" = some override → override = "INTEGER" := by
  unfold typeName
  cases c.extension? .sqlite "type" with
  | some override => simp
  | none =>
    have asInteger : sqliteTypeName options.sqlite.strict c.dataType = "INTEGER" := by
      cases ofType : c.dataType <;> first | rfl | simp [ofType, DataType.isInteger] at isInteger
    simpa using asInteger

namespace Table

variable {t : Table} {c : Column} {options : GenerateOptions}

/-- The keyword stands with the columns that are the whole inline key and number their rows. -/
theorem autoIncrement_mem_clauseTexts_iff (isColumn : c ∈ t.columns) :
    "AUTOINCREMENT" ∈ t.clauseTexts .sqlite options c ↔
      t.primaryKey = [c] ∧ .autoIncrement ∈ c.constraints := by
  have asClause : "AUTOINCREMENT" ∈ t.clauseTexts .sqlite options c ↔
      .autoIncrement ∈ c.clauses .sqlite (!t.hasCompositeKey) options.includeComments :=
    keyword_mem_clauseTexts_iff .autoIncrement rfl
  have carries : c.isAutoIncrement = true ↔ .autoIncrement ∈ c.constraints := List.contains_iff_mem
  rw [asClause, Column.autoIncrement_mem_clauses, carries, ← inlineKey_iff isColumn]
  simp [and_comm]

/-- **The place of the keyword.** The column is the whole primary key, the keyword stands right behind the
key, and the type before it is INTEGER unless an override is another one. -/
structure NumbersRowsBy (t : Table) (options : GenerateOptions) (c : Column) : Prop where
  sole : t.primaryKey = [c]
  behindKey : ["PRIMARY KEY", "AUTOINCREMENT"] <:+: t.clauseTexts .sqlite options c
  typeName : Dialect.sqlite.typeName options c = "INTEGER" ↔
    ∀ override, c.extension? .sqlite "type" = some override → override = "INTEGER"

theorem numbersRowsBy (legal : t.IsLegal .sqlite) (isColumn : c ∈ t.columns)
    (counts : .autoIncrement ∈ c.constraints) : t.NumbersRowsBy options c := by
  obtain ⟨isInteger, sole⟩ := ((legal.columns c isColumn).counting counts).2 rfl
  obtain ⟨inline, isKey⟩ := (inlineKey_iff isColumn).mpr sole
  refine ⟨sole, ?_, Dialect.typeName_eq_integer_iff isInteger options⟩
  unfold clauseTexts
  rw [inline]
  exact (Column.keyThenCounting_infix_clauses isKey (List.contains_iff_mem.mpr counts)).map
    (ColumnClause.render .sqlite)

/-- **Rows are numbered where the keyword may stand.** In the text of a table without errors the keyword
stands with the columns that number their rows, and has its place there. -/
theorem autoIncrement_placed (valid : (t.validate .sqlite).errors = []) (tables : List Table)
    (options : GenerateOptions) :
    (t.generate tables .sqlite options).Creates options t.name
        (t.columns.map (t.columnText .sqlite options) ++ t.laterTexts tables .sqlite options) ∧
      ∀ c ∈ t.columns,
        ("AUTOINCREMENT" ∈ t.clauseTexts .sqlite options c ↔ .autoIncrement ∈ c.constraints) ∧
        ("AUTOINCREMENT" ∈ t.clauseTexts .sqlite options c → t.NumbersRowsBy options c) := by
  have legal := errors_eq_nil_iff_isLegal.mp (validate_errors_eq_nil_iff.mp valid)
  constructor
  · have created := creates_generate valid tables options
    rwa [map_render_definitions] at created
  · intro c isColumn
    have placed (counts : .autoIncrement ∈ c.constraints) : t.NumbersRowsBy options c :=
      numbersRowsBy legal isColumn counts
    rw [autoIncrement_mem_clauseTexts_iff isColumn]
    exact ⟨⟨And.right, fun counts => ⟨(placed counts).sole, counts⟩⟩, fun stands => placed stands.2⟩

/-! ### Invoices, and payments of another type -/

/-- Invoices are numbered, in a strict table. -/
def numberedInvoices : Table :=
  { id := "t", name := "invoices",
    columns :=
      [ { id := "n", name := "number", dataType := .smallInt, nullable := false,
          constraints := [.check "number > 0", .autoIncrement, .primaryKey] },
        { id := "b", name := "buyer", dataType := .varchar } ] }

theorem autoIncrement_placed_numberedInvoices :
    (numberedInvoices.validate .sqlite).errors = [] ∧
      ∀ c ∈ numberedInvoices.columns,
        "AUTOINCREMENT" ∈ numberedInvoices.clauseTexts .sqlite { sqlite := { strict := true } } c →
          numberedInvoices.primaryKey = [c] ∧
            Dialect.sqlite.typeName { sqlite := { strict := true } } c = "INTEGER" := by
  have valid : (numberedInvoices.validate .sqlite).errors = [] := by decide
  refine ⟨valid, fun c isColumn stands => ?_⟩
  have placed :=
    ((autoIncrement_placed valid [] { sqlite := { strict := true } }).2 c isColumn).2 stands
  refine ⟨placed.sole, placed.typeName.mpr ?_⟩
  have noOverride : ∀ other ∈ numberedInvoices.columns, other.extension? .sqlite "type" = none := by
    decide
  simp [noOverride c isColumn]

/-- Payments are numbered by a column with an override for its type. -/
def numberedPayments : Table :=
  { id := "t", name := "payments",
    columns :=
      [ { id := "k", name := "id", dataType := .integer, nullable := false,
          constraints := [.primaryKey, .autoIncrement],
          extensions := ⟨none, none, some (Dictionary.empty.insert "type" "BIGINT")⟩ } ] }

/-- The override passes the check, and the keyword stands behind a type that is not INTEGER. -/
theorem autoIncrement_numberedPayments :
    (numberedPayments.validate .sqlite).errors = [] ∧
      (numberedPayments.generate [] .sqlite {}).errors = [] ∧
      (numberedPayments.generate [] .sqlite {}).sql =
        "CREATE TABLE IF NOT EXISTS \"payments\" (\"id\" BIGINT NOT NULL PRIMARY KEY AUTOINCREMENT);" ∧
      ¬ ∀ c ∈ numberedPayments.columns,
        "AUTOINCREMENT" ∈ numberedPayments.clauseTexts .sqlite {} c →
          Dialect.sqlite.typeName {} c = "INTEGER" := by
  decide +kernel

end Table

end SchemaCompiler
