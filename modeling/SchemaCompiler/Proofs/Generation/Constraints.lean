/-
**No constraint is dropped silently.**

Which constraints of a column reach the text is decided for each dialect, and by the number of columns
of the primary key; what does not reach it is warned of by the check. For a table without errors the two
complement each other: every constraint of every column is written or warned of.

* `Column.notNull_mem_clauses`, `Column.unique_mem_clauses`, `Column.primaryKey_mem_clauses`,
  `Column.autoIncrement_mem_clauses`, `Column.checks_suffix_clauses` — the clauses of a column.
* `Table.constraints_accounted_for` — the contract.
-/

import SchemaCompiler.Proofs.Generation.TableText

namespace SchemaCompiler

/-! ### The clauses of a column -/

namespace Column

variable {c : Column} {d : Dialect} {inlineKey comments : Bool}

theorem notNull_mem_clauses : .notNull ∈ c.clauses d inlineKey comments ↔ c.isNotNull = true := by
  cases d <;> simp [clauses, collateClause, defaultClause]

theorem unique_mem_clauses :
    .unique ∈ c.clauses d inlineKey comments ↔ c.isUnique = true ∧ d ≠ .sqlite := by
  cases d <;> simp [clauses, collateClause, defaultClause]

theorem primaryKey_mem_clauses :
    .primaryKey ∈ c.clauses d inlineKey comments ↔ inlineKey = true ∧ c.isPrimaryKey = true := by
  cases d <;> simp [clauses, collateClause, defaultClause]

/-- Rows are numbered by MySQL, and by SQLite in the key of one column. -/
theorem autoIncrement_mem_clauses :
    .autoIncrement ∈ c.clauses d inlineKey comments ↔
      c.isAutoIncrement = true ∧
        (d = .mysql ∨ d = .sqlite ∧ inlineKey = true ∧ c.isPrimaryKey = true) := by
  cases d <;> simp [clauses, collateClause, defaultClause, and_comm]

/-- The checks of a column are its last clauses, unless they are left out. -/
theorem checks_suffix_clauses (written : d ≠ .mysql) :
    c.checkExpressions.map .check <:+ c.clauses d inlineKey comments := by
  cases d with
  | mysql => exact absurd rfl written
  | postgres => exact List.suffix_append ..
  | sqlite => exact List.suffix_append ..

/-! ### What is left out -/

theorem autoIncrementOmitted_mem_warnings {keyCount : Nat} (counts : c.isAutoIncrement = true)
    (valid : c.autoIncrementErrors .postgres keyCount = []) :
    .autoIncrementOmitted ∈ c.warnings .postgres := by
  obtain ⟨numeric, -⟩ := autoIncrementErrors_eq_nil_iff.mp valid counts
  have found : .autoIncrementOmitted ∈ c.autoIncrementWarnings .postgres := by
    simp [autoIncrementWarnings, counts, numeric]
  simp only [warnings, List.mem_append, found, true_or]

theorem checksOmitted_mem_warnings (some : c.checkExpressions ≠ []) :
    .checksOmitted ∈ c.warnings .mysql := by
  refine List.mem_append_right _ (mem_when.mpr ⟨?_, rfl⟩)
  simpa [Dialect.supportsConstraint] using some

/-- A column that numbers its rows in SQLite is the only one of its primary key. -/
theorem isPrimaryKey_of_isAutoIncrement {keyCount : Nat} (counts : c.isAutoIncrement = true)
    (valid : c.autoIncrementErrors .sqlite keyCount = []) :
    c.isPrimaryKey = true ∧ keyCount = 1 := by
  obtain ⟨-, mayCount⟩ := autoIncrementErrors_eq_nil_iff.mp valid counts
  have sole := mayCount rfl
  simp only [mayCountInSqlite, Bool.and_eq_true, beq_iff_eq] at sole
  exact ⟨sole.1.2, sole.2⟩

end Column

/-! ### The words of warnings -/

theorem ColumnWarning.message_autoIncrementOmitted (table : String) (c : Column) :
    autoIncrementOmitted.message .postgres table c = "Column '" ++ table ++ "." ++ c.name ++
      "': AUTO_INCREMENT is not emitted for postgres; use an identity column or a sequence" := by
  have words : "': AUTO_INCREMENT is not emitted for postgres; " ++
      "use an identity column or a sequence" =
        "': AUTO_INCREMENT is not emitted for postgres; use an identity column or a sequence" := rfl
  show "Column '" ++ (table ++ "." ++ c.name) ++ "': AUTO_INCREMENT is not emitted for postgres; " ++
    "use an identity column or a sequence" = _
  rw [← words]
  simp only [String.append_assoc]

theorem ColumnWarning.message_checksOmitted (table : String) (c : Column) :
    checksOmitted.message .mysql table c = "Column '" ++ table ++ "." ++ c.name ++
      "': CHECK constraints are not emitted for mysql" := by
  have words : "': CHECK constraints are not emitted for " ++ Dialect.mysql.name =
      "': CHECK constraints are not emitted for mysql" := rfl
  show "Column '" ++ (table ++ "." ++ c.name) ++ "': CHECK constraints are not emitted for " ++
    Dialect.mysql.name = _
  rw [← words]
  simp only [String.append_assoc]

/-! ### Columns in tables -/

/-- **Every constraint of a column is accounted for.** It is among the clauses of the column or among
the definitions after the columns, or there is a warning that names the column. Uniqueness is left to
indexes in SQLite. -/
structure Column.IsAccountedFor (c : Column) (t : Table) (d : Dialect) (options : GenerateOptions)
    (clauses others warnings : List String) : Prop where
  primaryKey : .primaryKey ∈ c.constraints → "PRIMARY KEY" ∈ clauses ∨
    ∃ names, c.name ∈ names ∧ (Definition.primaryKey t.keyName? names).render d options ∈ others
  notNull : c.isNotNull = true → "NOT NULL" ∈ clauses
  unique : .unique ∈ c.constraints → d ≠ .sqlite → "UNIQUE" ∈ clauses
  autoIncrement : .autoIncrement ∈ c.constraints →
    d = .mysql ∧ "AUTO_INCREMENT" ∈ clauses ∨
      d = .sqlite ∧ "AUTOINCREMENT" ∈ clauses ∨
      d = .postgres ∧ "Column '" ++ t.name ++ "." ++ c.name ++
        "': AUTO_INCREMENT is not emitted for postgres; use an identity column or a sequence" ∈
          warnings
  checks :
    d ≠ .mysql ∧
        (c.checkExpressions.map fun expression => "CHECK (" ++ expression ++ ")") <:+ clauses ∨
      d = .mysql ∧ (c.checkExpressions ≠ [] → "Column '" ++ t.name ++ "." ++ c.name ++
        "': CHECK constraints are not emitted for mysql" ∈ warnings)

namespace Table

variable {t : Table} {d : Dialect}

/-- What is worth a warning about a column is warned of. -/
theorem columnMessage_mem_warnings_generate (valid : (t.validate d).errors = []) {c : Column}
    (isColumn : c ∈ t.columns) {warning : ColumnWarning} (found : warning ∈ c.warnings d)
    (tables : List Table) (options : GenerateOptions) :
    warning.message d t.name c ∈ (t.generate tables d options).warnings := by
  have ofTable : .column c warning ∈ t.warnings d :=
    (mem_warnings_iff (List.ne_nil_of_mem isColumn)).mpr (.inl ⟨c, isColumn, warning, found, rfl⟩)
  exact message_mem_warnings_generate valid ofTable

/-- The texts of the clauses of a column. -/
def clauseTexts (t : Table) (d : Dialect) (options : GenerateOptions) (c : Column) : List String :=
  (c.clauses d (!t.hasCompositeKey) options.includeComments).map (·.render d)

/-- The definitions after the columns: the composite key and the foreign keys. -/
def laterTexts (t : Table) (tables : List Table) (d : Dialect) (options : GenerateOptions) :
    List String :=
  (t.keyDefinitions ++ (t.foreignKeys tables).map Definition.foreignKey).map (·.render d options)

/-- Between the parentheses stand the columns, each with its name, its type and its clauses, and then
the other definitions. -/
theorem map_render_definitions (tables : List Table) (options : GenerateOptions) :
    (t.definitions tables d options).map (·.render d options) =
      (t.columns.map fun c => " ".intercalate
        (d.quoteIdentifier c.name :: d.typeName options c :: t.clauseTexts d options c)) ++
        t.laterTexts tables d options := by
  rw [definitions, List.append_assoc, List.map_append, columnDefinitions, List.map_map]
  rfl

section Column

variable {c : Column} {options : GenerateOptions}

theorem mem_clauseTexts {clause : ColumnClause}
    (found : clause ∈ c.clauses d (!t.hasCompositeKey) options.includeComments) :
    clause.render d ∈ t.clauseTexts d options c :=
  List.mem_map_of_mem found

/-- A part of the primary key is a clause of its column, or stands in the composite key. -/
theorem primaryKey_written (isColumn : c ∈ t.columns) (isKey : c.isPrimaryKey = true)
    (tables : List Table) (options : GenerateOptions) :
    "PRIMARY KEY" ∈ t.clauseTexts d options c ∨
      ∃ names, c.name ∈ names ∧
        (Definition.primaryKey t.keyName? names).render d options ∈
          t.laterTexts tables d options := by
  by_cases composite : t.hasCompositeKey = true
  · right
    have inKey : c ∈ t.primaryKey := List.mem_filter.mpr ⟨isColumn, isKey⟩
    refine ⟨t.primaryKey.map (·.name), List.mem_map_of_mem inKey, List.mem_map_of_mem ?_⟩
    apply List.mem_append_left
    rw [keyDefinitions, if_pos composite]
    exact List.mem_singleton_self _
  · left
    have inline : (!t.hasCompositeKey) = true := by simpa using composite
    exact mem_clauseTexts (Column.primaryKey_mem_clauses.mpr ⟨inline, isKey⟩)

/-- Rows are numbered, or there is a warning that they are not. -/
theorem autoIncrement_written (valid : (t.validate d).errors = []) (isColumn : c ∈ t.columns)
    (counts : c.isAutoIncrement = true) (tables : List Table) (options : GenerateOptions) :
    d = .mysql ∧ "AUTO_INCREMENT" ∈ t.clauseTexts d options c ∨
      d = .sqlite ∧ "AUTOINCREMENT" ∈ t.clauseTexts d options c ∨
      d = .postgres ∧ "Column '" ++ t.name ++ "." ++ c.name ++
        "': AUTO_INCREMENT is not emitted for postgres; use an identity column or a sequence" ∈
          (t.generate tables d options).warnings := by
  obtain ⟨-, -, -, columnsValid, -, -⟩ := errors_eq_nil_iff.mp (validate_errors_eq_nil_iff.mp valid)
  obtain ⟨-, -, -, -, numbersRows⟩ := Column.errors_eq_nil_iff.mp (columnsValid c isColumn)
  cases d with
  | mysql =>
    exact .inl ⟨rfl, mem_clauseTexts (Column.autoIncrement_mem_clauses.mpr ⟨counts, .inl rfl⟩)⟩
  | sqlite =>
    -- The keyword stands behind an inline key only, and the check allows it nowhere else.
    obtain ⟨isKey, sole⟩ := Column.isPrimaryKey_of_isAutoIncrement counts numbersRows
    have inline : (!t.hasCompositeKey) = true := by simp [hasCompositeKey, sole]
    exact .inr (.inl ⟨rfl, mem_clauseTexts
      (Column.autoIncrement_mem_clauses.mpr ⟨counts, .inr ⟨rfl, inline, isKey⟩⟩)⟩)
  | postgres =>
    have warned := columnMessage_mem_warnings_generate valid isColumn
      (Column.autoIncrementOmitted_mem_warnings counts numbersRows) tables options
    rw [ColumnWarning.message_autoIncrementOmitted] at warned
    exact .inr (.inr ⟨rfl, warned⟩)

/-- Checks are written in order, or there is a warning that they are not. -/
theorem checks_written (valid : (t.validate d).errors = []) (isColumn : c ∈ t.columns)
    (tables : List Table) (options : GenerateOptions) :
    d ≠ .mysql ∧ (c.checkExpressions.map fun expression => "CHECK (" ++ expression ++ ")") <:+
          t.clauseTexts d options c ∨
      d = .mysql ∧ (c.checkExpressions ≠ [] → "Column '" ++ t.name ++ "." ++ c.name ++
        "': CHECK constraints are not emitted for mysql" ∈
          (t.generate tables d options).warnings) := by
  by_cases omitted : d = .mysql
  · right
    refine ⟨omitted, fun some => ?_⟩
    subst omitted
    have warned := columnMessage_mem_warnings_generate valid isColumn
      (Column.checksOmitted_mem_warnings some) tables options
    rwa [ColumnWarning.message_checksOmitted] at warned
  · left
    refine ⟨omitted, ?_⟩
    have texts : (c.checkExpressions.map ColumnClause.check).map (·.render d) =
        c.checkExpressions.map fun expression => "CHECK (" ++ expression ++ ")" := by
      rw [List.map_map]
      rfl
    rw [← texts]
    exact (Column.checks_suffix_clauses omitted).map _

end Column

/-- **No constraint is dropped silently.** A table without errors is created from its columns, each with
its name, its type and clauses, and from further definitions, and every constraint of every column is
accounted for by the clauses of the column, by the further definitions or by the warnings. -/
theorem constraints_accounted_for (valid : (t.validate d).errors = []) (tables : List Table)
    (options : GenerateOptions) :
    ∃ (clauses : Column → List String) (others : List String),
      (t.generate tables d options).Creates options t.name
        ((t.columns.map fun c =>
          " ".intercalate (d.quoteIdentifier c.name :: d.typeName options c :: clauses c)) ++
            others) ∧
      ∀ c ∈ t.columns, c.IsAccountedFor t d options (clauses c) others
        (t.generate tables d options).warnings := by
  refine ⟨t.clauseTexts d options, t.laterTexts tables d options, ?_, fun c isColumn => ?_⟩
  · rw [← map_render_definitions]
    exact creates_generate valid tables options
  · have carries {constraint : Constraint} (found : constraint ∈ c.constraints) :
        c.has constraint = true :=
      List.contains_iff_mem.mpr found
    exact {
      primaryKey := fun found => primaryKey_written isColumn (carries found) tables options
      notNull := fun isNotNull => mem_clauseTexts (Column.notNull_mem_clauses.mpr isNotNull)
      unique := fun found written =>
        mem_clauseTexts (Column.unique_mem_clauses.mpr ⟨carries found, written⟩)
      autoIncrement := fun found =>
        autoIncrement_written valid isColumn (carries found) tables options
      checks := checks_written valid isColumn tables options }

/-! ### A table with every kind of constraint -/

/-- Meters are numbered, and the limits of their values are checked, the lower one twice. -/
def meters : Table :=
  { id := "m", name := "meters",
    columns :=
      [ { id := "k", name := "id", dataType := .integer, nullable := false,
          constraints := [.primaryKey, .autoIncrement] },
        { id := "v", name := "value", dataType := .integer, nullable := false,
          constraints := [.check "value > 0", .unique, .check "value < 9", .check "value > 0"] } ] }

theorem constraints_accounted_for_meters :
    (meters.validate .postgres).errors = [] ∧
      (∃ (clauses : Column → List String) (others : List String),
        (meters.generate [] .postgres {}).Creates {} "meters"
          ((meters.columns.map fun c => " ".intercalate (Dialect.postgres.quoteIdentifier c.name ::
            Dialect.postgres.typeName {} c :: clauses c)) ++ others) ∧
        ∀ c ∈ meters.columns, c.IsAccountedFor meters .postgres {} (clauses c) others
          (meters.generate [] .postgres {}).warnings) ∧
      (meters.generate [] .postgres {}).warnings =
        [ "Column 'meters.id': AUTO_INCREMENT is not emitted for postgres; " ++
          "use an identity column or a sequence" ] ∧
      (meters.generate [] .postgres {}).sql =
        "CREATE TABLE IF NOT EXISTS \"meters\" (\"id\" INTEGER NOT NULL PRIMARY KEY, " ++
          "\"value\" INTEGER NOT NULL UNIQUE " ++
          "CHECK (value > 0) CHECK (value < 9) CHECK (value > 0));" := by
  have valid : (meters.validate .postgres).errors = [] := by decide
  exact ⟨valid, constraints_accounted_for valid [] {}, by decide, by decide +kernel⟩

end Table

end SchemaCompiler
