/-
**The text that creates a table.**

A table without errors is created by one statement. The pragma of SQLite may stand before it, comments
and indexes after it, and between its parentheses stand the definitions of the table in order. What is
warned of is what the check warns of and the relationships that are skipped.

* `GeneratedSql.Creates` — an outcome creates a table from the parts between its parentheses.
* `Table.creates_generate` — a table without errors is created from its definitions.
* `Table.mem_warnings_generate` — what is warned of.
-/

import SchemaCompiler.Proofs.Generation.Outcomes

namespace SchemaCompiler

/-- An outcome without errors that creates a table from parts. The pragma of SQLite may stand before the
statement; after the parentheses stand the options of the table and other statements. What is between two
parts is said by `inParentheses_pretty` and `inParentheses_plain`. -/
structure GeneratedSql.Creates (g : GeneratedSql) (options : GenerateOptions) (table : String)
    (parts : List String) : Prop where
  clean : g.errors = []
  text : ∃ before after, (before = "" ∨ before = "PRAGMA foreign_keys = ON;\n") ∧
    g.sql = before ++ ("CREATE TABLE " ++ (if options.ifNotExists then "IF NOT EXISTS " else "") ++
      g.dialect.tableName options table ++ inParentheses options.pretty parts ++ after)

theorem Statement.exists_render_createTable (d : Dialect) (options : GenerateOptions) (table : String)
    (definitions : List Definition) (after : List String) :
    ∃ rest, (Statement.createTable table definitions after).render d options =
      "CREATE TABLE " ++ (if options.ifNotExists then "IF NOT EXISTS " else "") ++
        d.tableName options table ++
        inParentheses options.pretty (definitions.map (·.render d options)) ++ rest := by
  refine ⟨String.join (after.map (" " ++ ·)) ++ ";", ?_⟩
  rw [← String.append_assoc]
  rfl

namespace Table

variable {t : Table} {tables : List Table} {d : Dialect} {options : GenerateOptions}

/-- The text of a table begins with the statement that creates it. -/
theorem exists_createText_eq {text : String} (written : t.createText tables d options = .ok text) :
    ∃ after, text = "CREATE TABLE " ++ (if options.ifNotExists then "IF NOT EXISTS " else "") ++
      d.tableName options t.name ++
      inParentheses options.pretty ((t.definitions tables d options).map (·.render d options)) ++
      after := by
  obtain ⟨made, stated, rfl⟩ := Traversal.return_eq_ok_iff.mp written
  obtain ⟨indexes, -, rfl⟩ := statements_eq_ok_iff.mp stated
  rw [List.cons_append, List.map_cons]
  obtain ⟨others, first⟩ := exists_intercalate_cons "\n"
    ((Statement.createTable t.name (t.definitions tables d options)
      (t.optionTexts d options)).render d options)
    ((t.commentStatements d options ++ indexes).map (·.render d options))
  obtain ⟨rest, created⟩ := Statement.exists_render_createTable d options t.name
    (t.definitions tables d options) (t.optionTexts d options)
  rw [first, created, String.append_assoc]
  exact ⟨_, rfl⟩

theorem preamble?_eq (d : Dialect) (refers : Bool) :
    d.preamble? refers = none ∨ d.preamble? refers = some "PRAGMA foreign_keys = ON;" := by
  cases d <;> cases refers <;> simp [Dialect.preamble?]

/-- What is generated for a table without errors. -/
theorem generate_of_valid (valid : (t.validate d).errors = []) (tables : List Table)
    (options : GenerateOptions) :
    ∃ before text, (before = "" ∨ before = "PRAGMA foreign_keys = ON;\n") ∧
      t.createText tables d options = .ok text ∧
      t.generate tables d options =
        { sql := before ++ text, dialect := d,
          warnings := ((t.validate d).warnings ++ t.skippedRelationships tables).eraseDups } := by
  obtain ⟨text, written⟩ := exists_createText (validate_errors_eq_nil_iff.mp valid) tables d options
  unfold generate
  rw [written, Except.map, GeneratedSql.ofChecked_of_valid valid]
  rcases preamble?_eq d t.refersToTables with none | some
  · refine ⟨"", text, .inl rfl, rfl, ?_⟩
    rw [none, String.empty_append]
  · refine ⟨"PRAGMA foreign_keys = ON;\n", text, .inr rfl, rfl, ?_⟩
    rw [some]
    rfl

/-- **A table without errors is created** from its definitions, in order. -/
theorem creates_generate (valid : (t.validate d).errors = []) (tables : List Table)
    (options : GenerateOptions) :
    (t.generate tables d options).Creates options t.name
      ((t.definitions tables d options).map (·.render d options)) := by
  obtain ⟨before, text, isPreamble, written, generated⟩ := generate_of_valid valid tables options
  obtain ⟨after, rfl⟩ := exists_createText_eq written
  rw [generated]
  exact ⟨rfl, before, after, isPreamble, rfl⟩

/-- The check warns of columns, of the primary key and of relationships. -/
theorem mem_warnings_iff (nonempty : t.columns ≠ []) {warning : TableWarning} :
    warning ∈ t.warnings d ↔
      (∃ c ∈ t.columns, ∃ found ∈ c.warnings d, .column c found = warning) ∨
        warning ∈ t.keyWarnings ∨
        ∃ r ∈ t.relationships, warning ∈ t.relationshipWarnings d r := by
  unfold warnings
  rw [if_neg (mt List.isEmpty_iff.mp nonempty)]
  simp only [List.mem_append, List.mem_flatMap, List.mem_map, or_assoc]

/-- **What is warned of** is what the check warns of and what is skipped. -/
theorem mem_warnings_generate (valid : (t.validate d).errors = []) {text : String} :
    text ∈ (t.generate tables d options).warnings ↔
      text ∈ t.warningTexts d ∨ text ∈ t.skippedRelationships tables := by
  obtain ⟨before, created, -, -, generated⟩ := generate_of_valid valid tables options
  rw [generated]
  show text ∈ ((t.validate d).warnings ++ t.skippedRelationships tables).eraseDups ↔ _
  rw [List.mem_eraseDups, List.mem_append, validate, Report.of, List.mem_eraseDups]

/-- What is worth a warning in the check is warned of. -/
theorem message_mem_warnings_generate (valid : (t.validate d).errors = []) {warning : TableWarning}
    (found : warning ∈ t.warnings d) :
    warning.message d t ∈ (t.generate tables d options).warnings :=
  (mem_warnings_generate valid).mpr (.inl (List.mem_map_of_mem found))

end Table

end SchemaCompiler
