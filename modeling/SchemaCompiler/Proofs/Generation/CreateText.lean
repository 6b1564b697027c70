/-
**Writing what was checked.**

A table without errors has a column for every index entry, so its statements can be written; so can
those of a database without errors, table by table.

* `Table.exists_createText` — a table without errors has a text.
* `Database.exists_createTexts`, `Database.generate_of_valid` — a database without errors has texts,
  and they are what is generated.
-/

import SchemaCompiler.Generation.Statements
import SchemaCompiler.Proofs.Traversal
import SchemaCompiler.Proofs.Validation.Errors

namespace SchemaCompiler

/-! ### Outcomes -/

theorem GeneratedSql.ofChecked_of_valid {d : Dialect} {report : Report} (valid : report.errors = [])
    (sql : String) (warnings : List String) :
    GeneratedSql.ofChecked d report (.ok sql) warnings =
      { sql, dialect := d, warnings := (report.warnings ++ warnings).eraseDups } := by
  simp [GeneratedSql.ofChecked, Report.isValid, valid]

/-! ### Tables -/

namespace Table

variable {t : Table} {d : Dialect}

/-- The statements of a table are one for the table, its comments and one for each index. -/
theorem statements_eq_ok_iff {tables : List Table} {options : GenerateOptions}
    {made : List Statement} :
    t.statements tables d options = .ok made ↔
      ∃ indexes, List.Forall₂ (fun index s => t.indexStatement index = .ok s) t.indexes indexes ∧
        made =
          .createTable t.name (t.definitions tables d options) (t.optionTexts d options) ::
            t.commentStatements d options ++ indexes := by
  unfold statements
  rw [Traversal.return_eq_ok_iff]
  simp only [Traversal.mapM_eq_ok_iff]

theorem exists_indexStatement {index : Index} (valid : t.indexErrors index = []) :
    ∃ statement, t.indexStatement index = .ok statement := by
  have known : ∀ id ∈ index.columnIds, ∃ c, t.columnById? id = some c := by
    intro id member
    have found : ¬ (t.columnById? id).isNone := by
      intro missing
      have fault : id ∈ index.columnIds.filter fun id => (t.columnById? id).isNone :=
        List.mem_filter.mpr ⟨member, missing⟩
      simp only [indexErrors, List.append_eq_nil_iff, List.map_eq_nil_iff] at valid
      rw [valid.2] at fault
      exact absurd fault List.not_mem_nil
    exact Option.ne_none_iff_exists'.mp fun none => found (by rw [none]; rfl)
  refine Traversal.exists_return_eq_ok _ (Traversal.exists_mapM_eq_ok fun id member => ?_)
  obtain ⟨c, found⟩ := known id member
  exact ⟨c.name, by rw [found]⟩

/-- **A table without errors has a text**, in any dialect. -/
theorem exists_createText (valid : t.errors d = []) (tables : List Table) (target : Dialect)
    (options : GenerateOptions) : ∃ text, t.createText tables target options = .ok text := by
  obtain ⟨-, -, -, -, indexesValid, -⟩ := errors_eq_nil_iff.mp valid
  refine Traversal.exists_return_eq_ok _ (Traversal.exists_return_eq_ok _ ?_)
  exact Traversal.exists_mapM_eq_ok fun index member =>
    exists_indexStatement (indexesValid index member)

end Table

/-! ### Databases -/

namespace Database

variable {db : Database} {d : Dialect}

theorem mem_tables_of_mem_writtenTables {t : Table} (written : t ∈ db.writtenTables) :
    t ∈ db.tables := by
  unfold writtenTables at written
  split at written
  · obtain ⟨place, _, found⟩ := List.mem_filterMap.mp written
    exact List.mem_of_getElem? found
  · exact written

/-- The texts of a database without errors can be written, one for every written table. -/
theorem exists_createTexts (valid : db.errors d = []) (options : GenerateOptions) :
    ∃ texts,
      List.Forall₂ (fun t text => t.createText db.tables d options = .ok text)
        db.writtenTables texts ∧
      db.createTexts d options =
        .ok ((d.preamble? (db.tables.any (·.refersToTables))).toList ++ texts) := by
  obtain ⟨-, tablesValid⟩ := errors_eq_nil_iff.mp valid
  obtain ⟨texts, succeeded⟩ := Traversal.exists_mapM_eq_ok
    (f := fun t : Table => t.createText db.tables d options) fun t written =>
      Table.exists_createText (tablesValid t (mem_tables_of_mem_writtenTables written)) _ d options
  refine ⟨texts, Traversal.mapM_eq_ok_iff.mp succeeded, ?_⟩
  rw [createTexts, succeeded]
  rfl

/-- **What is generated for a database without errors** are its texts, with blank lines between
them. -/
theorem generate_of_valid (valid : db.errors d = []) {options : GenerateOptions}
    {texts : List String} (created : db.createTexts d options = .ok texts) :
    (db.generate d options).errors = [] ∧
      (db.generate d options).sql = "\n\n".intercalate texts := by
  rw [generate, created, Except.map,
    GeneratedSql.ofChecked_of_valid (validate_errors_eq_nil_iff.mpr valid)]
  exact ⟨rfl, rfl⟩

end Database

end SchemaCompiler
