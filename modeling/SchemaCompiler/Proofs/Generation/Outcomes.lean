/-
**The errors of outcomes.**

What is generated reports the errors of the check before it. A check that passes leaves nothing to go
wrong while tables, rows and databases are written; of a query only a join that would bring in a table
twice is left. An outcome with errors has no text, and no outcome has a warning twice.

* `GeneratedSql.IsSound.ofChecked`, `GeneratedSql.IsSound.merge` — what holds of every outcome.
* `Table.errors_generate`, `Table.errors_generateInsert`, `Database.errors_generate`,
  `Query.errors_generate` — the errors are those of the check.
* `errors_are_checked` — the contract of all of them.
-/

import SchemaCompiler.Proofs.FirstOccurrences
import SchemaCompiler.Proofs.Generation.CreateText
import SchemaCompiler.Proofs.Query.Coverage

namespace SchemaCompiler

/-! ### Texts -/

theorem append_ne_empty {front back : String} (nonempty : back ≠ "") : front ++ back ≠ "" :=
  fun empty => nonempty (String.append_eq_empty_iff.mp empty).2

/-- Texts one after the other begin with the first one. -/
theorem exists_intercalate_cons (separator first : String) (rest : List String) :
    ∃ others, separator.intercalate (first :: rest) = first ++ others := by
  cases rest with
  | nil => exact ⟨"", by rw [String.intercalate_singleton, String.append_empty]⟩
  | cons next rest =>
    rw [String.intercalate_cons_cons, String.append_assoc]
    exact ⟨_, rfl⟩

/-- Texts one after the other are not empty when the first one is not. -/
theorem intercalate_cons_ne_empty {separator first : String} {rest : List String}
    (nonempty : first ≠ "") : separator.intercalate (first :: rest) ≠ "" := by
  obtain ⟨others, same⟩ := exists_intercalate_cons separator first rest
  rw [same]
  exact fun empty => nonempty (String.append_eq_empty_iff.mp empty).1

/-! ### Every outcome -/

namespace GeneratedSql

/-- An outcome without text where there are errors, and without a warning that stands twice. -/
structure IsSound (g : GeneratedSql) : Prop where
  blocked : g.errors ≠ [] → g.sql = ""
  distinct : g.warnings.Nodup

variable {d : Dialect} {report : Report} {text : Except SchemaError String} {warnings : List String}

theorem ofChecked_of_invalid (fails : report.errors ≠ []) :
    ofChecked d report text warnings =
      { dialect := d, warnings := report.warnings.eraseDups, errors := report.errors } := by
  simp [ofChecked, Report.isValid, fails]

theorem ofChecked_of_error (valid : report.errors = []) (cause : SchemaError) :
    ofChecked d report (.error cause) warnings =
      { dialect := d, warnings := (report.warnings ++ warnings).eraseDups,
        errors := [cause.message] } := by
  simp [ofChecked, Report.isValid, valid]

/-- **The outcome for something that was checked** is sound. -/
theorem IsSound.ofChecked (d : Dialect) (report : Report) (text : Except SchemaError String)
    (warnings : List String) : (GeneratedSql.ofChecked d report text warnings).IsSound := by
  by_cases valid : report.errors = []
  · cases text with
    | error cause =>
      rw [ofChecked_of_error valid]
      exact ⟨fun _ => rfl, nodup_eraseDups _⟩
    | ok sql =>
      rw [ofChecked_of_valid valid]
      exact ⟨fun fails => absurd rfl fails, nodup_eraseDups _⟩
  · rw [ofChecked_of_invalid valid]
    exact ⟨fun _ => rfl, nodup_eraseDups _⟩

/-- **Several outcomes as one** are sound, whatever they are. -/
theorem IsSound.merge (d : Dialect) (outcomes : List GeneratedSql) :
    (GeneratedSql.merge d outcomes).IsSound := by
  refine ⟨fun fails => ?_, nodup_eraseDups _⟩
  have some : ¬ (outcomes.flatMap (·.errors)).isEmpty = true := by
    rw [List.isEmpty_iff]
    exact fails
  exact if_neg some

/-- Where a check that passes lets the text be written, the errors are those of the check. -/
theorem errors_ofChecked (written : report.errors = [] → ∃ sql, text = .ok sql) :
    (ofChecked d report text warnings).errors = report.errors := by
  by_cases valid : report.errors = []
  · obtain ⟨sql, rfl⟩ := written valid
    rw [ofChecked_of_valid valid, valid]
  · rw [ofChecked_of_invalid valid]

/-- An outcome without errors has a text that was written. -/
theorem sql_of_errors_eq_nil (clean : (ofChecked d report text warnings).errors = []) :
    report.errors = [] ∧ text = .ok (ofChecked d report text warnings).sql := by
  by_cases valid : report.errors = []
  · cases text with
    | error cause =>
      rw [ofChecked_of_error valid] at clean
      cases clean
    | ok sql => exact ⟨valid, by rw [ofChecked_of_valid valid]⟩
  · rw [ofChecked_of_invalid valid] at clean
    exact absurd clean valid

end GeneratedSql

/-! ### Tables -/

namespace Table

variable {t : Table} {tables : List Table} {d : Dialect} {options : GenerateOptions}

theorem createText_ne_empty {text : String} (written : t.createText tables d options = .ok text) :
    text ≠ "" := by
  obtain ⟨made, stated, rfl⟩ := Traversal.return_eq_ok_iff.mp written
  obtain ⟨indexes, -, rfl⟩ := Traversal.return_eq_ok_iff.mp stated
  rw [List.cons_append, List.map_cons]
  exact intercalate_cons_ne_empty (append_ne_empty (by decide))

/-- **The errors of a generated table** are those of its check. -/
theorem errors_generate (t : Table) (tables : List Table) (d : Dialect) (options : GenerateOptions) :
    (t.generate tables d options).errors = (t.validate d).errors := by
  refine GeneratedSql.errors_ofChecked fun valid => ?_
  obtain ⟨text, written⟩ :=
    exists_createText (validate_errors_eq_nil_iff.mp valid) tables d options
  rw [written]
  exact ⟨_, rfl⟩

theorem sql_generate_ne_empty (clean : (t.generate tables d options).errors = []) :
    (t.generate tables d options).sql ≠ "" := by
  obtain ⟨-, written⟩ := GeneratedSql.sql_of_errors_eq_nil clean
  cases created : t.createText tables d options with
  | error cause =>
    rw [created] at written
    cases written
  | ok text =>
    have nonempty := createText_ne_empty created
    rw [created, Except.map] at written
    have same := Except.ok.inj written
    unfold generate
    rw [created, Except.map, ← same]
    split
    · exact append_ne_empty nonempty
    · exact nonempty

/-- **The errors of generated rows** are those of the check of their table. -/
theorem errors_generateInsert (t : Table) (d : Dialect) (options : GenerateOptions) :
    (t.generateInsert d options).errors = (t.validate d).errors :=
  GeneratedSql.errors_ofChecked fun _ => ⟨_, rfl⟩

end Table

/-! ### Databases -/

/-- **The errors of a generated database** are those of its check. -/
theorem Database.errors_generate (db : Database) (d : Dialect) (options : GenerateOptions) :
    (db.generate d options).errors = (db.validate d).errors := by
  refine GeneratedSql.errors_ofChecked fun valid => ?_
  obtain ⟨texts, -, created⟩ := exists_createTexts (validate_errors_eq_nil_iff.mp valid) options
  rw [created]
  exact ⟨_, rfl⟩

/-! ### Queries -/

/-- The error for a join in words. -/
theorem Query.message_joinedTwice (j : Join) :
    (joinedTwice j).message = "Invalid query: join between '" ++ j.leftTable ++ "' and '" ++
      j.rightTable ++ "' would join a table twice" := by
  show "Invalid query: " ++ ("join between '" ++ j.leftTable ++ "' and '" ++ j.rightTable ++
    "' would join a table twice") = _
  have opening : "Invalid query: " ++ "join between '" = "Invalid query: join between '" := rfl
  simp only [← String.append_assoc]
  rw [opening]

/-- The errors of a generated query are those of its check. When there are none, one join may be left
that would bring in a table twice. -/
theorem Query.errors_generate (q : Query) (d : Dialect) (options : SelectOptions) :
    (q.generate d options).errors = q.validate.errors ∨
      q.validate.errors = [] ∧
        ∃ j ∈ q.joins, (q.generate d options).errors = [(joinedTwice j).message] := by
  by_cases valid : q.validate.errors = []
  · cases written : d.selectText q options with
    | ok text =>
      left
      rw [generate, written]
      exact GeneratedSql.errors_ofChecked fun _ => ⟨text, rfl⟩
    | error cause =>
      right
      refine ⟨valid, ?_⟩
      obtain ⟨first, -, failed⟩ := (sources_eq_error_iff
        (errors_eq_nil_iff.mp (validate_errors_eq_nil_iff.mp valid)).1).mp
          (Dialect.selectText_eq_error_iff.mp written)
      obtain ⟨before, j, after, -, split, -, -, rfl⟩ := joinClauses_eq_error_iff.mp failed
      refine ⟨j, split ▸ List.mem_append_right _ List.mem_cons_self, ?_⟩
      rw [generate, written, GeneratedSql.ofChecked_of_error valid]
  · left
    rw [generate, GeneratedSql.ofChecked_of_invalid valid]

theorem Query.sql_generate_ne_empty {q : Query} {d : Dialect} {options : SelectOptions}
    (clean : (q.generate d options).errors = []) : (q.generate d options).sql ≠ "" := by
  obtain ⟨-, written⟩ := GeneratedSql.sql_of_errors_eq_nil clean
  obtain ⟨s, -, same⟩ := Dialect.selectText_eq_ok_iff.mp written
  rw [show (q.generate d options).sql = _ from same]
  exact append_ne_empty (by decide)

/-! ### The contract -/

/-- **Errors are found by checks.** Tables, rows and databases have exactly the errors of their checks,
and the texts of tables that pass can be written. Queries have the errors of theirs, or when there are
none at most one, for a join. Every outcome, several as one included, has no text where it has errors
and no warning twice; tables and queries without errors have a text. -/
theorem errors_are_checked (t : Table) (tables : List Table) (db : Database) (q : Query) (d : Dialect)
    (options : GenerateOptions) (selectOptions : SelectOptions) (outcomes : List GeneratedSql) :
    ((t.generate tables d options).errors = (t.validate d).errors ∧
        (t.generateInsert d options).errors = (t.validate d).errors ∧
        (db.generate d options).errors = (db.validate d).errors ∧
        ((t.validate d).errors = [] → ∃ text, t.createText tables d options = .ok text) ∧
        ((db.validate d).errors = [] → ∀ t ∈ db.tables, ∃ text,
          t.createText db.tables d options = .ok text)) ∧
      ((q.validate.errors ≠ [] → (q.generate d selectOptions).errors = q.validate.errors) ∧
        (q.validate.errors = [] → (q.generate d selectOptions).errors = [] ∨
          ∃ j ∈ q.joins, (q.generate d selectOptions).errors =
            ["Invalid query: join between '" ++ j.leftTable ++ "' and '" ++ j.rightTable ++
              "' would join a table twice"])) ∧
      ((t.generate tables d options).IsSound ∧ (t.generateInsert d options).IsSound ∧
        (db.generate d options).IsSound ∧ (q.generate d selectOptions).IsSound ∧
        (GeneratedSql.merge d outcomes).IsSound) ∧
      ((t.generate tables d options).errors = [] → (t.generate tables d options).sql ≠ "") ∧
      ((q.generate d selectOptions).errors = [] → (q.generate d selectOptions).sql ≠ "") := by
  refine ⟨⟨t.errors_generate tables d options, t.errors_generateInsert d options,
    db.errors_generate d options, fun valid => ?_, fun valid table member => ?_⟩,
    ⟨fun fails => ?_, fun valid => ?_⟩,
    ⟨.ofChecked .., .ofChecked .., .ofChecked .., .ofChecked ..,
      .merge d outcomes⟩,
    Table.sql_generate_ne_empty, Query.sql_generate_ne_empty⟩
  · exact Table.exists_createText (Table.validate_errors_eq_nil_iff.mp valid) tables d options
  · obtain ⟨-, tablesValid⟩ :=
      Database.errors_eq_nil_iff.mp (Database.validate_errors_eq_nil_iff.mp valid)
    exact Table.exists_createText (tablesValid table member) db.tables d options
  · exact (q.errors_generate d selectOptions).resolve_right fun join => fails join.1
  · rcases q.errors_generate d selectOptions with same | ⟨-, j, isJoin, failed⟩
    · exact .inl (same.trans valid)
    · exact .inr ⟨j, isJoin, failed.trans (by rw [Query.message_joinedTwice])⟩

/-! ### A table and a query with errors -/

/-- Parcels with an index on a column that they do not have. -/
def parcels : Table :=
  { id := "p", name := "parcels",
    columns := [{ id := "k", name := "id", dataType := .integer, constraints := [.primaryKey] }],
    indexes := [{ id := "i", name := "by_weight", columnIds := ["w"] }] }

theorem errors_are_checked_parcels :
    (parcels.generate [] .mysql {}).errors =
        ["Index 'by_weight' references unknown column 'w' in table 'parcels'"] ∧
      (parcels.generate [] .mysql {}).sql = "" ∧
      Query.ledgerReturned.validate.errors = [] ∧
      (∃ j ∈ Query.ledgerReturned.joins, (Query.ledgerReturned.generate .mysql {}).errors =
        ["Invalid query: join between '" ++ j.leftTable ++ "' and '" ++ j.rightTable ++
          "' would join a table twice"]) ∧
      (Query.ledgerReturned.generate .mysql {}).sql = "" := by
  obtain ⟨⟨ofTable, -⟩, ⟨-, ofQuery⟩, ⟨sound, -, -, soundQuery, -⟩, -⟩ :=
    errors_are_checked parcels [] { id := "d", name := "depot" } Query.ledgerReturned .mysql {} {} []
  have fault : (parcels.validate .mysql).errors =
      ["Index 'by_weight' references unknown column 'w' in table 'parcels'"] := by decide
  have valid : Query.ledgerReturned.validate.errors = [] := by decide
  have refused : (Query.ledgerReturned.generate .mysql {}).errors ≠ [] := by decide
  exact ⟨ofTable.trans fault, sound.blocked (by rw [ofTable, fault]; exact List.cons_ne_nil _ _),
    valid, (ofQuery valid).resolve_left refused, soundQuery.blocked refused⟩

end SchemaCompiler
