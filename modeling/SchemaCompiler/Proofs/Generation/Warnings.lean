/-
**The warnings of a generated database.**

What the check of a database warns of is what its generation warns of: the relationships that are
skipped while tables are written were found by the check already, in the same words, and a warning
stands once. One warning comes after those of the check, when the tables are written as declared
because they cannot be put in order.

* `Database.skippedText_mem_validate` — the check warns of every relationship that is skipped.
* `DatabaseWarning.message_ne_declaredOrderText` — it never has the words of the warning about order.
* `Database.generate_warnings` — the warnings of a generated database.
-/

import SchemaCompiler.Proofs.Dependency.Marks
import SchemaCompiler.Proofs.Generation.Outcomes

namespace SchemaCompiler

/-! ### The words of warnings -/

/-- The words with which the warnings of a check begin. -/
def warningStarts : List String :=
  ["Column '", "Table '", "Relationship '", "Relationship cycle detected: "]

theorem ColumnWarning.exists_rest (d : Dialect) (table : String) (c : Column)
    (warning : ColumnWarning) : ∃ rest, warning.message d table c = "Column '" ++ rest := by
  cases warning <;> unfold message <;> simp only [String.append_assoc] <;> exact ⟨_, rfl⟩

theorem TableWarning.exists_start (d : Dialect) (t : Table) (warning : TableWarning) :
    ∃ start ∈ warningStarts, ∃ rest, warning.message d t = start ++ rest := by
  cases warning with
  | column c warning => exact ⟨"Column '", by decide, warning.exists_rest d t.name c⟩
  | noPrimaryKey | unnamedKey =>
    refine ⟨"Table '", by decide, ?_⟩
    unfold message
    simp only [String.append_assoc]
    exact ⟨_, rfl⟩
  | misplacedRelationship | setDefaultRejected =>
    refine ⟨"Relationship '", by decide, ?_⟩
    unfold message
    simp only [String.append_assoc]
    exact ⟨_, rfl⟩

/-- Every warning of the check of a database begins with one of these words. -/
theorem DatabaseWarning.exists_start (d : Dialect) (warning : DatabaseWarning) :
    ∃ start ∈ warningStarts, ∃ rest, warning.message d = start ++ rest := by
  cases warning with
  | table t warning => exact warning.exists_start d t
  | unresolved r cause =>
    refine ⟨"Relationship '", by decide, ?_⟩
    unfold message Relationship.skippedText
    simp only [String.append_assoc]
    exact ⟨_, rfl⟩
  | cycle tables => exact ⟨"Relationship cycle detected: ", by decide, _, rfl⟩

/-- **The warning about the order of tables** is no warning of the check. -/
theorem DatabaseWarning.message_ne_declaredOrderText (d : Dialect) (warning : DatabaseWarning) :
    warning.message d ≠ Database.declaredOrderText := by
  obtain ⟨start, isStart, rest, form⟩ := warning.exists_start d
  have others : ∀ start ∈ warningStarts, ¬ start.toList <+: Database.declaredOrderText.toList := by
    decide
  intro same
  refine others start isStart ⟨rest.toList, ?_⟩
  rw [← String.toList_append, ← form, same]

/-! ### Relationships that are skipped -/

theorem Table.mem_skippedRelationships {t : Table} {tables : List Table} {text : String} :
    text ∈ t.skippedRelationships tables ↔
      ∃ r ∈ t.ownRelationships, ∃ cause, r.resolve t tables = .error cause ∧
        text = r.skippedText cause := by
  rw [skippedRelationships, List.mem_filterMap]
  refine exists_congr fun r => and_congr_right fun _ => ?_
  cases r.resolve t tables with
  | error cause => simp [eq_comm]
  | ok ends => simp

namespace Database

variable {db : Database} {d : Dialect} {options : GenerateOptions}

/-- The warnings of a check stand once each. -/
theorem nodup_warnings_validate (db : Database) (d : Dialect) : (db.validate d).warnings.Nodup :=
  nodup_eraseDups _

theorem mem_warnings_validate {text : String} :
    text ∈ (db.validate d).warnings ↔ ∃ warning ∈ db.warnings d, warning.message d = text := by
  rw [validate, Report.of, List.mem_eraseDups, List.mem_map]

/-- **The check warns of every relationship that is skipped**, in the same words. -/
theorem skippedText_mem_validate (valid : db.errors d = []) {t : Table} (member : t ∈ db.tables)
    {text : String} (skipped : text ∈ t.skippedRelationships db.tables) :
    text ∈ (db.validate d).warnings := by
  obtain ⟨r, own, cause, fails, rfl⟩ := Table.mem_skippedRelationships.mp skipped
  have hasSource : t.hasSource r = true := by
    obtain ⟨-, -, -, -, -, noFault⟩ :=
      Table.errors_eq_nil_iff.mp ((errors_eq_nil_iff.mp valid).2 t member)
    simp only [Table.relationshipErrors, List.map_eq_nil_iff, List.filter_eq_nil_iff] at noFault
    simpa using noFault r own
  have found : .unresolved r cause ∈ db.unresolved t := by
    refine List.mem_filterMap.mpr ⟨r, List.mem_filter.mpr ⟨own, hasSource⟩, ?_⟩
    rw [fails]
  refine mem_warnings_validate.mpr ⟨.unresolved r cause, ?_, rfl⟩
  exact List.mem_append_left _ (List.mem_flatMap.mpr ⟨t, member, List.mem_append_right _ found⟩)

theorem declaredOrderText_notMem_validate (db : Database) (d : Dialect) :
    declaredOrderText ∉ (db.validate d).warnings := fun member => by
  obtain ⟨warning, -, same⟩ := mem_warnings_validate.mp member
  exact warning.message_ne_declaredOrderText d same

/-- The warning about the order of tables is due when a circle is found. -/
theorem orderWarnings_eq (db : Database) :
    db.orderWarnings =
      if (Dependency.findCycle? db.tables).isSome then [declaredOrderText] else [] := by
  have same : (Dependency.dependencyOrder? db.tables).isNone = true ↔
      (Dependency.findCycle? db.tables).isSome = true := by
    rw [Option.isNone_iff_eq_none]
    exact Dependency.dependencyOrder?_eq_none_iff
  rw [orderWarnings]
  simp only [same]

/-- Of the warnings that come up while tables are written, only the one about their order is new. -/
theorem eraseDups_warnings (valid : db.errors d = []) :
    ((db.validate d).warnings ++
        (db.orderWarnings ++ db.writtenTables.flatMap (·.skippedRelationships db.tables))).eraseDups =
      (db.validate d).warnings ++
        if (Dependency.findCycle? db.tables).isSome then [declaredOrderText] else [] := by
  have known : db.writtenTables.flatMap (·.skippedRelationships db.tables) ⊆
      (db.validate d).warnings ++ db.orderWarnings := by
    intro text member
    obtain ⟨t, written, skipped⟩ := List.mem_flatMap.mp member
    exact List.mem_append_left _
      (skippedText_mem_validate valid (mem_tables_of_mem_writtenTables written) skipped)
  have distinct : ((db.validate d).warnings ++ db.orderWarnings).Nodup := by
    rw [orderWarnings_eq]
    refine (nodup_warnings_validate db d).append (by split <;> simp) ?_
    split
    · exact List.disjoint_singleton.mpr (declaredOrderText_notMem_validate db d)
    · exact List.disjoint_nil_right _
  rw [← List.append_assoc, eraseDups_append_of_subset known, eraseDups_of_nodup distinct,
    orderWarnings_eq]

/-- **The warnings of a generated database** are those of its check in the same order, and after them
the one about the order of tables exactly when there are no errors and a circle is found. Every
relationship that is skipped is among the warnings of the check, and stands once. -/
theorem generate_warnings (db : Database) (d : Dialect) (options : GenerateOptions) :
    ((db.generate d options).warnings = (db.validate d).warnings ++
      if (db.validate d).errors = [] ∧ (Dependency.findCycle? db.tables).isSome = true then
        [declaredOrderText] else []) ∧
      ((db.validate d).errors = [] → ∀ t ∈ db.tables,
        ∀ text ∈ t.skippedRelationships db.tables,
          text ∈ (db.validate d).warnings ∧ (db.generate d options).warnings.count text = 1) := by
  have same : (db.generate d options).warnings = (db.validate d).warnings ++
      if (db.validate d).errors = [] ∧ (Dependency.findCycle? db.tables).isSome = true then
        [declaredOrderText] else [] := by
    by_cases valid : (db.validate d).errors = []
    · obtain ⟨texts, -, created⟩ := exists_createTexts (validate_errors_eq_nil_iff.mp valid) options
      simp only [valid, true_and]
      rw [generate, created, Except.map, GeneratedSql.ofChecked_of_valid valid]
      exact eraseDups_warnings (validate_errors_eq_nil_iff.mp valid)
    · rw [if_neg fun due => valid due.1, List.append_nil, generate,
        GeneratedSql.ofChecked_of_invalid valid]
      exact eraseDups_of_nodup (nodup_warnings_validate db d)
  refine ⟨same, fun valid t member text skipped => ?_⟩
  have known := skippedText_mem_validate (validate_errors_eq_nil_iff.mp valid) member skipped
  have distinct : (db.generate d options).warnings.Nodup :=
    (GeneratedSql.IsSound.ofChecked ..).distinct
  exact ⟨known, List.count_eq_one_of_mem distinct (same ▸ List.mem_append_left _ known)⟩

/-- Employees and departments, which refer to one another. -/
def company : Database := { id := "c", name := "company", tables := Dependency.Staff.tables }

theorem generate_warnings_company :
    (company.validate .postgres).errors = [] ∧
      (company.generate .postgres {}).warnings =
        (company.validate .postgres).warnings ++ [declaredOrderText] ∧
      "Relationship 'wears' skipped: target table 'b' not found" ∈
        (company.validate .postgres).warnings ∧
      (company.generate .postgres {}).warnings.count
        "Relationship 'wears' skipped: target table 'b' not found" = 1 := by
  have valid : (company.validate .postgres).errors = [] := by decide
  obtain ⟨same, listed⟩ := generate_warnings company .postgres {}
  have skipped : "Relationship 'wears' skipped: target table 'b' not found" ∈
      Dependency.Staff.employees.skippedRelationships company.tables := by decide
  rw [if_pos ⟨valid, by rw [company, Dependency.Staff.findCycle?_tables]; rfl⟩] at same
  exact ⟨valid, same, listed valid _ List.mem_cons_self _ skipped⟩

end Database

end SchemaCompiler
