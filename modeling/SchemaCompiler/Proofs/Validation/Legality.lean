/-
**Legal schemas.**

What a table has to be like for a dialect to take it, said rule by rule and without the checks:

* a column is named by an identifier, has a type of the dialect, is not nullable and NOT_NULL at
  once, and has no default that its type refuses; it numbers its rows only by numbers, and in SQLite
  only as the integer key of the table;
* a table has columns, is named by an identifier that is no reserved word, and its columns are legal
  and have distinct names; its indexes are over columns, at least one, and the relationships that it
  owns start at one of its columns;
* the tables of a database are legal, and have distinct names.

The checks report no errors exactly for legal tables and databases (`validate_errors_iff_isLegal`).
-/

import Mathlib.Data.List.Nodup
import SchemaCompiler.Proofs.Validation.Names

namespace SchemaCompiler

/-! ### Identifiers -/

/-- An ASCII letter or an underscore. -/
def StartsIdentifier (c : Char) : Prop :=
  ('A' ≤ c ∧ c ≤ 'Z') ∨ ('a' ≤ c ∧ c ≤ 'z') ∨ c = '_'

/-- An ASCII letter, a digit or an underscore. -/
def ContinuesIdentifier (c : Char) : Prop :=
  StartsIdentifier c ∨ ('0' ≤ c ∧ c ≤ '9')

/-- An ASCII letter or an underscore, followed by letters, digits and underscores. -/
def IsIdentifier (name : String) : Prop :=
  ∃ first rest, name.toList = first :: rest ∧ StartsIdentifier first ∧
    ∀ c ∈ rest, ContinuesIdentifier c

theorem startsIdentifier_iff {c : Char} :
    StartsIdentifier c ↔ (c.isAlpha || decide (c = '_')) = true := by
  have letters : c.isAlpha =
      (decide (c.val ≥ 'A'.val ∧ c.val ≤ 'Z'.val) ||
        (decide (c.val ≥ 'a'.val) && decide (c.val ≤ 'z'.val))) := rfl
  simp [StartsIdentifier, letters, Char.le_def, or_assoc]

theorem continuesIdentifier_iff {c : Char} : ContinuesIdentifier c ↔ inBareName c = true := by
  simp [ContinuesIdentifier, startsIdentifier_iff, inBareName, Char.isAlphanum, Char.isDigit,
    Char.le_def]
  tauto

/-- The test for identifiers is right. -/
theorem isIdentifier_iff {name : String} : IsIdentifier name ↔ isValidIdentifier name = true := by
  unfold IsIdentifier isValidIdentifier
  cases chars : name.toList with
  | nil => simp
  | cons first rest =>
    simp only [List.cons.injEq, Bool.and_eq_true, List.all_eq_true, ← continuesIdentifier_iff,
      ← startsIdentifier_iff]
    constructor
    · rintro ⟨_, _, ⟨rfl, rfl⟩, starts, continues⟩
      exact ⟨starts, continues⟩
    · rintro ⟨starts, continues⟩
      exact ⟨first, rest, ⟨rfl, rfl⟩, starts, continues⟩

/-! ### Distinct keys -/

/-- No item is repeated exactly when the keys other than the empty one are distinct. -/
theorem repeated_eq_nil_iff_nodup {α : Type} {key : α → String} {items : List α} :
    repeated key items = [] ↔ ((items.map key).filter (· ≠ "")).Nodup := by
  rw [repeated_eq_nil_iff, List.Nodup, List.pairwise_filter, List.pairwise_map]
  refine List.Pairwise.iff fun first second => ?_
  simp only [ne_eq, decide_eq_true_eq]
  constructor
  · exact fun differ _ => differ
  · intro differ named same
    exact differ (same ▸ named) named same

/-! ### Rules -/

/-- Whether an id is the one of a column. -/
def Table.HasColumn (t : Table) (id : String) : Prop :=
  ∃ c ∈ t.columns, c.id = id

/-- What a column of a table has to be like for a dialect. -/
structure Column.IsLegal (c : Column) (t : Table) (d : Dialect) : Prop where
  name : IsIdentifier (Text.trim c.name)
  dataType : d.supports c.dataType = true
  nullable : ¬ (c.nullable = true ∧ Constraint.notNull ∈ c.constraints)
  default : ∀ text, c.defaultText = some text →
    Text.trim text = "" ∨ Literal.isValidDefault c.dataType (Text.trim text) = true
  counting : Constraint.autoIncrement ∈ c.constraints →
    c.dataType.isNumeric = true ∧
      (d = .sqlite → c.dataType.isInteger = true ∧ t.primaryKey = [c])

/-- What a table has to be like for a dialect. -/
structure Table.IsLegal (t : Table) (d : Dialect) : Prop where
  nonempty : t.columns ≠ []
  name : IsIdentifier (Text.trim t.name)
  unreserved : isReservedWord (Text.trim t.name) = false
  distinct : (t.columns.map fun c => nameKey c.name).Nodup
  columns : ∀ c ∈ t.columns, c.IsLegal t d
  indexes : ∀ index ∈ t.indexes, index.columnIds ≠ [] ∧ ∀ id ∈ index.columnIds, t.HasColumn id
  relationships : ∀ r ∈ t.relationships, r.sourceTableId = t.id → t.HasColumn r.sourceColumnId

/-- What a database has to be like for a dialect. -/
structure Database.IsLegal (db : Database) (d : Dialect) : Prop where
  tables : ∀ t ∈ db.tables, t.IsLegal d
  distinct : ((db.tables.map fun t => nameKey t.name).filter (· ≠ "")).Nodup

/-! ### Columns -/

namespace Column

variable {c : Column} {t : Table} {d : Dialect}

theorem nameErrors_eq_nil_iff : c.nameErrors = [] ↔ IsIdentifier (Text.trim c.name) := by
  rw [isIdentifier_iff]
  unfold nameErrors
  by_cases empty : Text.trim c.name = ""
  · simp [empty, isValidIdentifier]
  · simp [empty]

/-- The default is looked at without its blanks, unless it is blank. -/
theorem defaultErrors_eq_nil_iff_of_text :
    c.defaultErrors = [] ↔ ∀ text, c.defaultText = some text →
      Text.trim text = "" ∨ Literal.isValidDefault c.dataType (Text.trim text) = true := by
  rw [defaultErrors_eq_nil_iff]
  cases given : c.defaultText with
  | none => simp [default?, Text.trim?, given]
  | some text =>
    by_cases blank : Text.trim text = ""
    · simp [default?, Text.trim?, given, blank]
    · simp [default?, Text.trim?, given, blank]

/-- A column is all of the primary key when it belongs to a key of one column. -/
theorem mayCountInSqlite_iff (member : c ∈ t.columns) :
    c.mayCountInSqlite t.primaryKey.length = true ↔
      c.dataType.isInteger = true ∧ t.primaryKey = [c] := by
  have inKey : c ∈ t.primaryKey ↔ c.isPrimaryKey = true := by
    simp [Table.primaryKey, member]
  simp only [mayCountInSqlite, Bool.and_eq_true, beq_iff_eq, ← inKey, and_assoc]
  refine and_congr_right fun _ => ⟨fun ⟨isKey, single⟩ => ?_, fun alone => by simp [alone]⟩
  obtain ⟨only, isOnly⟩ := List.length_eq_one_iff.mp single
  rw [isOnly] at isKey ⊢
  rw [List.mem_singleton.mp isKey]

/-- **A column has no errors exactly when it is legal.** -/
theorem errors_eq_nil_iff_isLegal (member : c ∈ t.columns) :
    c.errors d t.primaryKey.length = [] ↔ c.IsLegal t d := by
  have carries : ∀ constraint, c.has constraint = true ↔ constraint ∈ c.constraints := fun _ =>
    List.contains_iff_mem
  rw [errors_eq_nil_iff, nameErrors_eq_nil_iff, defaultErrors_eq_nil_iff_of_text,
    autoIncrementErrors_eq_nil_iff, mayCountInSqlite_iff member, ← Bool.not_eq_true,
    Bool.and_eq_true, carries, isAutoIncrement, carries]
  exact ⟨fun ⟨name, dataType, nullable, default, counting⟩ =>
      ⟨name, dataType, nullable, default, counting⟩,
    fun ⟨name, dataType, nullable, default, counting⟩ =>
      ⟨name, dataType, nullable, default, counting⟩⟩

end Column

/-! ### Tables -/

namespace Table

variable {t : Table} {d : Dialect}

theorem columnById?_eq_none_iff {id : String} : t.columnById? id = none ↔ ¬ t.HasColumn id := by
  simp [columnById?, HasColumn]

theorem nameErrors_eq_nil_iff :
    t.nameErrors = [] ↔
      IsIdentifier (Text.trim t.name) ∧ isReservedWord (Text.trim t.name) = false := by
  rw [isIdentifier_iff]
  unfold nameErrors
  by_cases empty : Text.trim t.name = ""
  · simp [empty, isValidIdentifier]
  · by_cases identifier : isValidIdentifier (Text.trim t.name) = true
    · simp [empty, identifier]
    · simp [empty, identifier]

theorem indexErrors_eq_nil_iff {index : Index} :
    t.indexErrors index = [] ↔
      index.columnIds ≠ [] ∧ ∀ id ∈ index.columnIds, t.HasColumn id := by
  simp [indexErrors, columnById?_eq_none_iff]

theorem relationshipErrors_eq_nil_iff :
    t.relationshipErrors = [] ↔
      ∀ r ∈ t.relationships, r.sourceTableId = t.id → t.HasColumn r.sourceColumnId := by
  simp only [relationshipErrors, ownRelationships, hasSource, List.map_eq_nil_iff,
    List.filter_eq_nil_iff, List.mem_filter, beq_iff_eq, Bool.not_eq_true', Option.isSome_eq_false_iff,
    Option.isNone_iff_eq_none, columnById?_eq_none_iff, not_not, and_imp]

/-- The key of an identifier as a name is not empty, so no name is left out when names of columns are
compared. -/
theorem repeatedColumns_eq_nil_iff (named : ∀ c ∈ t.columns, IsIdentifier (Text.trim c.name)) :
    t.repeatedColumns = [] ↔ (t.columns.map fun c => nameKey c.name).Nodup := by
  have keyed : ∀ c ∈ t.columns, nameKey c.name ≠ "" := fun c member =>
    lower_ne_empty_of_isValidIdentifier (isIdentifier_iff.mp (named c member))
  have kept : (t.columns.map fun c => nameKey c.name).filter (· ≠ "") =
      t.columns.map fun c => nameKey c.name :=
    List.filter_eq_self.mpr fun name member => by
      obtain ⟨c, inColumns, rfl⟩ := List.mem_map.mp member
      simpa using keyed c inColumns
  rw [repeatedColumns, List.map_eq_nil_iff, repeated_eq_nil_iff_nodup, kept]

/-- **A table has no errors exactly when it is legal.** -/
theorem errors_eq_nil_iff_isLegal : t.errors d = [] ↔ t.IsLegal d := by
  rw [errors_eq_nil_iff, nameErrors_eq_nil_iff, relationshipErrors_eq_nil_iff]
  simp only [indexErrors_eq_nil_iff]
  constructor
  · rintro ⟨nonempty, ⟨name, unreserved⟩, unrepeated, columns, indexes, relationships⟩
    have legal : ∀ c ∈ t.columns, c.IsLegal t d := fun c member =>
      (Column.errors_eq_nil_iff_isLegal member).mp (columns c member)
    have distinct := (repeatedColumns_eq_nil_iff fun c member => (legal c member).name).mp unrepeated
    exact ⟨nonempty, name, unreserved, distinct, legal, indexes, relationships⟩
  · rintro ⟨nonempty, name, unreserved, distinct, legal, indexes, relationships⟩
    have unrepeated :=
      (repeatedColumns_eq_nil_iff fun c member => (legal c member).name).mpr distinct
    exact ⟨nonempty, ⟨name, unreserved⟩, unrepeated,
      fun c member => (Column.errors_eq_nil_iff_isLegal member).mpr (legal c member), indexes,
      relationships⟩

instance : Decidable (t.IsLegal d) :=
  decidable_of_iff (t.errors d = []) errors_eq_nil_iff_isLegal

/-- Tickets number their rows in a key of two columns. -/
def tickets : Table :=
  { id := "t", name := "tickets", columns := [
      { id := "n", name := "number", dataType := .bigInt, nullable := false,
        constraints := [.primaryKey, .autoIncrement] },
      { id := "d", name := "desk", dataType := .varchar, defaultText := some " 'main' ",
        nullable := false, constraints := [.primaryKey] }],
    indexes := [{ id := "i", name := "by_desk", columnIds := ["d", "n"] }] }

example : tickets.IsLegal .mysql ∧ ¬ tickets.IsLegal .sqlite := by decide

end Table

/-! ### Databases -/

/-- **A database has no errors exactly when it is legal.** -/
theorem Database.errors_eq_nil_iff_isLegal {db : Database} {d : Dialect} :
    db.errors d = [] ↔ db.IsLegal d := by
  rw [errors_eq_nil_iff, repeated_eq_nil_iff_nodup]
  simp only [Table.errors_eq_nil_iff_isLegal]
  exact ⟨fun ⟨distinct, tables⟩ => ⟨tables, distinct⟩, fun ⟨tables, distinct⟩ => ⟨distinct, tables⟩⟩

/-- **A report is free of errors exactly for what is legal**: tables by themselves, and databases. -/
theorem validate_errors_iff_isLegal :
    (∀ (t : Table) (d : Dialect), (t.validate d).errors = [] ↔ t.IsLegal d) ∧
      ∀ (db : Database) (d : Dialect), (db.validate d).errors = [] ↔ db.IsLegal d :=
  ⟨fun _ _ => Table.validate_errors_eq_nil_iff.trans Table.errors_eq_nil_iff_isLegal,
    fun _ _ => Database.validate_errors_eq_nil_iff.trans Database.errors_eq_nil_iff_isLegal⟩

end SchemaCompiler
