/-
**Adapting a schema drops only what is not written.**

A database without errors in a dialect has supported types and numbers its rows where it may, so
adapting it to that dialect drops lengths and precisions that no type name shows and checks that are
not written. What is shown of the tables stays, so the text stays too.

* `Column.definition_adaptTo` — the definition of an adapted column.
* `Database.errors_adaptTo` — an adapted database is still without errors.
* `Database.generate_adaptTo` — it has the same text, character for character.
-/

import SchemaCompiler.Proofs.Generation.CreateText
import SchemaCompiler.Proofs.Generation.WrittenAlike
import SchemaCompiler.Proofs.Migration.TypeNames
import SchemaCompiler.Proofs.Migration.ValidAdaptation

namespace SchemaCompiler

/-! ### Columns -/

namespace Column

variable {c : Column} {d : Dialect} {keyCount : Nat}

theorem substituted_of_supports (supported : d.supports c.dataType = true) :
    c.substituted d = c :=
  if_pos (d.substitute_of_supports supported)

/-- Only MySQL has constraints that it cannot express. -/
theorem keeping_supportsConstraint (checked : d ≠ .mysql) :
    c.keeping d.supportsConstraint = c := by
  have all : ∀ constraint ∈ c.constraints, d.supportsConstraint constraint = true := by
    intro constraint _
    cases d with
    | mysql => exact absurd rfl checked
    | postgres => rfl
    | sqlite => rfl
  rw [keeping, List.filter_eq_self.mpr all]

/-- Numbered rows that are in their place stay. -/
theorem withoutMisplacedCount_of_placed
    (placed : d = .sqlite → c.isAutoIncrement = true → c.mayCountInSqlite keyCount = true) :
    c.withoutMisplacedCount d keyCount = c := by
  refine if_neg fun misplaced => ?_
  simp only [Bool.and_eq_true, beq_iff_eq, Bool.not_eq_true'] at misplaced
  obtain ⟨⟨isSqlite, counts⟩, outOfPlace⟩ := misplaced
  rw [placed isSqlite counts] at outOfPlace
  cases outOfPlace

theorem withoutMisplacedCount_of_valid (valid : c.autoIncrementErrors d keyCount = []) :
    c.withoutMisplacedCount d keyCount = c :=
  withoutMisplacedCount_of_placed fun isSqlite counts =>
    (autoIncrementErrors_eq_nil_iff.mp valid counts).2 isSqlite

/-! ### What is dropped -/

/-- The column without what the dialect does not write. -/
def dropped (c : Column) (d : Dialect) : Column :=
  (c.withoutIgnored d).keeping d.supportsConstraint

theorem kept_dropped : Kept (c.dropped d) c :=
  ⟨rfl, rfl, rfl, rfl, rfl, rfl⟩

theorem dataType_dropped : (c.dropped d).dataType = c.dataType := rfl

theorem has_dropped {constraint : Constraint} (supported : d.supportsConstraint constraint = true) :
    (c.dropped d).has constraint = c.has constraint := by
  rw [dropped, has_keeping, supported, Bool.true_and]
  rfl

theorem isAutoIncrement_dropped : (c.dropped d).isAutoIncrement = c.isAutoIncrement :=
  has_dropped (by cases d <;> rfl)

theorem isPrimaryKey_dropped : (c.dropped d).isPrimaryKey = c.isPrimaryKey :=
  has_dropped (by cases d <;> rfl)

theorem autoIncrementErrors_dropped :
    (c.dropped d).autoIncrementErrors d keyCount = c.autoIncrementErrors d keyCount := by
  unfold autoIncrementErrors mayCountInSqlite
  rw [isAutoIncrement_dropped, isPrimaryKey_dropped, dataType_dropped]

/-- The clauses of a column show nothing of what is dropped. -/
theorem clauses_dropped (inlineKey comments : Bool) :
    (c.dropped d).clauses d inlineKey comments = c.clauses d inlineKey comments := by
  have sameUnique : (c.dropped d).isUnique = c.isUnique := has_dropped (by cases d <;> rfl)
  have sameNotNull : (c.dropped d).isNotNull = c.isNotNull := by
    rw [isNotNull, isNotNull, has_dropped (by cases d <;> rfl), isPrimaryKey_dropped,
      kept_dropped.nullable]
  have sameExtension : (c.dropped d).extension? d = c.extension? d := by
    funext key
    rw [extension?, extension?, kept_dropped.extensions]
  have sameCollate : (c.dropped d).collateClause d = c.collateClause d := by
    rw [collateClause, collateClause, sameExtension]
  have sameDefault : (c.dropped d).defaultClause d = c.defaultClause d := by
    rw [defaultClause, defaultClause, Dialect.defaultLiteral?, Dialect.defaultLiteral?, default?,
      default?, kept_dropped.defaultText, dataType_dropped]
  have sameChecks : d ≠ .mysql → (c.dropped d).checkExpressions = c.checkExpressions := by
    intro checked
    rw [dropped, keeping_supportsConstraint checked]
    rfl
  cases d with
  | mysql =>
    simp only [clauses, dataType_dropped, sameExtension, sameCollate, sameNotNull, sameDefault,
      isAutoIncrement_dropped, isPrimaryKey_dropped, sameUnique, kept_dropped.comment]
  | postgres =>
    simp only [clauses, sameCollate, sameNotNull, sameDefault, isPrimaryKey_dropped, sameUnique,
      sameChecks (by decide)]
  | sqlite =>
    simp only [clauses, sameCollate, sameNotNull, sameDefault, isAutoIncrement_dropped,
      isPrimaryKey_dropped, sameChecks (by decide)]

/-- A column without errors loses no more than lengths, precisions and checks. -/
theorem adaptTo_of_valid (valid : c.errors d keyCount = []) :
    c.adaptTo d keyCount = c.dropped d := by
  obtain ⟨-, supported, -, -, countValid⟩ := errors_eq_nil_iff.mp valid
  rw [adaptTo, substituted_of_supports supported]
  refine withoutMisplacedCount_of_valid ?_
  exact autoIncrementErrors_dropped.trans countValid

/-- **The definition of an adapted column** is that of the column, when nothing is wrong with it. -/
theorem definition_adaptTo (valid : c.errors d keyCount = []) (options : GenerateOptions)
    (inlineKey comments : Bool) :
    (c.adaptTo d keyCount).definition d options inlineKey comments =
      c.definition d options inlineKey comments := by
  rw [definition, definition, d.typeName_adaptTo options c keyCount, adaptTo_of_valid valid,
    clauses_dropped, kept_dropped.name]

theorem writtenAlike_adaptTo (valid : c.errors d keyCount = []) (options : GenerateOptions) :
    c.WrittenAlike d options (c.adaptTo d keyCount) where
  id := (kept_adaptTo c d keyCount).id.symm
  name := (kept_adaptTo c d keyCount).name.symm
  isPrimaryKey := (isPrimaryKey_adaptTo c d keyCount).symm
  comment := fun _ => (kept_adaptTo c d keyCount).comment.symm
  definition := fun inlineKey => (definition_adaptTo valid options inlineKey _).symm

/-- A default stays valid with its type. -/
theorem defaultErrors_adaptTo_of_valid (valid : c.errors d keyCount = []) :
    (c.adaptTo d keyCount).defaultErrors = [] := by
  obtain ⟨-, supported, -, defaultValid, -⟩ := errors_eq_nil_iff.mp valid
  rw [defaultErrors_eq_nil_iff, default?_adaptTo, dataType_adaptTo,
    d.substitute_of_supports supported]
  exact defaultErrors_eq_nil_iff.mp defaultValid

end Column

/-! ### Tables -/

namespace Table

variable {t : Table} {d : Dialect}

theorem writtenAlike_adaptTo (valid : t.errors d = []) (options : GenerateOptions) :
    t.WrittenAlike d options (t.adaptTo d) where
  id := rfl
  name := rfl
  columns := by
    obtain ⟨-, -, -, columnsValid, -, -⟩ := errors_eq_nil_iff.mp valid
    refine Traversal.forall₂_map fun c member => ?_
    exact Column.writtenAlike_adaptTo (columnsValid c member) options
  relationships := rfl
  indexes := rfl
  keyName := rfl
  comment := fun _ => rfl

theorem errors_adaptTo (valid : t.errors d = []) : (t.adaptTo d).errors d = [] := by
  obtain ⟨-, -, -, columnsValid, -, -⟩ := errors_eq_nil_iff.mp valid
  exact (errors_adaptTo_eq_nil_iff valid).mpr fun c member =>
    Column.defaultErrors_adaptTo_of_valid (columnsValid c member)

end Table

/-! ### Databases -/

namespace Database

variable {db : Database} {d : Dialect}

theorem writtenAlike_adaptTo (valid : db.errors d = []) (options : GenerateOptions) :
    List.Forall₂ (Table.WrittenAlike d options) db.tables (db.adaptTo d).tables := by
  obtain ⟨-, tablesValid⟩ := errors_eq_nil_iff.mp valid
  refine Traversal.forall₂_map fun t member => ?_
  exact Table.writtenAlike_adaptTo (tablesValid t member) options

/-- **An adapted database is still without errors.** -/
theorem errors_adaptTo (valid : db.errors d = []) : (db.adaptTo d).errors d = [] := by
  obtain ⟨unrepeated, tablesValid⟩ := errors_eq_nil_iff.mp valid
  refine errors_eq_nil_iff.mpr ⟨?_, ?_⟩
  · have sameKey : (fun t : Table => nameKey t.name) ∘ (Table.adaptTo · d) =
        fun t => nameKey t.name := rfl
    show repeated _ (db.tables.map _) = []
    rw [repeated_map, sameKey, unrepeated, List.map_nil]
  · show ∀ t ∈ db.tables.map _, _
    exact List.forall_mem_map.mpr fun t member => Table.errors_adaptTo (tablesValid t member)

/-- **Adapting a schema drops only what is not written.** A database without errors has the same
text after it was adapted to the dialect, and still no errors. -/
theorem generate_adaptTo (options : GenerateOptions) (valid : (db.validate d).errors = []) :
    (db.generate d options).errors = [] ∧ ((db.adaptTo d).generate d options).errors = [] ∧
      ((db.adaptTo d).generate d options).sql = (db.generate d options).sql := by
  have noErrors := validate_errors_eq_nil_iff.mp valid
  have sameTexts := createTexts_of_alike (writtenAlike_adaptTo noErrors options)
  obtain ⟨texts, -, created⟩ := exists_createTexts noErrors options
  obtain ⟨generated, sql⟩ := generate_of_valid noErrors created
  obtain ⟨stillGenerated, sameSql⟩ :=
    generate_of_valid (errors_adaptTo noErrors) (sameTexts.symm.trans created)
  exact ⟨generated, stillGenerated, sameSql.trans sql.symm⟩

/-! ### A database with something to drop -/

/-- Items with a length on a text and a check on a price, for which MySQL has no use. -/
def stock : Database :=
  { id := "d", name := "stock",
    tables :=
      [ { id := "t", name := "items",
          columns :=
            [ { id := "k", name := "id", dataType := .integer, nullable := false,
                constraints := [.primaryKey, .autoIncrement] },
              { id := "l", name := "title", dataType := .text, length := some 80 },
              { id := "p", name := "price", dataType := .decimal, precision := some 10,
                scale := some 2, constraints := [.check "price > 0"] } ] } ] }

theorem generate_adaptTo_stock :
    (stock.validate .mysql).errors = [] ∧
      (stock.adaptTo .mysql).tables.map (·.columns) ≠ stock.tables.map (·.columns) ∧
      (stock.generate .mysql {}).errors = [] ∧
      ((stock.adaptTo .mysql).generate .mysql {}).errors = [] ∧
      ((stock.adaptTo .mysql).generate .mysql {}).sql = (stock.generate .mysql {}).sql := by
  have valid : (stock.validate .mysql).errors = [] := by decide
  exact ⟨valid, by decide, generate_adaptTo {} valid⟩

end Database

end SchemaCompiler
