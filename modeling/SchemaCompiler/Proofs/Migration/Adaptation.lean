/-
**What adapting a schema changes.**

A column is adapted in four steps. None of them touches more than the type, the length, the
precision, the scale and the constraints, and of the constraints only checks and the numbering of
rows can go.

* `Column.kept_adaptTo` — the fields that stay.
* `Column.dataType_adaptTo`, `Column.has_adaptTo` — the type, and the constraints that stay.
* `Column.autoIncrementErrors_adaptTo` — the numbering of rows is in its place afterwards.
* `Table.columnById?_adaptTo`, `Table.primaryKey_adaptTo` — the columns of a table are found and
  counted as before.
-/

import SchemaCompiler.Migration.Adaptation
import SchemaCompiler.Proofs.Validation.Errors

namespace SchemaCompiler

namespace Column

variable (c : Column) (d : Dialect) (keyCount : Nat)

/-! ### Fields that stay -/

/-- Two columns that differ in type, length, precision, scale and constraints at most. -/
structure Kept (c other : Column) : Prop where
  id : c.id = other.id
  name : c.name = other.name
  nullable : c.nullable = other.nullable
  defaultText : c.defaultText = other.defaultText
  comment : c.comment = other.comment
  extensions : c.extensions = other.extensions

theorem Kept.trans {a b c : Column} (first : Kept a b) (second : Kept b c) : Kept a c :=
  ⟨first.id.trans second.id, first.name.trans second.name, first.nullable.trans second.nullable,
    first.defaultText.trans second.defaultText, first.comment.trans second.comment,
    first.extensions.trans second.extensions⟩

theorem kept_substituted : Kept (c.substituted d) c := by
  unfold substituted
  by_cases same : d.substitute c.dataType = c.dataType
  · rw [if_pos same]
    exact ⟨rfl, rfl, rfl, rfl, rfl, rfl⟩
  · rw [if_neg same]
    exact ⟨rfl, rfl, rfl, rfl, rfl, rfl⟩

theorem kept_withoutIgnored : Kept (c.withoutIgnored d) c :=
  ⟨rfl, rfl, rfl, rfl, rfl, rfl⟩

theorem kept_keeping (keep : Constraint → Bool) : Kept (c.keeping keep) c :=
  ⟨rfl, rfl, rfl, rfl, rfl, rfl⟩

theorem kept_withoutMisplacedCount : Kept (c.withoutMisplacedCount d keyCount) c := by
  unfold withoutMisplacedCount
  split
  · exact kept_keeping c _
  · exact ⟨rfl, rfl, rfl, rfl, rfl, rfl⟩

/-- **An adapted column keeps** its id, name, nullability, default, comment and overrides. -/
theorem kept_adaptTo : Kept (c.adaptTo d keyCount) c :=
  ((kept_withoutMisplacedCount _ d keyCount).trans (kept_keeping _ _)).trans
    ((kept_withoutIgnored _ d).trans (kept_substituted c d))

/-! ### The type -/

theorem dataType_substituted : (c.substituted d).dataType = d.substitute c.dataType := by
  unfold substituted
  by_cases same : d.substitute c.dataType = c.dataType
  · rw [if_pos same, same]
  · rw [if_neg same]

theorem dataType_withoutMisplacedCount :
    (c.withoutMisplacedCount d keyCount).dataType = c.dataType := by
  unfold withoutMisplacedCount
  split <;> rfl

theorem dataType_adaptTo : (c.adaptTo d keyCount).dataType = d.substitute c.dataType := by
  rw [adaptTo, dataType_withoutMisplacedCount]
  exact dataType_substituted c d

/-! ### The constraints -/

theorem constraints_substituted : (c.substituted d).constraints = c.constraints := by
  unfold substituted
  by_cases same : d.substitute c.dataType = c.dataType
  · rw [if_pos same]
  · rw [if_neg same]

theorem has_keeping (keep : Constraint → Bool) (constraint : Constraint) :
    (c.keeping keep).has constraint = (keep constraint && c.has constraint) := by
  rw [Bool.eq_iff_iff]
  simp [has, keeping, and_comm]

theorem has_withoutMisplacedCount {constraint : Constraint} (other : constraint ≠ .autoIncrement) :
    (c.withoutMisplacedCount d keyCount).has constraint = c.has constraint := by
  unfold withoutMisplacedCount
  split
  · rw [has_keeping, bne_iff_ne.mpr other, Bool.true_and]
  · rfl

/-- **An adapted column keeps every constraint** that the dialect can express, the numbering of rows
apart. -/
theorem has_adaptTo {constraint : Constraint} (other : constraint ≠ .autoIncrement)
    (supported : d.supportsConstraint constraint = true) :
    (c.adaptTo d keyCount).has constraint = c.has constraint := by
  rw [adaptTo, has_withoutMisplacedCount _ _ _ other, has_keeping, supported, Bool.true_and, has, has,
    withoutIgnored, constraints_substituted]

/-- **Adapting a column selects from its constraints**, after its type and attributes are settled. -/
theorem exists_keeping_adaptTo :
    ∃ keep : Constraint → Bool,
      (∀ constraint, keep constraint = true → d.supportsConstraint constraint = true) ∧
        c.adaptTo d keyCount = ((c.substituted d).withoutIgnored d).keeping keep := by
  unfold adaptTo withoutMisplacedCount
  split
  · refine ⟨fun constraint => constraint != .autoIncrement && d.supportsConstraint constraint,
      fun constraint kept => (Bool.and_eq_true_iff.mp kept).2, ?_⟩
    simp only [keeping, List.filter_filter]
  · exact ⟨d.supportsConstraint, fun _ supported => supported, rfl⟩

theorem isPrimaryKey_adaptTo : (c.adaptTo d keyCount).isPrimaryKey = c.isPrimaryKey :=
  has_adaptTo c d keyCount (by decide) (by cases d <;> rfl)

/-! ### The numbering of rows -/

/-- A column that numbers its rows after adapting did so before. -/
theorem isAutoIncrement_of_adaptTo (counts : (c.adaptTo d keyCount).isAutoIncrement = true) :
    c.isAutoIncrement = true := by
  have kept : ((((c.substituted d).withoutIgnored d).keeping d.supportsConstraint)).isAutoIncrement
      = true := by
    rw [adaptTo, withoutMisplacedCount] at counts
    split at counts
    · rw [isAutoIncrement, has_keeping] at counts
      exact (Bool.and_eq_true_iff.mp counts).2
    · exact counts
  rw [isAutoIncrement, has_keeping] at kept
  have inherited := (Bool.and_eq_true_iff.mp kept).2
  rw [has, withoutIgnored, constraints_substituted] at inherited
  exact inherited

/-- Where SQLite refuses numbered rows there are none after the last step. -/
theorem mayCount_of_withoutMisplacedCount
    (counts : (c.withoutMisplacedCount .sqlite keyCount).isAutoIncrement = true) :
    (c.withoutMisplacedCount .sqlite keyCount).mayCountInSqlite keyCount = true := by
  unfold withoutMisplacedCount at counts ⊢
  split
  · rename_i misplaced
    rw [if_pos misplaced, isAutoIncrement, has_keeping] at counts
    simp at counts
  · rename_i placed
    rw [if_neg placed] at counts
    simpa [counts] using placed

end Column

theorem DataType.isNumeric_substitute (d : Dialect) {t : DataType} (numeric : t.isNumeric = true) :
    (d.substitute t).isNumeric = true := by
  cases t <;> first | cases d <;> rfl | cases numeric

/-- **The numbering of rows is in its place** in an adapted column that numbers only numeric
rows. -/
theorem Column.autoIncrementErrors_adaptTo (c : Column) (d : Dialect) (keyCount : Nat)
    (numeric : c.isAutoIncrement = true → c.dataType.isNumeric = true) :
    (c.adaptTo d keyCount).autoIncrementErrors d keyCount = [] := by
  refine autoIncrementErrors_eq_nil_iff.mpr fun counts => ⟨?_, ?_⟩
  · rw [dataType_adaptTo]
    exact DataType.isNumeric_substitute d (numeric (isAutoIncrement_of_adaptTo c d keyCount counts))
  · rintro rfl
    exact mayCount_of_withoutMisplacedCount _ keyCount counts

/-! ### Tables -/

namespace Table

variable (t : Table) (d : Dialect)

/-- **The columns of an adapted table are found** by the ids of the columns that they come from. -/
theorem columnById?_adaptTo (id : String) :
    (t.adaptTo d).columnById? id =
      (t.columnById? id).map (·.adaptTo d t.primaryKey.length) := by
  have sameTest : (fun c : Column => c.id == id) ∘ (Column.adaptTo · d t.primaryKey.length) =
      fun c => c.id == id := by
    funext c
    show ((c.adaptTo d t.primaryKey.length).id == id) = (c.id == id)
    rw [(Column.kept_adaptTo c d _).id]
  show (t.columns.map _).find? _ = (t.columns.find? _).map _
  rw [List.find?_map, sameTest]

theorem isSome_columnById?_adaptTo (id : String) :
    ((t.adaptTo d).columnById? id).isSome = (t.columnById? id).isSome := by
  rw [columnById?_adaptTo, Option.isSome_map]

/-- The primary key of an adapted table. -/
theorem primaryKey_adaptTo :
    (t.adaptTo d).primaryKey = t.primaryKey.map (·.adaptTo d t.primaryKey.length) := by
  have sameTest : Column.isPrimaryKey ∘ (Column.adaptTo · d t.primaryKey.length) =
      Column.isPrimaryKey := by
    funext c
    exact Column.isPrimaryKey_adaptTo c d _
  show (t.columns.map _).filter _ = (t.columns.filter _).map _
  rw [List.filter_map, sameTest]

theorem length_primaryKey_adaptTo :
    (t.adaptTo d).primaryKey.length = t.primaryKey.length := by
  rw [primaryKey_adaptTo, List.length_map]

end Table

end SchemaCompiler
