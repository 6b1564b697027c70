/-
**Canonical form and adapting commute.**

Both passes rewrite the constraints of a column. The canonical form keeps the first of equal
constraints and ends the list with a NOT NULL where a key lacks one; adapting selects from the list,
and what it selects depends on the column and on the number of key columns. Neither of the two reads
what the other one writes, so they can change places.

* `canonicalConstraints_filter` — the canonical form of a selection is the selection of the canonical
  form, when keys and NOT NULLs are selected.
* `Column.normalize_adaptTo` — step by step, through each step of adapting.
* `Database.normalize_adaptTo_comm` — for schemas.
-/

import SchemaCompiler.Proofs.Migration.Adaptation
import SchemaCompiler.Proofs.Migration.CanonicalForm

namespace SchemaCompiler

/-! ### Constraints -/

/-- **Canonical constraints can be selected before or after**, as long as keys and NOT NULLs are. -/
theorem canonicalConstraints_filter {keep : Constraint → Bool} (ofKeys : keep .primaryKey = true)
    (ofNotNull : keep .notNull = true) (constraints : List Constraint) :
    canonicalConstraints (constraints.filter keep) =
      (canonicalConstraints constraints).filter keep := by
  have sameHas : ∀ {constraint}, keep constraint = true →
      (constraints.filter keep).contains constraint = constraints.contains constraint := by
    intro constraint kept
    rw [Bool.eq_iff_iff]
    simp [kept]
  unfold canonicalConstraints
  rw [sameHas ofKeys, sameHas ofNotNull, eraseDups_filter]
  split
  · rw [List.filter_append, List.filter_cons_of_pos ofNotNull, List.filter_nil]
  · rfl

/-! ### Columns -/

namespace Column

variable (c : Column) (d : Dialect) (keyCount : Nat)

/-! Each step of adapting a column can be taken before or after. -/

theorem normalize_substituted : (c.substituted d).normalize = c.normalize.substituted d := by
  rw [normalize_eq, normalize_eq, substituted, substituted]
  by_cases same : d.substitute c.dataType = c.dataType
  · simp only [same, if_true]
  · simp only [same, if_false]
    rfl

theorem normalize_withoutIgnored :
    (c.withoutIgnored d).normalize = c.normalize.withoutIgnored d := by
  rw [normalize_eq, normalize_eq]
  rfl

theorem normalize_keeping {keep : Constraint → Bool} (ofKeys : keep .primaryKey = true)
    (ofNotNull : keep .notNull = true) : (c.keeping keep).normalize = c.normalize.keeping keep := by
  have sameKey : (c.keeping keep).isPrimaryKey = c.isPrimaryKey := by
    rw [isPrimaryKey, has_keeping, ofKeys, Bool.true_and, isPrimaryKey]
  rw [normalize_eq, normalize_eq, sameKey]
  simp only [keeping, canonicalConstraints_filter ofKeys ofNotNull]

theorem normalize_withoutMisplacedCount :
    (c.withoutMisplacedCount d keyCount).normalize =
      c.normalize.withoutMisplacedCount d keyCount := by
  have sameType : c.normalize.dataType = c.dataType := by rw [normalize_eq]
  unfold withoutMisplacedCount mayCountInSqlite
  rw [isAutoIncrement_normalize, isPrimaryKey_normalize, sameType]
  split
  · exact normalize_keeping c (by decide) (by decide)
  · rfl

/-- **The canonical form of an adapted column** is the adapted canonical form. -/
theorem normalize_adaptTo :
    (c.adaptTo d keyCount).normalize = c.normalize.adaptTo d keyCount := by
  rw [adaptTo, adaptTo, normalize_withoutMisplacedCount,
    normalize_keeping _ (by cases d <;> rfl) (by cases d <;> rfl), normalize_withoutIgnored,
    normalize_substituted]

end Column

/-! ### Tables and databases -/

namespace Table

variable (t : Table) (d : Dialect)

theorem normalize_adaptTo : (t.adaptTo d).normalize = t.normalize.adaptTo d := by
  have columns : (t.columns.map (·.adaptTo d t.primaryKey.length)).map (·.normalize) =
      (t.columns.map (·.normalize)).map (·.adaptTo d t.normalize.primaryKey.length) := by
    rw [primaryKey_normalize, List.length_map, List.map_map, List.map_map]
    exact List.map_congr_left fun c _ => c.normalize_adaptTo d _
  exact congrArg (fun columns => { t.normalize with columns }) columns

end Table

/-- **Canonical form and adapting commute**, for every schema and dialect. -/
theorem Database.normalize_adaptTo_comm (db : Database) (d : Dialect) :
    (db.adaptTo d).normalize = db.normalize.adaptTo d := by
  have tables : (db.tables.map (·.adaptTo d)).map (·.normalize) =
      (db.tables.map (·.normalize)).map (·.adaptTo d) := by
    rw [List.map_map, List.map_map]
    exact List.map_congr_left fun t _ => t.normalize_adaptTo d
  exact congrArg (fun tables => { db.normalize with tables }) tables

end SchemaCompiler
