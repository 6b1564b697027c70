/-
**Adapting a schema makes no change that is not reported.**

What adapting takes away from a schema is seen by comparing the schema with what became of it. Types,
lengths and precisions can be others, and constraints can be gone; nothing else is ever reported, and
where nothing is reported nothing was changed.

* `Column.changes_adaptTo` — the differences of a column from what it became.
* `Column.changes_adaptTo_eq_nil_iff` — there are none exactly when it stayed as it was.
* `Database.changes_adaptTo` — the differences of a schema, column by column.
* `Database.losses_reported` — they are losses, and none only when the schema stayed as it was.
-/

import SchemaCompiler.Proofs.Migration.Adaptation
import SchemaCompiler.Proofs.Migration.InPlace
import SchemaCompiler.Proofs.Traversal

namespace SchemaCompiler

/-! ### Losses -/

/-- Whether a change of a column can come from adapting it. -/
def ColumnChange.isLoss : ColumnChange → Bool
  | .dataType .. | .length .. | .precision .. | .constraintRemoved .. => true
  | _ => false

/-- Whether a difference can come from adapting a column. -/
def SchemaChange.isLoss : SchemaChange → Bool
  | .columnChanged _ _ change => change.isLoss
  | _ => false

/-! ### Columns -/

namespace Column

variable (c : Column) (d : Dialect) (keyCount : Nat)

/-- Columns that differ in type, length, precision, scale and constraints at most are the same when
they do not differ in those. -/
theorem Kept.eq {c other : Column} (kept : Kept c other) (dataType : c.dataType = other.dataType)
    (length : c.length = other.length)
    (precision : (c.precision, c.scale) = (other.precision, other.scale))
    (constraints : c.constraints = other.constraints) : c = other := by
  obtain ⟨id, name, nullable, defaultText, comment, extensions⟩ := kept
  cases c
  cases other
  simp_all

/-- Adapting a column selects from its constraints. -/
theorem exists_constraints_adaptTo :
    ∃ keep : Constraint → Bool,
      (c.adaptTo d keyCount).constraints = c.constraints.filter keep := by
  obtain ⟨keep, -, adapted⟩ := exists_keeping_adaptTo c d keyCount
  exact ⟨keep, by rw [adapted, keeping, withoutIgnored, constraints_substituted]⟩

theorem isNotNull_adaptTo : (c.adaptTo d keyCount).isNotNull = c.isNotNull := by
  rw [isNotNull, isNotNull, (kept_adaptTo c d keyCount).nullable, isPrimaryKey_adaptTo,
    has_adaptTo c d keyCount (by decide) (by cases d <;> rfl)]

/-- Adapting a column adds no constraint. -/
theorem newConstraints_adaptTo : c.newConstraints (c.adaptTo d keyCount) = [] := by
  obtain ⟨keep, kept⟩ := exists_constraints_adaptTo c d keyCount
  refine List.filter_eq_nil_iff.mpr fun constraint member => ?_
  rw [kept] at member
  simpa [has] using (List.mem_filter.mp member).1

/-- **What an adapted column has lost**: its type, length or precision, and some constraints. -/
theorem changes_adaptTo :
    c.changes (c.adaptTo d keyCount) =
      changed .dataType c.dataType (c.adaptTo d keyCount).dataType ++
        changed .length c.length (c.adaptTo d keyCount).length ++
        changed .precision (c.precision, c.scale)
          ((c.adaptTo d keyCount).precision, (c.adaptTo d keyCount).scale) ++
        ((c.adaptTo d keyCount).newConstraints c).map .constraintRemoved := by
  have sameDefault : (c.adaptTo d keyCount).default? = c.default? := by
    rw [default?, default?, (kept_adaptTo c d keyCount).defaultText]
  rw [changes_eq, newConstraints_adaptTo, valueChanges, (kept_adaptTo c d keyCount).name,
    isNotNull_adaptTo, sameDefault]
  simp only [changed_self, List.map_nil, List.nil_append, List.append_nil]

theorem isLoss_of_mem_changes {change : ColumnChange}
    (member : change ∈ c.changes (c.adaptTo d keyCount)) : change.isLoss = true := by
  rw [changes_adaptTo] at member
  simp only [List.mem_append, mem_changed_iff, List.mem_map] at member
  rcases member with ((⟨-, rfl⟩ | ⟨-, rfl⟩) | ⟨-, rfl⟩) | ⟨constraint, -, rfl⟩ <;> rfl

/-- **A column without losses** stayed as it was. -/
theorem changes_adaptTo_eq_nil_iff :
    c.changes (c.adaptTo d keyCount) = [] ↔ c.adaptTo d keyCount = c := by
  constructor
  · intro lossless
    rw [changes_adaptTo] at lossless
    simp only [List.append_eq_nil_iff, changed_eq_nil_iff, List.map_eq_nil_iff] at lossless
    obtain ⟨⟨⟨dataType, length⟩, precision⟩, noneGone⟩ := lossless
    obtain ⟨keep, kept⟩ := exists_constraints_adaptTo c d keyCount
    -- A constraint of which one copy is gone is gone altogether, so it would be reported.
    have all : ∀ constraint ∈ c.constraints, keep constraint = true := by
      intro constraint member
      have stayed := List.filter_eq_nil_iff.mp noneGone constraint member
      rw [has, kept] at stayed
      exact (List.mem_filter.mp (by simpa using stayed)).2
    exact (kept_adaptTo c d keyCount).eq dataType.symm length.symm precision.symm
      (kept.trans (List.filter_eq_self.mpr all))
  · intro same
    rw [same, changes_self]

end Column

/-! ### Tables -/

namespace Table

variable {t : Table} {d : Dialect}

theorem adaptTo_eq_self_iff :
    t.adaptTo d = t ↔ ∀ c ∈ t.columns, c.adaptTo d t.primaryKey.length = c := by
  rw [← Traversal.map_eq_self_iff]
  exact ⟨fun same => congrArg Table.columns same, fun same => by rw [adaptTo, same]⟩

/-- The differences of a table from what it became are those of its columns. -/
theorem changes_adaptTo (distinct : t.HasDistinctIds) :
    t.changes (t.adaptTo d) = t.columns.flatMap fun c =>
      (c.changes (c.adaptTo d t.primaryKey.length)).map (.columnChanged t.name c.name) := by
  rw [adaptTo, changes_map distinct fun c => (Column.kept_adaptTo c d _).id]
  refine List.flatMap_congr fun c _ => ?_
  rw [(Column.kept_adaptTo c d _).name]

end Table

/-! ### Databases -/

namespace Database

variable {db : Database} {d : Dialect}

theorem adaptTo_eq_self_iff : db.adaptTo d = db ↔ ∀ t ∈ db.tables, t.adaptTo d = t := by
  rw [← Traversal.map_eq_self_iff]
  exact ⟨fun same => congrArg Database.tables same, fun same => by rw [adaptTo, same]⟩

/-- **The differences of a schema from what it became** are those of its columns, table by table. -/
theorem changes_adaptTo (distinct : db.HasDistinctIds) :
    db.changes (db.adaptTo d) = db.tables.flatMap fun t => t.columns.flatMap fun c =>
      (c.changes (c.adaptTo d t.primaryKey.length)).map (.columnChanged t.name c.name) := by
  have ofTables : db.changes (db.adaptTo d) = db.tables.flatMap fun t => t.changes (t.adaptTo d) :=
    changes_map distinct.tables fun _ => rfl
  rw [ofTables]
  exact List.flatMap_congr fun t member => Table.changes_adaptTo (distinct.columns t member)

/-- **Adapting a schema makes no change that is not reported**, when ids are distinct: what differs is
a type, a length, a precision or a constraint that is gone, and when nothing does the schema stayed as
it was. -/
theorem losses_reported (distinct : db.HasDistinctIds) (d : Dialect) :
    (∀ change ∈ db.changes (db.adaptTo d), change.isLoss = true) ∧
      (db.changes (db.adaptTo d) = [] ↔ db.adaptTo d = db) := by
  rw [changes_adaptTo distinct]
  constructor
  · simp only [List.mem_flatMap, List.mem_map]
    rintro _ ⟨t, -, c, -, change, member, rfl⟩
    exact Column.isLoss_of_mem_changes c d _ member
  · simp only [List.flatMap_eq_nil_iff, List.map_eq_nil_iff, Column.changes_adaptTo_eq_nil_iff,
      adaptTo_eq_self_iff, Table.adaptTo_eq_self_iff]

/-! ### Sessions that lose something -/

/-- Sessions with a type that MySQL does not have, a length that no integer has, and a check that
stands twice. -/
def sessions : Database :=
  { id := "d", name := "site",
    tables :=
      [ { id := "t", name := "sessions",
          columns :=
            [ { id := "k", name := "id", dataType := .uuid, nullable := false,
                constraints := [.primaryKey] },
              { id := "n", name := "visits", dataType := .integer, length := some 11,
                constraints := [.check "visits > 0", .unique, .check "visits > 0"] } ] } ] }

theorem losses_reported_sessions :
    (sessions.changes (sessions.adaptTo .mysql)).map (·.text) =
        [ "Column 'sessions.id' type changed from UUID to CHAR",
          "Column 'sessions.id' length changed from none to 36",
          "Column 'sessions.visits' length changed from 11 to none",
          "Column 'sessions.visits' lost CHECK (visits > 0)",
          "Column 'sessions.visits' lost CHECK (visits > 0)" ] ∧
      (∀ change ∈ sessions.changes (sessions.adaptTo .mysql), change.isLoss = true) ∧
      sessions.adaptTo .mysql ≠ sessions := by
  have distinct : sessions.HasDistinctIds := ⟨by decide, by decide⟩
  obtain ⟨losses, same⟩ := losses_reported distinct .mysql
  exact ⟨by decide, losses, fun unchanged => absurd (same.mpr unchanged) (by decide)⟩

end Database

end SchemaCompiler
