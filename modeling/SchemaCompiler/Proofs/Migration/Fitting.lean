/-
**Adapted schemas fit their dialect.**

A column fits a dialect when its type and its constraints are supported, it has no length, precision or
scale that is ignored, and it numbers its rows only where it may. Adapting leaves the columns that fit as
they are, and every adapted column fits. So a second adaptation changes nothing, and the check of what a
dialect can express finds nothing in an adapted table.

* `Column.fits_adaptTo`, `Column.adaptTo_eq_self_iff_fits` — what adapting yields and what it keeps.
* `Table.Fits.validate` — what the check of a table that fits does not find.
* `Table.adaptTo_settles` — the contract.
-/

import SchemaCompiler.Proofs.Migration.Losses
import SchemaCompiler.Proofs.Migration.SameText
import SchemaCompiler.Proofs.Validation.Messages

namespace SchemaCompiler

/-! ### Columns that fit -/

namespace Column

/-- A column of a table with `keyCount` columns in its primary key that a dialect can express as it
is. -/
structure Fits (c : Column) (d : Dialect) (keyCount : Nat) : Prop where
  dataType : d.supports c.dataType = true
  length : ¬ d.honorsLength c.dataType = true → c.length = none
  precision : ¬ d.honorsPrecision c.dataType = true → c.precision = none ∧ c.scale = none
  constraints : ∀ constraint ∈ c.constraints, d.supportsConstraint constraint = true
  counting : d = .sqlite → c.isAutoIncrement = true → c.mayCountInSqlite keyCount = true

variable {c : Column} {d : Dialect} {keyCount : Nat}

/-- **An adapted column fits.** -/
theorem fits_adaptTo (c : Column) (d : Dialect) (keyCount : Nat) :
    (c.adaptTo d keyCount).Fits d keyCount := by
  have dataType : d.supports (c.adaptTo d keyCount).dataType = true := by
    rw [dataType_adaptTo]
    exact d.supports_substitute c.dataType
  have counting : d = .sqlite → (c.adaptTo d keyCount).isAutoIncrement = true →
      (c.adaptTo d keyCount).mayCountInSqlite keyCount = true := by
    rintro rfl counts
    exact mayCount_of_withoutMisplacedCount _ keyCount counts
  obtain ⟨keep, supported, adapted⟩ := exists_keeping_adaptTo c d keyCount
  rw [adapted] at dataType counting ⊢
  exact ⟨dataType, fun ignored => if_neg ignored, fun ignored => ⟨if_neg ignored, if_neg ignored⟩,
    fun constraint member => supported constraint (List.mem_filter.mp member).2, counting⟩

theorem Fits.withoutIgnored (fits : c.Fits d keyCount) : c.withoutIgnored d = c := by
  have length : (if d.honorsLength c.dataType then c.length else none) = c.length :=
    ite_eq_left_iff.mpr fun ignored => (fits.length ignored).symm
  have precision : (if d.honorsPrecision c.dataType then c.precision else none) = c.precision :=
    ite_eq_left_iff.mpr fun ignored => (fits.precision ignored).1.symm
  have scale : (if d.honorsPrecision c.dataType then c.scale else none) = c.scale :=
    ite_eq_left_iff.mpr fun ignored => (fits.precision ignored).2.symm
  rw [Column.withoutIgnored, length, precision, scale]

theorem Fits.keeping (fits : c.Fits d keyCount) : c.keeping d.supportsConstraint = c := by
  rw [Column.keeping, List.filter_eq_self.mpr fits.constraints]

/-- **Adapting keeps the columns that fit**, and no others. -/
theorem adaptTo_eq_self_iff_fits : c.adaptTo d keyCount = c ↔ c.Fits d keyCount := by
  constructor
  · intro same
    have fits := fits_adaptTo c d keyCount
    rwa [same] at fits
  · intro fits
    rw [adaptTo, substituted_of_supports fits.dataType, fits.withoutIgnored, fits.keeping,
      withoutMisplacedCount_of_placed fits.counting]

/-- A column that fits has no checks where they are not written. -/
theorem Fits.checkExpressions (fits : c.Fits d keyCount)
    (omitted : d.supportsConstraint (.check "") = false) : c.checkExpressions = [] := by
  refine List.filterMap_eq_nil_iff.mpr fun constraint member => ?_
  have supported := fits.constraints constraint member
  cases constraint with
  | check expression =>
    cases d with
    | mysql => cases supported
    | postgres => cases omitted
    | sqlite => cases omitted
  | _ => rfl

end Column

/-! ### Tables that fit -/

namespace Table

/-- A table that a dialect can express as it is. -/
def Fits (t : Table) (d : Dialect) : Prop :=
  ∀ c ∈ t.columns, c.Fits d t.primaryKey.length

variable {t : Table} {d : Dialect}

/-- **An adapted table fits.** -/
theorem fits_adaptTo (t : Table) (d : Dialect) : (t.adaptTo d).Fits d := by
  unfold Fits
  rw [length_primaryKey_adaptTo]
  exact List.forall_mem_map.mpr fun c _ => Column.fits_adaptTo c d _

/-- **Adapting keeps the tables that fit**, and no others. -/
theorem adaptTo_eq_self_iff_fits : t.adaptTo d = t ↔ t.Fits d := by
  simp only [adaptTo_eq_self_iff, Column.adaptTo_eq_self_iff_fits, Fits]

/-- **The check finds nothing in a table that fits** that its dialect could not express. -/
theorem Fits.validate (fits : t.Fits d) (table : String) (c : Column) :
    ColumnError.unsupportedType.message d table c ∉ (t.validate d).errors ∧
      ColumnError.misplacedAutoIncrement.message d table c ∉ (t.validate d).errors ∧
      ColumnWarning.checksOmitted.message d table c ∉ (t.validate d).warnings := by
  simp only [mem_validate_errors, mem_validate_warnings]
  refine ⟨?_, ?_, ?_⟩
  · rintro ⟨error, member, same⟩
    obtain ⟨found, rfl⟩ := TableError.eq_unsupportedType same
    obtain ⟨ofTable, wrong⟩ := column_mem_errors member
    rw [Column.unsupportedType_mem_errors, (fits found ofTable).dataType] at wrong
    cases wrong
  · rintro ⟨error, member, same⟩
    obtain ⟨found, rfl⟩ := TableError.eq_misplacedAutoIncrement same
    obtain ⟨ofTable, wrong⟩ := column_mem_errors member
    obtain ⟨counts, -, isSqlite, misplaced⟩ := Column.misplacedAutoIncrement_mem_errors.mp wrong
    rw [(fits found ofTable).counting isSqlite counts] at misplaced
    cases misplaced
  · rintro ⟨warning, member, same⟩
    obtain ⟨found, rfl⟩ := TableWarning.eq_checksOmitted same
    obtain ⟨ofTable, warned⟩ := column_mem_warnings member
    obtain ⟨checked, omitted⟩ := Column.checksOmitted_mem_warnings_iff.mp warned
    exact checked ((fits found ofTable).checkExpressions omitted)

/-- **Adapting settles a table**: a second adaptation changes nothing, the columns keep their order and
lose no more than types, lengths, precisions, scales and constraints, everything else of the table
stays, and the check finds no type, no numbered rows and no checks that the dialect cannot express. -/
theorem adaptTo_settles (t : Table) (d : Dialect) :
    (t.adaptTo d).adaptTo d = t.adaptTo d ∧
      (∃ columns, t.adaptTo d = { t with columns } ∧
        List.Forall₂ (fun c adapted =>
          Column.Kept adapted c ∧ adapted.constraints.Sublist c.constraints) t.columns columns) ∧
      ∀ (table : String) (c : Column),
        ColumnError.unsupportedType.message d table c ∉ ((t.adaptTo d).validate d).errors ∧
          ColumnError.misplacedAutoIncrement.message d table c ∉ ((t.adaptTo d).validate d).errors ∧
          ColumnWarning.checksOmitted.message d table c ∉ ((t.adaptTo d).validate d).warnings := by
  refine ⟨adaptTo_eq_self_iff_fits.mpr (fits_adaptTo t d), ⟨_, rfl, ?_⟩, (fits_adaptTo t d).validate⟩
  rw [List.forall₂_map_right_iff]
  refine List.forall₂_same.mpr fun c _ => ⟨Column.kept_adaptTo c d _, ?_⟩
  obtain ⟨keep, kept⟩ := Column.exists_constraints_adaptTo c d t.primaryKey.length
  rw [kept]
  exact List.filter_sublist

end Table

end SchemaCompiler
