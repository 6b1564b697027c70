/-
**Adapted columns are spelled alike.**

A dialect has a name for every type, also for the types that it does not support. That name is the one
of the nearest type, with the length that stands for the values of the type, so adapting a column does
not change how its type is spelled. What is dropped from a column, no type name shows.

* `Dialect.typeName_unsupported` — an unsupported type is spelled like its substitute.
* `Dialect.typeName_withoutIgnored` — lengths and precisions that are ignored are not shown.
* `Table.typeNames_adaptTo` — the types of an adapted table.
-/

import SchemaCompiler.Proofs.Migration.Adaptation
import SchemaCompiler.Proofs.Traversal
import SchemaCompiler.Sql.TypeName

namespace SchemaCompiler

namespace Dialect

variable (d : Dialect) (options : GenerateOptions)

/-! ### Steps -/

/-- **An unsupported type is spelled like its substitute** with the length that goes with it, whatever
length, precision and scale the column has. -/
theorem typeName_unsupported {c : Column} (unsupported : d.supports c.dataType = false)
    (precision scale : Option UInt32) :
    d.typeName options
        { c with
          dataType := d.substitute c.dataType,
          length := substituteLength c.dataType (d.substitute c.dataType),
          precision, scale } =
      d.typeName options c := by
  unfold typeName
  congr 1
  obtain ⟨_, _, dataType, _, _, _, _, _, _, _, _⟩ := c
  revert unsupported
  cases d <;> cases dataType <;> first | exact fun _ => rfl | exact fun supported => nomatch supported

theorem typeName_substituted (c : Column) :
    d.typeName options (c.substituted d) = d.typeName options c := by
  unfold Column.substituted
  by_cases same : d.substitute c.dataType = c.dataType
  · rw [if_pos same]
  · have unsupported : d.supports c.dataType = false :=
      Bool.eq_false_iff.mpr (mt d.substitute_of_supports same)
    rw [if_neg same]
    exact typeName_unsupported d options unsupported none none

/-- **A length or precision that is dropped is not shown** by any type name. -/
theorem typeName_withoutIgnored (c : Column) :
    d.typeName options (c.withoutIgnored d) = d.typeName options c := by
  have sameExtension : (c.withoutIgnored d).extension? d "type" = c.extension? d "type" := rfl
  unfold typeName
  rw [sameExtension]
  congr 1
  obtain ⟨_, _, dataType, _, _, _, _, _, _, _, _⟩ := c
  cases d with
  | mysql => cases dataType <;> rfl
  | postgres => cases dataType <;> rfl
  | sqlite => rfl

theorem typeName_keeping (c : Column) (keep : Constraint → Bool) :
    d.typeName options (c.keeping keep) = d.typeName options c := rfl

/-! ### Adapted columns -/

/-- **The type of an adapted column** is spelled like that of the column. -/
theorem typeName_adaptTo (c : Column) (keyCount : Nat) :
    d.typeName options (c.adaptTo d keyCount) = d.typeName options c := by
  obtain ⟨keep, -, adapted⟩ := c.exists_keeping_adaptTo d keyCount
  rw [adapted, typeName_keeping, typeName_withoutIgnored, typeName_substituted]

end Dialect

namespace Table

/-- **The types of an adapted table** stand for those of the table, and each is spelled like the type
that it stands for. So an unsupported type is spelled like its substitute, with the length of the
substitute. -/
theorem typeNames_adaptTo (t : Table) (d : Dialect) (options : GenerateOptions) :
    (t.adaptTo d).columns.map (·.dataType) = t.columns.map (d.substitute ·.dataType) ∧
      (t.adaptTo d).columns.map (d.typeName options) = t.columns.map (d.typeName options) ∧
      ∀ c ∈ t.columns, d.supports c.dataType = false →
        d.typeName options c =
          d.typeName options
            { c with
              dataType := d.substitute c.dataType,
              length := Dialect.substituteLength c.dataType (d.substitute c.dataType) } := by
  refine ⟨?_, ?_, fun c _ unsupported => ?_⟩
  · rw [adaptTo, List.map_map]
    exact List.map_congr_left fun c _ => c.dataType_adaptTo d _
  · rw [adaptTo, List.map_map]
    exact List.map_congr_left fun c _ => d.typeName_adaptTo options c _
  · exact (d.typeName_unsupported options unsupported c.precision c.scale).symm

/-! ### Readings with types of every kind -/

/-- Readings with types that MySQL does not have, one of them under a name of its own, and with lengths
and a precision that are no part of their types. -/
def readings : Table :=
  { id := "t", name := "readings",
    columns :=
      [ { id := "k", name := "id", dataType := .uuid, length := some 16, nullable := false,
          constraints := [.primaryKey] },
        { id := "p", name := "period", dataType := .interval, length := some 8 },
        { id := "v", name := "value", dataType := .decimal, length := some 4, precision := some 10,
          scale := some 2 },
        { id := "y", name := "at", dataType := .timestampTz, precision := some 3 },
        Column.withExtension .mysql "type" "POINT"
          { id := "w", name := "place", dataType := .bytea } ] }

theorem typeNames_adaptTo_readings :
    (readings.adaptTo .mysql).columns.map (·.dataType) =
        [.char, .varchar, .decimal, .timestamp, .blob] ∧
      (readings.adaptTo .mysql).columns.map (Dialect.typeName .mysql {}) =
        ["CHAR(36)", "VARCHAR(64)", "DECIMAL(10,2)", "TIMESTAMP", "POINT"] ∧
      Dialect.supports .mysql .uuid = false ∧
      ∀ c ∈ readings.columns.head?,
        Dialect.typeName .mysql {} c =
          Dialect.typeName .mysql {} { c with dataType := .char, length := some 36 } := by
  obtain ⟨types, names, unsupported⟩ := typeNames_adaptTo readings .mysql {}
  refine ⟨types.trans (by decide), names.trans (by decide), by decide, ?_⟩
  rintro c (_ | _)
  exact unsupported _ List.mem_cons_self (by decide)

end Table

end SchemaCompiler
