/-
**The names of a query in a database.**

Against a database a query is checked by itself first, and then every table and every column that it
names must be there. A missing name is reported under a key in lower case, and a key is reported once.
Keys are shared by names that differ in case, and by a table with dots in its name and a column of
another table, so a report can stand for several missing names. But it stands for at least one of them:
there are no errors exactly when nothing is missing.

* `Query.mem_references_iff` — the places of a query that name a column.
* `eraseDupsBy_eq_nil_iff` — leaving out repeated reports does not leave out all of them.
* `Query.missingNames_eq_nil_iff` — when nothing is missing.
* `Query.validateAgainst_errors_eq_nil_iff` — when there are no errors.
-/

import SchemaCompiler.Proofs.Query.Coverage

namespace SchemaCompiler

/-! ### Names in a database -/

/-- The first table of a database with a name, up to the case of ASCII letters. -/
def Database.FirstNamed (db : Database) (name : String) (t : Table) : Prop :=
  ∃ before after, db.tables = before ++ t :: after ∧ Text.sameName t.name name = true ∧
    ∀ other ∈ before, Text.sameName other.name name = false

/-- Whether a table has a column with a name, up to the case of ASCII letters. -/
def Table.HasColumnNamed (t : Table) (name : String) : Prop :=
  ∃ c ∈ t.columns, Text.sameName c.name name = true

/-- A column that a query names, by the place where it does. -/
inductive Query.NamesColumn (q : Query) : ColumnRef → Prop
  | selected (c : SelectedColumn) (member : c ∈ q.columns) : NamesColumn q ⟨c.table, c.column⟩
  | joinLeft (j : Join) (member : j ∈ q.joins) : NamesColumn q ⟨j.leftTable, j.leftColumn⟩
  | joinRight (j : Join) (member : j ∈ q.joins) : NamesColumn q ⟨j.rightTable, j.rightColumn⟩
  | filter (c : Condition) (member : c ∈ q.filters) : NamesColumn q ⟨c.table, c.column⟩
  | having (c : Condition) (member : c ∈ q.having) : NamesColumn q ⟨c.table, c.column⟩
  | groupBy (ref : ColumnRef) (member : ref ∈ q.groupBy) : NamesColumn q ref
  | orderBy (o : OrderBy) (member : o ∈ q.orderBy) : NamesColumn q ⟨o.table, o.column⟩

/-- A database has the tables that a query selects, and in the first table with each name the columns
that the query names, blank ones apart. -/
structure Query.FoundIn (q : Query) (db : Database) : Prop where
  tables : ∀ name ∈ q.tables, ∃ t ∈ db.tables, Text.sameName t.name name = true
  columns : ∀ ref, q.NamesColumn ref → Text.allBlank ref.column = false →
    ∃ t, db.FirstNamed ref.table t ∧ t.HasColumnNamed ref.column

theorem Database.tableByName?_eq_some_iff {db : Database} {name : String} {t : Table} :
    db.tableByName? name = some t ↔ db.FirstNamed name t := by
  rw [tableByName?, List.find?_eq_some_iff_append]
  simp only [FirstNamed, Bool.not_eq_true']
  constructor
  · rintro ⟨same, before, after, split, others⟩
    exact ⟨before, after, split, same, others⟩
  · rintro ⟨before, after, split, same, others⟩
    exact ⟨same, before, after, split, others⟩

theorem Database.isNone_tableByName?_iff {db : Database} {name : String} :
    (db.tableByName? name).isNone = false ↔ ∃ t ∈ db.tables, Text.sameName t.name name = true := by
  simp [tableByName?]

theorem Table.isSome_columnByName?_iff {t : Table} {name : String} :
    (t.columnByName? name).isSome = true ↔ t.HasColumnNamed name := by
  simp [columnByName?, HasColumnNamed]

/-! ### What is missing -/

/-- Leaving out repeated items does not leave out all of them. -/
theorem eraseDupsBy_eq_nil_iff {α : Type} {same : α → α → Bool} {items : List α} :
    items.eraseDupsBy same = [] ↔ items = [] := by
  cases items with
  | nil => simp
  | cons first rest => simp [List.eraseDupsBy_cons]

namespace Query

variable {q : Query} {db : Database}

/-- **The places that name a column** are those of which the references are made. -/
theorem mem_references_iff {ref : ColumnRef} : ref ∈ q.references ↔ q.NamesColumn ref := by
  constructor
  · revert ref
    rw [forall_references_iff]
    exact ⟨.selected, fun j member => ⟨.joinLeft j member, .joinRight j member⟩, .filter, .having,
      .groupBy, .orderBy⟩
  · obtain ⟨columns, joins, filters, having, groupBy, orderBy⟩ :=
      forall_references_iff.mp fun ref (member : ref ∈ q.references) => member
    intro named
    cases named with
    | selected c member => exact columns c member
    | joinLeft j member => exact (joins j member).1
    | joinRight j member => exact (joins j member).2
    | filter c member => exact filters c member
    | having c member => exact having c member
    | groupBy ref member => exact groupBy ref member
    | orderBy o member => exact orderBy o member

/-- A column is missing when its table is there without it. -/
theorem missingColumn?_eq_none_iff {ref : ColumnRef} :
    missingColumn? db ref = none ↔
      (Text.allBlank ref.column = false → ∀ t, db.FirstNamed ref.table t →
        t.HasColumnNamed ref.column) := by
  simp only [← Database.tableByName?_eq_some_iff, ← Table.isSome_columnByName?_iff]
  unfold missingColumn?
  cases Text.allBlank ref.column with
  | true => simp
  | false =>
    cases db.tableByName? ref.table with
    | none => simp
    | some t => simp [Option.isSome_iff_ne_none]

/-- **Nothing is missing** exactly when the tables and the columns are found, for a query whose
references are to tables that it selects. -/
theorem missingNames_eq_nil_iff (selected : ∀ ref ∈ q.references, ref.table ∈ q.tables) :
    q.missingNames db = [] ↔ q.FoundIn db := by
  have tablesFound : (q.tables.filter fun name => (db.tableByName? name).isNone) = [] ↔
      ∀ name ∈ q.tables, ∃ t ∈ db.tables, Text.sameName t.name name = true := by
    simp only [List.filter_eq_nil_iff, Bool.not_eq_true, Database.isNone_tableByName?_iff]
  rw [missingNames, List.append_eq_nil_iff, List.map_eq_nil_iff, tablesFound,
    List.filterMap_eq_nil_iff]
  simp only [missingColumn?_eq_none_iff, mem_references_iff]
  constructor
  · rintro ⟨tables, columns⟩
    refine ⟨tables, fun ref named notBlank => ?_⟩
    -- A column of a table that is not there is passed over, but its table is selected and there.
    have isSelected := tables ref.table (selected ref (mem_references_iff.mpr named))
    have found := Database.isNone_tableByName?_iff.mpr isSelected
    obtain ⟨t, isFirst⟩ := Option.isSome_iff_exists.mp (by simpa using found)
    have first := Database.tableByName?_eq_some_iff.mp isFirst
    exact ⟨t, first, columns ref named notBlank t first⟩
  · rintro ⟨tables, columns⟩
    refine ⟨tables, fun ref named notBlank t first => ?_⟩
    obtain ⟨other, isFirst, hasColumn⟩ := columns ref named notBlank
    have same := (Database.tableByName?_eq_some_iff.mpr first).symm.trans
      (Database.tableByName?_eq_some_iff.mpr isFirst)
    rwa [Option.some.inj same]

/-- **A query has no errors against a database** exactly when it has none by itself and the database
has the tables and the columns that it names. -/
theorem validateAgainst_errors_eq_nil_iff (q : Query) (db : Database) :
    (q.validateAgainst db).errors = [] ↔ q.validate.errors = [] ∧ q.FoundIn db := by
  rw [validateAgainst, List.append_eq_nil_iff, List.map_eq_nil_iff, eraseDupsBy_eq_nil_iff]
  refine and_congr_right fun valid => missingNames_eq_nil_iff ?_
  exact (errors_eq_nil_iff.mp (validate_errors_eq_nil_iff.mp valid)).2.1

/-- A table with a dot in its name beside a column of another table, which have one name in lower
case. -/
def dottedOrders : Query :=
  { tables := ["orders", "orders.at"], columns := [{ table := "orders", column := "AT" }] }

/-- A database without either of them. -/
def ordersById : Database :=
  { id := "d", name := "shop", tables := [
    { id := "o", name := "Orders", columns := [{ id := "k", name := "id", dataType := .integer }] }] }

-- Two names are missing, and one report stands for both.
example : ((dottedOrders.missingNames ordersById).map (·.key) = ["orders.at", "orders.at"]) ∧
    (dottedOrders.validateAgainst ordersById).errors =
      ["Table 'orders.at' not found. Did you mean 'Orders'?"] := by decide

end Query

end SchemaCompiler
