/-
**Editing a query.**

Every edit of a query is an action, and `Query.apply` gives the query after it. Removing an entry
that does not exist changes nothing.
-/

import SchemaCompiler.Query.Basic

namespace SchemaCompiler

/-- A single edit of a query. -/
inductive QueryAction where
  | toggleTable (table : String)
  | toggleColumn (column : ColumnRef)
  | addColumn (column : SelectedColumn)
  | removeColumn (place : Nat)
  | setAggregate (column : ColumnRef) (aggregate : Aggregate)
  | setAlias (column : ColumnRef) (name : Option String)
  | addJoin (join : Join)
  | removeJoin (place : Nat)
  | addFilter (condition : Condition)
  | removeFilter (place : Nat)
  | addHaving (condition : Condition)
  | removeHaving (place : Nat)
  | toggleGroupBy (column : ColumnRef)
  | addOrderBy (entry : OrderBy)
  | removeOrderBy (place : Nat)
  | setLimit (limit : Option UInt64)
  | setOffset (offset : Option UInt64)
  | reset
  deriving DecidableEq

namespace Query

/-- The query with a table selected. -/
def selectTable (q : Query) (table : String) : Query :=
  if q.hasTable table then q else { q with tables := q.tables ++ [table] }

/-- The query without a table and everything that mentions it. -/
def withoutTable (q : Query) (table : String) : Query :=
  { q with
    tables := q.tables.filter (· != table),
    columns := q.columns.filter (·.table != table),
    joins := q.joins.filter (!·.mentions table),
    filters := q.filters.filter (·.table != table),
    having := q.having.filter (·.table != table),
    groupBy := q.groupBy.filter (·.table != table),
    orderBy := q.orderBy.filter (·.table != table) }

/-- The query with every selection of a column changed. -/
def mapColumn (q : Query) (column : ColumnRef) (change : SelectedColumn → SelectedColumn) :
    Query :=
  { q with columns := q.columns.map fun c => if c.ref == column then change c else c }

/-- The query with a table selected, or without it when it was. -/
def toggleTable (q : Query) (table : String) : Query :=
  if q.hasTable table then q.withoutTable table else { q with tables := q.tables ++ [table] }

/-- The query with one more selection, and its table selected. -/
def withColumn (q : Query) (column : SelectedColumn) : Query :=
  let q := q.selectTable column.table
  { q with columns := q.columns ++ [column] }

/-- The query with a column selected, or without any selection of it when it was. -/
def toggleColumn (q : Query) (column : ColumnRef) : Query :=
  if q.columns.any (·.ref == column) then
    { q with columns := q.columns.filter (·.ref != column) }
  else q.withColumn { table := column.table, column := column.column }

/-- The query grouped by a column, or no longer when it was. -/
def toggleGroupBy (q : Query) (column : ColumnRef) : Query :=
  if q.isGrouped column then { q with groupBy := q.groupBy.filter (· != column) }
  else { q with groupBy := q.groupBy ++ [column] }

/-- The query after an action. -/
def apply (q : Query) : QueryAction → Query
  | .toggleTable table => q.toggleTable table
  | .toggleColumn column => q.toggleColumn column
  | .addColumn column => q.withColumn column
  | .removeColumn place => { q with columns := q.columns.eraseIdx place }
  | .setAggregate column aggregate => q.mapColumn column ({ · with aggregate := aggregate })
  | .setAlias column name => q.mapColumn column ({ · with givenAlias := name })
  | .addJoin join => { q with joins := q.joins ++ [join] }
  | .removeJoin place => { q with joins := q.joins.eraseIdx place }
  | .addFilter condition => { q with filters := q.filters ++ [condition] }
  | .removeFilter place => { q with filters := q.filters.eraseIdx place }
  | .addHaving condition => { q with having := q.having ++ [condition] }
  | .removeHaving place => { q with having := q.having.eraseIdx place }
  | .toggleGroupBy column => q.toggleGroupBy column
  | .addOrderBy entry => { q with orderBy := q.orderBy ++ [entry] }
  | .removeOrderBy place => { q with orderBy := q.orderBy.eraseIdx place }
  | .setLimit limit => { q with limit := limit }
  | .setOffset offset => { q with offset := offset }
  | .reset => {}

end Query

end SchemaCompiler
