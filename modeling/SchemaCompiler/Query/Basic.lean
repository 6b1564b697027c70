/-
**Select queries.**

A query is what one SELECT statement is made from: tables, selected columns, joins, conditions,
groups, order and bounds. Tables and columns are named as in SQL.
-/

import SchemaCompiler.Text.Blank

namespace SchemaCompiler

/-- The aggregate of a selected column or of a HAVING condition. -/
inductive Aggregate where
  | none
  | count
  | sum
  | avg
  | min
  | max
  deriving DecidableEq, Repr

namespace Aggregate

/-- Every aggregate. -/
def all : List Aggregate := [.none, .count, .sum, .avg, .min, .max]

/-- The name of an aggregate. -/
def name : Aggregate → String
  | .none => "NONE"
  | .count => "COUNT"
  | .sum => "SUM"
  | .avg => "AVG"
  | .min => "MIN"
  | .max => "MAX"

/-- The SQL function of an aggregate. -/
def function? : Aggregate → Option String
  | .none => Option.none
  | aggregate => some aggregate.name

/-- Whether a function is applied. -/
def isPresent (a : Aggregate) : Bool := a != .none

end Aggregate

/-- The kinds of joins. -/
inductive JoinKind where
  | inner
  | left
  | right
  | full
  deriving DecidableEq, Repr

namespace JoinKind

/-- Every kind. -/
def all : List JoinKind := [.inner, .left, .right, .full]

/-- The name of a kind. -/
def name : JoinKind → String
  | .inner => "INNER"
  | .left => "LEFT"
  | .right => "RIGHT"
  | .full => "FULL"

/-- The SQL keywords of a kind. -/
def sql (kind : JoinKind) : String := kind.name ++ " JOIN"

/-- The kind seen from the other side. -/
def mirrored : JoinKind → JoinKind
  | .left => .right
  | .right => .left
  | kind => kind

end JoinKind

/-- The comparisons of conditions. -/
inductive Operator where
  | eq
  | ne
  | gt
  | gte
  | lt
  | lte
  | like
  | notLike
  | isIn
  | notIn
  | isNull
  | isNotNull
  deriving DecidableEq, Repr

namespace Operator

/-- Every operator. -/
def all : List Operator :=
  [.eq, .ne, .gt, .gte, .lt, .lte, .like, .notLike, .isIn, .notIn, .isNull, .isNotNull]

/-- The SQL spelling of an operator. -/
def sql : Operator → String
  | .eq => "="
  | .ne => "!="
  | .gt => ">"
  | .gte => ">="
  | .lt => "<"
  | .lte => "<="
  | .like => "LIKE"
  | .notLike => "NOT LIKE"
  | .isIn => "IN"
  | .notIn => "NOT IN"
  | .isNull => "IS NULL"
  | .isNotNull => "IS NOT NULL"

/-- Whether a value stands on the right. -/
def takesValue (o : Operator) : Bool := o != .isNull && o != .isNotNull

/-- Whether a list stands on the right. -/
def takesList (o : Operator) : Bool := o == .isIn || o == .notIn

end Operator

/-- How a condition is combined with the one before it. -/
inductive Connective where
  | and
  | or
  deriving DecidableEq, Repr

namespace Connective

/-- Every connective. -/
def all : List Connective := [.and, .or]

/-- The SQL keyword of a connective. -/
def sql : Connective → String
  | .and => "AND"
  | .or => "OR"

end Connective

/-- The directions of an order. -/
inductive Direction where
  | asc
  | desc
  deriving DecidableEq, Repr

namespace Direction

/-- Every direction. -/
def all : List Direction := [.asc, .desc]

/-- The SQL keyword of a direction. -/
def sql : Direction → String
  | .asc => "ASC"
  | .desc => "DESC"

end Direction

/-- A column of a table, by name. -/
structure ColumnRef where
  table : String
  column : String
  deriving DecidableEq

/-- A column in the list of a SELECT. -/
structure SelectedColumn where
  table : String
  column : String
  aggregate : Aggregate := .none
  givenAlias : Option String := none
  deriving DecidableEq

namespace SelectedColumn

/-- The column itself. -/
def ref (c : SelectedColumn) : ColumnRef := ⟨c.table, c.column⟩

/-- The alias that was asked for, when it is not blank. -/
def explicitAlias? (c : SelectedColumn) : Option String := Text.trim? c.givenAlias

end SelectedColumn

/-- A join of two tables on the equality of two columns. -/
structure Join where
  leftTable : String
  leftColumn : String
  rightTable : String
  rightColumn : String
  kind : JoinKind := .inner
  deriving DecidableEq

namespace Join

/-- The column on the left. -/
def left (j : Join) : ColumnRef := ⟨j.leftTable, j.leftColumn⟩

/-- The column on the right. -/
def right (j : Join) : ColumnRef := ⟨j.rightTable, j.rightColumn⟩

/-- Whether one of the sides is a column of a table. -/
def mentions (j : Join) (table : String) : Bool :=
  j.leftTable == table || j.rightTable == table

end Join

/-- A condition of WHERE or HAVING. The aggregate counts in HAVING alone. -/
structure Condition where
  table : String
  column : String
  operator : Operator
  value : String := ""
  connective : Connective := .and
  aggregate : Aggregate := .none
  deriving DecidableEq

/-- The column of a condition. -/
def Condition.ref (c : Condition) : ColumnRef := ⟨c.table, c.column⟩

/-- A column of the order. -/
structure OrderBy where
  table : String
  column : String
  direction : Direction := .asc
  deriving DecidableEq

/-- The column of an entry of the order. -/
def OrderBy.ref (o : OrderBy) : ColumnRef := ⟨o.table, o.column⟩

/-- A select query. The first table is the one that others are joined to. -/
structure Query where
  tables : List String := []
  columns : List SelectedColumn := []
  joins : List Join := []
  filters : List Condition := []
  groupBy : List ColumnRef := []
  having : List Condition := []
  orderBy : List OrderBy := []
  limit : Option UInt64 := none
  offset : Option UInt64 := none
  deriving DecidableEq

namespace Query

/-- Whether a table is selected. -/
def hasTable (q : Query) (table : String) : Bool := q.tables.contains table

/-- Whether the rows are grouped by a column. -/
def isGrouped (q : Query) (column : ColumnRef) : Bool := q.groupBy.contains column

/-- The conditions of WHERE, then those of HAVING. -/
def conditions (q : Query) : List Condition := q.filters ++ q.having

end Query

end SchemaCompiler
