/-
**SELECT.**

A query is first put in order: every join brings in one table, seen from the side that is already
there, and the tables that no join reaches are brought in by cross joins. The statement is then
written clause by clause.
-/

import SchemaCompiler.Query.Alias
import SchemaCompiler.SchemaError
import SchemaCompiler.Sql.Identifier
import SchemaCompiler.Sql.Value

namespace SchemaCompiler

/-- A join that brings in one table. -/
structure JoinClause where
  kind : JoinKind
  table : String
  left : ColumnRef
  right : ColumnRef
  deriving DecidableEq

namespace Query

/-- The error for a join of two tables that are both there already. -/
def joinedTwice (j : Join) : SchemaError :=
  .invalidQuery ("join between '" ++ j.leftTable ++ "' and '" ++ j.rightTable ++
    "' would join a table twice")

/-- The clauses of joins, given the tables that are already there. -/
def joinClauses : List String → List Join → Except SchemaError (List JoinClause)
  | _, [] => .ok []
  | joined, j :: rest =>
    if !joined.contains j.rightTable then
      (joinClauses (joined ++ [j.rightTable]) rest).map
        (⟨j.kind, j.rightTable, j.left, j.right⟩ :: ·)
    else if !joined.contains j.leftTable then
      (joinClauses (joined ++ [j.leftTable]) rest).map
        (⟨j.kind.mirrored, j.leftTable, j.left, j.right⟩ :: ·)
    else .error (joinedTwice j)

/-- The tables that are not there yet, each once, in order. -/
def crossJoined : List String → List String → List String
  | _, [] => []
  | joined, table :: rest =>
    if joined.contains table then crossJoined joined rest
    else table :: crossJoined (joined ++ [table]) rest

end Query

/-- The tables of a SELECT statement in the order in which they are brought in. -/
structure TableSources where
  first : String
  joins : List JoinClause
  crossJoins : List String
  deriving DecidableEq

/-- The tables that the clauses bring in. -/
def TableSources.tables (s : TableSources) : List String :=
  s.first :: s.joins.map (·.table) ++ s.crossJoins

/-- The tables of a query in order. -/
def Query.sources (q : Query) : Except SchemaError TableSources :=
  match q.tables with
  | [] => .error (.invalidQuery "no tables selected")
  | first :: _ => do
    let joins ← joinClauses [first] q.joins
    return ⟨first, joins, crossJoined (first :: joins.map (·.table)) q.tables⟩

namespace Dialect

/-! ### Expressions -/

/-- A column with its table. -/
def columnRef (d : Dialect) (column : ColumnRef) : String :=
  d.escapeIdentifier column.table ++ "." ++ d.escapeIdentifier column.column

/-- A column under an aggregate. -/
def aggregateText (d : Dialect) (aggregate : Aggregate) (column : ColumnRef) : String :=
  match aggregate.function? with
  | some function => function ++ "(" ++ d.columnRef column ++ ")"
  | none => d.columnRef column

/-- The operand that a user entered: a number that is not padded with zeros, a truth value, or a
string. -/
def operand (d : Dialect) (value : String) : String :=
  if Literal.isDecimal value && !Literal.hasLeadingZero value then value
  else if Text.sameName value "true" then d.boolLiteral true
  else if Text.sameName value "false" then d.boolLiteral false
  else d.stringLiteral (Literal.unquote value)

/-- The items of a list that a user entered, with commas between them; blank items are left out. -/
def listItems (value : String) : List String :=
  ((value.toList.splitOn ',').map fun item => Text.trim (String.ofList item)).filter (· ≠ "")

/-- What stands right of an operator. -/
def rightSide (d : Dialect) (c : Condition) : String :=
  if c.operator.takesList then
    " (" ++ ", ".intercalate ((listItems c.value).map d.operand) ++ ")"
  else if c.operator.takesValue then " " ++ d.operand (Text.trim c.value)
  else ""

/-- A condition; aggregates count in HAVING. -/
def conditionText (d : Dialect) (isHaving : Bool) (c : Condition) : String :=
  (if isHaving then d.aggregateText c.aggregate c.ref else d.columnRef c.ref) ++ " " ++
    c.operator.sql ++ d.rightSide c

/-- Conditions with their connectives between them; that of the first one is left out. -/
def conditionsText (d : Dialect) (isHaving : Bool) : List Condition → String
  | [] => ""
  | first :: rest =>
    d.conditionText isHaving first ++
      String.join (rest.map fun c =>
        " " ++ c.connective.sql ++ " " ++ d.conditionText isHaving c)

/-! ### Clauses -/

/-- A selected column with its alias. -/
def selectItem (d : Dialect) (column : SelectedColumn) (name : Option String) : String :=
  let expression := d.aggregateText column.aggregate column.ref
  match name with
  | some name => expression ++ " AS " ++ d.escapeIdentifier name
  | none => expression

/-- The list of a SELECT. -/
def selectList (d : Dialect) (q : Query) (options : SelectOptions) : String :=
  if q.columns.isEmpty then "*"
  else ", ".intercalate (List.zipWith d.selectItem q.columns (q.aliases options.includeAliases))

/-- The clause of a join. -/
def joinText (d : Dialect) (j : JoinClause) : String :=
  j.kind.sql ++ " " ++ d.escapeIdentifier j.table ++ " ON " ++ d.columnRef j.left ++ " = " ++
    d.columnRef j.right

/-- The clauses that bring in the tables. -/
def sourceClauses (d : Dialect) (s : TableSources) : List String :=
  ("FROM " ++ d.escapeIdentifier s.first) :: s.joins.map d.joinText ++
    s.crossJoins.map fun table => "CROSS JOIN " ++ d.escapeIdentifier table

/-- The limit that stands for no limit where an offset needs one. -/
def noLimit? : Dialect → Option String
  | .mysql => some "18446744073709551615"
  | .postgres => none
  | .sqlite => some "-1"

/-- The bounds of a query as they follow the other clauses, each with a space in front. -/
def limitOffset (d : Dialect) (limit offset : Option UInt64) : String :=
  let limitText := match limit, offset with
    | some limit, _ => some (toString limit)
    | none, some _ => d.noLimit?
    | none, none => none
  ((limitText.map (" LIMIT " ++ ·)).getD "") ++
    ((offset.map fun offset => " OFFSET " ++ toString offset).getD "")

/-- A clause that is written when a list has entries. -/
def clauseOf {α : Type} (keyword : String) (entries : List α) (text : List α → String) :
    List String :=
  if entries.isEmpty then [] else [keyword ++ text entries]

/-- The clauses of a SELECT statement. -/
def selectClauses (d : Dialect) (q : Query) (s : TableSources) (options : SelectOptions) :
    List String :=
  let bounds := d.limitOffset q.limit q.offset
  ("SELECT " ++ d.selectList q options) :: d.sourceClauses s ++
    clauseOf "WHERE " q.filters (d.conditionsText false) ++
    clauseOf "GROUP BY " q.groupBy (fun columns => ", ".intercalate (columns.map d.columnRef)) ++
    clauseOf "HAVING " q.having (d.conditionsText true) ++
    clauseOf "ORDER BY " q.orderBy (fun entries =>
      ", ".intercalate (entries.map fun o => d.columnRef o.ref ++ " " ++ o.direction.sql)) ++
    if bounds == "" then [] else [String.ofList (Text.dropBlanks bounds.toList)]

/-- The text of a SELECT statement. -/
def selectText (d : Dialect) (q : Query) (options : SelectOptions) : Except SchemaError String := do
  let sources ← q.sources
  let separator := if options.pretty then "\n" else " "
  return separator.intercalate (d.selectClauses q sources options) ++ ";"

theorem selectText_eq_ok_iff {d : Dialect} {q : Query} {options : SelectOptions} {text : String} :
    d.selectText q options = .ok text ↔ ∃ s, q.sources = .ok s ∧
      text = (if options.pretty then "\n" else " ").intercalate (d.selectClauses q s options) ++
        ";" := by
  unfold selectText
  constructor
  · intro written
    cases found : q.sources with
    | error cause =>
      rw [found] at written
      cases written
    | ok s =>
      rw [found] at written
      exact ⟨s, rfl, (Except.ok.inj written).symm⟩
  · rintro ⟨s, found, rfl⟩
    rw [found]
    rfl

theorem selectText_eq_error_iff {d : Dialect} {q : Query} {options : SelectOptions}
    {cause : SchemaError} :
    d.selectText q options = .error cause ↔ q.sources = .error cause := by
  unfold selectText
  cases q.sources <;> simp [bind, Except.bind, pure, Except.pure]

end Dialect

end SchemaCompiler
