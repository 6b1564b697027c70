/-
**The parts of a SELECT statement.**

A SELECT statement is made of names with words between them. Each part of it is told apart here, so
that it can be said of every place where a name stands, and in their order, which name it is: that of a
table, that of a column, or the alias that a selected column is given.

* `Dialect.written_separated` — separators are words.
* `Dialect.map_written_clauseParts`, `Dialect.selectText_parts` — the parts make up the statement.
* `Dialect.exists_selectParts_eq_list` — the selected columns come first.
* `Dialect.columns_selectParts`, `Dialect.aliases_selectParts` — the names that stand in it.
-/

import Mathlib.Data.List.Basic
import SchemaCompiler.Proofs.Query.JoinScope

namespace SchemaCompiler

/-! ### Parts -/

/-- A part of a statement: words as they are, or a name in its place. -/
inductive SelectPart where
  | words (text : String)
  | table (name : String)
  | column (name : String)
  | given (name : String)
  deriving DecidableEq

namespace SelectPart

/-- The text of a part. -/
def text (d : Dialect) : SelectPart → String
  | .words text => text
  | .table name | .column name | .given name => d.escapeIdentifier name

/-- The name of a column. -/
def column? : SelectPart → Option String
  | .column name => some name
  | _ => none

/-- The alias of a selected column. -/
def alias? : SelectPart → Option String
  | .given name => some name
  | _ => none

end SelectPart

namespace Dialect

/-- The text of parts one after the other. -/
def written (d : Dialect) (parts : List SelectPart) : String :=
  String.join (parts.map (·.text d))

end Dialect

/-! ### Expressions -/

/-- The parts of a column with its table. -/
def ColumnRef.parts (column : ColumnRef) : List SelectPart :=
  [.table column.table, .words ".", .column column.column]

/-- The parts of a column under an aggregate. -/
def Aggregate.parts (aggregate : Aggregate) (column : ColumnRef) : List SelectPart :=
  match aggregate.function? with
  | some function => .words (function ++ "(") :: column.parts ++ [.words ")"]
  | Option.none => column.parts

/-- The parts of a selected column with its alias. -/
def SelectedColumn.parts (c : SelectedColumn) (name : Option String) : List SelectPart :=
  c.aggregate.parts c.ref ++
    match name with
    | some name => [.words " AS ", .given name]
    | none => []

/-- Parts with a separator between them. -/
def separated (separator : String) (each : List (List SelectPart)) : List SelectPart :=
  [SelectPart.words separator].intercalate each

/-- The parts of the list of a SELECT. -/
def Query.listParts (q : Query) (options : SelectOptions) : List SelectPart :=
  if q.columns.isEmpty then [.words "*"]
  else
    separated ", " (List.zipWith SelectedColumn.parts q.columns (q.aliases options.includeAliases))

/-- The parts of the clause of a join. -/
def JoinClause.parts (j : JoinClause) : List SelectPart :=
  [.words (j.kind.sql ++ " "), .table j.table, .words " ON "] ++ j.left.parts ++
    [.words " = "] ++ j.right.parts

/-- The parts of the clauses that bring in the tables. -/
def TableSources.parts (s : TableSources) : List (List SelectPart) :=
  [.words "FROM ", .table s.first] :: s.joins.map (·.parts) ++
    s.crossJoins.map fun table => [.words "CROSS JOIN ", .table table]

/-- The parts of a clause that is written when a list has entries. -/
def partsOf {α : Type} (keyword : String) (entries : List α) (parts : List α → List SelectPart) :
    List (List SelectPart) :=
  if entries.isEmpty then [] else [.words keyword :: parts entries]

namespace Dialect

/-- The parts of a condition. -/
def conditionParts (d : Dialect) (isHaving : Bool) (c : Condition) : List SelectPart :=
  (if isHaving then c.aggregate.parts c.ref else c.ref.parts) ++
    [.words (" " ++ c.operator.sql ++ d.rightSide c)]

/-- The parts of conditions with their connectives between them. -/
def conditionsParts (d : Dialect) (isHaving : Bool) : List Condition → List SelectPart
  | [] => []
  | first :: rest =>
    d.conditionParts isHaving first ++ rest.flatMap fun c =>
      .words (" " ++ c.connective.sql ++ " ") :: d.conditionParts isHaving c

/-- The parts of the clauses of a statement. -/
def clauseParts (d : Dialect) (q : Query) (s : TableSources) (options : SelectOptions) :
    List (List SelectPart) :=
  let bounds := d.limitOffset q.limit q.offset
  (.words "SELECT " :: q.listParts options) :: s.parts ++
    partsOf "WHERE " q.filters (d.conditionsParts false) ++
    partsOf "GROUP BY " q.groupBy (fun columns => separated ", " (columns.map (·.parts))) ++
    partsOf "HAVING " q.having (d.conditionsParts true) ++
    partsOf "ORDER BY " q.orderBy (fun entries =>
      separated ", " (entries.map fun o => o.ref.parts ++ [.words (" " ++ o.direction.sql)])) ++
    if bounds == "" then [] else [[.words (String.ofList (Text.dropBlanks bounds.toList))]]

/-- The parts of a statement. -/
def selectParts (d : Dialect) (q : Query) (s : TableSources) (options : SelectOptions) :
    List SelectPart :=
  separated (if options.pretty then "\n" else " ") (d.clauseParts q s options) ++ [.words ";"]

/-! ### The text of parts -/

section Written

variable {d : Dialect}

@[simp] theorem written_nil : d.written [] = "" := rfl

@[simp] theorem written_cons (part : SelectPart) (rest : List SelectPart) :
    d.written (part :: rest) = part.text d ++ d.written rest := by
  rw [written, List.map_cons, String.join_cons]
  rfl

@[simp] theorem written_append (front back : List SelectPart) :
    d.written (front ++ back) = d.written front ++ d.written back := by
  rw [written, List.map_append, String.join_append]
  rfl

@[simp] theorem text_words (text : String) : (SelectPart.words text).text d = text := rfl

/-- **Separators are words.** -/
theorem written_separated (separator : String) (each : List (List SelectPart)) :
    d.written (separated separator each) = separator.intercalate (each.map d.written) := by
  unfold separated
  induction each with
  | nil => rfl
  | cons first rest ih =>
    cases rest with
    | nil => simp
    | cons next rest =>
      rw [List.intercalate_cons_cons, List.map_cons, List.map_cons, String.intercalate_cons_cons]
      rw [List.map_cons] at ih
      simp [ih, String.append_assoc]

@[simp] theorem written_ref (column : ColumnRef) : d.written column.parts = d.columnRef column := by
  simp [ColumnRef.parts, columnRef, SelectPart.text, String.append_assoc]

@[simp] theorem written_aggregate (aggregate : Aggregate) (column : ColumnRef) :
    d.written (aggregate.parts column) = d.aggregateText aggregate column := by
  unfold Aggregate.parts aggregateText
  cases aggregate.function? <;> simp [String.append_assoc]

theorem written_selectedColumn (c : SelectedColumn) (name : Option String) :
    d.written (c.parts name) = d.selectItem c name := by
  unfold SelectedColumn.parts selectItem
  cases name <;> simp [SelectPart.text, String.append_assoc]

theorem written_selectList (q : Query) (options : SelectOptions) :
    d.written (q.listParts options) = d.selectList q options := by
  unfold Query.listParts selectList
  split
  · rfl
  · rw [written_separated, List.map_zipWith]
    simp only [written_selectedColumn]

theorem written_join (j : JoinClause) : d.written j.parts = d.joinText j := by
  simp [JoinClause.parts, joinText, SelectPart.text, String.append_assoc]

theorem map_written_sources (s : TableSources) : s.parts.map d.written = d.sourceClauses s := by
  simp [TableSources.parts, sourceClauses, written_join, SelectPart.text, Function.comp_def]

theorem written_condition (isHaving : Bool) (c : Condition) :
    d.written (d.conditionParts isHaving c) = d.conditionText isHaving c := by
  unfold conditionParts conditionText
  cases isHaving <;> simp [String.append_assoc]

theorem written_conditions (isHaving : Bool) (conditions : List Condition) :
    d.written (d.conditionsParts isHaving conditions) = d.conditionsText isHaving conditions := by
  cases conditions with
  | nil => rfl
  | cons first rest =>
    rw [conditionsParts, conditionsText, written_append, written_condition]
    congr 1
    induction rest with
    | nil => rfl
    | cons c rest ih =>
      rw [List.flatMap_cons, List.map_cons, String.join_cons, written_append, ih, written_cons,
        written_condition, text_words]

theorem map_written_partsOf {α : Type} (keyword : String) (entries : List α)
    (parts : List α → List SelectPart) :
    (partsOf keyword entries parts).map d.written =
      clauseOf keyword entries fun entries => d.written (parts entries) := by
  unfold partsOf clauseOf
  split
  · rfl
  · simp

/-- **The parts of a clause** make up the clause. -/
theorem map_written_clauseParts (q : Query) (s : TableSources) (options : SelectOptions) :
    (d.clauseParts q s options).map d.written = d.selectClauses q s options := by
  unfold clauseParts selectClauses
  simp only [List.map_append, List.map_cons, map_written_sources, map_written_partsOf,
    written_selectList, written_separated, written_conditions, List.map_map, written_cons, text_words,
    Function.comp_def, written_ref, written_append, written_nil, String.append_empty,
    String.append_assoc]
  congr 1
  split
  · rfl
  · rfl

end Written

/-- **The parts of a statement** make up its text. -/
theorem selectText_parts {d : Dialect} {q : Query} {options : SelectOptions} {text : String}
    (written : d.selectText q options = .ok text) :
    ∃ s, q.sources = .ok s ∧ text = d.written (d.selectParts q s options) := by
  obtain ⟨s, found, rfl⟩ := selectText_eq_ok_iff.mp written
  refine ⟨s, found, ?_⟩
  rw [selectParts, written_append, written_separated, map_written_clauseParts]
  rfl

end Dialect

theorem exists_separated_cons (separator : String) (first : List SelectPart)
    (rest : List (List SelectPart)) :
    ∃ later, separated separator (first :: rest) = first ++ later := by
  cases rest with
  | nil => exact ⟨[], by simp [separated]⟩
  | cons next rest =>
    exact ⟨_, by rw [separated, List.intercalate_cons_cons, List.append_assoc]⟩

/-- **A statement starts with its list**: the selected columns, each with its own alias. -/
theorem Dialect.exists_selectParts_eq_list (d : Dialect) (q : Query) (s : TableSources)
    (options : SelectOptions) :
    ∃ later, d.selectParts q s options = .words "SELECT " :: (q.listParts options ++ later) := by
  simp only [Dialect.selectParts, Dialect.clauseParts, List.cons_append]
  obtain ⟨later, starts⟩ := exists_separated_cons (if options.pretty then "\n" else " ")
    (.words "SELECT " :: q.listParts options) _
  exact ⟨later ++ [.words ";"], by rw [starts, List.append_assoc, List.cons_append]⟩

/-! ### The names in parts -/

/-- The names of columns that a query refers to, clause by clause. -/
def Query.writtenColumns (q : Query) : List String :=
  q.columns.map (·.column) ++ (q.joins.flatMap fun j => [j.leftColumn, j.rightColumn]) ++
    q.filters.map (·.column) ++ q.groupBy.map (·.column) ++ q.having.map (·.column) ++
    q.orderBy.map (·.column)

section Names

variable {name? : SelectPart → Option String} (wordless : ∀ text, name? (.words text) = none)

include wordless

theorem filterMap_separated (separator : String) (each : List (List SelectPart)) :
    (separated separator each).filterMap name? = each.flatMap (·.filterMap name?) := by
  unfold separated
  induction each with
  | nil => rfl
  | cons first rest ih =>
    cases rest with
    | nil => simp
    | cons next rest =>
      rw [List.intercalate_cons_cons, List.filterMap_append, List.filterMap_append, ih]
      simp [wordless]

theorem filterMap_aggregate (aggregate : Aggregate) (column : ColumnRef) :
    (aggregate.parts column).filterMap name? = column.parts.filterMap name? := by
  unfold Aggregate.parts
  cases aggregate.function? <;> simp [wordless]

theorem filterMap_list (q : Query) (options : SelectOptions) :
    (q.listParts options).filterMap name? =
      q.columns.flatMap fun c =>
        c.ref.parts.filterMap name? ++
          ((if options.includeAliases then q.aliasOf c else none).toList.map .given).filterMap
            name? := by
  have item (c : SelectedColumn) (name : Option String) :
      (c.parts name).filterMap name? =
        c.ref.parts.filterMap name? ++ (name.toList.map .given).filterMap name? := by
    unfold SelectedColumn.parts
    rw [List.filterMap_append, filterMap_aggregate wordless]
    cases name <;> simp [wordless]
  unfold Query.listParts
  split
  · rename_i none
    rw [List.isEmpty_iff] at none
    simp [none, wordless]
  · rw [filterMap_separated wordless, Query.aliases, List.zipWith_map_right, List.zipWith_self,
      List.flatMap_map]
    simp only [item]

theorem filterMap_sources (tableless : ∀ name, name? (.table name) = none) (s : TableSources) :
    (s.parts.flatMap fun parts => parts.filterMap name?) =
      s.joins.flatMap fun j => j.left.parts.filterMap name? ++ j.right.parts.filterMap name? := by
  have ofJoin (j : JoinClause) : j.parts.filterMap name? =
      j.left.parts.filterMap name? ++ j.right.parts.filterMap name? := by
    simp [JoinClause.parts, wordless, tableless]
  have ofTable (keyword name : String) :
      [SelectPart.words keyword, .table name].filterMap name? = [] := by
    simp [wordless, tableless]
  simp only [TableSources.parts, List.cons_append, List.flatMap_cons, List.flatMap_append,
    List.flatMap_map, ofJoin, ofTable, List.nil_append]
  simp

theorem filterMap_conditions (d : Dialect) (isHaving : Bool) (conditions : List Condition) :
    (d.conditionsParts isHaving conditions).filterMap name? =
      conditions.flatMap fun c => c.ref.parts.filterMap name? := by
  have condition (c : Condition) :
      (d.conditionParts isHaving c).filterMap name? = c.ref.parts.filterMap name? := by
    unfold Dialect.conditionParts
    cases isHaving <;> simp [wordless, filterMap_aggregate wordless]
  cases conditions with
  | nil => rfl
  | cons first rest =>
    rw [Dialect.conditionsParts, List.filterMap_append, condition, List.flatMap_cons]
    congr 1
    induction rest with
    | nil => rfl
    | cons c rest ih =>
      rw [List.flatMap_cons, List.flatMap_cons, List.filterMap_append, ih]
      simp [wordless, condition]

theorem filterMap_partsOf {α : Type} (keyword : String) (entries : List α)
    {parts : List α → List SelectPart} (nothing : parts [] = []) :
    (partsOf keyword entries parts).flatMap (·.filterMap name?) =
      (parts entries).filterMap name? := by
  cases entries with
  | nil => simp [partsOf, nothing]
  | cons first rest => simp [partsOf, wordless]

/-- **The names of a statement**, clause by clause. -/
theorem filterMap_selectParts (d : Dialect) (q : Query) (s : TableSources)
    (options : SelectOptions) :
    (d.selectParts q s options).filterMap name? =
      (q.listParts options).filterMap name? ++ s.parts.flatMap (·.filterMap name?) ++
        (q.filters.flatMap fun c => c.ref.parts.filterMap name?) ++
        (q.groupBy.flatMap fun column => column.parts.filterMap name?) ++
        (q.having.flatMap fun c => c.ref.parts.filterMap name?) ++
        q.orderBy.flatMap fun o => o.ref.parts.filterMap name? := by
  have bounds (text : String) :
      (if text == "" then [] else [[SelectPart.words (String.ofList (Text.dropBlanks text.toList))]]
        ).flatMap (·.filterMap name?) = [] := by
    split
    · rfl
    · simp [wordless]
  have words (text : String) (rest : List SelectPart) :
      (.words text :: rest).filterMap name? = rest.filterMap name? := by
    rw [List.filterMap_cons_none (wordless text)]
  rw [Dialect.selectParts, List.filterMap_append, filterMap_separated wordless, words,
    List.filterMap_nil, List.append_nil, Dialect.clauseParts]
  simp only [List.flatMap_append, List.cons_append, List.flatMap_cons, bounds, List.append_nil, words]
  rw [filterMap_partsOf wordless _ _ rfl, filterMap_partsOf wordless _ _ rfl,
    filterMap_partsOf wordless _ _ rfl, filterMap_partsOf wordless _ _ rfl,
    filterMap_conditions wordless, filterMap_conditions wordless, filterMap_separated wordless,
    filterMap_separated wordless]
  simp [List.flatMap_map, words]

end Names

/-- A join is written with its own two columns, whichever table it brings in. -/
theorem Query.sides_of_joinClauses {joined : List String} {joins : List Join}
    {clauses : List JoinClause} (succeeds : joinClauses joined joins = .ok clauses) :
    (clauses.flatMap fun j => [j.left.column, j.right.column]) =
      joins.flatMap fun j => [j.leftColumn, j.rightColumn] := by
  induction joins generalizing joined clauses with
  | nil =>
    cases succeeds
    rfl
  | cons j rest ih =>
    obtain ⟨clause, others, rfl, added, succeedsAfter⟩ := joinClauses_cons succeeds
    rw [List.flatMap_cons, List.flatMap_cons, ih succeedsAfter]
    cases added <;> rfl

namespace Dialect

variable {q : Query} {s : TableSources}

/-- **The columns in a statement** are those that its query refers to. -/
theorem columns_selectParts (d : Dialect) (found : q.sources = .ok s) (options : SelectOptions) :
    (d.selectParts q s options).filterMap SelectPart.column? = q.writtenColumns := by
  have ofRef (column : ColumnRef) : column.parts.filterMap SelectPart.column? = [column.column] := rfl
  have ofList : (q.listParts options).filterMap SelectPart.column? = q.columns.map (·.column) := by
    rw [filterMap_list fun _ => rfl, List.map_eq_flatMap]
    refine List.flatMap_congr fun c _ => ?_
    rw [ofRef]
    cases if options.includeAliases then q.aliasOf c else none <;> rfl
  have ofSources : (s.parts.flatMap fun parts => parts.filterMap SelectPart.column?) =
      q.joins.flatMap fun j => [j.leftColumn, j.rightColumn] := by
    rw [filterMap_sources (fun _ => rfl) fun _ => rfl,
      ← Query.sides_of_joinClauses (Query.sources_eq_ok found).2]
    rfl
  rw [filterMap_selectParts fun _ => rfl, ofList, ofSources]
  simp only [ofRef, Query.writtenColumns, List.map_eq_flatMap]
  rfl

/-- **The aliases in a statement** are those of its selected columns, in their order. -/
theorem aliases_selectParts (d : Dialect) (q : Query) (s : TableSources) (options : SelectOptions) :
    (d.selectParts q s options).filterMap SelectPart.alias? =
      (q.aliases options.includeAliases).reduceOption := by
  have ofRef (column : ColumnRef) : column.parts.filterMap SelectPart.alias? = [] := rfl
  have ofList : (q.listParts options).filterMap SelectPart.alias? =
      (q.aliases options.includeAliases).reduceOption := by
    show _ = List.filterMap id _
    rw [filterMap_list fun _ => rfl, Query.aliases, List.filterMap_map,
      List.filterMap_eq_flatMap_toList]
    refine List.flatMap_congr fun c _ => ?_
    rw [ofRef, Function.comp_apply]
    cases if options.includeAliases then q.aliasOf c else none <;> rfl
  have ofSources : (s.parts.flatMap fun parts => parts.filterMap SelectPart.alias?) = [] := by
    rw [filterMap_sources (fun _ => rfl) fun _ => rfl]
    simp [ofRef]
  rw [filterMap_selectParts fun _ => rfl, ofList, ofSources]
  simp [ofRef]

end Dialect

end SchemaCompiler
