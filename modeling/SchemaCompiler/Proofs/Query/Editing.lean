/-
**Queries under edit.**

A query is only ever changed by actions, from the empty query on. Selecting never repeats a table,
grouping never repeats a column, and a column comes with its table and goes with it. Joins,
conditions, groups and orders are taken as they are given; as long as they name tables that are
selected at that moment, nothing is left behind when a table is deselected.

* `Query.IsTidy.apply`, `Query.IsClosed.apply` — what one action keeps.
* `Query.edited_refers_to_selected` — what holds after any actions, and what the check then reports.
-/

import Mathlib.Data.List.Induction
import SchemaCompiler.Proofs.Query.Coverage
import SchemaCompiler.Query.Action

namespace SchemaCompiler

/-! ### Actions and what they leave -/

/-- The query after actions, one after the other from the empty query on. -/
def Query.edited (actions : List QueryAction) : Query :=
  actions.foldl apply {}

/-- Whether the tables that an action only refers to are selected. Columns select their tables. -/
def QueryAction.NamesSelected (q : Query) : QueryAction → Prop
  | .addJoin join => join.leftTable ∈ q.tables ∧ join.rightTable ∈ q.tables
  | .addFilter condition => condition.table ∈ q.tables
  | .addHaving condition => condition.table ∈ q.tables
  | .toggleGroupBy column => column.table ∈ q.tables
  | .addOrderBy entry => entry.table ∈ q.tables
  | _ => True

/-- Whether each of some actions refers to tables that are selected when its turn comes. -/
def QueryAction.AllNameSelected (actions : List QueryAction) : Prop :=
  ∀ before action after, actions = before ++ action :: after →
    action.NamesSelected (Query.edited before)

instance (q : Query) : ∀ action : QueryAction, Decidable (action.NamesSelected q)
  | .addJoin join =>
    inferInstanceAs (Decidable (join.leftTable ∈ q.tables ∧ join.rightTable ∈ q.tables))
  | .addFilter condition => inferInstanceAs (Decidable (condition.table ∈ q.tables))
  | .addHaving condition => inferInstanceAs (Decidable (condition.table ∈ q.tables))
  | .toggleGroupBy column => inferInstanceAs (Decidable (column.table ∈ q.tables))
  | .addOrderBy entry => inferInstanceAs (Decidable (entry.table ∈ q.tables))
  | .toggleTable _ | .toggleColumn _ | .addColumn _ | .removeColumn _ | .setAggregate _ _
  | .setAlias _ _ | .removeJoin _ | .removeFilter _ | .removeHaving _ | .removeOrderBy _
  | .setLimit _ | .setOffset _ | .reset => isTrue trivial

instance (actions : List QueryAction) : Decidable (QueryAction.AllNameSelected actions) :=
  decidable_of_iff
    (EachAfter (fun before action => action.NamesSelected (Query.edited before)) [] actions)
    eachAfter_iff

namespace Query

/-- A query that repeats no table and no group, and whose columns are of selected tables. -/
structure IsTidy (q : Query) : Prop where
  tables : q.tables.Nodup
  groupBy : q.groupBy.Nodup
  columns : ∀ c ∈ q.columns, c.table ∈ q.tables

/-- A query whose joins, conditions, groups and orders are of selected tables. -/
structure IsClosed (q : Query) : Prop where
  joins : ∀ j ∈ q.joins, j.leftTable ∈ q.tables ∧ j.rightTable ∈ q.tables
  filters : ∀ c ∈ q.filters, c.table ∈ q.tables
  having : ∀ c ∈ q.having, c.table ∈ q.tables
  groupBy : ∀ ref ∈ q.groupBy, ref.table ∈ q.tables
  orderBy : ∀ o ∈ q.orderBy, o.table ∈ q.tables

variable {q : Query}

/-! ### Lists of a query -/

section Lists

variable {α : Type} {holds : α → Prop} {items : List α}

theorem forall_mem_concat {item : α} (all : ∀ x ∈ items, holds x) (new : holds item) :
    ∀ x ∈ items ++ [item], holds x :=
  List.forall_mem_append.mpr ⟨all, List.forall_mem_singleton.mpr new⟩

theorem forall_mem_eraseIdx (all : ∀ x ∈ items, holds x) (place : Nat) :
    ∀ x ∈ items.eraseIdx place, holds x := by
  intro x member
  exact all x (List.mem_of_mem_eraseIdx member)

theorem nodup_concat {item : α} (distinct : items.Nodup) (new : item ∉ items) :
    (items ++ [item]).Nodup := by
  rw [← List.concat_eq_append]
  exact distinct.concat new

end Lists

theorem hasTable_iff {table : String} : q.hasTable table = true ↔ table ∈ q.tables :=
  List.contains_iff_mem

theorem isGrouped_iff {ref : ColumnRef} : q.isGrouped ref = true ↔ ref ∈ q.groupBy :=
  List.contains_iff_mem

/-! ### Selecting a table -/

theorem selectTable_of_selected {table : String} (selected : table ∈ q.tables) :
    q.selectTable table = q :=
  if_pos (hasTable_iff.mpr selected)

theorem selectTable_of_unselected {table : String} (unselected : table ∉ q.tables) :
    q.selectTable table = { q with tables := q.tables ++ [table] } :=
  if_neg (mt hasTable_iff.mp unselected)

theorem mem_tables_selectTable (q : Query) (table : String) :
    table ∈ (q.selectTable table).tables := by
  by_cases selected : table ∈ q.tables
  · rw [selectTable_of_selected selected]
    exact selected
  · rw [selectTable_of_unselected selected]
    exact List.mem_append_right _ (List.mem_singleton_self table)

theorem IsTidy.selectTable (tidy : q.IsTidy) (table : String) : (q.selectTable table).IsTidy := by
  by_cases selected : table ∈ q.tables
  · rw [selectTable_of_selected selected]
    exact tidy
  · rw [selectTable_of_unselected selected]
    refine ⟨nodup_concat tidy.tables selected, tidy.groupBy, ?_⟩
    intro c isColumn
    exact List.mem_append_left _ (tidy.columns c isColumn)

theorem IsClosed.selectTable (closed : q.IsClosed) (table : String) :
    (q.selectTable table).IsClosed := by
  by_cases selected : table ∈ q.tables
  · rw [selectTable_of_selected selected]
    exact closed
  · rw [selectTable_of_unselected selected]
    have still : ∀ {name}, name ∈ q.tables → name ∈ q.tables ++ [table] :=
      List.mem_append_left _
    refine ⟨fun j isJoin => ?_, fun c isFilter => still (closed.filters c isFilter),
      fun c isHaving => still (closed.having c isHaving),
      fun ref isGroup => still (closed.groupBy ref isGroup),
      fun o isOrder => still (closed.orderBy o isOrder)⟩
    obtain ⟨left, right⟩ := closed.joins j isJoin
    exact ⟨still left, still right⟩

/-! ### Deselecting a table -/

theorem mem_tables_withoutTable {table name : String} :
    name ∈ (q.withoutTable table).tables ↔ name ∈ q.tables ∧ name ≠ table := by
  show name ∈ q.tables.filter (· != table) ↔ _
  rw [List.mem_filter, bne_iff_ne]

/-- **What is left without a table** names tables that are left. -/
theorem forall_mem_filter_withoutTable {α : Type} {items : List α} {tableOf : α → String}
    (selected : ∀ item ∈ items, tableOf item ∈ q.tables) (table : String) :
    ∀ item ∈ items.filter (tableOf · != table),
      tableOf item ∈ (q.withoutTable table).tables := by
  intro item left
  obtain ⟨member, other⟩ := List.mem_filter.mp left
  exact mem_tables_withoutTable.mpr ⟨selected item member, bne_iff_ne.mp other⟩

theorem IsTidy.withoutTable (tidy : q.IsTidy) (table : String) :
    (q.withoutTable table).IsTidy where
  tables := tidy.tables.filter _
  groupBy := tidy.groupBy.filter _
  columns := forall_mem_filter_withoutTable tidy.columns table

theorem IsClosed.withoutTable (closed : q.IsClosed) (table : String) :
    (q.withoutTable table).IsClosed where
  joins := by
    intro j left
    obtain ⟨isJoin, unmentioned⟩ := List.mem_filter.mp left
    obtain ⟨leftSelected, rightSelected⟩ := closed.joins j isJoin
    simp only [Join.mentions, Bool.not_eq_true', Bool.or_eq_false_iff, beq_eq_false_iff_ne]
      at unmentioned
    exact ⟨mem_tables_withoutTable.mpr ⟨leftSelected, unmentioned.1⟩,
      mem_tables_withoutTable.mpr ⟨rightSelected, unmentioned.2⟩⟩
  filters := forall_mem_filter_withoutTable closed.filters table
  having := forall_mem_filter_withoutTable closed.having table
  groupBy := forall_mem_filter_withoutTable closed.groupBy table
  orderBy := forall_mem_filter_withoutTable closed.orderBy table

/-- Toggling deselects a table that is selected, and selects any other. -/
theorem toggleTable_eq (q : Query) (table : String) :
    q.toggleTable table =
      if table ∈ q.tables then q.withoutTable table else q.selectTable table := by
  unfold toggleTable
  by_cases selected : table ∈ q.tables
  · rw [if_pos (hasTable_iff.mpr selected), if_pos selected]
  · rw [if_neg (mt hasTable_iff.mp selected), if_neg selected, selectTable_of_unselected selected]

/-! ### Columns and groups -/

theorem IsTidy.withColumn (tidy : q.IsTidy) (column : SelectedColumn) :
    (q.withColumn column).IsTidy := by
  have grown := tidy.selectTable column.table
  refine ⟨grown.tables, grown.groupBy, ?_⟩
  exact forall_mem_concat grown.columns (mem_tables_selectTable q column.table)

theorem IsClosed.withColumn (closed : q.IsClosed) (column : SelectedColumn) :
    (q.withColumn column).IsClosed := by
  have grown := closed.selectTable column.table
  exact ⟨grown.joins, grown.filters, grown.having, grown.groupBy, grown.orderBy⟩

theorem IsTidy.toggleColumn (tidy : q.IsTidy) (column : ColumnRef) :
    (q.toggleColumn column).IsTidy := by
  unfold Query.toggleColumn
  split
  · refine ⟨tidy.tables, tidy.groupBy, ?_⟩
    intro c left
    exact tidy.columns c (List.mem_of_mem_filter left)
  · exact tidy.withColumn _

theorem IsClosed.toggleColumn (closed : q.IsClosed) (column : ColumnRef) :
    (q.toggleColumn column).IsClosed := by
  unfold Query.toggleColumn
  split
  · exact ⟨closed.joins, closed.filters, closed.having, closed.groupBy, closed.orderBy⟩
  · exact closed.withColumn _

/-- Changes of a column that leave its table alone keep a query tidy. -/
theorem IsTidy.mapColumn (tidy : q.IsTidy) (column : ColumnRef)
    {change : SelectedColumn → SelectedColumn} (sameTable : ∀ c, (change c).table = c.table) :
    (q.mapColumn column change).IsTidy := by
  refine ⟨tidy.tables, tidy.groupBy, ?_⟩
  refine List.forall_mem_map.mpr fun c isColumn => ?_
  show (if _ then change c else c).table ∈ q.tables
  split
  · rw [sameTable]
    exact tidy.columns c isColumn
  · exact tidy.columns c isColumn

theorem IsTidy.toggleGroupBy (tidy : q.IsTidy) (column : ColumnRef) :
    (q.toggleGroupBy column).IsTidy := by
  unfold Query.toggleGroupBy
  by_cases grouped : q.isGrouped column = true
  · rw [if_pos grouped]
    exact ⟨tidy.tables, tidy.groupBy.filter _, tidy.columns⟩
  · rw [if_neg grouped]
    exact ⟨tidy.tables, nodup_concat tidy.groupBy (mt isGrouped_iff.mpr grouped), tidy.columns⟩

theorem IsClosed.toggleGroupBy (closed : q.IsClosed) {column : ColumnRef}
    (selected : column.table ∈ q.tables) : (q.toggleGroupBy column).IsClosed := by
  unfold Query.toggleGroupBy
  split
  · refine { closed with groupBy := ?_ }
    intro ref left
    exact closed.groupBy ref (List.mem_of_mem_filter left)
  · exact { closed with groupBy := forall_mem_concat closed.groupBy selected }

/-! ### One action -/

/-- **No action makes a query untidy.** -/
theorem IsTidy.apply (tidy : q.IsTidy) (action : QueryAction) : (q.apply action).IsTidy := by
  cases action with
  | toggleTable table =>
    show (q.toggleTable table).IsTidy
    rw [toggleTable_eq]
    split
    · exact tidy.withoutTable table
    · exact tidy.selectTable table
  | toggleColumn column => exact tidy.toggleColumn column
  | addColumn column => exact tidy.withColumn column
  | removeColumn place =>
    exact ⟨tidy.tables, tidy.groupBy, forall_mem_eraseIdx tidy.columns place⟩
  | setAggregate column aggregate => exact tidy.mapColumn column fun _ => rfl
  | setAlias column name => exact tidy.mapColumn column fun _ => rfl
  | toggleGroupBy column => exact tidy.toggleGroupBy column
  | reset => exact ⟨List.nodup_nil, List.nodup_nil, fun _ isColumn => absurd isColumn List.not_mem_nil⟩
  | addJoin | removeJoin | addFilter | removeFilter | addHaving | removeHaving | addOrderBy
  | removeOrderBy | setLimit | setOffset =>
    exact ⟨tidy.tables, tidy.groupBy, tidy.columns⟩

/-- **An action that names selected tables** leaves no reference to another one behind. -/
theorem IsClosed.apply (closed : q.IsClosed) {action : QueryAction}
    (names : action.NamesSelected q) : (q.apply action).IsClosed := by
  cases action with
  | toggleTable table =>
    show (q.toggleTable table).IsClosed
    rw [toggleTable_eq]
    split
    · exact closed.withoutTable table
    · exact closed.selectTable table
  | toggleColumn column => exact closed.toggleColumn column
  | addColumn column => exact closed.withColumn column
  | addJoin join => exact { closed with joins := forall_mem_concat closed.joins names }
  | removeJoin place => exact { closed with joins := forall_mem_eraseIdx closed.joins place }
  | addFilter condition => exact { closed with filters := forall_mem_concat closed.filters names }
  | removeFilter place => exact { closed with filters := forall_mem_eraseIdx closed.filters place }
  | addHaving condition => exact { closed with having := forall_mem_concat closed.having names }
  | removeHaving place => exact { closed with having := forall_mem_eraseIdx closed.having place }
  | toggleGroupBy column => exact closed.toggleGroupBy names
  | addOrderBy entry => exact { closed with orderBy := forall_mem_concat closed.orderBy names }
  | removeOrderBy place => exact { closed with orderBy := forall_mem_eraseIdx closed.orderBy place }
  | reset => exact ⟨nofun, nofun, nofun, nofun, nofun⟩
  | removeColumn | setAggregate | setAlias | setLimit | setOffset =>
    exact ⟨closed.joins, closed.filters, closed.having, closed.groupBy, closed.orderBy⟩

/-! ### Any number of actions -/

theorem edited_concat (actions : List QueryAction) (action : QueryAction) :
    edited (actions ++ [action]) = (edited actions).apply action :=
  List.foldl_concat ..

/-- **A query under edit is tidy**, whatever the actions. -/
theorem isTidy_edited (actions : List QueryAction) : (edited actions).IsTidy := by
  induction actions using List.reverseRecOn with
  | nil => exact ⟨List.nodup_nil, List.nodup_nil, nofun⟩
  | append_singleton before action ih =>
    rw [edited_concat]
    exact ih.apply action

theorem allNameSelected_of_append {before actions : List QueryAction} (reached : before <+: actions)
    (names : QueryAction.AllNameSelected actions) : QueryAction.AllNameSelected before := by
  obtain ⟨rest, rfl⟩ := reached
  intro earlier action later split
  apply names earlier action (later ++ rest)
  rw [split, List.append_assoc, List.cons_append]

/-- **A query under edit refers to selected tables** when the actions named such tables. -/
theorem isClosed_edited {actions : List QueryAction}
    (names : QueryAction.AllNameSelected actions) : (edited actions).IsClosed := by
  induction actions using List.reverseRecOn with
  | nil => exact ⟨nofun, nofun, nofun, nofun, nofun⟩
  | append_singleton before action ih =>
    have closed := ih (allNameSelected_of_append (List.prefix_append before [action]) names)
    rw [edited_concat]
    exact closed.apply (names before action [] rfl)

end Query

/-! ### The check of a query under edit -/

/-- Whether an error is about a table that is not selected. -/
def QueryError.IsUnselected : QueryError → Prop
  | .unselected _ _ => True
  | .unselectedJoin _ => True
  | _ => False

/-- The messages about tables that are not selected are the ones with this last word. -/
theorem QueryError.isUnselected_iff (error : QueryError) :
    error.IsUnselected ↔ "selected".toList <:+ error.message.toList := by
  -- A message that ends otherwise has no room for the word behind its last part.
  have other : ∀ start ending : String, "selected".length ≤ ending.length →
      ¬ "selected".toList <:+ ending.toList →
      ¬ "selected".toList <:+ (start ++ ending).toList := by
    intro start ending room differs isEnding
    rw [String.toList_append] at isEnding
    exact differs (List.suffix_of_suffix_length_le isEnding (List.suffix_append _ _) room)
  have same : ∀ start : String,
      "selected".toList <:+ (start ++ "', which is not selected").toList := by
    intro start
    rw [String.toList_append]
    exact List.IsSuffix.trans (by decide) (List.suffix_append _ _)
  cases error with
  | unselected place ref => exact iff_of_true trivial (same _)
  | unselectedJoin table => exact iff_of_true trivial (same _)
  | noTables => exact iff_of_false id (by decide)
  | incompleteJoin left right => exact iff_of_false id (other _ _ (by decide) (by decide))
  | aggregateFilter ref => exact iff_of_false id (other _ _ (by decide) (by decide))

namespace Query

variable {q : Query}

theorem not_isUnselected_of_mem_errors (tidy : q.IsTidy) (closed : q.IsClosed) {error : QueryError}
    (found : error ∈ q.errors) : ¬ error.IsUnselected := by
  intro unselected
  have clean : ∀ place ref, ref.table ∈ q.tables → error ∉ q.selectionErrors place ref := by
    intro place ref selected isError
    rw [selectionErrors_eq_nil_iff.mpr selected] at isError
    cases isError
  unfold errors at found
  by_cases empty : q.tables.isEmpty = true
  · rw [if_pos empty] at found
    cases List.mem_singleton.mp found
    exact unselected
  · rw [if_neg empty] at found
    simp only [List.mem_append, List.mem_flatMap] at found
    rcases found with ((((⟨c, isColumn, isError⟩ | ⟨j, isJoin, isError⟩) | ⟨c, isFilter, isError⟩) |
      ⟨c, isHaving, isError⟩) | ⟨ref, isGroup, isError⟩) | ⟨o, isOrder, isError⟩
    · exact clean _ _ (tidy.columns c isColumn) isError
    · obtain ⟨left, right⟩ := closed.joins j isJoin
      have none : [j.leftTable, j.rightTable].filter (!q.hasTable ·) = [] := by
        simp [hasTable, left, right]
      rw [joinErrors, none, List.map_nil, List.append_nil, mem_when] at isError
      obtain ⟨-, rfl⟩ := isError
      exact unselected
    · rcases List.mem_append.mp isError with isSelection | isAggregate
      · exact clean _ _ (closed.filters c isFilter) isSelection
      · obtain ⟨-, rfl⟩ := mem_when.mp isAggregate
        exact unselected
    · exact clean _ _ (closed.having c isHaving) isError
    · exact clean _ _ (closed.groupBy ref isGroup) isError
    · exact clean _ _ (closed.orderBy o isOrder) isError

/-- **A query under edit refers to selected tables.** Whatever the actions, at any point no table and
no group is repeated, and every column is of a selected table. When each join, condition, group and
order that comes in names tables that are selected at that moment, all of them do so at any point, and
the check has no message about a table that is not selected. -/
theorem edited_refers_to_selected (actions : List QueryAction) :
    ∀ reached, reached <+: actions →
      (edited reached).IsTidy ∧
        (QueryAction.AllNameSelected actions →
          (edited reached).IsClosed ∧
            (∀ place ref,
              (QueryError.unselected place ref).message ∉ (edited reached).validate.errors) ∧
            ∀ table,
              (QueryError.unselectedJoin table).message ∉ (edited reached).validate.errors) := by
  intro reached isPrefix
  have tidy := isTidy_edited reached
  refine ⟨tidy, fun names => ?_⟩
  have closed := isClosed_edited (allNameSelected_of_append isPrefix names)
  have unreported : ∀ error : QueryError, error.IsUnselected →
      error.message ∉ (edited reached).validate.errors := by
    intro error unselected reported
    obtain ⟨other, found, same⟩ := List.mem_map.mp reported
    have otherUnselected : other.IsUnselected := by
      rw [QueryError.isUnselected_iff, same]
      exact error.isUnselected_iff.mp unselected
    exact not_isUnselected_of_mem_errors tidy closed found otherUnselected
  exact ⟨closed, fun place ref => unreported _ trivial, fun table => unreported _ trivial⟩

/-! ### Orders with their customers -/

/-- Orders are listed with the names of their customers, and without them in the end. -/
def orderEdits : List QueryAction :=
  [ .toggleColumn ⟨"orders", "id"⟩, .toggleColumn ⟨"customers", "name"⟩,
    .addJoin { leftTable := "orders", leftColumn := "customer_id", rightTable := "customers",
               rightColumn := "id" },
    .addFilter { table := "customers", column := "name", operator := .like, value := "A%" },
    .toggleGroupBy ⟨"orders", "id"⟩, .toggleGroupBy ⟨"customers", "name"⟩,
    .addOrderBy { table := "orders", column := "id" },
    .toggleTable "customers" ]

theorem edited_refers_to_selected_orders :
    QueryAction.AllNameSelected orderEdits ∧
      edited orderEdits =
        { tables := ["orders"], columns := [{ table := "orders", column := "id" }],
          groupBy := [⟨"orders", "id"⟩], orderBy := [{ table := "orders", column := "id" }] } ∧
      (edited (orderEdits.take 7)).joins.length = 1 ∧ (edited (orderEdits.take 7)).IsClosed ∧
      (edited orderEdits).IsTidy ∧ (edited orderEdits).IsClosed ∧
      (QueryError.unselectedJoin "customers").message ∉ (edited orderEdits).validate.errors := by
  have names : QueryAction.AllNameSelected orderEdits := by decide
  have onTheWay := edited_refers_to_selected orderEdits _ (List.take_prefix 7 orderEdits)
  obtain ⟨tidy, inTheEnd⟩ := edited_refers_to_selected orderEdits _ (List.prefix_refl orderEdits)
  obtain ⟨closed, -, unreported⟩ := inTheEnd names
  exact ⟨names, by decide, by decide, (onTheWay.2 names).1, tidy, closed, unreported "customers"⟩

end Query

end SchemaCompiler
