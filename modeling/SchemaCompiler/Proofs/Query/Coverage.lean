/-
**The tables of a SELECT statement.**

The first table of a query stands in FROM, every join brings in one table that is not there yet, and
the tables that no join brings in follow as cross joins. Only a join of two tables that are both
there already brings in nothing, and then no statement is written.

* `Query.errors_eq_nil_iff` — what a query without errors refers to.
* `Query.joinClauses_eq_error_iff` — where the joins of a query fail.
* `Query.mem_tables_of_sources_iff` — the sources of a query without errors are its tables.
* `Dialect.selectText_covers` — so it is with the statement that is written.
-/

import Mathlib.Data.List.Nodup
import SchemaCompiler.Proofs.Query.JoinScope

namespace SchemaCompiler

/-! ### Queries without errors -/

namespace Query

theorem forall_references_iff {q : Query} {holds : ColumnRef → Prop} :
    (∀ ref ∈ q.references, holds ref) ↔
      (∀ c ∈ q.columns, holds c.ref) ∧ (∀ j ∈ q.joins, holds j.left ∧ holds j.right) ∧
        (∀ c ∈ q.filters, holds c.ref) ∧ (∀ c ∈ q.having, holds c.ref) ∧
        (∀ ref ∈ q.groupBy, holds ref) ∧ ∀ o ∈ q.orderBy, holds o.ref := by
  have joins : (∀ ref ∈ q.joins.flatMap fun j => [j.left, j.right], holds ref) ↔
      ∀ j ∈ q.joins, holds j.left ∧ holds j.right := by
    rw [List.forall_mem_flatMap]
    simp
  simp only [references, conditions, List.map_append, List.forall_mem_append, List.forall_mem_map,
    joins, and_assoc]

theorem selectionErrors_eq_nil_iff {q : Query} {place : ReferencePlace} {ref : ColumnRef} :
    q.selectionErrors place ref = [] ↔ ref.table ∈ q.tables := by
  simp [selectionErrors, when, hasTable]

theorem joinErrors_eq_nil_iff {q : Query} {j : Join} :
    q.joinErrors j = [] ↔
      (Text.allBlank j.leftColumn = false ∧ Text.allBlank j.rightColumn = false) ∧
        j.left.table ∈ q.tables ∧ j.right.table ∈ q.tables := by
  simp [joinErrors, when, hasTable, List.filter_eq_nil_iff, Join.left, Join.right]

/-- **A query without errors** has tables, refers to no others, has columns on both sides of its
joins and no aggregates in its filters. -/
theorem errors_eq_nil_iff {q : Query} :
    q.errors = [] ↔
      q.tables ≠ [] ∧ (∀ ref ∈ q.references, ref.table ∈ q.tables) ∧
        (∀ j ∈ q.joins, Text.allBlank j.leftColumn = false ∧ Text.allBlank j.rightColumn = false) ∧
        ∀ c ∈ q.filters, c.aggregate.isPresent = false := by
  have filterFree (c : Condition) :
      q.filterErrors c = [] ↔ c.ref.table ∈ q.tables ∧ c.aggregate.isPresent = false := by
    simp [filterErrors, selectionErrors_eq_nil_iff, when]
  unfold errors
  by_cases empty : q.tables = []
  · simp [empty]
  · rw [if_neg (by simpa using empty), forall_references_iff]
    simp only [List.append_eq_nil_iff, List.flatMap_eq_nil_iff, selectionErrors_eq_nil_iff,
      filterFree, joinErrors_eq_nil_iff, ne_eq, empty, not_false_eq_true, true_and]
    constructor
    · rintro ⟨⟨⟨⟨⟨columns, joins⟩, filters⟩, having⟩, groupBy⟩, orderBy⟩
      exact ⟨⟨columns, fun j isJoin => (joins j isJoin).2, fun c isFilter => (filters c isFilter).1,
        having, groupBy, orderBy⟩, fun j isJoin => (joins j isJoin).1,
        fun c isFilter => (filters c isFilter).2⟩
    · rintro ⟨⟨columns, joins, filters, having, groupBy, orderBy⟩, complete, plain⟩
      exact ⟨⟨⟨⟨⟨columns, fun j isJoin => ⟨complete j isJoin, joins j isJoin⟩⟩,
        fun c isFilter => ⟨filters c isFilter, plain c isFilter⟩⟩, having⟩, groupBy⟩, orderBy⟩

theorem validate_errors_eq_nil_iff {q : Query} : q.validate.errors = [] ↔ q.errors = [] := by
  simp [validate, Report.of]

end Query

/-! ### What joins bring in -/

/-- The tables that are there after joins, each of which brings in one table. -/
inductive Query.Introduced (first : String) : List Join → List String → Prop
  | none : Introduced first [] [first]
  | join {before : List Join} {there : List String} {j : Join} {clause : JoinClause}
      (earlier : Introduced first before there) (added : j.BringsIn there clause) :
      Introduced first (before ++ [j]) (there ++ [clause.table])

/-- Whether the tables of a join are both there already. -/
def Join.IsRedundant (there : List String) (j : Join) : Prop :=
  ∀ side ∈ j.sides, side ∈ there

instance (there : List String) (j : Join) : Decidable (j.IsRedundant there) :=
  inferInstanceAs (Decidable (∀ side ∈ j.sides, side ∈ there))

theorem Join.bringsIn_or_isRedundant (there : List String) (j : Join) :
    (∃ clause, j.BringsIn there clause) ∨ j.IsRedundant there := by
  by_cases rightThere : j.rightTable ∈ there
  · by_cases leftThere : j.leftTable ∈ there
    · right
      simp [IsRedundant, sides, leftThere, rightThere]
    · exact .inl ⟨_, .left rightThere leftThere⟩
  · exact .inl ⟨_, .right rightThere⟩

section BringsIn

variable {there : List String} {j : Join} {clause : JoinClause}

theorem Join.BringsIn.table_mem_sides (added : j.BringsIn there clause) :
    clause.table ∈ j.sides := by
  cases added <;> simp [sides]

theorem Join.BringsIn.table_notMem (added : j.BringsIn there clause) : clause.table ∉ there := by
  cases added with
  | right fresh => exact fresh
  | left _ fresh => exact fresh

end BringsIn

namespace Query

variable {there : List String} {j : Join} {rest : List Join}

theorem joinClauses_of_bringsIn {clause : JoinClause} (added : j.BringsIn there clause) :
    joinClauses there (j :: rest) =
      (joinClauses (there ++ [clause.table]) rest).map (clause :: ·) := by
  cases added with
  | right fresh => simp [joinClauses, fresh]
  | left rightThere fresh => simp [joinClauses, rightThere, fresh]

theorem joinClauses_of_isRedundant (redundant : j.IsRedundant there) :
    joinClauses there (j :: rest) = .error (joinedTwice j) := by
  obtain ⟨leftThere, rightThere⟩ : j.leftTable ∈ there ∧ j.rightTable ∈ there := by
    simpa [Join.IsRedundant, Join.sides] using redundant
  simp [joinClauses, leftThere, rightThere]

/-- After joins that bring in their tables, the clauses of the others are appended. -/
theorem joinClauses_append {first : String} {before : List Join}
    (earlier : Introduced first before there) (rest : List Join) :
    ∃ clauses, there = first :: clauses.map (·.table) ∧
      joinClauses [first] (before ++ rest) = (joinClauses there rest).map (clauses ++ ·) := by
  induction earlier generalizing rest with
  | none =>
    refine ⟨[], rfl, ?_⟩
    rw [List.nil_append]
    cases joinClauses [first] rest <;> rfl
  | @join before there j clause earlier added ih =>
    obtain ⟨clauses, rfl, same⟩ := ih (j :: rest)
    refine ⟨clauses ++ [clause], by simp, ?_⟩
    rw [List.append_assoc, List.singleton_append, same, joinClauses_of_bringsIn added]
    cases joinClauses (first :: clauses.map (·.table) ++ [clause.table]) rest <;>
      simp [Except.map]

/-- **Joins fail** exactly at one whose tables are both there. -/
theorem joinClauses_eq_error_iff {first : String} {joins : List Join} {cause : SchemaError} :
    joinClauses [first] joins = .error cause ↔
      ∃ before j after there, joins = before ++ j :: after ∧ Introduced first before there ∧
        j.IsRedundant there ∧ cause = joinedTwice j := by
  constructor
  · -- The joins that succeeded so far are kept apart from those to come.
    suffices ∀ before there, Introduced first before there →
        ∀ rest, joinClauses there rest = .error cause →
          ∃ passed j after there, before ++ rest = passed ++ j :: after ∧
            Introduced first passed there ∧ j.IsRedundant there ∧ cause = joinedTwice j from
      fun failed => this [] [first] .none joins failed
    intro before there earlier rest failed
    induction rest generalizing before there with
    | nil => cases failed
    | cons j rest ih =>
      rcases j.bringsIn_or_isRedundant there with ⟨clause, added⟩ | redundant
      · rw [joinClauses_of_bringsIn added] at failed
        cases later : joinClauses (there ++ [clause.table]) rest with
        | ok others =>
          rw [later] at failed
          cases failed
        | error otherCause =>
          rw [later] at failed
          cases failed
          simpa using ih (before ++ [j]) (there ++ [clause.table]) (.join earlier added) later
      · rw [joinClauses_of_isRedundant redundant] at failed
        cases failed
        exact ⟨before, j, rest, there, rfl, earlier, redundant, rfl⟩
  · rintro ⟨before, j, after, there, rfl, earlier, redundant, rfl⟩
    obtain ⟨clauses, -, same⟩ := joinClauses_append earlier (j :: after)
    rw [same, joinClauses_of_isRedundant redundant]
    rfl

/-! ### The sources of a query -/

theorem nodup_of_joinClauses {joins : List Join} {clauses : List JoinClause}
    (succeeds : joinClauses there joins = .ok clauses) (distinct : there.Nodup) :
    (there ++ clauses.map (·.table)).Nodup := by
  induction joins generalizing there clauses with
  | nil =>
    cases succeeds
    simpa using distinct
  | cons j rest ih =>
    obtain ⟨clause, others, rfl, added, succeedsAfter⟩ := joinClauses_cons succeeds
    have step : (there ++ [clause.table]).Nodup := by
      rw [← List.concat_eq_append]
      exact List.Nodup.concat added.table_notMem distinct
    simpa using ih succeedsAfter step

theorem mem_of_joinClauses {joins : List Join} {clauses : List JoinClause}
    (succeeds : joinClauses there joins = .ok clauses) {clause : JoinClause}
    (member : clause ∈ clauses) : ∃ j ∈ joins, clause.table ∈ j.sides := by
  induction joins generalizing there clauses with
  | nil =>
    cases succeeds
    cases member
  | cons j rest ih =>
    obtain ⟨head, others, rfl, added, succeedsAfter⟩ := joinClauses_cons succeeds
    rcases List.mem_cons.mp member with rfl | inOthers
    · exact ⟨j, List.mem_cons_self, added.table_mem_sides⟩
    · obtain ⟨other, inRest, isSide⟩ := ih succeedsAfter inOthers
      exact ⟨other, List.mem_cons_of_mem _ inRest, isSide⟩

theorem nodup_append_crossJoined {tables : List String} (distinct : there.Nodup) :
    (there ++ crossJoined there tables).Nodup := by
  induction tables generalizing there with
  | nil => simpa [crossJoined] using distinct
  | cons table rest ih =>
    by_cases isThere : table ∈ there
    · simpa [crossJoined, isThere] using ih distinct
    · have step : (there ++ [table]).Nodup := by
        rw [← List.concat_eq_append]
        exact List.Nodup.concat isThere distinct
      simpa [crossJoined, isThere] using ih step

theorem mem_append_crossJoined_iff {tables : List String} {table : String} :
    table ∈ there ++ crossJoined there tables ↔ table ∈ there ∨ table ∈ tables := by
  induction tables generalizing there with
  | nil => simp [crossJoined]
  | cons other rest ih =>
    by_cases isThere : other ∈ there
    · rw [crossJoined, if_pos (by simpa using isThere), ih, List.mem_cons]
      constructor
      · rintro (old | later)
        · exact .inl old
        · exact .inr (.inr later)
      · rintro (old | rfl | later)
        · exact .inl old
        · exact .inl isThere
        · exact .inr later
    · rw [crossJoined, if_neg (by simpa using isThere), List.append_cons, ih, List.mem_append,
        List.mem_singleton, List.mem_cons, or_assoc]

/-- The sources of a query with tables come from the clauses of its joins. -/
theorem sources_eq_map {q : Query} {first : String} (isFirst : q.tables.head? = some first) :
    q.sources = (joinClauses [first] q.joins).map fun joins =>
      ⟨first, joins, crossJoined (first :: joins.map (·.table)) q.tables⟩ := by
  obtain ⟨others, selected⟩ := List.head?_eq_some_iff.mp isFirst
  simp only [sources, selected]
  cases joinClauses [first] q.joins <;> rfl

theorem sources_eq_error_iff {q : Query} (selected : q.tables ≠ []) {cause : SchemaError} :
    q.sources = .error cause ↔
      ∃ first ∈ q.tables.head?, joinClauses [first] q.joins = .error cause := by
  obtain ⟨first, isFirst⟩ := Option.ne_none_iff_exists'.mp (mt List.head?_eq_none_iff.mp selected)
  rw [sources_eq_map isFirst]
  simp only [isFirst, Option.mem_def, Option.some.injEq, exists_eq_left']
  cases joinClauses [first] q.joins <;> simp [Except.map]

theorem crossJoins_of_sources {q : Query} {s : TableSources} (found : q.sources = .ok s) :
    s.crossJoins = crossJoined (s.first :: s.joins.map (·.table)) q.tables := by
  obtain ⟨isFirst, succeeds⟩ := sources_eq_ok found
  rw [sources_eq_map isFirst, succeeds] at found
  exact congrArg TableSources.crossJoins (Except.ok.inj found).symm

section Sources

variable {q : Query} {s : TableSources}

theorem head?_tables_of_sources (found : q.sources = .ok s) :
    s.tables.head? = q.tables.head? := by
  rw [(sources_eq_ok found).1]
  rfl

/-- No table is brought in twice. -/
theorem nodup_tables_of_sources (found : q.sources = .ok s) : s.tables.Nodup := by
  obtain ⟨-, succeeds⟩ := sources_eq_ok found
  have joined : (s.first :: s.joins.map (·.table)).Nodup :=
    nodup_of_joinClauses succeeds (List.nodup_singleton _)
  rw [TableSources.tables, crossJoins_of_sources found]
  exact nodup_append_crossJoined joined

/-- **The tables that are brought in** are those of the query, when its joins refer to no others. -/
theorem mem_tables_of_sources_iff (found : q.sources = .ok s)
    (selected : ∀ j ∈ q.joins, ∀ side ∈ j.sides, side ∈ q.tables) (table : String) :
    table ∈ s.tables ↔ table ∈ q.tables := by
  obtain ⟨isFirst, succeeds⟩ := sources_eq_ok found
  rw [TableSources.tables, crossJoins_of_sources found, mem_append_crossJoined_iff]
  refine or_iff_right_of_imp fun joined => ?_
  rcases List.mem_cons.mp joined with rfl | inJoins
  · exact List.mem_of_head? isFirst
  · obtain ⟨clause, member, rfl⟩ := List.mem_map.mp inJoins
    obtain ⟨j, isJoin, isSide⟩ := mem_of_joinClauses succeeds member
    exact selected j isJoin _ isSide

end Sources

end Query

/-! ### Statements -/

/-- **The statement of a query without errors** is written unless a join has both of its tables
among those that FROM and the joins before it bring in. It brings in every table of the query once,
the first one first, and so every table that the query refers to. -/
theorem Dialect.selectText_covers (d : Dialect) {q : Query} (valid : q.validate.errors = [])
    (options : SelectOptions) :
    (∀ cause, d.selectText q options = .error cause ↔
      ∃ first ∈ q.tables.head?, ∃ before j after there, q.joins = before ++ j :: after ∧
        Query.Introduced first before there ∧ j.IsRedundant there ∧
        cause = Query.joinedTwice j) ∧
    ∀ text, d.selectText q options = .ok text → ∃ s, q.sources = .ok s ∧
      text = (if options.pretty then "\n" else " ").intercalate (d.selectClauses q s options) ++ ";" ∧
      s.tables.head? = q.tables.head? ∧ s.tables.Nodup ∧
      (∀ table, table ∈ s.tables ↔ table ∈ q.tables) ∧
      ∀ ref ∈ q.references, ref.table ∈ s.tables := by
  obtain ⟨nonempty, referred, -, -⟩ :=
    Query.errors_eq_nil_iff.mp (Query.validate_errors_eq_nil_iff.mp valid)
  have selected : ∀ j ∈ q.joins, ∀ side ∈ j.sides, side ∈ q.tables := by
    intro j isJoin side isSide
    obtain ⟨leftSelected, rightSelected⟩ := (Query.forall_references_iff.mp referred).2.1 j isJoin
    rcases List.mem_pair.mp isSide with rfl | rfl
    · exact leftSelected
    · exact rightSelected
  refine ⟨fun cause => ?_, fun text written => ?_⟩
  · rw [selectText_eq_error_iff, Query.sources_eq_error_iff nonempty]
    simp only [Query.joinClauses_eq_error_iff]
  · obtain ⟨s, found, same⟩ := selectText_eq_ok_iff.mp written
    have covered := Query.mem_tables_of_sources_iff found selected
    exact ⟨s, found, same, Query.head?_tables_of_sources found, Query.nodup_tables_of_sources found,
      covered, fun ref member => (covered _).mpr (referred ref member)⟩

/-! ### A ledger -/

namespace Query

/-- Orders with their customers and their items, beside a log that no join reaches. One table is
selected twice, and the first join is seen from its other side. -/
def ledger : Query :=
  { tables := ["orders", "customers", "orders", "log", "items"],
    columns := [{ table := "log", column := "at" }],
    joins :=
      [ { leftTable := "customers", leftColumn := "id", rightTable := "orders",
          rightColumn := "customer_id", kind := .left },
        { leftTable := "orders", leftColumn := "item_id", rightTable := "items",
          rightColumn := "id" } ],
    orderBy := [{ table := "items", column := "price", direction := .desc }] }

/-- A join of two tables that the joins of the ledger have brought in. -/
def returned : Join :=
  { leftTable := "items", leftColumn := "customer_id", rightTable := "customers",
    rightColumn := "id" }

/-- The ledger with that join. -/
def ledgerReturned : Query :=
  { ledger with joins := ledger.joins ++ [returned] }

end Query

theorem Dialect.selectText_ledger :
    Query.ledger.validate.errors = [] ∧ Query.ledgerReturned.validate.errors = [] ∧
      sqlite.selectText Query.ledgerReturned {} = .error (Query.joinedTwice Query.returned) ∧
      ∃ s, Query.ledger.sources = .ok s ∧ s.tables.Nodup ∧
        (∀ table, table ∈ s.tables ↔ table ∈ Query.ledger.tables) ∧
        sqlite.selectText Query.ledger {} = .ok
          ("SELECT log.at FROM orders RIGHT JOIN customers ON customers.id = orders.customer_id " ++
            "INNER JOIN items ON orders.item_id = items.id CROSS JOIN log " ++
            "ORDER BY items.price DESC;") := by
  have valid : Query.ledger.validate.errors = [] := by decide
  have validReturned : Query.ledgerReturned.validate.errors = [] := by decide
  have written : sqlite.selectText Query.ledger {} = .ok
      ("SELECT log.at FROM orders RIGHT JOIN customers ON customers.id = orders.customer_id " ++
        "INNER JOIN items ON orders.item_id = items.id CROSS JOIN log " ++
        "ORDER BY items.price DESC;") := by rfl
  have there : Query.Introduced "orders" Query.ledger.joins ["orders", "customers", "items"] :=
    .join (.join .none (.left (by decide) (by decide))) (.right (by decide))
  refine ⟨valid, validReturned, ?_, ?_⟩
  · refine ((selectText_covers sqlite validReturned {}).1 _).mpr ⟨"orders", rfl, ?_⟩
    exact ⟨Query.ledger.joins, Query.returned, [], _, rfl, there, by decide, rfl⟩
  · obtain ⟨s, found, -, -, distinct, covered, -⟩ := (selectText_covers sqlite valid {}).2 _ written
    exact ⟨s, found, distinct, covered, written⟩

end SchemaCompiler
