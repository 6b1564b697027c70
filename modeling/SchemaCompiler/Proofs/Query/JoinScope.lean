/-
**The scope of joins.**

The condition of a join can use the tables that the statement has brought in so far and the one that
the join brings in itself. A join is written with its right table when that is not there yet, without
asking for the left one, so a condition can name a table that comes in only later or by a cross join.

* `Query.joinClauses_cons` — what one join adds.
* `Query.eachAfter_inScope_iff` — every condition is in scope exactly when every join reaches a table
  of those before it.
* `Dialect.selectText_scoped_iff` — so it is with the statement that is written.
-/

import SchemaCompiler.Sql.Select
import SchemaCompiler.Validation.Query

namespace SchemaCompiler

/-! ### Items and those before them -/

section EachAfter

variable {α : Type}

/-- Every item passes a test that depends on the items before it, of which some are given. -/
def EachAfter (passes : List α → α → Prop) : List α → List α → Prop
  | _, [] => True
  | before, item :: rest => passes before item ∧ EachAfter passes (before ++ [item]) rest

instance EachAfter.decidable {passes : List α → α → Prop}
    [∀ before item, Decidable (passes before item)] :
    ∀ given items, Decidable (EachAfter passes given items)
  | _, [] => isTrue trivial
  | given, item :: rest =>
    have : Decidable (EachAfter passes (given ++ [item]) rest) := decidable _ _
    inferInstanceAs (Decidable (_ ∧ _))

theorem eachAfter_iff {passes : List α → α → Prop} {given items : List α} :
    EachAfter passes given items ↔
      ∀ before item after, items = before ++ item :: after → passes (given ++ before) item := by
  induction items generalizing given with
  | nil => simp [EachAfter]
  | cons first rest ih =>
    rw [EachAfter, ih]
    constructor
    · rintro ⟨atFirst, later⟩ before item after split
      cases before with
      | nil =>
        obtain ⟨rfl, rfl⟩ := List.cons.inj split
        rw [List.append_nil]
        exact atFirst
      | cons _ before =>
        obtain ⟨rfl, splitRest⟩ := List.cons.inj split
        have atItem := later before item after splitRest
        rwa [List.append_assoc] at atItem
    · intro all
      refine ⟨?_, fun before item after split => ?_⟩
      · have atFirst := all [] first rest rfl
        rwa [List.append_nil] at atFirst
      · rw [List.append_assoc]
        exact all (first :: before) item after (by rw [split]; rfl)

end EachAfter

/-! ### Scope and reach -/

/-- The tables of a join. -/
def Join.sides (j : Join) : List String := [j.leftTable, j.rightTable]

/-- Whether both columns of a clause belong to tables that are there: the first table, those that
clauses before it bring in, and its own. -/
def JoinClause.InScope (first : String) (before : List JoinClause) (j : JoinClause) : Prop :=
  ∀ ref ∈ [j.left, j.right], ref.table ∈ first :: before.map (·.table) ++ [j.table]

/-- Whether a join has only one table, or one that is the first table or a table of a join before
it. -/
def Join.Reaches (first : String) (before : List Join) (j : Join) : Prop :=
  j.leftTable = j.rightTable ∨ ∃ side ∈ j.sides, side ∈ first :: before.flatMap (·.sides)

instance (first : String) (before : List JoinClause) (j : JoinClause) :
    Decidable (j.InScope first before) :=
  inferInstanceAs (Decidable (∀ ref ∈ [j.left, j.right], _))

instance (first : String) (before : List Join) (j : Join) : Decidable (j.Reaches first before) :=
  inferInstanceAs (Decidable (_ ∨ ∃ side ∈ j.sides, _))

/-- Every condition uses tables that are there. -/
def TableSources.Scoped (s : TableSources) : Prop :=
  ∀ before j after, s.joins = before ++ j :: after → j.InScope s.first before

/-- Every join reaches a table that is there. -/
def Query.Connected (q : Query) : Prop :=
  ∀ first ∈ q.tables.head?, ∀ before j after, q.joins = before ++ j :: after →
    j.Reaches first before

theorem TableSources.scoped_iff {s : TableSources} :
    s.Scoped ↔ EachAfter (JoinClause.InScope s.first) [] s.joins := by
  rw [eachAfter_iff]
  exact Iff.rfl

theorem Query.connected_iff {q : Query} :
    q.Connected ↔ ∀ first ∈ q.tables.head?, EachAfter (Join.Reaches first) [] q.joins := by
  refine forall₂_congr fun first _ => ?_
  rw [eachAfter_iff]
  exact Iff.rfl

instance (s : TableSources) : Decidable s.Scoped :=
  decidable_of_iff _ TableSources.scoped_iff.symm

instance (q : Query) : Decidable q.Connected :=
  decidable_of_iff _ Query.connected_iff.symm

/-- The clause of a join, given the tables that are there: it brings in the right table, or else the
left one. -/
inductive Join.BringsIn (joined : List String) (j : Join) : JoinClause → Prop
  | right (fresh : j.rightTable ∉ joined) :
    j.BringsIn joined ⟨j.kind, j.rightTable, j.left, j.right⟩
  | left (there : j.rightTable ∈ joined) (fresh : j.leftTable ∉ joined) :
    j.BringsIn joined ⟨j.kind.mirrored, j.leftTable, j.left, j.right⟩

/-! ### Step by step -/

namespace Query

/-- **What one join adds** to the clauses. -/
theorem joinClauses_cons {joined : List String} {j : Join} {rest : List Join}
    {clauses : List JoinClause} (succeeds : joinClauses joined (j :: rest) = .ok clauses) :
    ∃ clause others, clauses = clause :: others ∧ j.BringsIn joined clause ∧
      joinClauses (joined ++ [clause.table]) rest = .ok others := by
  rw [joinClauses] at succeeds
  by_cases rightThere : j.rightTable ∈ joined
  · by_cases leftThere : j.leftTable ∈ joined
    · simp [rightThere, leftThere] at succeeds
    · cases others : joinClauses (joined ++ [j.leftTable]) rest with
      | error cause => simp [rightThere, leftThere, others, Except.map] at succeeds
      | ok tail =>
        refine ⟨_, tail, ?_, .left rightThere leftThere, others⟩
        simpa [rightThere, leftThere, others, Except.map] using succeeds.symm
  · cases others : joinClauses (joined ++ [j.rightTable]) rest with
    | error cause => simp [rightThere, others, Except.map] at succeeds
    | ok tail =>
      refine ⟨_, tail, ?_, .right rightThere, others⟩
      simpa [rightThere, others, Except.map] using succeeds.symm

section Step

variable {first : String} {done : List JoinClause} {passed : List Join} {j : Join}
  {clause : JoinClause}

theorem inScope_mk_iff {kind : JoinKind} {added : String} :
    (⟨kind, added, j.left, j.right⟩ : JoinClause).InScope first done ↔
      (j.leftTable ∈ first :: done.map (·.table) ∨ j.leftTable = added) ∧
        (j.rightTable ∈ first :: done.map (·.table) ∨ j.rightTable = added) := by
  simp [JoinClause.InScope, Join.left, Join.right, or_assoc]

theorem reaches_iff (same : ∀ table, table ∈ first :: done.map (·.table) ↔
      table ∈ first :: passed.flatMap (·.sides)) :
    j.Reaches first passed ↔ j.leftTable = j.rightTable ∨
      j.leftTable ∈ first :: done.map (·.table) ∨ j.rightTable ∈ first :: done.map (·.table) := by
  rw [same, same]
  simp [Join.Reaches, Join.sides]

/-- The condition of a join is in scope exactly when the join reaches a table that is there. -/
theorem inScope_iff_reaches (added : j.BringsIn (first :: done.map (·.table)) clause)
    (same : ∀ table, table ∈ first :: done.map (·.table) ↔
      table ∈ first :: passed.flatMap (·.sides)) :
    clause.InScope first done ↔ j.Reaches first passed := by
  rw [reaches_iff same]
  cases added with
  | right fresh =>
    rw [inScope_mk_iff]
    simp only [fresh, or_true, and_true, or_false]
    exact or_comm
  | left there fresh =>
    rw [inScope_mk_iff]
    simp only [there, or_true, true_or, and_self]

/-- After a join that reaches a table that is there, both of its tables are. -/
theorem there_of_reaches (added : j.BringsIn (first :: done.map (·.table)) clause)
    (same : ∀ table, table ∈ first :: done.map (·.table) ↔
      table ∈ first :: passed.flatMap (·.sides))
    (reaches : j.Reaches first passed) (table : String) :
    table ∈ first :: (done ++ [clause]).map (·.table) ↔
      table ∈ first :: (passed ++ [j]).flatMap (·.sides) := by
  have afterClause : table ∈ first :: (done ++ [clause]).map (·.table) ↔
      table ∈ first :: done.map (·.table) ∨ table = clause.table := by
    simp [or_assoc]
  have afterJoin : table ∈ first :: (passed ++ [j]).flatMap (·.sides) ↔
      table ∈ first :: done.map (·.table) ∨ table = j.leftTable ∨ table = j.rightTable := by
    rw [same]
    simp [Join.sides, or_assoc]
  rw [reaches_iff same] at reaches
  rw [afterClause, afterJoin]
  cases added with
  | right fresh =>
    refine ⟨fun there => there.imp_right .inr, ?_⟩
    rintro (there | rfl | rfl)
    · exact .inl there
    · rcases reaches with self | leftThere | rightThere
      · exact .inr self
      · exact .inl leftThere
      · exact absurd rightThere fresh
    · exact .inr rfl
  | left there fresh =>
    refine ⟨fun there => there.imp_right .inl, ?_⟩
    rintro (there | rfl | rfl)
    · exact .inl there
    · exact .inr rfl
    · exact .inl there

end Step

/-- Every condition is in scope exactly when every join reaches a table of those before it. -/
theorem eachAfter_inScope_iff {first : String} {joins : List Join} {done clauses : List JoinClause}
    {passed : List Join}
    (succeeds : joinClauses (first :: done.map (·.table)) joins = .ok clauses)
    (same : ∀ table, table ∈ first :: done.map (·.table) ↔
      table ∈ first :: passed.flatMap (·.sides)) :
    EachAfter (JoinClause.InScope first) done clauses ↔
      EachAfter (Join.Reaches first) passed joins := by
  induction joins generalizing done clauses passed with
  | nil =>
    cases succeeds
    exact Iff.rfl
  | cons j rest ih =>
    obtain ⟨clause, others, rfl, added, succeedsAfter⟩ := joinClauses_cons succeeds
    have there : first :: (done ++ [clause]).map (·.table) =
        (first :: done.map (·.table)) ++ [clause.table] := by simp
    rw [EachAfter, EachAfter, inScope_iff_reaches added same]
    -- Only while every join so far reaches a table are the tables on both sides the same, so the
    -- rest is compared under that condition.
    refine and_congr_right fun reaches => ?_
    exact ih (there ▸ succeedsAfter) (there_of_reaches added same reaches)

/-- The first table and the joins of the sources. -/
theorem sources_eq_ok {q : Query} {s : TableSources} (found : q.sources = .ok s) :
    q.tables.head? = some s.first ∧ joinClauses [s.first] q.joins = .ok s.joins := by
  unfold sources at found
  split at found
  · cases found
  · rename_i first others selected
    cases succeeds : joinClauses [first] q.joins with
    | error cause =>
      rw [succeeds] at found
      cases found
    | ok clauses =>
      rw [succeeds] at found
      cases found
      exact ⟨by rw [selected, List.head?_cons], succeeds⟩

/-- **Scope and reach.** The conditions of all joins use only tables that are there exactly when
each join has a table that is the first one or one of a join before it. -/
theorem scoped_iff_connected {q : Query} {s : TableSources} (found : q.sources = .ok s) :
    s.Scoped ↔ q.Connected := by
  obtain ⟨isFirst, succeeds⟩ := sources_eq_ok found
  rw [TableSources.scoped_iff, connected_iff, isFirst]
  have each : EachAfter (JoinClause.InScope s.first) [] s.joins ↔
      EachAfter (Join.Reaches s.first) [] q.joins :=
    eachAfter_inScope_iff succeeds fun _ => Iff.rfl
  rw [each]
  exact ⟨fun reach _ same => Option.some.inj same ▸ reach, fun reach => reach _ rfl⟩

end Query

/-! ### Statements -/

/-- **The statement of a query** is made from its sources, and its conditions are in scope exactly
when the joins of the query reach each other in order. -/
theorem Dialect.selectText_scoped_iff {d : Dialect} {q : Query} {options : SelectOptions}
    {text : String} (written : d.selectText q options = .ok text) :
    ∃ s, q.sources = .ok s ∧
      text = (if options.pretty then "\n" else " ").intercalate (d.selectClauses q s options) ++ ";" ∧
      (s.Scoped ↔ q.Connected) := by
  unfold selectText at written
  cases found : q.sources with
  | error cause =>
    rw [found] at written
    cases written
  | ok s =>
    rw [found] at written
    exact ⟨s, rfl, (Except.ok.inj written).symm, Query.scoped_iff_connected found⟩

/-! ### Joins in and out of reach -/

namespace Query

/-- Orders with their customers and the items in them; both joins start where the one before it
ended, and the first one is seen from its other side. -/
def reaching : Query :=
  { tables := ["orders", "customers", "items"],
    joins :=
      [ { leftTable := "customers", leftColumn := "id", rightTable := "orders",
          rightColumn := "customer_id", kind := .left },
        { leftTable := "orders", leftColumn := "item_id", rightTable := "items",
          rightColumn := "id" } ] }

end Query

theorem Dialect.selectText_reaching :
    ∃ s, Query.reaching.sources = .ok s ∧ s.Scoped ∧
      mysql.selectText Query.reaching {} = .ok
        ("SELECT * FROM orders RIGHT JOIN customers ON customers.id = orders.customer_id " ++
          "INNER JOIN items ON orders.item_id = items.id;") := by
  have written : mysql.selectText Query.reaching {} = .ok
      ("SELECT * FROM orders RIGHT JOIN customers ON customers.id = orders.customer_id " ++
        "INNER JOIN items ON orders.item_id = items.id;") := by rfl
  obtain ⟨s, found, -, scopedIff⟩ := selectText_scoped_iff written
  exact ⟨s, found, scopedIff.mpr (by decide), written⟩

/-- A join of two tables of which neither is there, in a query without errors. -/
def Query.outOfReach : Query :=
  { tables := ["x", "a", "b"],
    joins := [{ leftTable := "a", leftColumn := "id", rightTable := "b", rightColumn := "id" }] }

theorem Dialect.selectText_outOfReach :
    Query.outOfReach.validate.errors = [] ∧
      postgres.selectText Query.outOfReach {} =
        .ok "SELECT * FROM x INNER JOIN b ON a.id = b.id CROSS JOIN a;" ∧
      ∃ s, Query.outOfReach.sources = .ok s ∧ ¬ s.Scoped := by
  exact ⟨by decide, by rfl, _, rfl, by decide⟩

end SchemaCompiler
