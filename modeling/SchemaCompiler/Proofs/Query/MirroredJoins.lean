/-
**Joins seen from their other side.**

A join can be written down from either of its sides. As long as exactly one of its tables is there when
its turn comes, the other one is brought in, and the kind of the join follows the side from which it is
seen. So the clause stays the same up to the order of the operands in its equality, and the joins after
it and the cross joins do not notice.

* `Join.BringsIn.mirrored` — what one join adds when it is seen from the other side.
* `Query.joinClauses_modify_mirrored` — one join among others.
* `Dialect.selectText_withMirroredJoin` — the statement that is written.
-/

import SchemaCompiler.Proofs.Query.Coverage

namespace SchemaCompiler

/-! ### Mirrored joins -/

@[simp] theorem JoinKind.mirrored_mirrored (kind : JoinKind) : kind.mirrored.mirrored = kind := by
  cases kind <;> rfl

/-- The join seen from its other side. -/
def Join.mirrored (j : Join) : Join :=
  { leftTable := j.rightTable, leftColumn := j.rightColumn,
    rightTable := j.leftTable, rightColumn := j.leftColumn, kind := j.kind.mirrored }

/-- Whether exactly one of the tables of a join is there. -/
def Join.MeetsOnce (there : List String) (j : Join) : Prop :=
  ¬ (j.leftTable ∈ there ↔ j.rightTable ∈ there)

/-- The clause with the operands of its equality exchanged. -/
def JoinClause.exchanged (clause : JoinClause) : JoinClause :=
  { clause with left := clause.right, right := clause.left }

/-- The query with one of its joins seen from the other side. -/
def Query.withMirroredJoin (q : Query) (place : Nat) : Query :=
  { q with joins := q.joins.modify place Join.mirrored }

/-- The tables that FROM and the clauses before a place bring in. -/
def TableSources.tablesBefore (s : TableSources) (place : Nat) : List String :=
  s.first :: (s.joins.take place).map (·.table)

instance (there : List String) (j : Join) : Decidable (j.MeetsOnce there) :=
  inferInstanceAs (Decidable (¬ (_ ↔ _)))

/-! ### Step by step -/

/-- **What a join adds from its other side** is the same clause with its operands exchanged, when
exactly one of its tables is there. -/
theorem Join.BringsIn.mirrored {there : List String} {j : Join} {clause : JoinClause}
    (added : j.BringsIn there clause) (once : j.MeetsOnce there) :
    j.mirrored.BringsIn there clause.exchanged := by
  cases added with
  | right fresh =>
    have leftThere : j.leftTable ∈ there := by
      by_contra missing
      exact once (iff_of_false missing fresh)
    have added : j.mirrored.BringsIn there
        ⟨j.mirrored.kind.mirrored, j.rightTable, j.right, j.left⟩ := .left leftThere fresh
    rwa [Join.mirrored, JoinKind.mirrored_mirrored] at added
  | left _ fresh => exact .right fresh

theorem Join.BringsIn.sides_eq {there : List String} {j : Join} {clause : JoinClause}
    (added : j.BringsIn there clause) : clause.left = j.left ∧ clause.right = j.right := by
  cases added <;> exact ⟨rfl, rfl⟩

namespace Query

/-- **One join among others seen from its other side**: its clause has the operands exchanged, and the
other clauses stay. -/
theorem joinClauses_modify_mirrored {there : List String} {joins : List Join}
    {clauses : List JoinClause} (succeeds : joinClauses there joins = .ok clauses) {place : Nat}
    {j : Join} (atPlace : joins[place]? = some j)
    (once : j.MeetsOnce (there ++ (clauses.take place).map (·.table))) :
    joinClauses there (joins.modify place Join.mirrored) =
        .ok (clauses.modify place JoinClause.exchanged) ∧
      ∃ clause ∈ clauses[place]?, clause.left = j.left ∧ clause.right = j.right := by
  induction joins generalizing there clauses place with
  | nil => simp at atPlace
  | cons first rest ih =>
    obtain ⟨clause, others, rfl, added, succeedsAfter⟩ := joinClauses_cons succeeds
    cases place with
    | zero =>
      obtain rfl : first = j := by simpa using atPlace
      have once : first.MeetsOnce there := by simpa using once
      have sameTable : clause.exchanged.table = clause.table := rfl
      refine ⟨?_, clause, rfl, added.sides_eq⟩
      rw [List.modify_zero_cons, List.modify_zero_cons, joinClauses_of_bringsIn (added.mirrored once),
        sameTable, succeedsAfter]
      rfl
    | succ place =>
      have onceAfter : j.MeetsOnce (there ++ [clause.table] ++ (others.take place).map (·.table)) := by
        simpa using once
      obtain ⟨succeedsMirrored, inClauses⟩ := ih succeedsAfter (by simpa using atPlace) onceAfter
      refine ⟨?_, inClauses⟩
      rw [List.modify_succ_cons, List.modify_succ_cons, joinClauses_of_bringsIn added,
        succeedsMirrored]
      rfl

theorem map_table_modify_exchanged (clauses : List JoinClause) (place : Nat) :
    (clauses.modify place JoinClause.exchanged).map (·.table) = clauses.map (·.table) := by
  refine List.ext_getElem? fun other => ?_
  rw [List.getElem?_map, List.getElem?_map, List.getElem?_modify]
  cases clauses[other]? with
  | none => rfl
  | some clause => by_cases same : place = other <;> simp [same, JoinClause.exchanged]

/-- **The sources of a query** with a join that is seen from its other side. -/
theorem sources_withMirroredJoin {q : Query} {s : TableSources} (found : q.sources = .ok s)
    {place : Nat} {j : Join} (atPlace : q.joins[place]? = some j)
    (once : j.MeetsOnce (s.tablesBefore place)) :
    (q.withMirroredJoin place).sources =
        .ok { s with joins := s.joins.modify place JoinClause.exchanged } ∧
      ∃ clause ∈ s.joins[place]?, clause.left = j.left ∧ clause.right = j.right := by
  obtain ⟨isFirst, succeeds⟩ := sources_eq_ok found
  obtain ⟨succeedsMirrored, inClauses⟩ := joinClauses_modify_mirrored succeeds atPlace once
  refine ⟨?_, inClauses⟩
  have sameFirst : (q.withMirroredJoin place).tables.head? = some s.first := isFirst
  have others : (q.withMirroredJoin place).tables = q.tables := rfl
  rw [sources_eq_map sameFirst]
  show (joinClauses [s.first] (q.joins.modify place Join.mirrored)).map _ = _
  rw [succeedsMirrored, Except.map, map_table_modify_exchanged, others, ← crossJoins_of_sources found]

end Query

/-! ### Statements -/

namespace Dialect

/-- The clause of a join up to the operands of its equality. -/
def joinOpening (d : Dialect) (clause : JoinClause) : String :=
  clause.kind.sql ++ " " ++ d.escapeIdentifier clause.table ++ " ON "

/-- **The clauses of a statement around one join** do not depend on this join. -/
theorem selectClauses_modify_join (d : Dialect) (q : Query) {s : TableSources}
    (options : SelectOptions) {place : Nat} {clause : JoinClause}
    (isClause : s.joins[place]? = some clause) :
    ∃ earlier later, earlier.length = 2 + place ∧ ∀ change : JoinClause → JoinClause,
      d.selectClauses q { s with joins := s.joins.modify place change } options =
        earlier ++ d.joinText (change clause) :: later := by
  obtain ⟨inside, isClause⟩ := List.getElem?_eq_some_iff.mp isClause
  -- What comes later is read off the clauses.
  refine ⟨["SELECT " ++ d.selectList q options, "FROM " ++ d.escapeIdentifier s.first] ++
    (s.joins.take place).map d.joinText, ?later, ?many, fun change => ?clauses⟩
  case many =>
    rw [List.length_append, List.length_map, List.length_take_of_le (Nat.le_of_lt inside)]
    rfl
  case clauses =>
    rw [List.modify_eq_take_cons_drop inside, isClause]
    simp only [selectClauses, sourceClauses, List.map_append, List.map_cons, List.append_assoc,
      List.cons_append, List.nil_append]
    rfl

/-- **The direction of a join does not matter.** When a statement is written, and exactly one table of a
join is among those that FROM and the clauses before it bring in, the statement with this join seen from
its other side is written too, and it is the same except that the operands of this one equality are
exchanged. -/
theorem selectText_withMirroredJoin {d : Dialect} {q : Query} {options : SelectOptions} {text : String}
    (written : d.selectText q options = .ok text) :
    ∃ s, q.sources = .ok s ∧ ∀ place j, q.joins[place]? = some j →
      j.MeetsOnce (s.tablesBefore place) →
      ∃ clause earlier later, s.joins[place]? = some clause ∧ earlier.length = 2 + place ∧
        text = (if options.pretty then "\n" else " ").intercalate (earlier ++
          (d.joinOpening clause ++ d.columnRef j.left ++ " = " ++ d.columnRef j.right) :: later) ++
            ";" ∧
        d.selectText (q.withMirroredJoin place) options =
          .ok ((if options.pretty then "\n" else " ").intercalate (earlier ++
            (d.joinOpening clause ++ d.columnRef j.right ++ " = " ++ d.columnRef j.left) :: later) ++
              ";") := by
  obtain ⟨s, found, rfl⟩ := selectText_eq_ok_iff.mp written
  refine ⟨s, found, fun place j atPlace once => ?_⟩
  obtain ⟨foundMirrored, clause, isClause, left, right⟩ :=
    Query.sources_withMirroredJoin found atPlace once
  obtain ⟨earlier, later, many, clausesOf⟩ := selectClauses_modify_join d q options isClause
  have asWritten : d.selectClauses q s options = earlier ++ d.joinText clause :: later := by
    simpa using clausesOf id
  have asMirrored : d.selectClauses (q.withMirroredJoin place)
      { s with joins := s.joins.modify place JoinClause.exchanged } options =
        earlier ++ d.joinText clause.exchanged :: later :=
    clausesOf JoinClause.exchanged
  rw [← left, ← right]
  refine ⟨clause, earlier, later, isClause, many, ?_, ?_⟩
  · rw [asWritten]
    rfl
  · refine selectText_eq_ok_iff.mpr ⟨_, foundMirrored, ?_⟩
    rw [asMirrored]
    rfl

end Dialect

/-! ### An outer join seen from both sides -/

/-- Orders with their customers and items, and notes that no join reaches. -/
def Query.reachingAllButNotes : Query :=
  { Query.reaching with tables := ["orders", "customers", "items", "notes"] }

theorem Dialect.selectText_withMirroredJoin_reaching :
    mysql.selectText Query.reachingAllButNotes {} = .ok
        ("SELECT * FROM orders RIGHT JOIN customers ON customers.id = orders.customer_id " ++
          "INNER JOIN items ON orders.item_id = items.id CROSS JOIN notes;") ∧
      mysql.selectText (Query.reachingAllButNotes.withMirroredJoin 0) {} = .ok
        ("SELECT * FROM orders RIGHT JOIN customers ON orders.customer_id = customers.id " ++
          "INNER JOIN items ON orders.item_id = items.id CROSS JOIN notes;") ∧
      ∃ earlier later, earlier.length = 2 ∧
        mysql.selectText (Query.reachingAllButNotes.withMirroredJoin 0) {} = .ok
          (" ".intercalate (earlier ++
            "RIGHT JOIN customers ON orders.customer_id = customers.id" :: later) ++ ";") := by
  have written : mysql.selectText Query.reachingAllButNotes {} = .ok
      ("SELECT * FROM orders RIGHT JOIN customers ON customers.id = orders.customer_id " ++
        "INNER JOIN items ON orders.item_id = items.id CROSS JOIN notes;") := by rfl
  obtain ⟨s, found, mirroredJoin⟩ := selectText_withMirroredJoin written
  cases found
  obtain ⟨clause, earlier, later, isClause, many, -, writtenMirrored⟩ :=
    mirroredJoin 0 _ rfl (by decide)
  cases isClause
  exact ⟨written, by rfl, earlier, later, many, writtenMirrored⟩

end SchemaCompiler
