/-
**A SELECT statement is one statement.**

Every part of a SELECT statement is inert: names are quoted or made of the characters of bare names,
operands are numbers, truth values or strings, and all else is fixed. So whatever the names, aliases
and values of a query hold, an engine reads one statement that ends with the text.

* `Dialect.operand_cases` — how operands are written.
* `Dialect.inert_columnRef`, `Dialect.inert_operand`, `Dialect.inert_conditionsText` — the parts.
* `Dialect.inert_selectClauses` — each clause is inert.
* `Dialect.selectText_one_statement` — the text is one statement without comments.
-/

import SchemaCompiler.Proofs.Lexical.Numeral
import SchemaCompiler.Sql.Select

namespace SchemaCompiler

namespace Dialect

variable {d : Dialect}

/-! ### Expressions -/

theorem inert_columnRef (column : ColumnRef) : d.Inert (d.columnRef column) :=
  ((inert_escapeIdentifier column.table).append_plain (by decide)).append
    (inert_escapeIdentifier column.column)

theorem inert_of_function {aggregate : Aggregate} {function : String}
    (applied : aggregate.function? = some function) : d.Inert function := by
  cases aggregate with
  | none => cases applied
  | count | sum | avg | min | max =>
    cases applied
    exact inert_of_plain (by decide)

theorem inert_aggregateText (aggregate : Aggregate) (column : ColumnRef) :
    d.Inert (d.aggregateText aggregate column) := by
  unfold aggregateText
  split
  · rename_i function applied
    have opened : d.Inert (function ++ "(") := (inert_of_function applied).append_plain (by decide)
    exact (opened.append (inert_columnRef column)).append_plain (by decide)
  · exact inert_columnRef column

/-- **What a user entered** is written as it is where it is a number, or as a truth value or a
string. -/
theorem operand_cases (d : Dialect) (value : String) :
    (Literal.isDecimal value = true ∧ d.operand value = value) ∨
      (∃ word, d.operand value = d.boolLiteral word) ∨
        d.operand value = d.stringLiteral (Literal.unquote value) := by
  unfold operand
  split
  · rename_i number
    exact .inl ⟨(Bool.and_eq_true_iff.mp number).1, rfl⟩
  · split
    · exact .inr (.inl ⟨true, rfl⟩)
    · split
      · exact .inr (.inl ⟨false, rfl⟩)
      · exact .inr (.inr rfl)

theorem inert_operand (value : String) : d.Inert (d.operand value) := by
  rcases d.operand_cases value with ⟨number, same⟩ | ⟨word, same⟩ | same
  · rw [same]
    exact inert_of_numeral (Numeral.of_isDecimal number)
  · rw [same]
    exact inert_boolLiteral word
  · rw [same]
    exact inert_stringLiteral _

theorem inert_rightSide (c : Condition) : d.Inert (d.rightSide c) := by
  have items : d.Inert (", ".intercalate ((listItems c.value).map d.operand)) :=
    .intercalate_map (by decide) fun value _ => inert_operand value
  unfold rightSide
  split
  · exact .between (by decide) items (by decide)
  · split
    · exact .plain_append (by decide) (inert_operand _)
    · exact Inert.empty

theorem inert_operatorText (operator : Operator) : d.Inert operator.sql := by
  cases operator <;> exact inert_of_plain (by decide)

theorem inert_conditionText (isHaving : Bool) (c : Condition) :
    d.Inert (d.conditionText isHaving c) := by
  have leftSide : d.Inert
      (if isHaving then d.aggregateText c.aggregate c.ref else d.columnRef c.ref) :=
    .ite (inert_aggregateText c.aggregate c.ref) (inert_columnRef c.ref)
  have compared := (leftSide.append_plain (show " ".toList.all isPlain = true by decide)).append
    (inert_operatorText c.operator)
  exact compared.append (inert_rightSide c)

theorem inert_connectiveText (connective : Connective) : d.Inert connective.sql := by
  cases connective <;> exact inert_of_plain (by decide)

theorem inert_conditionsText (isHaving : Bool) (conditions : List Condition) :
    d.Inert (d.conditionsText isHaving conditions) := by
  cases conditions with
  | nil => exact Inert.empty
  | cons first rest =>
    refine (inert_conditionText isHaving first).append (Inert.join_map fun c _ => ?_)
    have connective : d.Inert (" " ++ c.connective.sql ++ " ") :=
      .between (by decide) (inert_connectiveText c.connective) (by decide)
    exact connective.append (inert_conditionText isHaving c)

/-! ### Clauses -/

theorem inert_selectItem (column : SelectedColumn) (name : Option String) :
    d.Inert (d.selectItem column name) := by
  have expression := inert_aggregateText (d := d) column.aggregate column.ref
  cases name with
  | none => exact expression
  | some name =>
    exact (expression.append_plain (by decide)).append (inert_escapeIdentifier name)

theorem inert_selectList (q : Query) (options : SelectOptions) :
    d.Inert (d.selectList q options) := by
  unfold selectList
  split
  · exact inert_of_plain (by decide)
  · rw [Query.aliases, List.zipWith_map_right, List.zipWith_self]
    exact .intercalate_map (by decide) fun column _ => inert_selectItem column _

theorem inert_joinText (j : JoinClause) : d.Inert (d.joinText j) := by
  have kind : d.Inert j.kind.sql := by
    cases j.kind <;> exact inert_of_plain (by decide)
  have joined : d.Inert (j.kind.sql ++ " " ++ d.escapeIdentifier j.table) :=
    (kind.append_plain (by decide)).append (inert_escapeIdentifier j.table)
  have left : d.Inert
      (j.kind.sql ++ " " ++ d.escapeIdentifier j.table ++ " ON " ++ d.columnRef j.left) :=
    (joined.append_plain (by decide)).append (inert_columnRef j.left)
  exact (left.append_plain (by decide)).append (inert_columnRef j.right)

theorem inert_sourceClauses (s : TableSources) :
    ∀ clause ∈ d.sourceClauses s, d.Inert clause := by
  intro clause member
  simp only [sourceClauses, List.mem_append, List.mem_cons, List.mem_map] at member
  rcases member with (rfl | ⟨j, -, rfl⟩) | ⟨table, -, rfl⟩
  · exact .plain_append (by decide) (inert_escapeIdentifier s.first)
  · exact inert_joinText j
  · exact .plain_append (by decide) (inert_escapeIdentifier table)

theorem inert_of_mem_clauseOf {α : Type} {keyword clause : String} {entries : List α}
    {text : List α → String} (member : clause ∈ clauseOf keyword entries text)
    (plain : keyword.toList.all isPlain = true) (inert : d.Inert (text entries)) :
    d.Inert clause := by
  unfold clauseOf at member
  split at member
  · cases member
  · rw [List.mem_singleton] at member
    subst member
    exact .plain_append plain inert

theorem inert_columnRefs (columns : List ColumnRef) :
    d.Inert (", ".intercalate (columns.map d.columnRef)) :=
  .intercalate_map (by decide) fun column _ => inert_columnRef column

theorem inert_orderText (entries : List OrderBy) :
    d.Inert (", ".intercalate (entries.map fun o =>
      d.columnRef o.ref ++ " " ++ o.direction.sql)) := by
  refine .intercalate_map (by decide) fun o _ => ?_
  have direction : d.Inert o.direction.sql := by
    cases o.direction <;> exact inert_of_plain (by decide)
  exact ((inert_columnRef o.ref).append_plain (by decide)).append direction

/-! ### Bounds -/

theorem inert_toString_uint64 (n : UInt64) : d.Inert (toString n) :=
  inert_toString_nat n.toNat

theorem inert_limitOffset (limit offset : Option UInt64) : d.Inert (d.limitOffset limit offset) := by
  have limited (n : UInt64) : d.Inert (" LIMIT " ++ toString n) :=
    .plain_append (by decide) (inert_toString_uint64 n)
  have offsetText : d.Inert ((offset.map fun n => " OFFSET " ++ toString n).getD "") := by
    cases offset with
    | none => exact Inert.empty
    | some n => exact .plain_append (by decide) (inert_toString_uint64 n)
  cases limit with
  | some n => exact (limited n).append offsetText
  | none =>
    cases offset with
    | none => exact Inert.empty.append offsetText
    | some n =>
      refine Inert.append ?_ offsetText
      cases d with
      | mysql =>
        have unlimited : mysql.Inert "18446744073709551615" := inert_of_plain (by decide)
        exact Inert.plain_append (by decide) unlimited
      | postgres => exact Inert.empty
      | sqlite =>
        -- the dash stands before a digit, so it opens no comment
        have unlimited : sqlite.Inert "-1" := inert_of_numeral (.of_isDecimal (by decide))
        exact Inert.plain_append (by decide) unlimited

/-- A blank character in front of an inert text is outside quotes. -/
theorem inert_of_inert_cons {c : Char} {rest : List Char} (blank : Text.isBlank c = true)
    (inert : d.Inert (String.ofList (c :: rest))) : d.Inert (String.ofList rest) := by
  have unmarked := unmarked_of (d := d) Text.isBlank (by decide) blank
  have stays : d.advance .outside c = .outside := by
    rw [advance, if_neg (not_or.mpr unmarked)]
  have bareEq : d.bareText (String.ofList (c :: rest)) = c :: d.bareText (String.ofList rest) := by
    simp only [bareText, String.toList_ofList, bare, stays, true_or, if_true]
  have closes := inert.closes
  have semicolons := inert.semicolons
  have harmless := inert.harmless
  have dashes := inert.dashes
  rw [Closes, String.toList_ofList, after_cons, stays] at closes
  rw [bareEq] at semicolons harmless dashes
  refine ⟨by rwa [Closes, String.toList_ofList], ?_, ?_, dashes.2⟩
  · exact Nat.le_zero.mp (semicolons ▸ List.count_le_count_cons)
  · exact fun other member => harmless other (List.mem_cons_of_mem c member)

theorem inert_dropBlanks {text : List Char} (inert : d.Inert (String.ofList text)) :
    d.Inert (String.ofList (Text.dropBlanks text)) := by
  induction text with
  | nil => exact inert
  | cons c rest ih =>
    by_cases blank : Text.isBlank c = true
    · rw [Text.dropBlanks, List.dropWhile_cons_of_pos blank]
      exact ih (inert_of_inert_cons blank inert)
    · rw [Text.dropBlanks, List.dropWhile_cons_of_neg blank]
      exact inert

/-! ### Statements -/

theorem inert_selectClauses (q : Query) (s : TableSources) (options : SelectOptions) :
    ∀ clause ∈ d.selectClauses q s options, d.Inert clause := by
  intro clause member
  simp only [selectClauses, List.mem_append, List.mem_cons] at member
  rcases member with ((((((rfl | source) | filter) | group) | having) | order) | bounds)
  · exact .plain_append (by decide) (inert_selectList q options)
  · exact inert_sourceClauses s clause source
  · exact inert_of_mem_clauseOf filter (by decide) (inert_conditionsText false _)
  · exact inert_of_mem_clauseOf group (by decide) (inert_columnRefs _)
  · exact inert_of_mem_clauseOf having (by decide) (inert_conditionsText true _)
  · exact inert_of_mem_clauseOf order (by decide) (inert_orderText _)
  · split at bounds
    · cases bounds
    · rw [List.mem_singleton] at bounds
      subst bounds
      refine inert_dropBlanks ?_
      rw [String.ofList_toList]
      exact inert_limitOffset q.limit q.offset

/-- **The text of a query is one statement**, whatever its names, aliases and values hold: it
closes its quotes, its last character is the only semicolon outside them, and no comment is opened
there. -/
theorem selectText_one_statement {q : Query} {options : SelectOptions} {text : String}
    (written : d.selectText q options = .ok text) :
    d.Closes text ∧
      (∃ body, text = body ++ ";" ∧ d.bareText text = d.bareText body ++ [';'] ∧
        ';' ∉ d.bareText body) ∧
      ∀ opening ∈ commentOpenings, ¬ opening <:+: d.bareText text := by
  obtain ⟨s, -, rfl⟩ := selectText_eq_ok_iff.mp written
  have separator : d.Inert (if options.pretty then "\n" else " ") :=
    .ite (inert_of_plain (by decide)) (inert_of_plain (by decide))
  have body := Inert.intercalate separator (inert_selectClauses (d := d) q s options)
  have statement := body.terminated
  refine ⟨statement.closes, ⟨_, rfl, ?_, List.count_eq_zero.mp body.semicolons⟩,
    statement.not_infix⟩
  rw [bareText_append body.closes, bareText_semicolon]

end Dialect

/-! ### A query that tries to end its statement -/

namespace Query

/-- A query with marks, semicolons and openings of comments in its names, its alias and its values.
The quote in the first value stands behind a backslash, which must not take its meaning away. -/
def smuggling : Query :=
  { tables := ["u; --"],
    columns := [{ table := "u; --", column := "a`b", givenAlias := some "c`; #" }],
    filters :=
      [ { table := "u", column := "a", operator := .eq, value := "\\'; #" },
        { table := "u", column := "b", operator := .isIn, value := "-1, /*, '); --, true" } ],
    offset := some 3 }

/-- The statement of that query for MySQL. -/
def smuggled : String :=
  "SELECT `u; --`.`a``b` AS `c``; #` FROM `u; --` " ++
    "WHERE u.a = '\\\\''; #' AND u.b IN (-1, '/*', '''); --', 1) " ++
    "LIMIT 18446744073709551615 OFFSET 3;"

end Query

theorem Dialect.selectText_smuggling :
    mysql.selectText Query.smuggling {} = .ok Query.smuggled ∧
      mysql.bareText Query.smuggled =
        ("SELECT ``.```` AS ```` FROM `` WHERE u.a = '''' AND u.b IN (-1, '', '''', 1) " ++
          "LIMIT 18446744073709551615 OFFSET 3;").toList ∧
      mysql.Closes Query.smuggled ∧
      (∃ body, Query.smuggled = body ++ ";" ∧
        mysql.bareText Query.smuggled = mysql.bareText body ++ [';'] ∧
        ';' ∉ mysql.bareText body) ∧
      ∀ opening ∈ commentOpenings, ¬ opening <:+: mysql.bareText Query.smuggled := by
  have written : mysql.selectText Query.smuggling {} = .ok Query.smuggled := by decide +kernel
  exact ⟨written, by decide +kernel, selectText_one_statement written⟩

end SchemaCompiler
